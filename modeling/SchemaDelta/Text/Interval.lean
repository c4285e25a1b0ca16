/-!
# Intervals of characters

Character classes and case maps are given as data: closed intervals of code points, and runs of
letters at a fixed step whose images keep the same distances.
-/

namespace SchemaDelta.Text

/-- A code point lies in one of the closed intervals. -/
def inIntervals
    (intervals : List (Nat × Nat))
    (point : Nat) : Bool :=
  intervals.any fun (first, last) => first ≤ point && point ≤ last

/-- Letters `first`, `first + step`, … up to `last`, the first of which is mapped to `target`. -/
structure CaseRun where
  first : Nat
  last : Nat
  step : Nat
  target : Nat

/-- A code point is one of the letters of a run. -/
def CaseRun.covers
    (run : CaseRun)
    (point : Nat) : Bool :=
  run.first ≤ point && point ≤ run.last && (point - run.first) % run.step == 0

/-- The image of a code point: its expansion, else its place in a run, else the point itself. -/
def imageOf
    (runs : List CaseRun)
    (expansions : List (Nat × List Nat))
    (point : Nat) : List Nat :=
  match expansions.lookup point with
  | some image => image
  | none =>
    match runs.find? (·.covers point) with
    | some run => [run.target + (point - run.first)]
    | none => [point]

end SchemaDelta.Text
