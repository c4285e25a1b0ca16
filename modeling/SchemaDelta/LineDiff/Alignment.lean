/-!
# Alignment of lines

Two lists of lines are cut into blocks: lines that both share, and lines of either side in their
place.  The longest run of shared lines comes first, and the lines before and after it are aligned
in the same way.  Lines that occur often on the second side start no run; they only lengthen one.
-/

namespace SchemaDelta.LineDiff

/-- A block of aligned lines. -/
inductive Block where
  /-- Lines that both sides share. -/
  | shared (lines : List String)
  /-- Lines of the first side and lines of the second side in their place. -/
  | changed (first second : List String)
deriving DecidableEq

/-! ## Runs of shared lines -/

/-- How many lines make a side long enough to tell often occurring lines from others. -/
def longSide : Nat := 200

/-- A line occurs so often on a long side that it starts no run. -/
def isPopular
    (side : List String)
    (line : String) : Bool :=
  longSide ≤ side.length && side.length / 100 + 1 < side.count line

/-- The lines that both lists begin with. -/
def sharedFront : List String → List String → List String
  | first :: firsts, second :: seconds =>
    if first = second then first :: sharedFront firsts seconds else []
  | _, _ => []

/-- Where a run of shared lines ends on either side, and how long it is. -/
structure RunEnd where
  first : Nat := 0
  second : Nat := 0
  length : Nat := 0

/--
The lengths of the runs that end at a line of the first side and each line of the second side, from
the lengths of the runs that end one line before on both sides.
-/
def runLengths
    (line : String)
    (before : List Nat)
    (seconds : List String) : List Nat :=
  List.zipWith (fun second length => if second = line then length + 1 else 0) seconds (0 :: before)

/-- The longest of the runs that end at a line of the first side, if it is longer than another. -/
def longerRun
    (first : Nat)
    (lengths : List Nat)
    (best : RunEnd) : RunEnd :=
  (lengths.foldl (fun (second, best) length =>
    (second + 1,
      if best.length < length then { first := first + 1, second := second + 1, length } else best))
    (0, best)).2

/-- The longest run among those that end at some line of the first side, the first of several. -/
def longestRun
    (popular : String → Bool)
    (seconds : List String) : Nat → List Nat → RunEnd → List String → RunEnd
  | _, _, best, [] => best
  | place, before, best, line :: lines =>
    let lengths :=
      if popular line then List.replicate seconds.length 0 else runLengths line before seconds
    longestRun popular seconds (place + 1) lengths (longerRun place lengths best) lines

/-- A run of shared lines with the counts of lines before it on either side. -/
structure SharedRun where
  first : Nat
  second : Nat
  lines : List String

/-- The longest run of shared lines; popular lines in front of it and after it belong to it. -/
def sharedRun
    (popular : String → Bool)
    (firsts seconds : List String) : SharedRun :=
  let found := longestRun popular seconds 0 (List.replicate seconds.length 0) {} firsts
  let first := found.first - found.length
  let second := found.second - found.length
  let front := (sharedFront (firsts.take first).reverse (seconds.take second).reverse).length
  { first := first - front
    second := second - front
    lines := sharedFront (firsts.drop (first - front)) (seconds.drop (second - front)) }

/-- A run that has lines and lies within a side. -/
def SharedRun.isWithin
    (run : SharedRun)
    (firsts : List String) : Prop :=
  0 < run.lines.length ∧ run.first + run.lines.length ≤ firsts.length

instance
    (run : SharedRun)
    (firsts : List String) : Decidable (run.isWithin firsts) :=
  inferInstanceAs (Decidable (_ ∧ _))

/-! ## Blocks -/

/-- A block of changed lines, if there are any. -/
def changedBlock
    (firsts seconds : List String) : List Block :=
  if firsts.isEmpty && seconds.isEmpty then [] else [.changed firsts seconds]

/-- Two lists of lines cut into blocks around their longest runs. -/
def cut
    (popular : String → Bool)
    (firsts seconds : List String) : List Block :=
  if _ : (sharedRun popular firsts seconds).isWithin firsts then
    let run := sharedRun popular firsts seconds
    cut popular (firsts.take run.first) (seconds.take run.second) ++
      .shared run.lines ::
        cut popular (firsts.drop (run.first + run.lines.length))
          (seconds.drop (run.second + run.lines.length))
  else changedBlock firsts seconds
termination_by firsts.length
decreasing_by
  · obtain ⟨hasLines, fits⟩ := ‹SharedRun.isWithin _ _›
    rw [List.length_take]
    omega
  · obtain ⟨hasLines, fits⟩ := ‹SharedRun.isWithin _ _›
    rw [List.length_drop]
    omega

/-- Blocks in which no two blocks of shared lines stand side by side. -/
def joinShared : List Block → List Block
  | [] => []
  | .changed first second :: blocks => .changed first second :: joinShared blocks
  | .shared lines :: blocks =>
    match joinShared blocks with
    | .shared others :: rest => .shared (lines ++ others) :: rest
    | rest => .shared lines :: rest

/-- The alignment of two lists of lines. -/
def align
    (firsts seconds : List String) : List Block :=
  joinShared (cut (isPopular seconds) firsts seconds)

end SchemaDelta.LineDiff
