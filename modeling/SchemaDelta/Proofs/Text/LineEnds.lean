import SchemaDelta.Proofs.Text.CaseFolding
import SchemaDelta.Text.Lines

/-!
# Line ends and lower case

The lines of a text hold its letters up to the line ends.  Lower case leaves line ends as they are
and makes none, so that texts with the same lines and the same lower case are the same.
-/

namespace SchemaDelta.Text

variable {letter : Char} {letters others : List Char} {text other : String}

/-! ## Letters within lines -/

/-- The letters that end no line. -/
def withinLines
    (letters : List Char) : List Char :=
  letters.filter fun letter => !isLineEnd letter

@[simp]
theorem withinLines_append :
    withinLines (letters ++ others) = withinLines letters ++ withinLines others :=
  List.filter_append ..

theorem withinLines_cons_of_isLineEnd
    (ends : isLineEnd letter = true) :
    withinLines (letter :: letters) = withinLines letters :=
  List.filter_cons_of_neg (by simp [ends])

theorem withinLines_cons_of_not_isLineEnd
    (ends : isLineEnd letter = false) :
    withinLines (letter :: letters) = letter :: withinLines letters :=
  List.filter_cons_of_pos (by simp [ends])

/-- The lines of letters hold the letters that end no line. -/
theorem flatten_lineLetters
    (letters : List Char) :
    (lineLetters letters).flatten = withinLines letters := by
  fun_induction lineLetters letters with
  | case1 => rfl
  | case2 rest ih =>
      rw [List.flatten_cons, ih]
      rfl
  | case3 letter rest _ ends ih =>
      rw [withinLines_cons_of_isLineEnd ends, List.flatten_cons, ih]
      rfl
  | case4 letter rest _ ends none ih =>
      rw [withinLines_cons_of_not_isLineEnd (by simpa using ends), ← ih, none]
      rfl
  | case5 letter rest _ ends line lines held ih =>
      rw [withinLines_cons_of_not_isLineEnd (by simpa using ends), ← ih, held]
      rfl

theorem withinLines_eq_of_lines_eq
    (sameLines : lines text = lines other) :
    withinLines text.toList = withinLines other.toList := by
  have sameLetters : lineLetters text.toList = lineLetters other.toList :=
    List.map_injective_iff.mpr (fun _ _ => String.ofList_injective) sameLines
  rw [← flatten_lineLetters, sameLetters, flatten_lineLetters]

/-! ## Lower case -/

/-- The code points of the line ends. -/
def lineEndPoints : List Nat :=
  [10, 11, 12, 13, 28, 29, 30, 0x85, 0x2028, 0x2029]

theorem isLineEnd_iff :
    isLineEnd letter = true ↔ letter.toNat ∈ lineEndPoints := by
  simp [isLineEnd, lineEndPoints]
  omega

/-- Neither among the letters of a run nor among their images are line ends. -/
def CaseRun.avoidsLineEnds
    (run : CaseRun) : Bool :=
  lineEndPoints.all fun point =>
    (point < run.first || run.last < point) && (point < run.target || run.lastTarget < point)

private theorem all_avoidLineEnds :
    lowerRuns.all CaseRun.avoidsLineEnds = true := by
  decide +kernel

/-- A letter is left as it is, or neither it nor any of the letters in its place ends a line. -/
def KeepsLineEnds
    (letter : Char)
    (image : List Char) : Prop :=
  image = [letter] ∨
    isLineEnd letter = false ∧ image ≠ [] ∧ ∀ other ∈ image, isLineEnd other = false

theorem lowerChar_keepsLineEnds
    (letter : Char) :
    KeepsLineEnds letter (lowerChar letter) := by
  rw [lowerChar_eq, imageOf]
  split
  · rename_i points isExpanded
    rw [lowerExpansions, List.lookup_cons] at isExpanded
    split at isExpanded
    · rename_i isDotted
      rw [← Option.some.inj isExpanded, ← Char.ofNat_toNat letter, beq_iff_eq.mp isDotted]
      exact Or.inr ⟨by decide, List.cons_ne_nil _ _,
        List.forall_mem_cons.mpr ⟨by decide, List.forall_mem_singleton.mpr (by decide)⟩⟩
    · cases isExpanded
  · split
    · rename_i run isFirst
      have isRun : run ∈ lowerRuns := List.mem_of_find?_eq_some isFirst
      have covers : run.covers letter.toNat = true :=
        (List.find?_eq_some_iff_append.mp isFirst).1
      have avoids := List.all_eq_true.mp all_avoidLineEnds run isRun
      have avoided : ∀ point ∈ lineEndPoints, (point < run.first ∨ run.last < point) ∧
          (point < run.target ∨ run.lastTarget < point) := by
        intro point isEnd
        simpa using List.all_eq_true.mp avoids point isEnd
      have image_toNat := toNat_ofNat_of_covers isRun covers
      simp only [CaseRun.covers, Bool.and_eq_true, decide_eq_true_eq] at covers
      refine Or.inr ⟨?_, List.cons_ne_nil _ _, ?_⟩
      · rw [← Bool.not_eq_true, isLineEnd_iff]
        intro isEnd
        have outside := (avoided _ isEnd).1
        omega
      · rw [List.map_singleton, List.forall_mem_singleton, ← Bool.not_eq_true, isLineEnd_iff,
          image_toNat]
        intro isEnd
        have outside := (avoided _ isEnd).2
        unfold CaseRun.lastTarget at outside
        omega
    · rw [List.map_singleton, Char.ofNat_toNat]
      exact Or.inl rfl

/-- The letters in the place of a letter, depending on the letters before and after it. -/
def lowerWithin
    (before : List Char)
    (letter : Char)
    (after : List Char) : List Char :=
  if letter = capitalSigma then
    if meetsCased before && !meetsCased after then ['ς'] else ['σ']
  else lowerChar letter

theorem lowerLetters_cons
    (before : List Char)
    (letter : Char)
    (after : List Char) :
    lowerLetters before (letter :: after) =
      lowerWithin before letter after ++ lowerLetters (letter :: before) after :=
  rfl

theorem lowerWithin_keepsLineEnds
    (before : List Char)
    (letter : Char)
    (after : List Char) :
    KeepsLineEnds letter (lowerWithin before letter after) := by
  rw [lowerWithin]
  split
  · rename_i isSigma
    rw [isSigma]
    split <;> exact Or.inr ⟨by decide, List.cons_ne_nil _ _,
      List.forall_mem_singleton.mpr (by decide)⟩
  · exact lowerChar_keepsLineEnds letter

/-- What follows a letter does not matter to how many letters take its place. -/
private theorem length_lowerWithin
    (before after : List Char)
    (letter : Char) :
    (lowerWithin before letter after).length = (lowerWithin before letter []).length := by
  rw [lowerWithin, lowerWithin]
  split
  · split <;> split <;> rfl
  · rfl

namespace KeepsLineEnds

variable {image : List Char}

theorem ne_nil
    (keeps : KeepsLineEnds letter image) :
    image ≠ [] := by
  rcases keeps with rfl | ⟨_, notEmpty, _⟩
  · exact List.cons_ne_nil letter []
  · exact notEmpty

/-- A line end stands in front of both of two texts that are the same. -/
theorem eq_of_append_eq
    {otherImage rest behind : List Char}
    {other : Char}
    (keeps : KeepsLineEnds letter image)
    (otherKeeps : KeepsLineEnds other otherImage)
    (ends : isLineEnd letter = true)
    (same : image ++ rest = otherImage ++ behind) :
    letter = other := by
  obtain rfl : image = [letter] := by
    rcases keeps with single | ⟨endsNone, _, _⟩
    · exact single
    · rw [endsNone] at ends
      cases ends
  rcases List.exists_cons_of_ne_nil otherKeeps.ne_nil with ⟨head, tail, rfl⟩
  obtain rfl : letter = head := (List.cons.inj same).1
  rcases otherKeeps with single | ⟨_, _, none⟩
  · exact (List.cons.inj single).1
  · rw [none letter List.mem_cons_self] at ends
    cases ends

end KeepsLineEnds

/-- Letters with the same lower case that differ in line ends only are the same. -/
theorem eq_of_lowerLetters_eq
    (before : List Char)
    (sameLower : lowerLetters before letters = lowerLetters before others)
    (sameWithin : withinLines letters = withinLines others) :
    letters = others := by
  induction letters generalizing before others with
  | nil =>
      cases others with
      | nil => rfl
      | cons other others =>
          rw [lowerLetters_cons] at sameLower
          exact absurd (List.append_eq_nil_iff.mp sameLower.symm).1
            (lowerWithin_keepsLineEnds before other others).ne_nil
  | cons letter letters ih =>
      cases others with
      | nil =>
          rw [lowerLetters_cons] at sameLower
          exact absurd (List.append_eq_nil_iff.mp sameLower).1
            (lowerWithin_keepsLineEnds before letter letters).ne_nil
      | cons other others =>
          have keeps := lowerWithin_keepsLineEnds before letter letters
          have otherKeeps := lowerWithin_keepsLineEnds before other others
          rw [lowerLetters_cons, lowerLetters_cons] at sameLower
          have sameFirst : letter = other := by
            cases ends : isLineEnd letter with
            | true => exact keeps.eq_of_append_eq otherKeeps ends sameLower
            | false =>
                cases otherEnds : isLineEnd other with
                | true => exact (otherKeeps.eq_of_append_eq keeps otherEnds sameLower.symm).symm
                | false =>
                    rw [withinLines_cons_of_not_isLineEnd ends,
                      withinLines_cons_of_not_isLineEnd otherEnds] at sameWithin
                    exact (List.cons.inj sameWithin).1
          subst sameFirst
          have sameLength : (lowerWithin before letter letters).length =
              (lowerWithin before letter others).length := by
            rw [length_lowerWithin, length_lowerWithin before others]
          have sameRest : withinLines letters = withinLines others := by
            cases ends : isLineEnd letter with
            | true =>
                rwa [withinLines_cons_of_isLineEnd ends,
                  withinLines_cons_of_isLineEnd ends] at sameWithin
            | false =>
                rw [withinLines_cons_of_not_isLineEnd ends,
                  withinLines_cons_of_not_isLineEnd ends] at sameWithin
                exact (List.cons.inj sameWithin).2
          rw [ih (letter :: before) (List.append_inj_right sameLower sameLength) sameRest]

/-- Texts with the same lower case that differ in line ends only are the same. -/
theorem eq_of_lower_eq
    (sameLower : lower text = lower other)
    (sameWithin : withinLines text.toList = withinLines other.toList) :
    text = other :=
  String.toList_injective (eq_of_lowerLetters_eq [] (String.ofList_injective sameLower) sameWithin)

end SchemaDelta.Text
