import Mathlib.Data.List.Basic
import SchemaDelta.Text.Case

/-!
# Lower case and case folding

Lower case does not change the case folding of a text: a letter and its lower case have the same
folding.  The case tables are checked run by run.  On the stretch of code points that a run covers
only few entries of another table count, so that every letter with a lower case can be looked at.
-/

namespace SchemaDelta.Text

/-! ## Stretches of code points -/

/-- The runs that meet a stretch of code points. -/
def runsNear
    (first last : Nat)
    (runs : List CaseRun) : List CaseRun :=
  runs.filter fun run => run.first.ble last && first.ble run.last

/-- The expansions of the letters of a stretch of code points. -/
def expansionsNear
    (first last : Nat)
    (expansions : List (Nat × List Nat)) : List (Nat × List Nat) :=
  expansions.filter fun entry => first.ble entry.1 && entry.1.ble last

variable {runs : List CaseRun} {expansions : List (Nat × List Nat)} {first last point : Nat}

private theorem lookup_filter_of_kept
    {kept : Nat × List Nat → Bool}
    (keeps : ∀ image, kept (point, image) = true) :
    (expansions.filter kept).lookup point = expansions.lookup point := by
  induction expansions with
  | nil => rfl
  | cons entry expansions ih =>
      rw [List.filter_cons, List.lookup_cons]
      cases same : point == entry.1 with
      | true =>
          have isKept : kept entry = true := by
            rw [← keeps entry.2, beq_iff_eq.mp same]
          rw [if_pos isKept, List.lookup_cons, same]
      | false =>
          split
          · rw [List.lookup_cons, same, ih]
          · exact ih

/-- The image of a letter is told by the entries that meet a stretch in which the letter is. -/
theorem imageOf_near
    (above : first ≤ point)
    (below : point ≤ last) :
    imageOf runs expansions point =
      imageOf (runsNear first last runs) (expansionsNear first last expansions) point := by
  have sameExpansion : (expansionsNear first last expansions).lookup point =
      expansions.lookup point := by
    apply lookup_filter_of_kept
    intro image
    simp [above, below]
  have sameRun : (runsNear first last runs).find? (·.covers point) =
      runs.find? (·.covers point) := by
    rw [runsNear, List.find?_filter]
    apply congrArg (runs.find? ·)
    funext run
    cases covered : run.covers point with
    | false => simp
    | true =>
        simp only [CaseRun.covers, Bool.and_eq_true, decide_eq_true_eq] at covered
        simp [Nat.le_trans covered.1.1 below, Nat.le_trans above covered.1.2]
  rw [imageOf, imageOf, sameExpansion, sameRun]

/-! ## Letters of runs -/

namespace CaseRun

variable {run : CaseRun}

/-- The letters of a run. -/
def points
    (run : CaseRun) : List Nat :=
  (List.range ((run.last - run.first) / run.step + 1)).map fun count =>
    run.first + run.step * count

theorem mem_points_of_covers
    (covers : run.covers point = true) :
    point ∈ run.points := by
  simp only [CaseRun.covers, Bool.and_eq_true, decide_eq_true_eq, beq_iff_eq] at covers
  rcases covers with ⟨⟨above, below⟩, atStep⟩
  refine List.mem_map.mpr ⟨(point - run.first) / run.step, ?_, ?_⟩
  · exact List.mem_range.mpr
      (Nat.lt_succ_of_le (Nat.div_le_div_right (Nat.sub_le_sub_right below run.first)))
  · have parts := Nat.div_add_mod (point - run.first) run.step
    omega

/-- The image of the last letter of a run. -/
def lastTarget
    (run : CaseRun) : Nat :=
  run.target + (run.last - run.first)

/-- The images of a run are code points of letters. -/
def targetsLetters
    (run : CaseRun) : Bool :=
  run.lastTarget.ble 0xD7FF || (Nat.ble 0xE000 run.target && run.lastTarget.ble 0x10FFFF)

/-- The images of a run have the foldings of its letters. -/
def keepsFolding
    (run : CaseRun) : Bool :=
  let runs := runsNear run.first run.last foldRuns
  let expansions := expansionsNear run.first run.last foldExpansions
  let targetRuns := runsNear run.target run.lastTarget foldRuns
  let targetExpansions := expansionsNear run.target run.lastTarget foldExpansions
  run.points.all fun point =>
    imageOf targetRuns targetExpansions (run.target + (point - run.first)) ==
      imageOf runs expansions point

end CaseRun

private theorem all_targetLetters :
    lowerRuns.all CaseRun.targetsLetters = true := by
  decide +kernel

/-- Every run of letters with a lower case keeps the folding of its letters. -/
private theorem all_keepFolding :
    lowerRuns.all CaseRun.keepsFolding = true := by
  decide +kernel

/-! ## Letters -/

/-- The letters below 128 are among those of the first runs. -/
private theorem ascii_images :
    ((List.range 128).all fun point =>
      (imageOf (runsNear 0 127 lowerRuns) (expansionsNear 0 127 lowerExpansions) point).map
            Char.ofNat == [(Char.ofNat point).toLower] &&
        (imageOf (runsNear 0 127 foldRuns) (expansionsNear 0 127 foldExpansions) point).map
            Char.ofNat == [(Char.ofNat point).toLower]) = true := by
  decide +kernel

private theorem ascii_image
    {letter : Char}
    (isAscii : letter.toNat < 128) :
    (imageOf lowerRuns lowerExpansions letter.toNat).map Char.ofNat = [letter.toLower] ∧
      (imageOf foldRuns foldExpansions letter.toNat).map Char.ofNat = [letter.toLower] := by
  have checked := List.all_eq_true.mp ascii_images letter.toNat (List.mem_range.mpr isAscii)
  have below : letter.toNat ≤ 127 := Nat.le_of_lt_succ isAscii
  rw [Bool.and_eq_true, beq_iff_eq, beq_iff_eq, Char.ofNat_toNat] at checked
  exact ⟨(congrArg (List.map Char.ofNat) (imageOf_near (Nat.zero_le _) below)).trans checked.1,
    (congrArg (List.map Char.ofNat) (imageOf_near (Nat.zero_le _) below)).trans checked.2⟩

theorem lowerChar_eq
    (letter : Char) :
    lowerChar letter = (imageOf lowerRuns lowerExpansions letter.toNat).map Char.ofNat := by
  rw [lowerChar]
  split
  · rename_i isAscii
    exact (ascii_image isAscii).1.symm
  · rfl

theorem foldChar_eq
    (letter : Char) :
    foldChar letter = (imageOf foldRuns foldExpansions letter.toNat).map Char.ofNat := by
  rw [foldChar]
  split
  · rename_i isAscii
    exact (ascii_image isAscii).2.symm
  · rfl

/-- The images of a run of letters with a lower case have the foldings of its letters. -/
private theorem foldImage_of_covers
    {run : CaseRun}
    (isRun : run ∈ lowerRuns)
    (covers : run.covers point = true) :
    imageOf foldRuns foldExpansions (run.target + (point - run.first)) =
      imageOf foldRuns foldExpansions point := by
  have keeps := List.all_eq_true.mp all_keepFolding run isRun
  have same := List.all_eq_true.mp keeps point (CaseRun.mem_points_of_covers covers)
  simp only [CaseRun.covers, Bool.and_eq_true, decide_eq_true_eq] at covers
  rcases covers with ⟨⟨above, below⟩, _⟩
  have targetBelow : run.target + (point - run.first) ≤ run.lastTarget :=
    Nat.add_le_add_left (Nat.sub_le_sub_right below run.first) run.target
  rw [imageOf_near (Nat.le_add_right _ _) targetBelow, imageOf_near above below]
  exact beq_iff_eq.mp same

/-- The images of a run of letters with a lower case are code points of letters. -/
theorem toNat_ofNat_of_covers
    {run : CaseRun}
    (isRun : run ∈ lowerRuns)
    (covers : run.covers point = true) :
    (Char.ofNat (run.target + (point - run.first))).toNat =
      run.target + (point - run.first) := by
  have targets := List.all_eq_true.mp all_targetLetters run isRun
  simp only [CaseRun.targetsLetters, CaseRun.lastTarget, Bool.or_eq_true, Bool.and_eq_true,
    Nat.ble_eq] at targets
  simp only [CaseRun.covers, Bool.and_eq_true, decide_eq_true_eq] at covers
  have valid : (run.target + (point - run.first)).isValidChar := by
    unfold Nat.isValidChar
    omega
  rw [Char.ofNat, dif_pos valid]
  rfl

/-- The lower case of a letter has its folding. -/
theorem lowerChar_flatMap_foldChar
    (letter : Char) :
    (lowerChar letter).flatMap foldChar = foldChar letter := by
  rw [lowerChar_eq, imageOf]
  split
  · rename_i image isExpanded
    rw [lowerExpansions, List.lookup_cons] at isExpanded
    split at isExpanded
    · rename_i isDotted
      rw [← Option.some.inj isExpanded, ← Char.ofNat_toNat letter, beq_iff_eq.mp isDotted]
      decide +kernel
    · cases isExpanded
  · split
    · rename_i run isFirst
      have isRun : run ∈ lowerRuns := List.mem_of_find?_eq_some isFirst
      have covers : run.covers letter.toNat = true :=
        (List.find?_eq_some_iff_append.mp isFirst).1
      rw [List.map_cons, List.map_nil, List.flatMap_singleton, foldChar_eq, foldChar_eq letter,
        toNat_ofNat_of_covers isRun covers, foldImage_of_covers isRun covers]
    · rw [List.map_cons, List.map_nil, List.flatMap_singleton, Char.ofNat_toNat]

/-- Each lower case of a sigma has its folding. -/
private theorem sigma_foldChar :
    foldChar 'ς' = foldChar capitalSigma ∧ foldChar 'σ' = foldChar capitalSigma := by
  decide +kernel

theorem lowerLetters_flatMap_foldChar
    (before letters : List Char) :
    (lowerLetters before letters).flatMap foldChar = letters.flatMap foldChar := by
  induction letters generalizing before with
  | nil => rfl
  | cons letter after ih =>
      rw [lowerLetters, List.flatMap_append, ih, List.flatMap_cons]
      apply congrArg (· ++ after.flatMap foldChar)
      split
      · rename_i isSigma
        rw [isSigma]
        split
        · rw [List.flatMap_singleton, sigma_foldChar.1]
        · rw [List.flatMap_singleton, sigma_foldChar.2]
      · exact lowerChar_flatMap_foldChar letter

/-- Lower case does not change the case folding of a text. -/
theorem fold_lower
    (text : String) :
    fold (lower text) = fold text := by
  rw [fold, lower, String.toList_ofList, lowerLetters_flatMap_foldChar, fold]

end SchemaDelta.Text
