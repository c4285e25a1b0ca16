import Mathlib.Data.List.Basic
import SchemaDelta.LineDiff.SideBySide
import SchemaDelta.LineDiff.Unified

/-!
# Alignments of lines

The blocks of an alignment are the lines of both sides.  Equal sides are one block of shared lines:
the first of the longest runs lies on the diagonal, where it stands in the same place on both sides,
and grows to the whole of them, even if some lines occur often.  So all rows of the side by side
view are the same exactly when the two texts have the same lines.
-/

namespace SchemaDelta.LineDiff

variable {popular : String → Bool} {firsts seconds lines : List String}

/-! ## The lines of blocks -/

/-- The lines at which two sides start alike start both of them. -/
theorem sharedFront_prefix :
    sharedFront firsts seconds <+: firsts ∧ sharedFront firsts seconds <+: seconds := by
  induction firsts generalizing seconds with
  | nil => exact ⟨List.nil_prefix, List.nil_prefix⟩
  | cons first firsts ih =>
      cases seconds with
      | nil => exact ⟨List.nil_prefix, List.nil_prefix⟩
      | cons second seconds =>
          rw [sharedFront]
          split
          · rename_i same
            exact ⟨List.cons_prefix_cons.mpr ⟨rfl, ih.1⟩, List.cons_prefix_cons.mpr ⟨same, ih.2⟩⟩
          · exact ⟨List.nil_prefix, List.nil_prefix⟩

@[simp]
theorem sharedFront_self :
    sharedFront lines lines = lines := by
  induction lines with
  | nil => rfl
  | cons line lines ih => rw [sharedFront, if_pos rfl, ih]

/-- What stands before a run, the run and what stands after it are the whole side. -/
private theorem append_run_append
    {run side : List String}
    {place : Nat}
    (isRun : run <+: side.drop place) :
    side.take place ++ (run ++ side.drop (place + run.length)) = side := by
  have behind : run ++ side.drop (place + run.length) = side.drop place := by
    rw [← List.drop_drop]
    exact List.prefix_iff_eq_append.mp isRun
  rw [behind, List.take_append_drop]

/-- The blocks that two sides are cut into hold the lines of both. -/
theorem flatMap_lines_cut :
    (cut popular firsts seconds).flatMap Block.firstLines = firsts ∧
      (cut popular firsts seconds).flatMap Block.secondLines = seconds := by
  fun_induction cut popular firsts seconds with
  | case1 firsts seconds within run before after =>
      simp only [List.flatMap_append, List.flatMap_cons, before, after]
      exact ⟨append_run_append sharedFront_prefix.1, append_run_append sharedFront_prefix.2⟩
  | case2 firsts seconds =>
      rw [changedBlock]
      split
      · rename_i empty
        simp_all
      · exact ⟨List.append_nil _, List.append_nil _⟩

/-- Joining blocks of shared lines keeps what is read from the blocks line by line. -/
private theorem flatMap_joinShared
    {read : Block → List String}
    (reads : ∀ lines, read (.shared lines) = lines)
    (blocks : List Block) :
    (joinShared blocks).flatMap read = blocks.flatMap read := by
  induction blocks with
  | nil => rfl
  | cons block blocks ih =>
      cases block with
      | changed first second => rw [joinShared, List.flatMap_cons, List.flatMap_cons, ih]
      | shared lines =>
          rw [joinShared, List.flatMap_cons, ← ih]
          split
          · rename_i others rest joined
            simp only [joined, List.flatMap_cons, reads, List.append_assoc]
          · rw [List.flatMap_cons]

theorem flatMap_firstLines_align :
    (align firsts seconds).flatMap Block.firstLines = firsts := by
  rw [align, flatMap_joinShared fun _ => rfl, flatMap_lines_cut.1]

theorem flatMap_secondLines_align :
    (align firsts seconds).flatMap Block.secondLines = seconds := by
  rw [align, flatMap_joinShared fun _ => rfl, flatMap_lines_cut.2]

/-! ## The longest run of equal sides -/

/-- How many of the lines that end with a given count of lines are not popular, up to the last. -/
def steadyLength
    (popular : String → Bool)
    (lines : List String) : Nat → Nat
  | 0 => 0
  | count + 1 =>
    match lines[count]? with
    | some line => if popular line then 0 else steadyLength popular lines count + 1
    | none => 0

/--
The lengths of runs that end at a line and one of the lines of the same side: none is longer than
the run of lines of which either end is the end, and on the diagonal it is that run.
-/
structure OnDiagonal
    (popular : String → Bool)
    (lines : List String)
    (place : Nat)
    (lengths : List Nat) : Prop where
  count : lengths.length = lines.length
  above : ∀ column length, (0 :: lengths)[column]? = some length →
    length ≤ steadyLength popular lines column ∧ length ≤ steadyLength popular lines place
  diagonal : place ≤ lines.length →
    (0 :: lengths)[place]? = some (steadyLength popular lines place)

private theorem eq_zero_of_getElem?_zeros
    {count column length : Nat}
    (found : (0 :: List.replicate count 0)[column]? = some length) :
    length = 0 := by
  rw [← List.replicate_succ, List.getElem?_replicate] at found
  split at found
  · exact (Option.some.inj found).symm
  · cases found

/-- Where no run ends, none is too long. -/
private theorem above_zeros
    {place column length : Nat}
    (found : (0 :: List.replicate lines.length 0)[column]? = some length) :
    length ≤ steadyLength popular lines column ∧ length ≤ steadyLength popular lines place := by
  rw [eq_zero_of_getElem?_zeros found]
  exact ⟨Nat.zero_le _, Nat.zero_le _⟩

theorem onDiagonal_zero :
    OnDiagonal popular lines 0 (List.replicate lines.length 0) where
  count := List.length_replicate
  above := fun _ _ => above_zeros
  diagonal := fun _ => rfl

/-- The lengths of the runs that end at the next line. -/
def nextLengths
    (popular : String → Bool)
    (side : List String)
    (line : String)
    (before : List Nat) : List Nat :=
  if popular line then List.replicate side.length 0 else runLengths line before side

private theorem steadyLength_succ
    {count : Nat}
    {line : String}
    (found : lines[count]? = some line) :
    steadyLength popular lines (count + 1) =
      if popular line then 0 else steadyLength popular lines count + 1 := by
  rw [steadyLength, found]

theorem onDiagonal_step
    {place : Nat}
    {line : String}
    {before : List Nat}
    (next : lines[place]? = some line)
    (onDiagonal : OnDiagonal popular lines place before) :
    OnDiagonal popular lines (place + 1) (nextLengths popular lines line before) := by
  have isNext : steadyLength popular lines (place + 1) =
      if popular line then 0 else steadyLength popular lines place + 1 :=
    steadyLength_succ next
  rw [nextLengths]
  by_cases often : popular line = true
  · rw [if_pos often] at isNext ⊢
    refine ⟨List.length_replicate, fun _ _ => above_zeros, fun within => ?_⟩
    rw [isNext, List.getElem?_cons_succ, List.getElem?_replicate_of_lt within]
  · rw [if_neg often] at isNext ⊢
    refine ⟨?_, ?_, ?_⟩
    · rw [runLengths, List.length_zipWith, List.length_cons, onDiagonal.count]
      exact Nat.min_eq_left (Nat.le_succ _)
    · intro column length found
      cases column with
      | zero =>
          cases found
          exact ⟨Nat.zero_le _, Nat.zero_le _⟩
      | succ column =>
          rw [List.getElem?_cons_succ, runLengths, List.getElem?_zipWith_eq_some] at found
          rcases found with ⟨second, shorter, secondFound, shorterFound, rfl⟩
          rcases onDiagonal.above column shorter shorterFound with ⟨fromColumn, fromPlace⟩
          split
          · rename_i same
            rw [steadyLength_succ (same ▸ secondFound), if_neg often, isNext]
            exact ⟨Nat.succ_le_succ fromColumn, Nat.succ_le_succ fromPlace⟩
          · exact ⟨Nat.zero_le _, Nat.zero_le _⟩
    · intro within
      rw [List.getElem?_cons_succ, runLengths, List.getElem?_zipWith_eq_some]
      exact ⟨line, _, next, onDiagonal.diagonal (Nat.le_of_succ_le within), by
        rw [if_pos rfl, isNext]⟩

/-! ## The first of the longest runs -/

/-- A run that ends at a line of either side takes the place of the best one if it is longer. -/
private def longerStep
    (first : Nat) : Nat × RunEnd → Nat → Nat × RunEnd :=
  fun (second, best) length =>
    (second + 1,
      if best.length < length then { first := first + 1, second := second + 1, length } else best)

/-- Runs that are not longer than the best one leave it the best. -/
private theorem foldl_longerStep_of_le
    {first second : Nat}
    {lengths : List Nat}
    {best : RunEnd}
    (notLonger : ∀ length ∈ lengths, length ≤ best.length) :
    lengths.foldl (longerStep first) (second, best) = (second + lengths.length, best) := by
  induction lengths generalizing second with
  | nil => rfl
  | cons length lengths ih =>
      rcases List.forall_mem_cons.mp notLonger with ⟨here, later⟩
      have step : longerStep first (second, best) length = (second + 1, best) := by
        rw [longerStep, if_neg (Nat.not_lt.mpr here)]
      rw [List.foldl_cons, step, ih later, List.length_cons, Nat.add_right_comm]
      rfl

/-- The best run ends in the same place on both sides and is as long as any run on the diagonal. -/
structure BestOnDiagonal
    (popular : String → Bool)
    (lines : List String)
    (place : Nat)
    (best : RunEnd) : Prop where
  same : best.first = best.second
  within : best.first ≤ lines.length
  longest : ∀ column ≤ place, steadyLength popular lines column ≤ best.length

theorem bestOnDiagonal_step
    {place : Nat}
    {lengths : List Nat}
    {best : RunEnd}
    (inside : place < lines.length)
    (onDiagonal : OnDiagonal popular lines (place + 1) lengths)
    (isBest : BestOnDiagonal popular lines place best) :
    BestOnDiagonal popular lines (place + 1) (longerRun place lengths best) := by
  have short : place < lengths.length := onDiagonal.count ▸ inside
  -- The runs before the diagonal are as short as an earlier one on it, those after it as the one
  -- on it.
  have early : ∀ length ∈ lengths.take place, length ≤ best.length := by
    intro length member
    rcases List.mem_iff_getElem?.mp member with ⟨column, found⟩
    rw [List.getElem?_take] at found
    split at found
    · rename_i before
      exact Nat.le_trans (onDiagonal.above (column + 1) length found).1
        (isBest.longest (column + 1) before)
    · cases found
  have late : ∀ length ∈ lengths.drop (place + 1),
      length ≤ steadyLength popular lines (place + 1) := by
    intro length member
    rcases List.mem_iff_getElem?.mp member with ⟨column, found⟩
    rw [List.getElem?_drop] at found
    exact (onDiagonal.above (place + 1 + column + 1) length found).2
  have split : lengths = lengths.take place ++
      steadyLength popular lines (place + 1) :: lengths.drop (place + 1) := by
    have diagonal : lengths[place]? = some (steadyLength popular lines (place + 1)) :=
      onDiagonal.diagonal inside
    rw [← (List.getElem?_eq_some_iff.mp diagonal).2, ← List.drop_eq_getElem_cons short,
      List.take_append_drop]
  have counted : (lengths.take place).length = place :=
    List.length_take_of_le (Nat.le_of_lt short)
  have run : longerRun place lengths best = (lengths.foldl (longerStep place) (0, best)).2 := rfl
  rw [run, split, List.foldl_append, foldl_longerStep_of_le early, counted, List.foldl_cons,
    longerStep]
  split
  · rw [foldl_longerStep_of_le late]
    refine ⟨by simp, inside, fun column reached => ?_⟩
    rename_i longer
    rcases Nat.le_succ_iff.mp reached with before | rfl
    · exact Nat.le_trans (isBest.longest column before) (Nat.le_of_lt longer)
    · exact Nat.le_refl _
  · rename_i notLonger
    have notLonger := Nat.not_lt.mp notLonger
    rw [foldl_longerStep_of_le fun length member => Nat.le_trans (late length member) notLonger]
    refine ⟨isBest.same, isBest.within, fun column reached => ?_⟩
    rcases Nat.le_succ_iff.mp reached with before | rfl
    · exact isBest.longest column before
    · exact notLonger

/-- The longest run of equal sides ends in the same place on both. -/
private theorem longestRun_onDiagonal
    {rest : List String}
    {place : Nat}
    {before : List Nat}
    {best : RunEnd}
    (isRest : lines.drop place = rest)
    (onDiagonal : OnDiagonal popular lines place before)
    (isBest : BestOnDiagonal popular lines place best) :
    (longestRun popular lines place before best rest).first =
        (longestRun popular lines place before best rest).second ∧
      (longestRun popular lines place before best rest).first ≤ lines.length := by
  induction rest generalizing place before best with
  | nil => exact ⟨isBest.same, isBest.within⟩
  | cons line rest ih =>
      have next : lines[place]? = some line := by
        rw [← Nat.add_zero place, ← List.getElem?_drop, isRest]
        rfl
      have inside : place < lines.length := (List.getElem?_eq_some_iff.mp next).1
      have onNext := onDiagonal_step next onDiagonal
      have isRestNext : lines.drop (place + 1) = rest := by
        rw [← List.drop_drop, isRest]
        rfl
      exact ih isRestNext onNext (bestOnDiagonal_step inside onNext isBest)

/-- Equal sides are one run. -/
theorem sharedRun_self :
    sharedRun popular lines lines = ⟨0, 0, lines⟩ := by
  have start : BestOnDiagonal popular lines 0 {} :=
    ⟨rfl, Nat.zero_le _, fun column reached => by
      rw [Nat.le_zero.mp reached]
      exact Nat.le_refl _⟩
  rcases longestRun_onDiagonal lines.drop_zero onDiagonal_zero start with ⟨same, within⟩
  rw [sharedRun, ← same, sharedFront_self, List.length_reverse,
    List.length_take_of_le (Nat.le_trans (Nat.sub_le _ _) within), Nat.sub_self, List.drop_zero,
    sharedFront_self]

private theorem cut_nil :
    cut popular [] [] = [] := by
  have noRun : ¬(sharedRun popular [] []).isWithin [] := by
    rw [sharedRun_self]
    exact fun within => Nat.lt_irrefl 0 within.1
  rw [cut, dif_neg noRun]
  rfl

theorem cut_self :
    cut popular lines lines = if lines.isEmpty then [] else [.shared lines] := by
  cases lines with
  | nil => exact cut_nil
  | cons line lines =>
      have isRun :
          (sharedRun popular (line :: lines) (line :: lines)).isWithin (line :: lines) := by
        rw [sharedRun_self]
        exact ⟨Nat.zero_lt_succ _, Nat.le_of_eq (Nat.zero_add _)⟩
      rw [cut, dif_pos isRun]
      simp only [sharedRun_self, List.take_zero, Nat.zero_add, List.drop_length, cut_nil]
      rfl

theorem align_self :
    align lines lines = if lines.isEmpty then [] else [.shared lines] := by
  rw [align, cut_self]
  split
  · rfl
  · rfl

/-! ## Rows that are all the same -/

/-- Paired lines have the tag that they are given. -/
private theorem eq_nil_of_pairLines
    {tag : RowTag}
    (notSame : tag ≠ .same)
    (allSame : ∀ row ∈ pairLines tag firsts seconds, row.tag = .same) :
    firsts = [] ∧ seconds = [] := by
  cases firsts with
  | nil =>
      cases seconds with
      | nil => exact ⟨rfl, rfl⟩
      | cons second seconds =>
          rw [pairLines] at allSame
          exact absurd (allSame _ List.mem_cons_self) notSame
  | cons first firsts =>
      cases seconds with
      | nil =>
          rw [pairLines] at allSame
          exact absurd (allSame _ List.mem_cons_self) notSame
      | cons second seconds =>
          rw [pairLines] at allSame
          exact absurd (allSame _ List.mem_cons_self) notSame

/-- A block of which all rows are the same holds the same lines on both sides. -/
private theorem lines_eq_of_all_same
    {block : Block}
    (allSame : ∀ row ∈ block.rows, row.tag = .same) :
    block.firstLines = block.secondLines := by
  cases block with
  | shared lines => rfl
  | changed first second =>
      have notSame : changeTag first second ≠ .same := by
        rw [changeTag]
        split
        · decide
        · split <;> decide
      rcases eq_nil_of_pairLines notSame allSame with ⟨rfl, rfl⟩
      rfl

theorem sideBySide_all_same_iff
    (source target : String) :
    (∀ row ∈ sideBySide source target, row.tag = .same) ↔
      Text.lines source = Text.lines target := by
  constructor
  · intro allSame
    have sameLines : ∀ block ∈ align (Text.lines source) (Text.lines target),
        block.firstLines = block.secondLines := fun block member =>
      lines_eq_of_all_same fun row held => allSame row (List.mem_flatMap.mpr ⟨block, member, held⟩)
    calc Text.lines source
        = (align (Text.lines source) (Text.lines target)).flatMap Block.firstLines :=
          flatMap_firstLines_align.symm
      _ = (align (Text.lines source) (Text.lines target)).flatMap Block.secondLines :=
          List.flatMap_congr sameLines
      _ = Text.lines target := flatMap_secondLines_align
  · intro sameLines
    rw [sideBySide, sameLines, align_self]
    split
    · simp
    · simp [Block.rows]

end SchemaDelta.LineDiff
