import Mathlib.Data.List.Chain
import SchemaDelta.Proofs.LineDiff.Alignment

/-!
# Lines of rows

The rows of the side by side view give both texts back.  A row is an open row whose missing side was
filled with an empty line; open rows hold the lines of either side, no more and no fewer, although
an empty line of a text looks like a filled one.  Lines are missing only where a change takes them
away or adds them, and at the end of changed lines on the shorter side.
-/

namespace SchemaDelta.LineDiff

variable {popular : String → Bool} {firsts seconds : List String}

/-! ## Changes stand apart -/

/-- The block holds lines that both sides share. -/
def Block.isShared : Block → Bool
  | shared _ => true
  | changed _ _ => false

/-- Of two neighbours at least one is shared by both sides. -/
def Block.Apart
    (block next : Block) : Prop :=
  block.isShared = true ∨ next.isShared = true

/-- The block has lines. -/
def Block.HasLines
    (block : Block) : Prop :=
  block.firstLines ≠ [] ∨ block.secondLines ≠ []

private theorem hasLines_cut :
    ∀ block ∈ cut popular firsts seconds, block.HasLines := by
  fun_induction cut popular firsts seconds with
  | case1 firsts seconds within run before after =>
      rw [List.forall_mem_append, List.forall_mem_cons]
      exact ⟨before, Or.inl (List.ne_nil_of_length_pos within.1), after⟩
  | case2 firsts seconds =>
      rw [changedBlock]
      split
      · exact List.forall_mem_nil _
      · rename_i some
        refine List.forall_mem_singleton.mpr ?_
        rwa [Bool.and_eq_true, List.isEmpty_iff, List.isEmpty_iff, Decidable.not_and_iff_or_not]
          at some

private theorem isChain_cut :
    (cut popular firsts seconds).IsChain Block.Apart := by
  fun_induction cut popular firsts seconds with
  | case1 firsts seconds within run before after =>
      refine List.isChain_append.mpr ⟨before, List.isChain_cons.mpr ⟨?_, after⟩, ?_⟩
      · exact fun _ _ => Or.inl rfl
      · rintro left - right ⟨⟩
        exact Or.inr rfl
  | case2 firsts seconds =>
      rw [changedBlock]
      split
      · exact List.isChain_nil
      · exact List.isChain_singleton _

private theorem hasLines_joinShared
    {blocks : List Block}
    (haveLines : ∀ block ∈ blocks, block.HasLines) :
    ∀ block ∈ joinShared blocks, block.HasLines := by
  induction blocks with
  | nil => exact haveLines
  | cons block blocks ih =>
      rcases List.forall_mem_cons.mp haveLines with ⟨here, later⟩
      have joinedLines := ih later
      cases block with
      | changed first second => exact List.forall_mem_cons.mpr ⟨here, joinedLines⟩
      | shared lines =>
          rw [joinShared]
          split
          · rename_i others rest joined
            rw [joined, List.forall_mem_cons] at joinedLines
            refine List.forall_mem_cons.mpr ⟨Or.inl fun none => ?_, joinedLines.2⟩
            rcases List.append_eq_nil_iff.mp none with ⟨noLines, -⟩
            exact here.elim (fun some => some noLines) fun some => some noLines
          · exact List.forall_mem_cons.mpr ⟨here, joinedLines⟩

/-- Joining leaves a block of the same sort in front. -/
private theorem isShared_head?_joinShared
    (blocks : List Block) :
    (joinShared blocks).head?.map Block.isShared = blocks.head?.map Block.isShared := by
  cases blocks with
  | nil => rfl
  | cons block blocks =>
      cases block with
      | changed first second => rfl
      | shared lines =>
          rw [joinShared]
          split <;> rfl

private theorem isChain_joinShared
    {blocks : List Block}
    (apart : blocks.IsChain Block.Apart) :
    (joinShared blocks).IsChain Block.Apart := by
  induction blocks with
  | nil => exact List.isChain_nil
  | cons block blocks ih =>
      rcases List.isChain_cons.mp apart with ⟨here, later⟩
      have joinedApart := ih later
      cases block with
      | changed first second =>
          refine List.isChain_cons.mpr ⟨fun next isNext => Or.inr ?_, joinedApart⟩
          have sort := isShared_head?_joinShared blocks
          rw [Option.mem_def.mp isNext] at sort
          rcases Option.map_eq_some_iff.mp sort.symm with ⟨old, isOld, sameSort⟩
          rw [← sameSort]
          exact (here old isOld).resolve_left Bool.false_ne_true
      | shared lines =>
          rw [joinShared]
          split
          · rename_i others rest joined
            rw [joined, List.isChain_cons] at joinedApart
            exact List.isChain_cons.mpr ⟨fun _ _ => Or.inl rfl, joinedApart.2⟩
          · exact List.isChain_cons.mpr ⟨fun _ _ => Or.inl rfl, joinedApart⟩

theorem hasLines_align :
    ∀ block ∈ align firsts seconds, block.HasLines :=
  hasLines_joinShared hasLines_cut

/-- Between two changes stand lines that both sides share. -/
theorem isChain_align :
    (align firsts seconds).IsChain Block.Apart :=
  isChain_joinShared isChain_cut

/-! ## Open rows -/

/-- A row of the view before a missing side is filled with an empty line. -/
structure OpenRow where
  source : Option String
  target : Option String
  tag : RowTag

namespace OpenRow

/-- The row with an empty line on a missing side. -/
def filled
    (row : OpenRow) : DiffRow :=
  ⟨row.source.getD "", row.target.getD "", row.tag⟩

/-- Which sides a row has, by its tag.  No row misses both. -/
def IsTagged
    (row : OpenRow) : Prop :=
  match row.tag with
  | .same => row.source.isSome = true ∧ row.source = row.target
  | .added => row.source.isSome = true ∧ row.target = none
  | .removed => row.source = none ∧ row.target.isSome = true
  | .changed => row.source.isSome = true ∨ row.target.isSome = true

/-- Changed lines begin with a line of either side. -/
def StartsFull
    (row : OpenRow) : Prop :=
  row.tag = .changed → row.source.isSome = true ∧ row.target.isSome = true

/-- Among changed lines, a side that is missing is missing in the next row, too. -/
def StaysOpen
    (row next : OpenRow) : Prop :=
  (row.source = none → next.source = none) ∧ (row.target = none → next.target = none)

/-- A row may stand behind another: it goes on with changed lines or begins them. -/
def LeadsTo
    (row next : OpenRow) : Prop :=
  (row.tag = .changed → next.tag = .changed → row.StaysOpen next) ∧
    (row.tag ≠ .changed → next.StartsFull)

end OpenRow

/-- Lines paired in order; the shorter side is missing in the rows behind its last line. -/
def pairOpen
    (tag : RowTag) : List String → List String → List OpenRow
  | [], [] => []
  | source :: sources, [] => ⟨some source, none, tag⟩ :: pairOpen tag sources []
  | [], target :: targets => ⟨none, some target, tag⟩ :: pairOpen tag [] targets
  | source :: sources, target :: targets =>
    ⟨some source, some target, tag⟩ :: pairOpen tag sources targets

/-- The open rows of a block. -/
def Block.openRows : Block → List OpenRow
  | shared lines => lines.map fun line => ⟨some line, some line, .same⟩
  | changed sources targets => pairOpen (changeTag sources targets) sources targets

section Pairs

variable {tag : RowTag} {sources targets : List String}

private theorem map_filled_pairOpen :
    (pairOpen tag sources targets).map OpenRow.filled = pairLines tag sources targets := by
  fun_induction pairOpen tag sources targets with
  | case1 =>
      rw [pairLines]
      rfl
  | case2 source sources ih =>
      rw [List.map_cons, ih, pairLines]
      rfl
  | case3 target targets ih =>
      rw [List.map_cons, ih, pairLines]
      rfl
  | case4 source sources target targets ih =>
      rw [List.map_cons, ih, pairLines]
      rfl

/-- The rows of paired lines hold the lines of either side. -/
private theorem filterMap_pairOpen :
    (pairOpen tag sources targets).filterMap OpenRow.source = sources ∧
      (pairOpen tag sources targets).filterMap OpenRow.target = targets := by
  fun_induction pairOpen tag sources targets with
  | case1 => exact ⟨rfl, rfl⟩
  | case2 source sources ih => exact ⟨congrArg (source :: ·) ih.1, ih.2⟩
  | case3 target targets ih => exact ⟨ih.1, congrArg (target :: ·) ih.2⟩
  | case4 source sources target targets ih =>
      exact ⟨congrArg (source :: ·) ih.1, congrArg (target :: ·) ih.2⟩

/-- A side is missing in a row only if it has fewer lines than the other one. -/
private theorem sides_of_mem_pairOpen
    {row : OpenRow}
    (member : row ∈ pairOpen tag sources targets) :
    row.tag = tag ∧ (row.source.isSome = true ∨ row.target.isSome = true) ∧
      (sources = [] → row.source = none) ∧ (targets = [] → row.target = none) := by
  fun_induction pairOpen tag sources targets with
  | case1 => cases member
  | case2 source sources ih =>
      rcases List.mem_cons.mp member with rfl | later
      · exact ⟨rfl, Or.inl rfl, fun none => absurd none (List.cons_ne_nil _ _), fun _ => rfl⟩
      · rcases ih later with ⟨tagged, some, -, noTarget⟩
        exact ⟨tagged, some, fun none => absurd none (List.cons_ne_nil _ _), noTarget⟩
  | case3 target targets ih =>
      rcases List.mem_cons.mp member with rfl | later
      · exact ⟨rfl, Or.inr rfl, fun _ => rfl, fun none => absurd none (List.cons_ne_nil _ _)⟩
      · rcases ih later with ⟨tagged, some, noSource, -⟩
        exact ⟨tagged, some, noSource, fun none => absurd none (List.cons_ne_nil _ _)⟩
  | case4 source sources target targets ih =>
      refine ⟨?_, ?_, fun none => absurd none (List.cons_ne_nil _ _),
        fun none => absurd none (List.cons_ne_nil _ _)⟩
      · rcases List.mem_cons.mp member with rfl | later
        · rfl
        · exact (ih later).1
      · rcases List.mem_cons.mp member with rfl | later
        · exact Or.inl rfl
        · exact (ih later).2.1

private theorem isChain_pairOpen :
    (pairOpen tag sources targets).IsChain OpenRow.StaysOpen := by
  fun_induction pairOpen tag sources targets with
  | case1 => exact List.isChain_nil
  | case2 source sources ih =>
      refine List.isChain_cons.mpr ⟨fun next isNext => ⟨nofun, fun _ => ?_⟩, ih⟩
      exact (sides_of_mem_pairOpen (List.mem_of_mem_head? isNext)).2.2.2 rfl
  | case3 target targets ih =>
      refine List.isChain_cons.mpr ⟨fun next isNext => ⟨fun _ => ?_, nofun⟩, ih⟩
      exact (sides_of_mem_pairOpen (List.mem_of_mem_head? isNext)).2.2.1 rfl
  | case4 source sources target targets ih =>
      exact List.isChain_cons.mpr ⟨fun _ _ => ⟨nofun, nofun⟩, ih⟩

end Pairs

namespace Block

variable {block : Block}

theorem map_filled_openRows
    (block : Block) :
    block.openRows.map OpenRow.filled = block.rows := by
  cases block with
  | shared lines =>
      rw [openRows, rows, List.map_map]
      rfl
  | changed sources targets => exact map_filled_pairOpen

/-- The rows of a block hold the lines of the block. -/
theorem filterMap_openRows
    (block : Block) :
    block.openRows.filterMap OpenRow.source = block.firstLines ∧
      block.openRows.filterMap OpenRow.target = block.secondLines := by
  cases block with
  | shared lines =>
      rw [openRows, List.filterMap_map, List.filterMap_map]
      exact ⟨List.filterMap_some, List.filterMap_some⟩
  | changed sources targets => exact filterMap_pairOpen

theorem openRows_ne_nil
    (hasLines : block.HasLines) :
    block.openRows ≠ [] := by
  intro none
  have lines := block.filterMap_openRows
  rw [none] at lines
  exact hasLines.elim (fun some => some lines.1.symm) fun some => some lines.2.symm

/-- The tag of changed lines tells which side is empty. -/
private theorem changeTag_cases
    (sources targets : List String) :
    (changeTag sources targets = .added ∧ targets = []) ∨
      (changeTag sources targets = .removed ∧ sources = []) ∨
        (changeTag sources targets = .changed ∧ sources ≠ [] ∧ targets ≠ []) := by
  rw [changeTag]
  split
  · rename_i empty
    exact Or.inl ⟨rfl, List.isEmpty_iff.mp empty⟩
  · rename_i some
    split
    · rename_i empty
      exact Or.inr (Or.inl ⟨rfl, List.isEmpty_iff.mp empty⟩)
    · rename_i someSource
      exact Or.inr (Or.inr ⟨rfl, fun none => someSource (List.isEmpty_iff.mpr none),
        fun none => some (List.isEmpty_iff.mpr none)⟩)

theorem isTagged_openRows
    {row : OpenRow}
    (member : row ∈ block.openRows) :
    row.IsTagged := by
  cases block with
  | shared lines =>
      rcases List.mem_map.mp member with ⟨line, _, rfl⟩
      exact ⟨rfl, rfl⟩
  | changed sources targets =>
      rcases sides_of_mem_pairOpen member with ⟨tagged, some, noSource, noTarget⟩
      rw [OpenRow.IsTagged, tagged]
      rcases changeTag_cases sources targets with ⟨tag, none⟩ | ⟨tag, none⟩ | ⟨tag, -⟩
      · rw [tag]
        have missing := noTarget none
        rw [missing] at some
        exact ⟨some.resolve_right Bool.false_ne_true, missing⟩
      · rw [tag]
        have missing := noSource none
        rw [missing] at some
        exact ⟨missing, some.resolve_left Bool.false_ne_true⟩
      · rw [tag]
        exact some

theorem startsFull_openRows
    (block : Block) :
    ∀ row ∈ block.openRows.head?, row.StartsFull := by
  intro row isFirst changed
  cases block with
  | shared lines =>
      rcases List.mem_map.mp (List.mem_of_mem_head? isFirst) with ⟨line, _, rfl⟩
      cases changed
  | changed sources targets =>
      have tagged := (sides_of_mem_pairOpen (List.mem_of_mem_head? isFirst)).1
      rcases changeTag_cases sources targets with ⟨tag, -⟩ | ⟨tag, -⟩ | ⟨-, someSource, someTarget⟩
      · cases changed.symm.trans (tagged.trans tag)
      · cases changed.symm.trans (tagged.trans tag)
      · rcases List.exists_cons_of_ne_nil someSource with ⟨source, sources, rfl⟩
        rcases List.exists_cons_of_ne_nil someTarget with ⟨target, targets, rfl⟩
        rw [openRows, pairOpen] at isFirst
        cases isFirst
        exact ⟨rfl, rfl⟩

theorem isChain_openRows
    (block : Block) :
    block.openRows.IsChain OpenRow.LeadsTo := by
  cases block with
  | shared lines =>
      refine List.Pairwise.isChain (List.pairwise_map.mpr ?_)
      exact List.pairwise_of_forall fun _ _ => ⟨nofun, fun _ => nofun⟩
  | changed sources targets =>
      refine isChain_pairOpen.imp_of_mem_imp ?_
      intro row next rowMember nextMember staysOpen
      have sameTag := (sides_of_mem_pairOpen rowMember).1.trans
        (sides_of_mem_pairOpen nextMember).1.symm
      exact ⟨fun _ _ => staysOpen, fun notChanged changed =>
        absurd (sameTag.trans changed) notChanged⟩

/-- Rows of shared lines are no changed rows. -/
private theorem not_changed_of_isShared
    {row : OpenRow}
    (isShared : block.isShared = true)
    (member : row ∈ block.openRows) :
    row.tag ≠ .changed := by
  cases block with
  | shared lines =>
      rcases List.mem_map.mp member with ⟨line, _, rfl⟩
      nofun
  | changed sources targets => cases isShared

end Block

/-! ## The rows of two texts -/

/-- The open rows of the side by side view of two texts. -/
def openSideBySide
    (source target : String) : List OpenRow :=
  (align (Text.lines source) (Text.lines target)).flatMap Block.openRows

section Texts

variable {source target : String}

theorem map_filled_openSideBySide :
    (openSideBySide source target).map OpenRow.filled = sideBySide source target := by
  rw [openSideBySide, sideBySide, List.map_flatMap]
  exact List.flatMap_congr fun block _ => block.map_filled_openRows

theorem isTagged_openSideBySide :
    ∀ row ∈ openSideBySide source target, row.IsTagged := by
  intro row member
  rcases List.mem_flatMap.mp member with ⟨block, _, held⟩
  exact Block.isTagged_openRows held

theorem startsFull_openSideBySide :
    ∀ row ∈ (openSideBySide source target).head?, row.StartsFull := by
  rw [openSideBySide]
  cases blocks : align (Text.lines source) (Text.lines target) with
  | nil => nofun
  | cons block blocks =>
      have hasLines := hasLines_align block (blocks ▸ List.mem_cons_self)
      rw [List.flatMap_cons, List.head?_append_of_ne_nil _ (Block.openRows_ne_nil hasLines)]
      exact block.startsFull_openRows

/-- No two changes are neighbours, so that what is missing at the end of one stays there. -/
theorem isChain_openSideBySide :
    (openSideBySide source target).IsChain OpenRow.LeadsTo := by
  have haveLines : [] ∉ (align (Text.lines source) (Text.lines target)).map Block.openRows := by
    intro member
    rcases List.mem_map.mp member with ⟨block, blockMember, none⟩
    exact Block.openRows_ne_nil (hasLines_align block blockMember) none
  rw [openSideBySide, List.flatMap_def, List.isChain_flatten haveLines]
  refine ⟨List.forall_mem_map.mpr fun block _ => block.isChain_openRows, ?_⟩
  refine List.isChain_map_of_isChain Block.openRows ?_ isChain_align
  intro block next oneShared row isLast other isFirst
  refine ⟨fun changed otherChanged => ?_, fun _ => next.startsFull_openRows other isFirst⟩
  rcases oneShared with shared | shared
  · exact absurd changed (Block.not_changed_of_isShared shared (List.mem_of_mem_getLast? isLast))
  · exact absurd otherChanged
      (Block.not_changed_of_isShared shared (List.mem_of_mem_head? isFirst))

theorem filterMap_openSideBySide :
    (openSideBySide source target).filterMap OpenRow.source = Text.lines source ∧
      (openSideBySide source target).filterMap OpenRow.target = Text.lines target := by
  rw [openSideBySide, List.filterMap_flatMap, List.filterMap_flatMap]
  constructor
  · exact (List.flatMap_congr fun block _ => block.filterMap_openRows.1).trans
      flatMap_firstLines_align
  · exact (List.flatMap_congr fun block _ => block.filterMap_openRows.2).trans
      flatMap_secondLines_align

/-- Leaving out rows without lines of a side leaves all lines of the side. -/
private theorem filterMap_filter_of_none
    {rows : List OpenRow}
    {isKept : OpenRow → Bool}
    {side : OpenRow → Option String}
    (none : ∀ row ∈ rows, isKept row = false → side row = none) :
    (rows.filter isKept).filterMap side = rows.filterMap side := by
  rw [List.filterMap_filter]
  refine List.filterMap_congr fun row member => ?_
  cases kept : isKept row with
  | true => rfl
  | false => exact (none row member kept).symm

end Texts

/--
The rows of the view are rows with the lines of both texts, of which missing sides are filled.  The
source has its lines in the rows that are the same, added or changed, the target has its lines in
those that are the same, removed or changed, both in order.  No row misses both sides; changed lines
begin with a line of either side and miss one only behind its last line.  All rows are the same
exactly when the texts have the same lines.
-/
theorem sideBySide_holds_lines
    (source target : String) :
    (∃ rows : List OpenRow, rows.map OpenRow.filled = sideBySide source target ∧
      (rows.filter fun row => row.tag ≠ .removed).filterMap OpenRow.source = Text.lines source ∧
      (rows.filter fun row => row.tag ≠ .added).filterMap OpenRow.target = Text.lines target ∧
      (∀ row ∈ rows, row.IsTagged) ∧ (∀ row ∈ rows.head?, row.StartsFull) ∧
      rows.IsChain OpenRow.LeadsTo) ∧
    (∀ row ∈ sideBySide source target,
      (row.tag = .same → row.source = row.target) ∧ (row.tag = .added → row.target = "") ∧
        (row.tag = .removed → row.source = "")) ∧
    ((∀ row ∈ sideBySide source target, row.tag = .same) ↔
      Text.lines source = Text.lines target) := by
  have tagged : ∀ row ∈ openSideBySide source target, row.IsTagged := isTagged_openSideBySide
  refine ⟨⟨openSideBySide source target, map_filled_openSideBySide, ?_, ?_, tagged,
    startsFull_openSideBySide, isChain_openSideBySide⟩, ?_, sideBySide_all_same_iff source target⟩
  · refine (filterMap_filter_of_none fun row member left => ?_).trans filterMap_openSideBySide.1
    have isTagged := tagged row member
    rw [OpenRow.IsTagged, of_not_not (of_decide_eq_false left)] at isTagged
    exact isTagged.1
  · refine (filterMap_filter_of_none fun row member left => ?_).trans filterMap_openSideBySide.2
    have isTagged := tagged row member
    rw [OpenRow.IsTagged, of_not_not (of_decide_eq_false left)] at isTagged
    exact isTagged.2
  · rw [← map_filled_openSideBySide]
    refine List.forall_mem_map.mpr fun row member => ?_
    have isTagged := tagged row member
    refine ⟨fun same => ?_, fun added => ?_, fun removed => ?_⟩
    · have same : row.tag = .same := same
      rw [OpenRow.IsTagged, same] at isTagged
      exact congrArg (Option.getD · "") isTagged.2
    · have added : row.tag = .added := added
      rw [OpenRow.IsTagged, added] at isTagged
      exact congrArg (Option.getD · "") isTagged.2
    · have removed : row.tag = .removed := removed
      rw [OpenRow.IsTagged, removed] at isTagged
      exact congrArg (Option.getD · "") isTagged.1

end SchemaDelta.LineDiff
