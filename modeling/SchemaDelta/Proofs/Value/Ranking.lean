import Mathlib.Data.List.Sort
import Mathlib.Data.Prod.Lex
import Mathlib.Data.String.Basic
import SchemaDelta.Proofs.Ddl.Grouping
import SchemaDelta.Proofs.Ddl.Identifier

/-!
# Order of sorted items

Keys that compare as ranks do put items into the order of their ranks, and items of one rank keep
their order.  The two together determine what sorting gives.  Schemas and names rank as pairs of
texts, positions as integers.
-/

namespace SchemaDelta.Value

variable {α β : Type} [LinearOrder β]

/-- Keys stand in the order of ranks. -/
def RanksBy
    (key : α → Value)
    (rank : α → β) : Prop :=
  ∀ left right, (key left).precedes (key right) = true ↔ rank left ≤ rank right

/-- The rank of an object among those that are listed by schema and name. -/
def listingRank
    (object : Value) : Lex (String × String) :=
  toLex (object.letters "schema", object.letters "name")

theorem int_ranksBy
    (rank : α → Int) :
    RanksBy (fun item => .int (rank item)) rank := by
  intro left right
  simp [precedes, less?, lessScalar?, asInt?]

theorem text_ranksBy
    (rank : α → String) :
    RanksBy (fun item => .text (rank item)) rank := by
  intro left right
  rw [← not_lt]
  simp [precedes, less?, lessScalar?, asInt?, asText?, -String.lt_iff_ltb]

private theorem less?_texts
    (left right : String × String) :
    less? (.list [.text left.1, .text left.2]) (.list [.text right.1, .text right.2]) =
      some (decide (toLex left < toLex right)) := by
  rcases left with ⟨schema, name⟩
  rcases right with ⟨schema', name'⟩
  simp only [less?, lessItems?, beq_eq_equal, equal_text, beq_iff_eq, lessScalar?, asInt?,
    asText?, Prod.Lex.toLex_lt_toLex]
  by_cases sameSchema : schema = schema'
  · by_cases sameName : name = name'
    · simp only [sameSchema, sameName, if_true, lt_irrefl, and_false, or_false, decide_false]
    · simp only [sameSchema, sameName, if_true, if_false, lt_irrefl, true_and, false_or]
  · simp only [sameSchema, if_false, false_and, or_false]

theorem listing_ranksBy : RanksBy listing listingRank := by
  intro left right
  have compared := less?_texts (right.letters "schema", right.letters "name")
    (left.letters "schema", left.letters "name")
  rw [precedes, listing, listing, compared, ← not_lt]
  simp [listingRank, -String.lt_iff_ltb]

theorem nameKey_ranksBy : RanksBy nameKey (toLex : String × String → Lex (String × String)) := by
  intro left right
  have compared : less? (nameKey right) (nameKey left) = some (decide (toLex right < toLex left)) :=
    less?_texts right left
  rw [precedes, compared, ← not_lt]
  simp [-String.lt_iff_ltb]

variable {key : α → Value} {rank : α → β} {items others : List α}

private theorem insertOn_eq
    (ranks : RanksBy key rank)
    (item : α)
    (items : List α) :
    insertOn key item items =
      items.orderedInsert (fun left right => rank left ≤ rank right) item := by
  induction items with
  | nil => rfl
  | cons first items ih =>
      rw [insertOn, List.orderedInsert_cons, ih]
      simp only [ranks item first]

/-- Sorting by keys is sorting by the ranks in whose order they stand. -/
theorem RanksBy.sortedOn_eq
    (ranks : RanksBy key rank)
    (items : List α) :
    sortedOn key items = items.insertionSort fun left right => rank left ≤ rank right := by
  induction items with
  | nil => rfl
  | cons item items ih =>
      rw [List.insertionSort_cons, ← ih, ← insertOn_eq ranks]
      rfl

theorem RanksBy.sortedOn_pairwise
    (ranks : RanksBy key rank)
    (items : List α) :
    (sortedOn key items).Pairwise fun left right => rank left ≤ rank right := by
  have total : Std.Total fun left right : α => rank left ≤ rank right :=
    ⟨fun left right => le_total (rank left) (rank right)⟩
  have transitive : IsTrans α fun left right => rank left ≤ rank right :=
    ⟨fun _ _ _ => le_trans⟩
  rw [ranks.sortedOn_eq]
  exact List.pairwise_insertionSort _ items

/-- Items of one rank keep their order. -/
theorem RanksBy.sortedOn_filter_rank
    (ranks : RanksBy key rank)
    (items : List α)
    (place : β) :
    (sortedOn key items).filter (fun item => rank item = place) =
      items.filter fun item => rank item = place := by
  have together : (items.filter fun item => rank item = place).Pairwise
      fun left right => rank left ≤ rank right := by
    apply List.pairwise_of_forall_mem_list
    intro left leftMember right rightMember
    have leftRank := (List.mem_filter.mp leftMember).2
    have rightRank := (List.mem_filter.mp rightMember).2
    rw [decide_eq_true_eq] at leftRank rightRank
    rw [leftRank, rightRank]
  have kept := (List.sublist_insertionSort together List.filter_sublist).filter
    fun item => rank item = place
  simp only [← ranks.sortedOn_eq, List.filter_filter, Bool.and_self] at kept
  exact (kept.eq_of_length ((sortedOn_perm key items).symm.filter _).length_eq).symm

/-- Ordered lists in which every rank has the same items in the same order are equal. -/
theorem eq_of_pairwise_of_filter_rank
    (itemsOrdered : items.Pairwise fun left right => rank left ≤ rank right)
    (othersOrdered : others.Pairwise fun left right => rank left ≤ rank right)
    (agree : ∀ place, items.filter (fun item => rank item = place) =
      others.filter fun item => rank item = place) :
    items = others := by
  induction items generalizing others with
  | nil =>
      cases others with
      | nil => rfl
      | cons other others => simpa using agree (rank other)
  | cons item items ih =>
      cases others with
      | nil => simpa using agree (rank item)
      | cons other others =>
          have otherAmong : other ∈ item :: items := by
            have here : other ∈ (item :: items).filter fun entry => rank entry = rank other := by
              rw [agree]
              simp
            exact List.mem_of_mem_filter here
          have itemAmong : item ∈ other :: others := by
            have here : item ∈ (other :: others).filter fun entry => rank entry = rank item := by
              rw [← agree]
              simp
            exact List.mem_of_mem_filter here
          have above : rank item ≤ rank other := by
            rcases List.mem_cons.mp otherAmong with rfl | later
            · exact le_rfl
            · exact List.rel_of_pairwise_cons itemsOrdered later
          have below : rank other ≤ rank item := by
            rcases List.mem_cons.mp itemAmong with rfl | later
            · exact le_rfl
            · exact List.rel_of_pairwise_cons othersOrdered later
          have sameRank : rank other = rank item := le_antisymm below above
          have first := agree (rank item)
          simp only [List.filter_cons, sameRank, decide_true, if_true, List.cons.injEq] at first
          cases first.1
          rw [ih itemsOrdered.of_cons othersOrdered.of_cons]
          intro place
          have rest := agree place
          simp only [List.filter_cons] at rest
          split at rest
          · exact List.cons_injective rest
          · exact rest

/-- Sorting leaves out what is left out before. -/
theorem RanksBy.sortedOn_filter
    (ranks : RanksBy key rank)
    (test : α → Bool)
    (items : List α) :
    (sortedOn key items).filter test = sortedOn key (items.filter test) := by
  apply eq_of_pairwise_of_filter_rank ((ranks.sortedOn_pairwise items).filter test)
    (ranks.sortedOn_pairwise _)
  intro place
  rw [ranks.sortedOn_filter_rank, List.filter_filter, List.filter_filter, ←
    funext fun item => Bool.and_comm (test item) (decide (rank item = place)),
    ← List.filter_filter, ranks.sortedOn_filter_rank, List.filter_filter]

/-- Sorting does not depend on the order of items that all have ranks of their own. -/
theorem RanksBy.sortedOn_congr
    (ranks : RanksBy key rank)
    (perm : items.Perm others)
    (distinct : (items.map rank).Nodup) :
    sortedOn key items = sortedOn key others := by
  apply List.Perm.eq_of_pairwise _ (ranks.sortedOn_pairwise items) (ranks.sortedOn_pairwise others)
    (((sortedOn_perm key items).trans perm).trans (sortedOn_perm key others).symm)
  intro left right leftMember rightMember above below
  exact List.inj_on_of_nodup_map distinct (mem_sortedOn.mp leftMember)
    (perm.mem_iff.mpr (mem_sortedOn.mp rightMember)) (le_antisymm above below)

/-- Items with the same ranks have the same ranks when they are sorted. -/
theorem RanksBy.map_rank_sortedOn_of_perm
    (ranks : RanksBy key rank)
    (perm : (items.map rank).Perm (others.map rank)) :
    (sortedOn key items).map rank = (sortedOn key others).map rank := by
  apply List.Perm.eq_of_pairwise (fun _ _ _ _ => le_antisymm)
    (List.pairwise_map.mpr (ranks.sortedOn_pairwise items))
    (List.pairwise_map.mpr (ranks.sortedOn_pairwise others))
  exact (((sortedOn_perm key items).map rank).trans perm).trans
    ((sortedOn_perm key others).symm.map rank)

/-- The order of the items does not show in the ranks of the sorted items. -/
theorem RanksBy.map_rank_sortedOn
    (ranks : RanksBy key rank)
    (perm : items.Perm others) :
    (sortedOn key items).map rank = (sortedOn key others).map rank :=
  ranks.map_rank_sortedOn_of_perm (perm.map rank)

/-- Items with ranks of their own are sorted into a strict order. -/
theorem RanksBy.sortedOn_pairwise_lt
    (ranks : RanksBy key rank)
    (distinct : (items.map rank).Nodup) :
    (sortedOn key items).Pairwise fun left right => rank left < rank right := by
  have different : (sortedOn key items).Pairwise fun left right => rank left ≠ rank right :=
    List.pairwise_map.mp (((sortedOn_perm key items).map rank).nodup_iff.mpr distinct)
  exact ((ranks.sortedOn_pairwise items).and different).imp fun both =>
    lt_of_le_of_ne both.1 both.2

/--
Of two sorted items one stands before another exactly when its rank is smaller, or the same and it
stood before the other one already.
-/
theorem RanksBy.pair_sublist_sortedOn_iff
    (ranks : RanksBy key rank)
    {left right : α} :
    [left, right].Sublist (sortedOn key items) ↔
      left ∈ items ∧ right ∈ items ∧
        (rank left < rank right ∨ rank left = rank right ∧ [left, right].Sublist items) := by
  have together : rank left = rank right → [left, right].filter (fun item =>
      rank item = rank right) = [left, right] := by
    intro same
    simp [same]
  constructor
  · intro before
    have among := fun item member => mem_sortedOn.mp (before.subset (a := item) member)
    refine ⟨among left (by simp), among right (by simp), ?_⟩
    have ordered := List.rel_of_pairwise_cons ((ranks.sortedOn_pairwise items).sublist before)
      (List.mem_singleton.mpr rfl)
    refine ordered.lt_or_eq.imp_right fun same => ⟨same, ?_⟩
    have kept := before.filter fun item => rank item = rank right
    rw [together same, ranks.sortedOn_filter_rank] at kept
    exact kept.trans List.filter_sublist
  · rintro ⟨leftMember, rightMember, below | ⟨same, before⟩⟩
    · have sorted := ranks.sortedOn_pairwise items
      have member : right ∈ sortedOn key items := mem_sortedOn.mpr rightMember
      rcases List.append_of_mem (mem_sortedOn.mpr leftMember) with ⟨front, back, split⟩
      rw [split] at sorted member ⊢
      have behind : right ∈ back := by
        rcases List.mem_append.mp member with early | late
        · exact absurd ((List.pairwise_append.mp sorted).2.2 right early left
            List.mem_cons_self) (not_le_of_gt below)
        · refine (List.mem_cons.mp late).resolve_left fun equal => ?_
          exact absurd (congrArg rank equal) below.ne'
      exact ((List.singleton_sublist.mpr behind).cons_cons left).trans
        (List.sublist_append_right front _)
    · have kept := before.filter fun item => rank item = rank right
      rw [together same, ← ranks.sortedOn_filter_rank] at kept
      exact kept.trans List.filter_sublist

end SchemaDelta.Value
