import SchemaDelta.Proofs.Attempt
import SchemaDelta.Proofs.Value.Equality

/-!
# Sorting by keys

Items whose keys can be read and have an order among them can be sorted.  Integers have an order,
texts have one, and so have pairs of texts.
-/

namespace SchemaDelta.Value

open Attempt (bind_eq_ok_iff)

variable {α : Type}

private theorem insertOn_perm
    (key : α → Value)
    (item : α)
    (items : List α) :
    (insertOn key item items).Perm (item :: items) := by
  induction items with
  | nil => exact List.Perm.refl _
  | cons first items ih =>
      rw [insertOn]
      split
      · exact List.Perm.refl _
      · exact (ih.cons first).trans (List.Perm.swap item first items)

theorem sortedOn_perm
    (key : α → Value)
    (items : List α) :
    (sortedOn key items).Perm items := by
  induction items with
  | nil => exact List.Perm.refl _
  | cons item items ih =>
      exact (insertOn_perm key item _).trans (ih.cons item)

@[simp]
theorem mem_sortedOn
    {key : α → Value}
    {items : List α}
    {item : α} :
    item ∈ sortedOn key items ↔ item ∈ items :=
  (sortedOn_perm key items).mem_iff

private theorem insertOn_map
    {β : Type}
    (key : β → Value)
    (convert : α → β)
    (item : α)
    (items : List α) :
    insertOn key (convert item) (items.map convert) =
      (insertOn (fun item => key (convert item)) item items).map convert := by
  induction items with
  | nil => rfl
  | cons first items ih =>
      rw [List.map_cons, insertOn, insertOn]
      split
      · rfl
      · rw [ih, List.map_cons]

/-- Converted items are sorted as the items are by the converted key. -/
theorem sortedOn_map
    {β : Type}
    (key : β → Value)
    (convert : α → β)
    (items : List α) :
    sortedOn key (items.map convert) =
      (sortedOn (fun item => key (convert item)) items).map convert := by
  induction items with
  | nil => rfl
  | cons item items ih =>
      change insertOn key (convert item) (sortedOn key (items.map convert)) = _
      rw [ih, insertOn_map]
      rfl

/-! ## Keys with an order -/

@[simp]
theorem isComparable_int
    (left right : Int) :
    (int left).isComparable (int right) = true :=
  rfl

@[simp]
theorem isComparable_text
    (left right : String) :
    (text left).isComparable (text right) = true :=
  rfl

@[simp]
theorem isComparable_texts
    (left left' right right' : String) :
    (list [text left, text left']).isComparable (list [text right, text right']) = true := by
  simp only [isComparable, less?, lessItems?]
  split
  · split
    · rfl
    · rfl
  · rfl

private theorem areComparable_of_forall
    {keys : List Value}
    (comparable : ∀ left ∈ keys, ∀ right ∈ keys, left.isComparable right = true) :
    areComparable keys = true := by
  induction keys with
  | nil => rfl
  | cons first keys ih =>
      cases keys with
      | nil => rfl
      | cons second keys =>
          rw [areComparable, Bool.and_eq_true]
          constructor
          · exact comparable first List.mem_cons_self second (by simp)
          · apply ih
            intro left leftMember right rightMember
            exact comparable left (List.mem_cons_of_mem first leftMember)
              right (List.mem_cons_of_mem first rightMember)

/-- No item is lost or doubled when items are sorted. -/
theorem length_of_sortedBy
    {key : α → Attempt Value}
    {items sorted : List α}
    (sortedOk : sortedBy key items = .ok sorted) :
    sorted.length = items.length := by
  rcases bind_eq_ok_iff.mp sortedOk with ⟨keyed, keyedOk, sortedRun⟩
  dsimp only at sortedRun
  split at sortedRun
  · cases sortedRun
  · cases sortedRun
    rw [List.length_map, (sortedOn_perm _ keyed).length_eq, Attempt.length_of_mapM keyedOk]

/-- Items are sorted by their keys where every key can be read and any two have an order. -/
theorem sortedBy_ok
    {key : α → Attempt Value}
    (held : α → Value)
    {items : List α}
    (reads : ∀ item ∈ items, key item = .ok (held item))
    (comparable : ∀ left ∈ items, ∀ right ∈ items,
      (held left).isComparable (held right) = true) :
    sortedBy key items = .ok (sortedOn held items) := by
  have keyed :
      (items.mapM fun item => do return (← key item, item)) =
        .ok (items.map fun item => (held item, item)) := by
    apply Attempt.mapM_ok
    intro item member
    rw [reads item member]
    rfl
  have sorted :
      sortedOn (·.1) (items.map fun item => (held item, item)) =
        (sortedOn held items).map fun item => (held item, item) :=
    sortedOn_map (·.1) (fun item => (held item, item)) items
  have ordered :
      areComparable (((sortedOn held items).map fun item => (held item, item)).map (·.1)) =
        true := by
    rw [List.map_map]
    apply areComparable_of_forall
    intro left leftMember right rightMember
    rcases List.mem_map.mp leftMember with ⟨leftItem, leftSorted, rfl⟩
    rcases List.mem_map.mp rightMember with ⟨rightItem, rightSorted, rfl⟩
    exact comparable leftItem (mem_sortedOn.mp leftSorted) rightItem (mem_sortedOn.mp rightSorted)
  unfold sortedBy
  rw [keyed, Attempt.ok_bind, sorted]
  simp only [ordered, Bool.not_true, Bool.false_eq_true, if_false, Attempt.pure_eq_ok]
  rw [List.map_map]
  exact congrArg Except.ok (List.map_id _)

/-- Items that hold an integer under a name are put in its order. -/
theorem sortedBy_part_int
    {name : String}
    {items : List Value}
    (reads : ∀ item ∈ items, item.part name = .ok (.int (item.number name))) :
    sortedBy (fun item => item.part name) items =
      .ok (sortedOn (fun item => .int (item.number name)) items) :=
  sortedBy_ok _ reads (by simp)

end SchemaDelta.Value
