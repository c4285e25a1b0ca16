import Mathlib.Data.List.Nodup
import SchemaDelta.Keyed

/-!
# Laws of keyed lists

Of several items with one key the first is kept; of several values put under one key the last counts.
Both depend on the keys only through which of them are equal.
-/

namespace SchemaDelta.Keyed

variable {κ ι α β : Type}

/-! ## The first item of every key -/

section FirstByKey

variable [BEq κ]

private theorem go_congr
    [BEq ι]
    {key : α → κ}
    {other : α → ι}
    (same : ∀ left right : α, (key left == key right) = (other left == other right))
    (known items : List α) :
    firstByKey.go key (known.map key) items = firstByKey.go other (known.map other) items := by
  induction items generalizing known with
  | nil => rfl
  | cons item items ih =>
      have sameContains :
          (known.map key).contains (key item) = (known.map other).contains (other item) := by
        simp [List.contains_eq_any_beq, List.any_map, Function.comp_def, same]
      have step := ih (item :: known)
      simp only [List.map_cons] at step
      simp only [firstByKey.go, sameContains, step, ih known]

/-- Which items come first depends only on which keys are equal. -/
theorem firstByKey_congr
    [BEq ι]
    (key : α → κ)
    (other : α → ι)
    (same : ∀ left right : α, (key left == key right) = (other left == other right))
    (items : List α) :
    firstByKey key items = firstByKey other items :=
  go_congr same [] items

private theorem go_map
    (key : β → κ)
    (convert : α → β)
    (known : List κ)
    (items : List α) :
    firstByKey.go key known (items.map convert) =
      (firstByKey.go (fun item => key (convert item)) known items).map convert := by
  induction items generalizing known with
  | nil => rfl
  | cons item items ih =>
      simp only [List.map_cons, firstByKey.go]
      split
      · exact ih known
      · rw [ih, List.map_cons]

/-- The first items of a converted list are the converted first items by the converted key. -/
theorem firstByKey_map
    (key : β → κ)
    (convert : α → β)
    (items : List α) :
    firstByKey key (items.map convert) =
      (firstByKey (fun item => key (convert item)) items).map convert :=
  go_map key convert [] items

private theorem go_sublist
    (key : α → κ)
    (known : List κ)
    (items : List α) :
    (firstByKey.go key known items).Sublist items := by
  induction items generalizing known with
  | nil => exact List.Sublist.slnil
  | cons item items ih =>
      simp only [firstByKey.go]
      split
      · exact (ih known).cons item
      · exact (ih (key item :: known)).cons_cons item

/-- The first items are items, in the same order. -/
theorem firstByKey_sublist
    (key : α → κ)
    (items : List α) :
    (firstByKey key items).Sublist items :=
  go_sublist key [] items

/-- The very first item is kept. -/
theorem firstByKey_cons
    (key : α → κ)
    (item : α)
    (items : List α) :
    firstByKey key (item :: items) = item :: firstByKey.go key [key item] items :=
  rfl

variable [LawfulBEq κ]

private theorem mem_go_iff
    (key : α → κ)
    (known : List κ)
    (items : List α)
    (item : α) :
    item ∈ firstByKey.go key known items ↔
      key item ∉ known ∧ items.find? (fun other => key other == key item) = some item := by
  induction items generalizing known with
  | nil => simp [firstByKey.go]
  | cons first items ih =>
      simp only [firstByKey.go, List.contains_iff_mem, List.find?_cons]
      by_cases met : key first ∈ known
      · rw [if_pos met, ih]
        by_cases same : key first = key item
        · have metItem : key item ∈ known := same ▸ met
          simp [metItem]
        · simp [beq_eq_false_iff_ne.mpr same]
      · rw [if_neg met, List.mem_cons, ih]
        by_cases same : key first = key item
        · have fresh : key item ∉ known := same ▸ met
          simp [same, fresh, eq_comm]
        · have differs : item ≠ first := by
            rintro rfl
            exact same rfl
          simp [beq_eq_false_iff_ne.mpr same, differs, Ne.symm same]

/-- An item is kept exactly when it is the first one with its key. -/
theorem mem_firstByKey_iff
    (key : α → κ)
    (items : List α)
    (item : α) :
    item ∈ firstByKey key items ↔
      items.find? (fun other => key other == key item) = some item := by
  have kept := mem_go_iff key [] items item
  simpa [firstByKey] using kept

/-- Every key that occurs is the key of an item that is kept. -/
theorem exists_mem_firstByKey
    (key : α → κ)
    {items : List α}
    {item : α}
    (member : item ∈ items) :
    ∃ first ∈ firstByKey key items, key first = key item := by
  have found : (items.find? fun other => key other == key item).isSome = true :=
    List.find?_isSome.mpr ⟨item, member, beq_self_eq_true _⟩
  rcases Option.isSome_iff_exists.mp found with ⟨first, isFirst⟩
  have sameKey : key first = key item := by
    have passes := List.find?_some isFirst
    simpa using passes
  refine ⟨first, (mem_firstByKey_iff key items first).mpr ?_, sameKey⟩
  rw [sameKey]
  exact isFirst

private theorem find?_go
    (key : α → κ)
    (known : List κ)
    (items : List α)
    {wanted : κ}
    (fresh : wanted ∉ known) :
    (firstByKey.go key known items).find? (fun item => key item == wanted) =
      items.find? fun item => key item == wanted := by
  induction items generalizing known with
  | nil => rfl
  | cons item items ih =>
      simp only [firstByKey.go, List.contains_iff_mem, List.find?_cons]
      by_cases met : key item ∈ known
      · have differs : (key item == wanted) = false :=
          beq_eq_false_iff_ne.mpr fun same => fresh (same ▸ met)
        rw [if_pos met, differs, ih known fresh]
      · rw [if_neg met, List.find?_cons]
        cases same : key item == wanted with
        | true => rfl
        | false =>
            exact ih (key item :: known)
              (List.not_mem_cons_of_ne_of_not_mem (beq_eq_false_iff_ne.mp same).symm fresh)

/-- Among the first items the same item is found under a key as among all. -/
theorem find?_firstByKey
    (key : α → κ)
    (items : List α)
    (wanted : κ) :
    (firstByKey key items).find? (fun item => key item == wanted) =
      items.find? fun item => key item == wanted :=
  find?_go key [] items List.not_mem_nil

private theorem go_keys
    (key : α → κ)
    (known : List κ)
    (items : List α) :
    ((firstByKey.go key known items).map key).Nodup ∧
      ∀ item ∈ firstByKey.go key known items, key item ∉ known := by
  induction items generalizing known with
  | nil => simp [firstByKey.go]
  | cons item items ih =>
      simp only [firstByKey.go, List.contains_iff_mem]
      by_cases met : key item ∈ known
      · rw [if_pos met]
        exact ih known
      · rw [if_neg met]
        rcases ih (key item :: known) with ⟨distinct, fresh⟩
        constructor
        · rw [List.map_cons, List.nodup_cons]
          refine ⟨?_, distinct⟩
          intro repeated
          rcases List.mem_map.mp repeated with ⟨other, member, sameKey⟩
          exact fresh other member (sameKey ▸ List.mem_cons_self)
        · intro other member
          rcases List.mem_cons.mp member with rfl | later
          · exact met
          · exact fun old => fresh other later (List.mem_cons_of_mem _ old)

/-- No two items that are kept have one key. -/
theorem nodup_keys_firstByKey
    (key : α → κ)
    (items : List α) :
    ((firstByKey key items).map key).Nodup :=
  (go_keys key [] items).1

private theorem go_pairwise
    {before : α → α → Prop}
    {key : α → κ}
    {items : List α}
    (known : List κ)
    (ordered : items.Pairwise before) :
    (firstByKey.go key known items).Pairwise fun first later =>
      ∀ item ∈ items, key item = key later → before first item := by
  induction items generalizing known with
  | nil => exact List.Pairwise.nil
  | cons item items ih =>
      rcases List.pairwise_cons.mp ordered with ⟨isFirst, restOrdered⟩
      -- An item of a known key has the key of none of the items that are kept after it.
      have extended : ∀ known : List κ, key item ∈ known →
          (firstByKey.go key known items).Pairwise fun first later =>
            ∀ other ∈ item :: items, key other = key later → before first other := by
        intro known isKnown
        refine (ih known restOrdered).imp_of_mem ?_
        intro first later _ laterKept holds other member sameKey
        rcases List.mem_cons.mp member with rfl | rest
        · exact absurd (sameKey ▸ isKnown) ((go_keys key known items).2 later laterKept)
        · exact holds other rest sameKey
      simp only [firstByKey.go, List.contains_iff_mem]
      by_cases met : key item ∈ known
      · rw [if_pos met]
        exact extended known met
      · rw [if_neg met, List.pairwise_cons]
        refine ⟨?_, extended (key item :: known) List.mem_cons_self⟩
        intro later laterKept other member sameKey
        rcases List.mem_cons.mp member with rfl | rest
        · exact absurd (sameKey ▸ List.mem_cons_self)
            ((go_keys key (key other :: known) items).2 later laterKept)
        · exact isFirst other rest

/-- An item that is kept stands before every item with the key of one that is kept after it. -/
theorem firstByKey_pairwise
    {before : α → α → Prop}
    {key : α → κ}
    {items : List α}
    (ordered : items.Pairwise before) :
    (firstByKey key items).Pairwise fun first later =>
      ∀ item ∈ items, key item = key later → before first item :=
  go_pairwise [] ordered

private theorem go_pairwise_idxOf
    (known items : List κ) :
    (firstByKey.go id known items).Pairwise fun first later =>
      items.idxOf first < items.idxOf later := by
  induction items generalizing known with
  | nil => exact List.Pairwise.nil
  | cons item items ih =>
      -- What is kept behind an item of a known key differs from the item.
      have extended : ∀ known : List κ, item ∈ known →
          (firstByKey.go id known items).Pairwise fun first later =>
            (item :: items).idxOf first < (item :: items).idxOf later := by
        intro known isKnown
        have differs : ∀ other ∈ firstByKey.go id known items, item ≠ other := by
          rintro other kept rfl
          exact (go_keys id known items).2 item kept isKnown
        refine (ih known).imp_of_mem ?_
        intro first later firstKept laterKept earlier
        rw [List.idxOf_cons_ne _ (differs first firstKept),
          List.idxOf_cons_ne _ (differs later laterKept)]
        exact Nat.succ_lt_succ earlier
      simp only [firstByKey.go, List.contains_iff_mem, id_eq]
      by_cases met : item ∈ known
      · rw [if_pos met]
        exact extended known met
      · rw [if_neg met, List.pairwise_cons]
        refine ⟨?_, extended (item :: known) List.mem_cons_self⟩
        intro later laterKept
        have differs : item ≠ later := by
          rintro rfl
          exact (go_keys id (item :: known) items).2 item laterKept List.mem_cons_self
        rw [List.idxOf_cons_self, List.idxOf_cons_ne _ differs]
        exact Nat.succ_pos _

/-- Keys are kept in the order in which they first come. -/
theorem firstByKey_pairwise_idxOf
    (items : List κ) :
    (firstByKey id items).Pairwise fun first later => items.idxOf first < items.idxOf later :=
  go_pairwise_idxOf [] items

private theorem go_of_known
    (key : α → κ)
    {known other : List κ}
    (items : List α)
    (same : ∀ item ∈ items, key item ∈ known ↔ key item ∈ other) :
    firstByKey.go key known items = firstByKey.go key other items := by
  induction items generalizing known other with
  | nil => rfl
  | cons item items ih =>
      rw [List.forall_mem_cons] at same
      simp only [firstByKey.go, List.contains_iff_mem]
      by_cases met : key item ∈ known
      · rw [if_pos met, if_pos (same.1.mp met), ih same.2]
      · rw [if_neg met, if_neg fun there => met (same.1.mpr there), ih fun later member => ?_]
        simp only [List.mem_cons, same.2 later member]

private theorem go_append
    (key : α → κ)
    (known : List κ)
    {items others : List α}
    (apart : ∀ item ∈ items, ∀ other ∈ others, key item ≠ key other) :
    firstByKey.go key known (items ++ others) =
      firstByKey.go key known items ++ firstByKey.go key known others := by
  induction items generalizing known with
  | nil => rfl
  | cons item items ih =>
      rw [List.forall_mem_cons] at apart
      simp only [List.cons_append, firstByKey.go, List.contains_iff_mem]
      by_cases met : key item ∈ known
      · rw [if_pos met, if_pos met, ih known apart.2]
      · rw [if_neg met, if_neg met, ih (key item :: known) apart.2, List.cons_append]
        have sameRest : firstByKey.go key (key item :: known) others =
            firstByKey.go key known others := by
          refine go_of_known key others fun other member => ?_
          simp only [List.mem_cons, (apart.1 other member).symm, false_or]
        rw [sameRest]

/-- Of groups with keys of their own the first items are those of each group. -/
theorem firstByKey_flatten
    (key : α → κ)
    {groups : List (List α)}
    (apart : groups.Pairwise fun left right =>
      ∀ item ∈ left, ∀ other ∈ right, key item ≠ key other) :
    firstByKey key groups.flatten = (groups.map (firstByKey key)).flatten := by
  induction groups with
  | nil => rfl
  | cons group groups ih =>
      rw [List.pairwise_cons] at apart
      rw [List.flatten_cons, List.map_cons, List.flatten_cons, ← ih apart.2]
      refine go_append key [] fun item member other otherMember => ?_
      rcases List.mem_flatten.mp otherMember with ⟨right, rightMember, within⟩
      exact apart.1 right rightMember item member other within

/-- Items put together by distinct keys, among which are the keys of all of them, are the items. -/
private theorem flatten_filter_perm
    (key : α → κ)
    {keys : List κ}
    {items : List α}
    (distinct : keys.Nodup)
    (listed : ∀ item ∈ items, key item ∈ keys) :
    (keys.map fun wanted => items.filter fun item => key item == wanted).flatten.Perm items := by
  induction keys generalizing items with
  | nil =>
      have none : items = [] :=
        List.eq_nil_iff_forall_not_mem.mpr fun item member => List.not_mem_nil (listed item member)
      rw [none]
      exact List.Perm.nil
  | cons wanted keys ih =>
      rw [List.nodup_cons] at distinct
      have listedLater : ∀ item ∈ items.filter fun item => !(key item == wanted),
          key item ∈ keys := by
        intro item member
        rcases List.mem_filter.mp member with ⟨held, differs⟩
        rw [Bool.not_eq_true', beq_eq_false_iff_ne] at differs
        exact (List.mem_cons.mp (listed item held)).resolve_left differs
      have others := ih distinct.2 listedLater
      have sameOthers : (keys.map fun other =>
          (items.filter fun item => !(key item == wanted)).filter fun item => key item == other) =
            keys.map fun other => items.filter fun item => key item == other := by
        refine List.map_congr_left fun other member => ?_
        rw [List.filter_filter]
        refine List.filter_congr fun item _ => ?_
        rw [Bool.and_eq_left_iff_imp, beq_iff_eq, Bool.not_eq_true', beq_eq_false_iff_ne]
        rintro rfl same
        exact distinct.1 (same ▸ member)
      rw [sameOthers] at others
      rw [List.map_cons, List.flatten_cons]
      exact (others.append_left _).trans (List.filter_append_perm _ _)

/-- Items put together by their keys, one key after the other, are all of the items. -/
theorem flatten_filter_firstByKey_perm
    (key : α → κ)
    (items : List α) :
    ((firstByKey id (items.map key)).map fun wanted =>
      items.filter fun item => key item == wanted).flatten.Perm items := by
  refine flatten_filter_perm key ?_ fun item member => ?_
  · have distinct := nodup_keys_firstByKey id (items.map key)
    rwa [List.map_id] at distinct
  · rcases exists_mem_firstByKey id (List.mem_map_of_mem (f := key) member) with
      ⟨first, kept, same⟩
    have same : first = key item := same
    exact same ▸ kept

end FirstByKey

/-! ## Repeated keys -/

section RepeatedByKey

variable [BEq κ]

/-- The items in front of which an item with the same key stands. -/
def repeatedByKey
    (key : α → κ) : List α → List α :=
  fun items => go [] items
where
  /-- The items whose key is known or has been met before. -/
  go (known : List κ) : List α → List α
    | [] => []
    | item :: items =>
      if known.contains (key item) then item :: go known items
      else go (key item :: known) items

private theorem go_append_repeated_perm
    (key : α → κ)
    (known : List κ)
    (items : List α) :
    (firstByKey.go key known items ++ repeatedByKey.go key known items).Perm items := by
  induction items generalizing known with
  | nil => exact List.Perm.nil
  | cons item items ih =>
      simp only [firstByKey.go, repeatedByKey.go]
      split
      · exact List.perm_middle.trans ((ih known).cons item)
      · exact (ih (key item :: known)).cons item

/-- Every item is the first one of its key or repeats it. -/
theorem firstByKey_append_repeatedByKey_perm
    (key : α → κ)
    (items : List α) :
    (firstByKey key items ++ repeatedByKey key items).Perm items :=
  go_append_repeated_perm key [] items

/-- All items are kept exactly when no two have one key. -/
theorem firstByKey_perm_iff
    [LawfulBEq κ]
    (key : α → κ)
    (items : List α) :
    (firstByKey key items).Perm items ↔ (items.map key).Nodup := by
  constructor
  · intro kept
    exact (kept.map key).nodup_iff.mp (nodup_keys_firstByKey key items)
  · intro distinct
    have ofItems := firstByKey_sublist key items
    refine (List.perm_ext_iff_of_nodup (ofItems.nodup distinct.of_map) distinct.of_map).mpr ?_
    intro item
    constructor
    · exact fun kept => ofItems.subset kept
    · intro member
      rcases exists_mem_firstByKey key member with ⟨first, kept, sameKey⟩
      rwa [← List.inj_on_of_nodup_map distinct (ofItems.subset kept) member sameKey]

end RepeatedByKey

/-! ## The last value of every key -/

section OfList

variable [BEq κ]

private theorem put_map
    [BEq ι]
    {convert : ι → κ}
    (same : ∀ left right : ι, (convert left == convert right) = (left == right))
    (key : ι)
    (value : α)
    (entries : List (ι × α)) :
    put (convert key) value (entries.map fun entry => (convert entry.1, entry.2)) =
      (put key value entries).map fun entry => (convert entry.1, entry.2) := by
  induction entries with
  | nil => rfl
  | cons entry entries ih =>
      simp only [List.map_cons, put, same]
      split
      · rfl
      · rw [ih, List.map_cons]

/-- Entries under converted keys are the converted entries. -/
theorem ofList_map
    [BEq ι]
    (convert : ι → κ)
    (same : ∀ left right : ι, (convert left == convert right) = (left == right))
    (entries : List (ι × α)) :
    ofList (entries.map fun entry => (convert entry.1, entry.2)) =
      (ofList entries).map fun entry => (convert entry.1, entry.2) := by
  have folded : ∀ kept : List (ι × α),
      (entries.map fun entry => (convert entry.1, entry.2)).foldl
          (fun kept entry => put entry.1 entry.2 kept)
          (kept.map fun entry => (convert entry.1, entry.2)) =
        (entries.foldl (fun kept entry => put entry.1 entry.2 kept) kept).map
          fun entry => (convert entry.1, entry.2) := by
    induction entries with
    | nil => intro kept; rfl
    | cons entry entries ih =>
        intro kept
        rw [List.map_cons, List.foldl_cons, List.foldl_cons, put_map same, ih]
  exact folded []

private theorem mem_keys_put
    {key wanted : κ}
    {value : α}
    {entries : List (κ × α)}
    (member : wanted ∈ (put key value entries).map (·.1)) :
    wanted = key ∨ wanted ∈ entries.map (·.1) := by
  induction entries with
  | nil => exact Or.inl (by simpa [put] using member)
  | cons entry entries ih =>
      rw [put] at member
      split at member
      · exact Or.inr member
      · rw [List.map_cons, List.mem_cons] at member ⊢
        rcases member with first | later
        · exact Or.inr (Or.inl first)
        · exact (ih later).imp_right Or.inr

/-- Putting a value keeps the keys in their places. -/
theorem keys_prefix_put
    (key : κ)
    (value : α)
    (entries : List (κ × α)) :
    entries.map (·.1) <+: (put key value entries).map (·.1) := by
  induction entries with
  | nil => exact List.nil_prefix
  | cons entry entries ih =>
      rw [put]
      split
      · exact List.prefix_rfl
      · rw [List.map_cons, List.map_cons, List.cons_prefix_cons]
        exact ⟨rfl, ih⟩

/-- An entry of a list into which a value was put holds the value or was there before. -/
theorem mem_put
    {key : κ}
    {value : α}
    {entries : List (κ × α)}
    {entry : κ × α}
    (member : entry ∈ put key value entries) :
    entry.2 = value ∨ entry ∈ entries := by
  induction entries with
  | nil => exact Or.inl (congrArg Prod.snd (List.mem_singleton.mp member))
  | cons first entries ih =>
      rw [put] at member
      split at member
      · rcases List.mem_cons.mp member with rfl | later
        · exact Or.inl rfl
        · exact Or.inr (List.mem_cons_of_mem first later)
      · rcases List.mem_cons.mp member with rfl | later
        · exact Or.inr List.mem_cons_self
        · exact (ih later).imp_right (List.mem_cons_of_mem first)

variable [LawfulBEq κ]

/-- A value is put behind entries with other keys. -/
private theorem put_append_of_not_mem
    {key : κ}
    {before : List (κ × α)}
    (fresh : key ∉ before.map (·.1))
    (value : α)
    (entries : List (κ × α)) :
    put key value (before ++ entries) = before ++ put key value entries := by
  induction before with
  | nil => rfl
  | cons entry before ih =>
      rw [List.map_cons, List.mem_cons, not_or] at fresh
      have differs : (entry.1 == key) = false := beq_eq_false_iff_ne.mpr (Ne.symm fresh.1)
      simp [put, differs, ih fresh.2]

/-- A value under a new key comes last. -/
theorem put_of_not_mem
    {key : κ}
    {entries : List (κ × α)}
    (fresh : key ∉ entries.map (·.1))
    (value : α) :
    put key value entries = entries ++ [(key, value)] := by
  have last := put_append_of_not_mem fresh value []
  rwa [List.append_nil] at last

/-- Entries under distinct keys take the place of entries whose keys theirs begin with. -/
theorem foldl_put_of_begins
    {entries others : List (κ × α)}
    (distinct : (others.map (·.1)).Nodup)
    (begins : entries.map (·.1) <+: others.map (·.1)) :
    others.foldl (fun kept entry => put entry.1 entry.2 kept) entries = others := by
  -- The entries that are in place already stand in front of those that are yet to be replaced.
  have folded : ∀ before : List (κ × α), ((before ++ others).map (·.1)).Nodup →
      others.foldl (fun kept entry => put entry.1 entry.2 kept) (before ++ entries) =
        before ++ others := by
    clear distinct
    induction others generalizing entries with
    | nil =>
        intro before _
        rw [List.map_nil, List.prefix_nil, List.map_eq_nil_iff] at begins
        rw [begins, List.foldl_nil]
    | cons other others ih =>
        intro before distinct
        have fresh : other.1 ∉ before.map (·.1) := by
          rw [List.map_append, List.map_cons] at distinct
          exact fun old => (List.nodup_append.mp distinct).2.2 _ old _ List.mem_cons_self rfl
        have replaced : put other.1 other.2 entries = other :: entries.tail ∧
            entries.tail.map (·.1) <+: others.map (·.1) := by
          cases entries with
          | nil => exact ⟨rfl, List.nil_prefix⟩
          | cons entry entries =>
              rw [List.map_cons, List.map_cons, List.cons_prefix_cons] at begins
              refine ⟨?_, begins.2⟩
              rw [put, if_pos (beq_iff_eq.mpr begins.1), begins.1, List.tail_cons]
        rw [List.foldl_cons, put_append_of_not_mem fresh, replaced.1, List.append_cons,
          ih replaced.2 _ (by rwa [← List.append_cons]), ← List.append_cons]
  exact folded [] distinct

/-- Entries under distinct keys stay as they are. -/
theorem ofList_of_nodup
    {entries : List (κ × α)}
    (distinct : (entries.map (·.1)).Nodup) :
    ofList entries = entries :=
  foldl_put_of_begins distinct List.nil_prefix

/-- Under its key a value that was put is found, and under other keys what was there before. -/
theorem lookup_put
    (key wanted : κ)
    (value : α)
    (entries : List (κ × α)) :
    (put key value entries).lookup wanted =
      if wanted == key then some value else entries.lookup wanted := by
  induction entries with
  | nil => cases same : wanted == key <;> simp [put, List.lookup_cons, same]
  | cons entry entries ih =>
      rcases entry with ⟨first, held⟩
      by_cases atFirst : first = key
      · subst atFirst
        cases same : wanted == first <;> simp [put, List.lookup_cons, same]
      · have differs : (first == key) = false := beq_eq_false_iff_ne.mpr atFirst
        simp only [put, differs, Bool.false_eq_true, if_false, List.lookup_cons, ih]
        cases same : wanted == first with
        | false => rfl
        | true =>
            obtain rfl := beq_iff_eq.mp same
            simp [differs]

/-- A value that stands under a key already can be put there. -/
theorem put_of_lookup
    {key : κ}
    {value : α}
    {entries : List (κ × α)}
    (found : entries.lookup key = some value) :
    put key value entries = entries := by
  induction entries with
  | nil => cases found
  | cons entry entries ih =>
      rcases entry with ⟨first, held⟩
      rw [List.lookup_cons] at found
      by_cases atFirst : first = key
      · subst atFirst
        rw [beq_self_eq_true] at found
        cases found
        simp [put]
      · rw [beq_eq_false_iff_ne.mpr (Ne.symm atFirst)] at found
        simp [put, atFirst, ih found]

/-- Of two values that are put under one key the last counts. -/
theorem put_put
    (key : κ)
    (value other : α)
    (entries : List (κ × α)) :
    put key other (put key value entries) = put key other entries := by
  induction entries with
  | nil => simp [put]
  | cons entry entries ih =>
      by_cases atFirst : entry.1 = key
      · simp [put, atFirst]
      · simp [put, atFirst, ih]

/-- Among entries that are put one after the other the last value of a key counts. -/
theorem lookup_foldl_put
    (entries kept : List (κ × α))
    (wanted : κ) :
    (entries.foldl (fun kept entry => put entry.1 entry.2 kept) kept).lookup wanted =
      (entries.reverse.lookup wanted).or (kept.lookup wanted) := by
  induction entries generalizing kept with
  | nil => simp
  | cons entry entries ih =>
      rcases entry with ⟨first, held⟩
      rw [List.foldl_cons, ih, List.reverse_cons, List.lookup_append, lookup_put]
      cases same : wanted == first <;>
        cases entries.reverse.lookup wanted <;> simp [List.lookup_cons, same]

/-- Under a key stands the last value that was put there. -/
theorem lookup_ofList
    (entries : List (κ × α))
    (wanted : κ) :
    (ofList entries).lookup wanted = entries.reverse.lookup wanted := by
  rw [ofList, lookup_foldl_put, List.lookup_nil, Option.or_none]

/-- Putting a value keeps the keys distinct. -/
theorem nodup_keys_put
    (key : κ)
    (value : α)
    {entries : List (κ × α)}
    (distinct : (entries.map (·.1)).Nodup) :
    ((put key value entries).map (·.1)).Nodup := by
  induction entries with
  | nil => exact List.nodup_singleton key
  | cons entry entries ih =>
      rw [put]
      split
      · exact distinct
      · rename_i differs
        rw [List.map_cons, List.nodup_cons] at distinct ⊢
        refine ⟨?_, ih distinct.2⟩
        intro repeated
        rcases mem_keys_put repeated with same | later
        · exact differs (beq_iff_eq.mpr same)
        · exact distinct.1 later

/-- Putting entries one after the other keeps the keys distinct. -/
theorem nodup_keys_foldl_put
    (entries : List (κ × α))
    {kept : List (κ × α)}
    (distinct : (kept.map (·.1)).Nodup) :
    ((entries.foldl (fun kept entry => put entry.1 entry.2 kept) kept).map (·.1)).Nodup := by
  induction entries generalizing kept with
  | nil => exact distinct
  | cons entry entries ih => exact ih (nodup_keys_put entry.1 entry.2 distinct)

/-- The keys of entries that were put one after the other are distinct. -/
theorem nodup_keys_ofList
    (entries : List (κ × α)) :
    ((ofList entries).map (·.1)).Nodup :=
  nodup_keys_foldl_put entries List.nodup_nil

/-- Under distinct keys a value stands under its key exactly when it is an entry with it. -/
theorem lookup_eq_some_iff_mem
    {entries : List (κ × α)}
    (distinct : (entries.map (·.1)).Nodup)
    {key : κ}
    {value : α} :
    entries.lookup key = some value ↔ (key, value) ∈ entries := by
  induction entries with
  | nil => simp
  | cons entry entries ih =>
      rcases entry with ⟨first, held⟩
      rw [List.map_cons, List.nodup_cons] at distinct
      rw [List.lookup_cons, List.mem_cons, Prod.mk.injEq]
      cases same : key == first with
      | true =>
          obtain rfl := beq_iff_eq.mp same
          have fresh : (key, value) ∉ entries := fun later =>
            distinct.1 (List.mem_map.mpr ⟨(key, value), later, rfl⟩)
          simp [fresh, eq_comm]
      | false =>
          have differs : key ≠ first := beq_eq_false_iff_ne.mp same
          simp [differs, ih distinct.2]

/-- Nothing is found under a key that no entry has. -/
theorem lookup_eq_none_iff_not_mem
    {entries : List (κ × α)}
    {key : κ} :
    entries.lookup key = none ↔ key ∉ entries.map (·.1) := by
  simp only [List.lookup_eq_none_iff, List.mem_map, not_exists, not_and, bne_iff_ne, ne_eq]
  exact forall₂_congr fun entry _ => not_congr eq_comm

/-- Entries under distinct keys are given by their keys and what stands under them. -/
theorem eq_of_lookup
    {entries others : List (κ × α)}
    (distinct : (entries.map (·.1)).Nodup)
    (sameKeys : entries.map (·.1) = others.map (·.1))
    (agree : ∀ key, entries.lookup key = others.lookup key) :
    entries = others := by
  have byKeys : ∀ {entries : List (κ × α)}, (entries.map (·.1)).Nodup →
      entries.map some =
        (entries.map (·.1)).map fun key => (entries.lookup key).map (Prod.mk key) := by
    intro entries distinct
    rw [List.map_map]
    refine List.map_congr_left fun entry member => ?_
    simp [(lookup_eq_some_iff_mem distinct).mpr member]
  apply List.map_injective_iff.mpr fun _ _ => Option.some.inj
  rw [byKeys distinct, byKeys (sameKeys ▸ distinct), sameKeys]
  exact List.map_congr_left fun key _ => by rw [agree]

/-- Every entry that is kept was put there. -/
theorem mem_of_mem_ofList
    {entries : List (κ × α)}
    {entry : κ × α}
    (member : entry ∈ ofList entries) :
    entry ∈ entries := by
  have found := (lookup_eq_some_iff_mem (nodup_keys_ofList entries)).mpr member
  rw [lookup_ofList] at found
  rcases List.lookup_eq_some_iff.mp found with ⟨before, after, split, _⟩
  rw [← List.mem_reverse, split]
  exact List.mem_append_right before List.mem_cons_self

/-- Under the key of every entry something is kept. -/
theorem exists_mem_ofList
    {entries : List (κ × α)}
    {entry : κ × α}
    (member : entry ∈ entries) :
    ∃ value, (entry.1, value) ∈ ofList entries := by
  have known : entries.reverse.lookup entry.1 ≠ none := by
    intro missing
    have other := List.lookup_eq_none_iff.mp missing entry (List.mem_reverse.mpr member)
    simp at other
  rcases Option.ne_none_iff_exists'.mp known with ⟨value, found⟩
  rw [← lookup_ofList] at found
  exact ⟨value, (lookup_eq_some_iff_mem (nodup_keys_ofList entries)).mp found⟩

end OfList

end SchemaDelta.Keyed
