import Mathlib.Data.List.Perm.Subperm
import SchemaDelta.Ddl.Inheritance
import SchemaDelta.Proofs.Ddl.Grouping
import SchemaDelta.Proofs.Ddl.Table

/-!
# Tables in the order of a dialect

Whatever inherits from what, no table is created or dropped more often than it is listed.
-/

namespace SchemaDelta

namespace Value

/-- The schema and the name of a table. -/
def fullName
    (table : Value) : String × String :=
  (table.letters "schema", table.letters "name")

@[simp]
theorem listing_beq
    (left right : Value) :
    (listing left == listing right) = (left.fullName == right.fullName) := by
  rw [Bool.eq_iff_iff]
  simp [listing, fullName]

theorem listingKey_ok
    {table : Value}
    (typed : table.isTyped .table = true) :
    table.listingKey = .ok (listing table) := by
  rw [listingKey, part_text_of_isTyped typed ObjectClass.table_declares_schema, Attempt.ok_bind,
    part_text_of_isTyped typed ObjectClass.table_declares_name]
  rfl

end Value

namespace Inheritance

open Attempt (bind_eq_ok_iff)
open Value (listing)

variable {tables placed : List KeyedTable} {pool : List Value}

/-- Every table stands under its schema and name. -/
def AreListed
    (tables : List KeyedTable) : Prop :=
  ∀ entry ∈ tables, entry.key = listing entry.table

/-- The schemas and names of tables with keys. -/
def namesOf
    (tables : List KeyedTable) : List (String × String) :=
  tables.map fun entry => entry.table.fullName

theorem AreListed.key_beq
    (areListed : AreListed tables)
    {left right : KeyedTable}
    (leftMember : left ∈ tables)
    (rightMember : right ∈ tables) :
    (left.key == right.key) = (left.table.fullName == right.table.fullName) := by
  rw [areListed left leftMember, areListed right rightMember, Value.listing_beq]

private theorem chain_append
    (areListed : AreListed tables)
    {keys : List Value}
    {table : KeyedTable}
    {ancestors : List KeyedTable}
    (fresh : (keys.any fun key => table.key == key) = false)
    (met : (pool.any fun key => table.key == key) = true)
    (member : table ∈ tables)
    (ancestorsListed : ancestors ⊆ tables)
    (distinct : (namesOf ancestors).Nodup)
    (placed : ∀ entry ∈ ancestors, (keys.any fun key => entry.key == key) = false ∧
      ((without table.key pool).any fun key => entry.key == key) = true) :
    ancestors ++ [table] ⊆ tables ∧ (namesOf (ancestors ++ [table])).Nodup ∧
      ∀ entry ∈ ancestors ++ [table], (keys.any fun key => entry.key == key) = false ∧
        (pool.any fun key => entry.key == key) = true := by
  refine ⟨List.append_subset.mpr
    ⟨ancestorsListed, List.cons_subset.mpr ⟨member, List.nil_subset _⟩⟩, ?_, ?_⟩
  · rw [namesOf, List.map_append, List.nodup_append]
    refine ⟨distinct, List.nodup_singleton _, ?_⟩
    rintro _ old _ new rfl
    rcases List.mem_map.mp old with ⟨entry, entryMember, rfl⟩
    rw [List.map_singleton, List.mem_singleton] at new
    rcases List.any_eq_true.mp (placed entry entryMember).2 with ⟨key, keyMember, sameKey⟩
    have differs := (List.mem_filter.mp keyMember).2
    have equalKeys : entry.key = table.key := by
      rw [areListed entry (ancestorsListed entryMember), areListed table member]
      exact congrArg (fun name : String × String => Value.list [.text name.1, .text name.2]) new
    rw [equalKeys] at sameKey
    simp [sameKey] at differs
  · intro entry entryMember
    rcases List.mem_append.mp entryMember with ancestor | last
    · rcases placed entry ancestor with ⟨unplaced, inPool⟩
      rcases List.any_eq_true.mp inPool with ⟨key, keyMember, sameKey⟩
      exact ⟨unplaced, List.any_eq_true.mpr ⟨key, (List.mem_filter.mp keyMember).1, sameKey⟩⟩
    · cases List.mem_singleton.mp last
      exact ⟨fresh, met⟩

/--
A table and those of its ancestors that it is placed after are listed, have names of their own, and
stand under keys that are in the pool and were not placed before.
-/
theorem chain_ok
    (areListed : AreListed tables)
    {keys : List Value}
    {table : KeyedTable}
    {added : List KeyedTable}
    (member : table ∈ tables)
    (chained : chain tables keys pool table = .ok added) :
    added ⊆ tables ∧ (namesOf added).Nodup ∧
      ∀ entry ∈ added, (keys.any fun key => entry.key == key) = false ∧
        (pool.any fun key => entry.key == key) = true := by
  induction size : pool.length using Nat.strongRecOn generalizing pool table added with
  | ind count ih =>
      rw [chain] at chained
      split at chained
      · cases chained
        exact ⟨List.nil_subset _, List.nodup_nil, fun _ => List.not_mem_nil.elim⟩
      · rename_i fresh
        split at chained
        · rename_i met
          rcases bind_eq_ok_iff.mp chained with ⟨parentKey, _, parentRun⟩
          split at parentRun
          · cases parentRun
            exact chain_append areListed (by simpa using fresh) met member (List.nil_subset _)
              List.nodup_nil (fun _ => List.not_mem_nil.elim)
          · rcases bind_eq_ok_iff.mp parentRun with ⟨wanted, _, found⟩
            split at found
            · rcases bind_eq_ok_iff.mp found with ⟨_, _, schemaRun⟩
              rcases bind_eq_ok_iff.mp schemaRun with ⟨_, _, nameRun⟩
              rcases bind_eq_ok_iff.mp nameRun with ⟨_, _, tableRun⟩
              rcases bind_eq_ok_iff.mp tableRun with ⟨_, _, failed⟩
              cases failed
            · rename_i parent parentFound
              rcases bind_eq_ok_iff.mp found with ⟨ancestors, ancestorsOk, equal⟩
              cases equal
              have parentMember : parent ∈ tables :=
                List.mem_reverse.mp (List.mem_of_find?_eq_some parentFound)
              rcases ih _ (size ▸ length_without_lt met)
                  parentMember ancestorsOk rfl with
                ⟨listed, distinct, placed⟩
              exact chain_append areListed (by simpa using fresh) met member listed distinct
                placed
        · rcases bind_eq_ok_iff.mp chained with ⟨_, _, nameRun⟩
          rcases bind_eq_ok_iff.mp nameRun with ⟨_, _, failed⟩
          cases failed

/-- No table is placed twice. -/
theorem place_ok
    (areListed : AreListed tables)
    {rest known placed : List KeyedTable}
    (restListed : rest ⊆ tables)
    (knownListed : known ⊆ tables)
    (knownDistinct : (namesOf known).Nodup)
    (placedOk : place tables known rest = .ok placed) :
    placed ⊆ tables ∧ (namesOf placed).Nodup := by
  induction rest generalizing known with
  | nil =>
      cases placedOk
      exact ⟨knownListed, knownDistinct⟩
  | cons table rest ih =>
      rw [place] at placedOk
      rcases bind_eq_ok_iff.mp placedOk with ⟨added, addedOk, continued⟩
      rcases List.cons_subset.mp restListed with ⟨tableListed, othersListed⟩
      rcases chain_ok areListed tableListed addedOk with ⟨addedListed, addedDistinct, fresh⟩
      refine ih othersListed (List.append_subset.mpr ⟨knownListed, addedListed⟩) ?_ continued
      rw [namesOf, List.map_append, List.nodup_append]
      refine ⟨knownDistinct, addedDistinct, ?_⟩
      rintro _ old _ new rfl
      rcases List.mem_map.mp old with ⟨entry, entryMember, rfl⟩
      rcases List.mem_map.mp new with ⟨other, otherMember, sameName⟩
      have differs := List.any_eq_false.mp (fresh other otherMember).1 entry.key
        (List.mem_map_of_mem entryMember)
      rw [areListed.key_beq (addedListed otherMember) (knownListed entryMember), sameName,
        beq_self_eq_true] at differs
      exact differs rfl

/-! ## Orders -/

/-- Typed tables are listed under their schemas and names. -/
theorem listed_ok
    {tables : List Value}
    (typed : ∀ table ∈ tables, table.isTyped .table = true) :
    listed (.list tables) =
      .ok ((Value.sortedOn listing tables).map fun table => ⟨listing table, table⟩) := by
  have sorted := Value.sortedByName_ok fun table member => Value.listingKey_ok (typed table member)
  rw [listed, Value.items, Attempt.ok_bind, sorted, Attempt.ok_bind]
  apply Attempt.mapM_ok
  intro table member
  rw [Value.listingKey_ok (typed table (Value.mem_sortedOn.mp member))]
  rfl

/-- Tables are created in an order in which none occurs more often than it is listed. -/
private theorem createOrder_subperm
    {tables : List KeyedTable}
    (areListed : AreListed tables)
    {created : List Value}
    (createdOk : createOrder tables = .ok created) :
    created.Subperm (tables.map (·.table)) := by
  rcases bind_eq_ok_iff.mp createdOk with ⟨placed, placedOk, equal⟩
  cases equal
  rcases place_ok areListed (List.Subset.refl _) (List.nil_subset _) List.nodup_nil placedOk with
    ⟨placedListed, distinct⟩
  rcases List.subperm_of_subset (List.Nodup.of_map _ distinct) placedListed with
    ⟨kept, perm, sublist⟩
  exact ⟨kept.map (·.table), perm.map _, sublist.map _⟩

private theorem order_subperm
    {tables sorted : List Value}
    {dropping : Bool}
    (typed : ∀ table ∈ tables, table.isTyped .table = true)
    (sortedOk : order dropping (.list tables) = .ok sorted) :
    sorted.Subperm tables := by
  have areListed : AreListed
      ((Value.sortedOn listing tables).map fun table => ⟨listing table, table⟩) := by
    intro entry member
    rcases List.mem_map.mp member with ⟨table, _, rfl⟩
    rfl
  have listedTables :
      (((Value.sortedOn listing tables).map fun table =>
        (⟨listing table, table⟩ : KeyedTable)).map (·.table)).Perm tables := by
    rw [List.map_map]
    exact (List.Perm.of_eq (List.map_id _)).trans (Value.sortedOn_perm listing tables)
  rw [order, listed_ok typed, Attempt.ok_bind] at sortedOk
  rcases bind_eq_ok_iff.mp sortedOk with ⟨inherits, _, continued⟩
  cases inherits with
  | true =>
      cases dropping with
      | true =>
          rcases bind_eq_ok_iff.mp continued with ⟨created, createdOk, equal⟩
          cases equal
          exact (List.reverse_perm created).subperm.trans
            ((createOrder_subperm areListed createdOk).trans listedTables.subperm)
      | false =>
          exact (createOrder_subperm areListed continued).trans listedTables.subperm
  | false =>
      cases dropping with
      | true =>
          cases continued
          exact ((List.reverse_perm _).trans listedTables).subperm
      | false =>
          cases continued
          exact listedTables.subperm

end Inheritance

/-- A dialect lists every table at most once in its order. -/
theorem Dialect.sortTables_subperm
    {dialect : Dialect}
    {dropping : Bool}
    {tables sorted : List Value}
    (typed : ∀ table ∈ tables, table.isTyped .table = true)
    (sortedOk : dialect.sortTables dropping (.list tables) = .ok sorted) :
    sorted.Subperm tables := by
  rw [sortTables] at sortedOk
  split at sortedOk
  · exact Inheritance.order_subperm typed sortedOk
  · rw [Value.items, Attempt.ok_bind, Value.sortedByName_ok fun table member =>
      Value.listingKey_ok (typed table member), Attempt.ok_bind] at sortedOk
    cases sortedOk
    split
    · exact ((List.reverse_perm _).trans (Value.sortedOn_perm _ tables)).subperm
    · exact (Value.sortedOn_perm _ tables).subperm

end SchemaDelta
