import Mathlib.Algebra.BigOperators.Group.List.Basic
import Mathlib.Data.List.Dedup
import SchemaDelta.Proofs.Migration.ForeignKeyStatement
import SchemaDelta.Proofs.Value.Filled

/-!
# Foreign keys that share a name

Rows of many tables are added table by table, but they are dropped by the names of their foreign
keys alone.  So each foreign key among rows gets a statement that adds it, while it gets one that
drops it only as long as no foreign key of another table has its name.
-/

namespace SchemaDelta

/-! ## Foreign keys of rows -/

namespace Value

/-- The foreign keys that rows belong to, each once. -/
def foreignKeysOf
    (rows : List Value) : List ForeignKeyName :=
  (rows.map foreignKeyName).dedup

/-- Rows with the same name of their foreign keys belong to the same table. -/
def NamesTellTables
    (rows : List Value) : Prop :=
  ∀ row ∈ rows, ∀ other ∈ rows,
    row.letters "name" = other.letters "name" → row.ownerName = other.ownerName

variable {rows : List Value} {key : ForeignKeyName}

theorem mem_foreignKeysOf :
    key ∈ foreignKeysOf rows ↔ ∃ row ∈ rows, row.foreignKeyName = key := by
  rw [foreignKeysOf, List.mem_dedup, List.mem_map]

theorem nodup_foreignKeysOf
    (rows : List Value) :
    (foreignKeysOf rows).Nodup :=
  List.nodup_dedup _

/-- Each foreign key of rows is added once with them. -/
theorem namesAdded_perm
    (rows : List Value) :
    (namesAdded rows).Perm (foreignKeysOf rows) :=
  (List.perm_ext_iff_of_nodup (nodup_namesAdded rows) (nodup_foreignKeysOf rows)).mpr
    fun _ => mem_namesAdded_iff.trans mem_foreignKeysOf.symm

/-- Only foreign keys of rows are dropped with them, each at most once. -/
theorem namesDropped_subperm
    (rows : List Value) :
    (namesDropped rows).Subperm (foreignKeysOf rows) :=
  List.subperm_of_subset (nodup_namesDropped rows) fun _ dropped =>
    mem_foreignKeysOf.mpr (mem_namesDropped dropped)

/-- Foreign keys that are dropped with the same rows differ by name. -/
theorem eq_of_mem_namesDropped
    {other : ForeignKeyName}
    (dropped : key ∈ namesDropped rows)
    (otherDropped : other ∈ namesDropped rows)
    (sameName : key.2.2 = other.2.2) :
    key = other := by
  have distinct : ((namesDropped rows).map fun name => name.2.2).Nodup := by
    rw [namesDropped, List.map_map]
    exact map_groupName_rowGroups rows ▸ nodup_groupNames rows
  exact List.inj_on_of_nodup_map distinct dropped otherDropped sameName

/-- Each foreign key of rows is dropped with them exactly when the names tell the tables. -/
theorem namesDropped_perm_iff :
    (namesDropped rows).Perm (foreignKeysOf rows) ↔ NamesTellTables rows := by
  constructor
  · intro same row member other otherMember sameName
    have dropped : ∀ row ∈ rows, row.foreignKeyName ∈ namesDropped rows := fun row member =>
      same.mem_iff.mpr (mem_foreignKeysOf.mpr ⟨row, member, rfl⟩)
    have equal : row.foreignKeyName = other.foreignKeyName :=
      eq_of_mem_namesDropped (dropped row member) (dropped other otherMember) sameName
    exact congrArg (fun key : ForeignKeyName => (key.1, key.2.1)) equal
  · intro tells
    refine (List.perm_ext_iff_of_nodup (nodup_namesDropped rows) (nodup_foreignKeysOf rows)).mpr
      fun key => ⟨fun dropped => mem_foreignKeysOf.mpr (mem_namesDropped dropped), ?_⟩
    intro held
    rcases mem_foreignKeysOf.mp held with ⟨row, member, rfl⟩
    rcases exists_mem_namesDropped member with ⟨other, otherMember, sameName, dropped⟩
    rcases Prod.mk.inj (tells other otherMember row member sameName) with ⟨sameSchema, sameTable⟩
    rwa [foreignKeyName, sameSchema, sameTable, sameName] at dropped

end Value

/-! ## Statements for all of some items -/

/-- Statements for some items alone make the script of more items only if there are no more. -/
theorem Attempt.perm_of_join_eq
    {α : Type}
    {statement : α → String}
    {stated items all : List α}
    (speaks : ∀ item, statement item ≠ "")
    (included : stated.Subperm all)
    (whole : items.Perm all)
    (same : String.join (items.map statement) = String.join (stated.map statement)) :
    stated.Perm all := by
  have length_join : ∀ items : List α,
      (String.join (items.map statement)).length =
        (items.map fun item => (statement item).length).sum := by
    intro items
    induction items with
    | nil => rfl
    | cons item items ih => simp [String.join_cons, ih]
  rcases included with ⟨part, reordered, sublist⟩
  rcases sublist.exists_perm_append with ⟨rest, split⟩
  have total :
      (items.map fun item => (statement item).length).sum =
        (stated.map fun item => (statement item).length).sum +
          (rest.map fun item => (statement item).length).sum := by
    rw [((whole.trans split).map _).sum_eq, List.map_append, List.sum_append,
      (reordered.map _).sum_eq]
  have equal := congrArg String.length same
  rw [length_join, length_join] at equal
  cases rest with
  | nil => exact reordered.symm.trans (by simpa using split.symm)
  | cons item rest =>
      have positive : 0 < (statement item).length :=
        Nat.pos_of_ne_zero fun empty => speaks item (String.length_eq_zero_iff.mp empty)
      rw [List.map_cons, List.sum_cons] at total
      omega

/-! ## Scripts -/

namespace Scripter

variable {scripter : Scripter} {rows : List Value}

/-- The script of drops has exactly one statement for each foreign key of the rows. -/
def DropsEachForeignKey
    (scripter : Scripter)
    (rows : List Value) : Prop :=
  ∃ keys : List ForeignKeyName, keys.Perm (Value.foreignKeysOf rows) ∧
    scripter.dropForeignKeys (.list rows) =
      .ok (String.join (keys.map (scripter.dialect.dropStatement scripter.options)))

/-- The script of additions, if there is one, has exactly one statement for each foreign key. -/
def AddsEachForeignKey
    (scripter : Scripter)
    (rows : List Value) : Prop :=
  ∃ keys : List ForeignKeyName, keys.Perm (Value.foreignKeysOf rows) ∧
    Attempt.Lists (scripter.dialect.Adds scripter.options) keys
      (scripter.addForeignKeys (.list rows))

theorem addsEachForeignKey
    (typed : ∀ row ∈ rows, row.isTyped .foreignKey = true) :
    scripter.AddsEachForeignKey rows :=
  ⟨_, Value.namesAdded_perm rows, lists_addForeignKeys typed⟩

theorem dropsEachForeignKey_iff
    (typed : ∀ row ∈ rows, row.isTyped .foreignKey = true) :
    scripter.DropsEachForeignKey rows ↔ Value.NamesTellTables rows := by
  have scripted := scripter.dialect.dropForeignKeys_ok scripter.options typed
  rw [← Value.namesDropped_perm_iff]
  constructor
  · rintro ⟨keys, whole, same⟩
    refine Attempt.perm_of_join_eq ?_ (Value.namesDropped_subperm rows) whole
      (Except.ok.inj (same.symm.trans scripted))
    intro key
    simp [Dialect.dropStatement]
  · exact fun whole => ⟨_, whole, scripted⟩

/--
Rows that are dropped get one statement for each name of a foreign key, about the table of the first
row with the name.  So each foreign key among the rows gets a statement of its own, and the foreign
keys that are dropped are those that are added with the rows, exactly when rows of one name belong
to one table.
-/
theorem dropForeignKeys_statesEach_iff
    (scripter : Scripter)
    (rows : List Value)
    (typed : ∀ row ∈ rows, row.isTyped .foreignKey = true) :
    scripter.dropForeignKeys (.list rows) =
        .ok (String.join ((Value.namesDropped rows).map
          (scripter.dialect.dropStatement scripter.options))) ∧
      (scripter.DropsEachForeignKey rows ↔ Value.NamesTellTables rows) ∧
      scripter.AddsEachForeignKey rows ∧
      ((Value.namesDropped rows).Perm (Value.namesAdded rows) ↔ Value.NamesTellTables rows) := by
  refine ⟨scripter.dialect.dropForeignKeys_ok scripter.options typed,
    dropsEachForeignKey_iff typed, addsEachForeignKey typed, ?_⟩
  have added := Value.namesAdded_perm rows
  rw [← Value.namesDropped_perm_iff]
  exact ⟨fun same => same.trans added, fun whole => whole.trans added.symm⟩

/-- Foreign keys of two tables that reference a third, by their names. -/
private def keysOfTwoTables
    (left right : String) : List Value := [
  .plainForeignKey "o" left "t_id" "t" "id" .noAction,
  .plainForeignKey "p" right "t_id" "t" "id" .noAction]

private theorem keysOfTwoTables_isTyped
    (left right : String) :
    ∀ row ∈ keysOfTwoTables left right, row.isTyped .foreignKey = true :=
  List.forall_mem_cons.mpr ⟨Value.isTyped_plainForeignKey ..,
    List.forall_mem_singleton.mpr (Value.isTyped_plainForeignKey ..)⟩

/-- Foreign keys of two tables with names of their own are dropped by a statement each. -/
theorem dropsEachForeignKey_of_twoNames :
    (∀ row ∈ keysOfTwoTables "fk_o" "fk_p", row.isTyped .foreignKey = true) ∧
      Value.NamesTellTables (keysOfTwoTables "fk_o" "fk_p") ∧
      Scripter.DropsEachForeignKey { dialect := .postgreSql } (keysOfTwoTables "fk_o" "fk_p") := by
  have typed := keysOfTwoTables_isTyped "fk_o" "fk_p"
  have tells : Value.NamesTellTables (keysOfTwoTables "fk_o" "fk_p") := by
    unfold Value.NamesTellTables
    decide +kernel
  exact ⟨typed, tells, (dropForeignKeys_statesEach_iff _ _ typed).2.1.mpr tells⟩

/-- Of the foreign keys of two tables that share a name, only that of the first is dropped. -/
theorem dropForeignKeys_of_sharedName :
    (∀ row ∈ keysOfTwoTables "fk" "fk", row.isTyped .foreignKey = true) ∧
      Value.foreignKeysOf (keysOfTwoTables "fk" "fk") =
        [("public", "o", "fk"), ("public", "p", "fk")] ∧
      Scripter.dropForeignKeys { dialect := .postgreSql } (.list (keysOfTwoTables "fk" "fk")) =
        .ok "ALTER TABLE \"public\".\"o\" DROP CONSTRAINT \"fk\";\n" ∧
      ¬ Scripter.DropsEachForeignKey { dialect := .postgreSql } (keysOfTwoTables "fk" "fk") := by
  have typed := keysOfTwoTables_isTyped "fk" "fk"
  refine ⟨typed, by decide +kernel, by rfl, fun each => ?_⟩
  have tells := (dropsEachForeignKey_iff typed).mp each
  unfold Value.NamesTellTables at tells
  revert tells
  decide +kernel

end Scripter

end SchemaDelta
