import SchemaDelta.Proofs.Comparison.Pairing
import SchemaDelta.Proofs.Ddl.InboundForeignKeys
import SchemaDelta.Proofs.Migration.Consistency
import SchemaDelta.Migration.Plan

/-!
# Rows of foreign keys in a migration

What a migration drops and adds are rows of the compared databases: rows on dropped tables and rows
that reference them, rows that the changes of altered tables are about, and the rows of new tables.
-/

namespace SchemaDelta

open Attempt (bind_eq_ok_iff)

/-! ## Rows of changes -/

/-- A row is of a foreign key on a holder, put on a table, or of one that references the holder. -/
def Value.IsLinkedRow
    (holder table row : Value) : Prop :=
  (∃ own ∈ holder.rows "foreign_keys", row = table.onTable own) ∨
    row ∈ holder.rows "referencing_foreign_keys"

theorem Value.IsLinkedRow.isTyped
    {holder table row : Value}
    (linked : holder.IsLinkedRow table row)
    (holderTyped : holder.isTyped .table = true)
    (tableTyped : table.isTyped .table = true) :
    row.isTyped .foreignKey = true := by
  rcases linked with ⟨own, member, rfl⟩ | inbound
  · exact isTyped_onTable (foreignKey_isTyped holderTyped member) tableTyped
  · exact referencingForeignKey_isTyped holderTyped inbound

/-- Foreign keys are dropped from the target of an alteration and added from its source. -/
theorem Scripter.isLinkedRow_of_foreignKeyChanges
    {scripter : Scripter}
    {source target : Value}
    (sourceTyped : source.isTyped .table = true)
    (targetTyped : target.isTyped .table = true)
    {changes : List Value × List Value}
    (changed : scripter.foreignKeyChanges source target = .ok changes) :
    (∀ row ∈ changes.1, target.IsLinkedRow target row) ∧
      ∀ row ∈ changes.2, source.IsLinkedRow target row := by
  rcases TableChanges.between_ok scripter.dialect scripter.options sourceTyped targetTyped with
    ⟨byPosition, scripted, _, _, planned⟩
  rw [foreignKeyChanges_ok sourceTyped targetTyped planned] at changed
  cases changed
  constructor
  · intro row member
    rcases List.mem_append.mp ((Keyed.firstByKey_sublist _ _).subset member) with own | inbound
    · rcases List.mem_map.mp own with ⟨held, dropped, rfl⟩
      exact Or.inl ⟨held, Dialect.mem_of_mem_droppedGroups dropped, rfl⟩
    · exact Or.inr (TableChanges.mem_inboundRows_iff.mp inbound).1
  · intro row member
    rcases List.mem_append.mp ((Keyed.firstByKey_sublist _ _).subset member) with own | returning
    · rcases List.mem_map.mp own with ⟨held, added, rfl⟩
      exact Or.inl ⟨held, Dialect.mem_of_mem_addedGroups added, rfl⟩
    · exact Or.inr (TableChanges.mem_returningRows_iff.mp returning).1.1

namespace Migration

/-- Both databases are typed and are what the comparison is about. -/
structure IsTyped
    (migration : Migration) : Prop where
  source : migration.source.isTyped .database = true
  target : migration.target.isTyped .database = true
  compared :
    (Comparison.between migration.source migration.target).result = .ok migration.comparison

variable {migration : Migration}

/-! ## Tables -/

theorem tables_isTyped
    {database : Value}
    (typed : database.isTyped .database = true) :
    ∀ table ∈ database.rows "tables", table.isTyped .table = true :=
  fun _ member => Value.isTyped_of_mem_rows typed ObjectClass.database_declares_tables member

/-- Tables under keys are tables of the database, each at most as often as it is there. -/
private theorem tablesUnder_subperm
    {database : Value}
    (typed : database.isTyped .database = true)
    {keys tables : List Value}
    {dropping : Bool}
    (found : (do migration.tablesUnder keys dropping (← database.part "tables")) = .ok tables) :
    tables.Subperm (database.rows "tables") := by
  rw [Value.part_rows_of_isTyped typed ObjectClass.database_declares_tables,
    Attempt.ok_bind] at found
  rcases bind_eq_ok_iff.mp found with ⟨sorted, sortedOk, filtered⟩
  exact (Attempt.filterM_sublist filtered).subperm.trans
    (Dialect.sortTables_subperm (tables_isTyped typed) sortedOk)

theorem IsTyped.newTables_subperm
    (typed : migration.IsTyped)
    {tables : List Value}
    (found : migration.newTables = .ok tables) :
    tables.Subperm (migration.source.rows "tables") := by
  rcases bind_eq_ok_iff.mp found with ⟨_, _, rest⟩
  exact tablesUnder_subperm typed.source rest

theorem IsTyped.droppedTables_subperm
    (typed : migration.IsTyped)
    {tables : List Value}
    (found : migration.droppedTables = .ok tables) :
    tables.Subperm (migration.target.rows "tables") := by
  rcases bind_eq_ok_iff.mp found with ⟨_, _, rest⟩
  exact tablesUnder_subperm typed.target rest

/-- The pairings of tables are of the tables of both databases. -/
theorem IsTyped.isOf_tables
    (typed : migration.IsTyped)
    {pairing : Pairing}
    (member : pairing ∈ migration.comparison.pairings .tables) :
    pairing.IsOf (migration.source.rows "tables") (migration.target.rows "tables") := by
  rcases Comparison.isOf_of_mem_pairings typed.compared member with
    ⟨sources, targets, sourcesOk, targetsOk, isOf⟩
  have listed : ∀ {database : Value}, database.isTyped .database = true →
      database.objectsOf .tables = .ok (database.rows "tables") := by
    intro database databaseTyped
    have read := Value.part_rows_of_isTyped databaseTyped ObjectClass.database_declares_tables
    change (database.part "tables" >>= Value.items) = _
    rw [read]
    rfl
  rw [listed typed.source] at sourcesOk
  rw [listed typed.target] at targetsOk
  cases sourcesOk
  cases targetsOk
  exact isOf

/-- Altered tables are pairings of tables of both databases. -/
theorem IsTyped.mem_tables_of_mem_differing
    (typed : migration.IsTyped)
    {pairing : Pairing}
    (member : pairing ∈ migration.differing .tables) :
    pairing.source ∈ migration.source.rows "tables" ∧
      pairing.target ∈ migration.target.rows "tables" := by
  rcases List.mem_filter.mp member with ⟨paired, status⟩
  have isOf := typed.isOf_tables paired
  cases pairing with
  | different source target => exact ⟨isOf.1, isOf.2.1⟩
  | _ => cases status

/-! ## Collected rows -/

private theorem identifiedForeignKeys_ok
    {table : Value}
    (typed : table.isTyped .table = true) :
    migration.identifiedForeignKeys table =
      .ok (table.linkedRows.map fun row =>
        (Dialect.identityKey (migration.scripter.dialect.identityOf row), row)) := by
  rw [identifiedForeignKeys,
    Value.part_rows_of_isTyped typed ObjectClass.table_declares_foreign_keys, Attempt.ok_bind,
    Value.part_rows_of_isTyped typed ObjectClass.table_declares_referencing_foreign_keys,
    Attempt.ok_bind]
  exact Dialect.identified_ok _ (Value.linkedRows_isTyped typed)

/-- The foreign keys on tables and those that reference them are found without failure. -/
theorem foreignKeysOf_ok
    {tables : List Value}
    (typed : ∀ table ∈ tables, table.isTyped .table = true) :
    migration.foreignKeysOf tables =
      .ok (migration.scripter.dialect.uniqueRows (tables.flatMap Value.linkedRows)) := by
  have identified : tables.mapM migration.identifiedForeignKeys =
      .ok (tables.map fun table => table.linkedRows.map fun row =>
        (Dialect.identityKey (migration.scripter.dialect.identityOf row), row)) :=
    Attempt.mapM_ok fun table member => identifiedForeignKeys_ok (typed table member)
  rw [foreignKeysOf, identified, Attempt.ok_bind, ← List.flatMap_def, ← List.map_flatMap,
    Dialect.firstByKey_identified, List.map_map]
  exact congrArg Except.ok (List.map_id _)

theorem uniqueRows_isTyped
    {tables : List Value}
    (typed : ∀ table ∈ tables, table.isTyped .table = true) :
    ∀ row ∈ migration.scripter.dialect.uniqueRows (tables.flatMap Value.linkedRows),
      row.isTyped .foreignKey = true := by
  intro row member
  rcases List.mem_flatMap.mp ((Keyed.firstByKey_sublist _ _).subset member) with
    ⟨table, tableMember, linked⟩
  exact Value.linkedRows_isTyped (typed table tableMember) row linked

/-- The foreign keys that the alteration of a pairing drops and those that it adds. -/
def changesOf
    (migration : Migration)
    (pairing : Pairing) : List Value × List Value :=
  ((migration.scripter.foreignKeyChanges pairing.source pairing.target).toOption).getD ([], [])

variable {pairing : Pairing} {row : Value}

/-- There always are changes between the tables of a pairing. -/
theorem IsTyped.foreignKeyChanges_ok
    (typed : migration.IsTyped)
    (member : pairing ∈ migration.differing .tables) :
    migration.scripter.foreignKeyChanges pairing.source pairing.target =
      .ok (migration.changesOf pairing) := by
  rcases typed.mem_tables_of_mem_differing member with ⟨sourceMember, targetMember⟩
  have sourceTyped := tables_isTyped typed.source pairing.source sourceMember
  have targetTyped := tables_isTyped typed.target pairing.target targetMember
  rcases TableChanges.between_ok migration.scripter.dialect migration.scripter.options sourceTyped
    targetTyped with ⟨byPosition, scripted, _, _, planned⟩
  rw [changesOf, Scripter.foreignKeyChanges_ok sourceTyped targetTyped planned]
  rfl

/-- What is changed about altered tables is linked to them, and all of it is typed. -/
private theorem IsTyped.changesOf_areLinked
    (typed : migration.IsTyped)
    (member : pairing ∈ migration.differing .tables) :
    (∀ row ∈ (migration.changesOf pairing).1,
        pairing.target.IsLinkedRow pairing.target row ∧ row.isTyped .foreignKey = true) ∧
      ∀ row ∈ (migration.changesOf pairing).2, row.isTyped .foreignKey = true := by
  rcases typed.mem_tables_of_mem_differing member with ⟨sourceMember, targetMember⟩
  have sourceTyped := tables_isTyped typed.source pairing.source sourceMember
  have targetTyped := tables_isTyped typed.target pairing.target targetMember
  rcases Scripter.isLinkedRow_of_foreignKeyChanges sourceTyped targetTyped
    (typed.foreignKeyChanges_ok member) with ⟨dropsLinked, addsLinked⟩
  constructor
  · intro row rowMember
    exact ⟨dropsLinked row rowMember, (dropsLinked row rowMember).isTyped targetTyped targetTyped⟩
  · intro row rowMember
    exact (addsLinked row rowMember).isTyped sourceTyped targetTyped

/-- The foreign keys on one side of the changes of all altered tables, each once. -/
def changedRows
    (migration : Migration)
    (side : List Value × List Value → List Value) : List Value :=
  migration.scripter.dialect.uniqueRows
    ((migration.differing .tables).flatMap fun pairing => side (migration.changesOf pairing))

theorem mem_changedRows
    {side : List Value × List Value → List Value}
    (member : row ∈ migration.changedRows side) :
    ∃ pairing ∈ migration.differing .tables, row ∈ side (migration.changesOf pairing) :=
  List.mem_flatMap.mp ((Keyed.firstByKey_sublist _ _).subset member)

/-- Every foreign key that an altered table is about is among those of all altered tables. -/
theorem exists_mem_changedRows
    (side : List Value × List Value → List Value)
    (member : pairing ∈ migration.differing .tables)
    (rowMember : row ∈ side (migration.changesOf pairing)) :
    ∃ changed ∈ migration.changedRows side,
      migration.scripter.dialect.identityOf changed = migration.scripter.dialect.identityOf row :=
  Keyed.exists_mem_firstByKey migration.scripter.dialect.identityOf
    (List.mem_flatMap_of_mem member rowMember)

/-- The foreign keys that altered tables are about are found without failure. -/
private theorem IsTyped.changedForeignKeys_ok
    (typed : migration.IsTyped)
    {side : List Value × List Value → List Value}
    (sideTyped : ∀ pairing ∈ migration.differing .tables,
      ∀ row ∈ side (migration.changesOf pairing), row.isTyped .foreignKey = true) :
    migration.changedForeignKeys side =
      .ok ((migration.changedRows side).map fun row =>
        (Dialect.identityKey (migration.scripter.dialect.identityOf row), row)) := by
  have identified :
      ((migration.differing .tables).mapM fun pairing => do
          let changes ← migration.scripter.foreignKeyChanges pairing.source pairing.target
          migration.scripter.dialect.identified (side changes)) =
        .ok ((migration.differing .tables).map fun pairing =>
          (side (migration.changesOf pairing)).map fun row =>
            (Dialect.identityKey (migration.scripter.dialect.identityOf row), row)) := by
    apply Attempt.mapM_ok
    intro pairing member
    rw [typed.foreignKeyChanges_ok member, Attempt.ok_bind]
    exact Dialect.identified_ok _ (sideTyped pairing member)
  rw [changedForeignKeys, identified, Attempt.ok_bind, ← List.flatMap_def, ← List.map_flatMap,
    Dialect.firstByKey_identified]
  rfl

/-- The foreign keys that altered tables need out of the way, but for those dropped before. -/
theorem IsTyped.alteredForeignKeys_ok
    (typed : migration.IsTyped)
    (dropped : List Value) :
    migration.alteredForeignKeys dropped =
      .ok ((migration.changedRows (·.1)).filter fun row =>
        !dropped.contains (Dialect.identityKey (migration.scripter.dialect.identityOf row))) := by
  rw [alteredForeignKeys, typed.changedForeignKeys_ok fun pairing member row held =>
    ((typed.changesOf_areLinked member).1 row held).2, Attempt.ok_bind, List.filter_map,
    List.map_map]
  exact congrArg Except.ok (List.map_id _)

theorem IsTyped.addedForeignKeys_ok
    (typed : migration.IsTyped) :
    migration.addedForeignKeys = .ok (migration.changedRows (·.2)) := by
  rw [addedForeignKeys, typed.changedForeignKeys_ok fun pairing member =>
    (typed.changesOf_areLinked member).2, Attempt.ok_bind, List.map_map]
  exact congrArg Except.ok (List.map_id _)

/--
Foreign keys that are dropped for altered tables are linked to a table of the target and were not
dropped before.
-/
theorem IsTyped.alteredForeignKeys_areLinked
    (typed : migration.IsTyped)
    {dropped rows : List Value}
    (found : migration.alteredForeignKeys dropped = .ok rows)
    (member : row ∈ rows) :
    row.isTyped .foreignKey = true ∧
      (∃ table ∈ migration.target.rows "tables", table.IsLinkedRow table row) ∧
        dropped.contains (Dialect.identityKey (migration.scripter.dialect.identityOf row)) =
          false := by
  rw [typed.alteredForeignKeys_ok] at found
  cases found
  rcases List.mem_filter.mp member with ⟨changed, fresh⟩
  rcases mem_changedRows changed with ⟨pairing, paired, rowMember⟩
  rcases (typed.changesOf_areLinked paired).1 row rowMember with ⟨linked, rowTyped⟩
  exact ⟨rowTyped, ⟨pairing.target, (typed.mem_tables_of_mem_differing paired).2, linked⟩,
    by simpa using fresh⟩

theorem IsTyped.addedForeignKeys_isTyped
    (typed : migration.IsTyped)
    {rows : List Value}
    (found : migration.addedForeignKeys = .ok rows) :
    ∀ row ∈ rows, row.isTyped .foreignKey = true := by
  intro row member
  rw [typed.addedForeignKeys_ok] at found
  cases found
  rcases mem_changedRows member with ⟨pairing, paired, rowMember⟩
  exact (typed.changesOf_areLinked paired).2 row rowMember

end Migration

end SchemaDelta
