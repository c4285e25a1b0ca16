import SchemaDelta.Proofs.Ddl.Scripting
import SchemaDelta.Proofs.Ddl.Statements
import SchemaDelta.Proofs.Migration.ForeignKeyName

/-!
# Drops of keys

Primary keys, check constraints and foreign keys are dropped by one statement for each name among
some rows.  The statement alters the table that the first row with the name belongs to.
-/

namespace SchemaDelta

open Value (groupNames namedRows rowGroups)

/-- A script by groups is known once the statement of each group is. -/
theorem Attempt.groupScripts_ok
    {groups : List (List Value)}
    {statement : Value → List Value → Script}
    {text : List Value → String}
    (stated : ∀ group ∈ groups, statement (group.headD .null) group = .ok (text group)) :
    groupScripts groups statement = .ok (String.join (groups.map text)) := by
  rw [groupScripts, Attempt.mapM_ok stated]
  rfl

/-- The first row of a group is typed when all rows are. -/
theorem Value.headD_isTyped
    {kind : ObjectClass}
    {rows group : List Value}
    (typed : ∀ row ∈ rows, row.isTyped kind = true)
    (grouped : group ∈ rowGroups rows) :
    (group.headD .null).isTyped kind = true := by
  cases found : group with
  | nil => exact absurd found (ne_nil_of_mem_rowGroups grouped)
  | cons first others =>
      have inGroup : first ∈ group := found ▸ List.mem_cons_self
      exact typed first ((mem_of_mem_rowGroups grouped).mp inGroup).1

/-! ## Rows of keys -/

/-- What is dropped by altering the table that it is on. -/
inductive KeySort where
  | primaryKey
  | check
  | foreignKey
  deriving DecidableEq

namespace KeySort

/-- The class of the rows. -/
def rowClass : KeySort → ObjectClass
  | primaryKey => .index
  | check => .constraint
  | foreignKey => .foreignKey

theorem rowClass_declares_table_schema
    (sort : KeySort) :
    sort.rowClass.declares "table_schema" .text = true := by
  cases sort <;> decide

theorem rowClass_declares_table_name
    (sort : KeySort) :
    sort.rowClass.declares "table_name" .text = true := by
  cases sort <;> decide

theorem rowClass_declares_name
    (sort : KeySort) :
    sort.rowClass.declares "name" .text = true := by
  cases sort <;> decide

theorem rowClass_isRow
    (sort : KeySort) :
    sort.rowClass.isRow = true := by
  cases sort <;> decide

end KeySort

/-- The first of the rows with a name. -/
def Value.leadingRow
    (rows : List Value)
    (name : String) : Value :=
  (namedRows rows name).headD .null

theorem Value.mem_leadingRow
    {rows : List Value}
    {row : Value}
    (member : row ∈ rows) :
    leadingRow rows (row.letters "name") ∈ rows ∧
      (leadingRow rows (row.letters "name")).letters "name" = row.letters "name" := by
  have inGroup : row ∈ namedRows rows (row.letters "name") := mem_namedRows.mpr ⟨member, rfl⟩
  rw [leadingRow]
  cases found : namedRows rows (row.letters "name") with
  | nil => simp [found] at inGroup
  | cons first others =>
      have isFirst : first ∈ namedRows rows (row.letters "name") := found ▸ List.mem_cons_self
      exact mem_namedRows.mp isFirst

/-! ## Statements -/

namespace Dialect

variable (dialect : Dialect) (options : Options)

/-- The script that drops the keys of some rows. -/
def dropKeys
    (rows : List Value) : KeySort → Script
  | .primaryKey => dialect.statements.dropPrimaryKeys options (.list rows)
  | .check => dialect.statements.dropChecks options (.list rows)
  | .foreignKey => dialect.statements.dropForeignKeys options (.list rows)

/-- The words between the table and the name of a key that is dropped. -/
def dropWords
    (dialect : Dialect)
    (sort : KeySort) : String :=
  match dialect, sort with
  | .mySql, .primaryKey => " DROP PRIMARY KEY"
  | .mySql, .check => " DROP CHECK "
  | .mySql, .foreignKey => " DROP FOREIGN KEY "
  | .microsoftSql, _ => " DROP CONSTRAINT "
  | .postgreSql, _ => " DROP CONSTRAINT "

/-- The name of a key that is dropped; a primary key of MySQL has none. -/
def droppedName
    (dialect : Dialect)
    (sort : KeySort)
    (name : String) : String :=
  match dialect, sort with
  | .mySql, .primaryKey => ""
  | _, _ => dialect.quote name

/-- The statement that drops a key of a table. -/
def keyDrop
    (sort : KeySort)
    (owner : String × String)
    (name : String) : String :=
  "ALTER TABLE " ++ dialect.tableText options owner.1 owner.2 ++ dialect.dropWords sort ++
    dialect.droppedName sort name ++ ";\n" ++ dialect.batchEnd

/-- The statement that drops the key of some rows with a name. -/
def namedDrop
    (sort : KeySort)
    (rows : List Value)
    (name : String) : String :=
  dialect.keyDrop options sort (Value.leadingRow rows name).ownerName name

variable {options} {sort : KeySort} {rows : List Value} {row : Value}

/-- The table of a row is written with its schema. -/
private theorem tableName_ok
    (typed : row.isTyped sort.rowClass = true) :
    dialect.tableName options row =
      .ok (dialect.tableText options row.ownerName.1 row.ownerName.2) := by
  rw [tableName, Value.part_text_of_isTyped typed sort.rowClass_declares_table_schema,
    Attempt.ok_bind, Value.part_text_of_isTyped typed sort.rowClass_declares_table_name,
    Attempt.ok_bind, qualifiedName_text]
  rfl

private theorem quotePart_name_ok
    (typed : row.isTyped sort.rowClass = true) :
    dialect.quotePart row "name" = .ok (dialect.quote (row.letters "name")) :=
  quotePart_ok typed sort.rowClass_declares_name

/-- A script that drops the key of the first row of each group has one statement for each name. -/
private theorem dropByGroups_ok
    (typed : ∀ row ∈ rows, row.isTyped sort.rowClass = true)
    {drop : Value → Script}
    (stated : ∀ {row : Value}, row.isTyped sort.rowClass = true →
      drop row = .ok (dialect.keyDrop options sort row.ownerName (row.letters "name"))) :
    (do groupScripts (← (Value.list rows).groups) fun row _ => drop row) =
      .ok (String.join ((groupNames rows).map (dialect.namedDrop options sort rows))) := by
  have grouped : (Value.list rows).groups = .ok (rowGroups rows) :=
    Value.groups_ok fun row member =>
      Value.isRow_of_isTyped (typed row member) sort.rowClass_isRow
  have texts : (groupNames rows).map (dialect.namedDrop options sort rows) =
      (rowGroups rows).map fun group => dialect.keyDrop options sort (group.headD .null).ownerName
        (Value.groupName group) := by
    rw [← Value.map_groupName_rowGroups, List.map_map]
    refine List.map_congr_left fun group member => ?_
    rw [Function.comp_apply, namedDrop, Value.leadingRow, Value.namedRows_groupName member]
  rw [texts, grouped, Attempt.ok_bind]
  exact Attempt.groupScripts_ok fun group member => stated (Value.headD_isTyped typed member)

/-- A key of MySQL that has a name is dropped by a word of its own. -/
private theorem mySql_dropNamed_ok
    (typed : row.isTyped sort.rowClass = true)
    (word : String) :
    (do return (← MySql.alterTableOf options row) ++ word ++
        (← MySql.dialect.quotePart row "name") ++ ";\n" : Script) =
      .ok ("ALTER TABLE " ++ mySql.tableText options row.ownerName.1 row.ownerName.2 ++ word ++
        mySql.quote (row.letters "name") ++ ";\n" ++ mySql.batchEnd) := by
  simp only [MySql.alterTableOf, MySql.dialect, tableName_ok mySql typed,
    quotePart_name_ok mySql typed, Attempt.ok_bind, Attempt.pure_eq_ok]
  exact congrArg Except.ok String.append_empty.symm

/-- Keys are dropped without failure, by one statement for each name. -/
theorem dropKeys_ok
    (options : Options)
    (sort : KeySort)
    (typed : ∀ row ∈ rows, row.isTyped sort.rowClass = true) :
    dialect.dropKeys options rows sort =
      .ok (String.join ((groupNames rows).map (dialect.namedDrop options sort rows))) := by
  cases dialect with
  | microsoftSql =>
      have constraints : microsoftSql.dropKeys options rows sort =
          MicrosoftSql.dropConstraints options (.list rows) := by
        cases sort <;> rfl
      rw [constraints]
      refine dropByGroups_ok microsoftSql typed fun rowTyped => ?_
      rw [MicrosoftSql.dropConstraint, MicrosoftSql.dialect, tableName_ok microsoftSql rowTyped,
        Attempt.ok_bind, quotePart_name_ok microsoftSql rowTyped, Attempt.ok_bind]
      rfl
  | mySql =>
      cases sort with
      | primaryKey =>
          refine dropByGroups_ok mySql typed fun rowTyped => ?_
          simp only [MySql.alterTableOf, MySql.dialect, tableName_ok mySql rowTyped,
            Attempt.ok_bind, Attempt.pure_eq_ok, keyDrop, dropWords, droppedName, batchEnd,
            String.append_empty, String.append_assoc]
          rfl
      | check =>
          exact dropByGroups_ok mySql typed fun rowTyped => mySql_dropNamed_ok rowTyped _
      | foreignKey =>
          exact dropByGroups_ok mySql typed fun rowTyped => mySql_dropNamed_ok rowTyped _
  | postgreSql =>
      have constraints : postgreSql.dropKeys options rows sort =
          PostgreSql.dropConstraints options (.list rows) := by
        cases sort <;> rfl
      rw [constraints]
      refine dropByGroups_ok postgreSql typed fun rowTyped => ?_
      rw [PostgreSql.dialect, tableName_ok postgreSql rowTyped, Attempt.ok_bind,
        quotePart_name_ok postgreSql rowTyped]
      exact congrArg Except.ok String.append_empty.symm

end Dialect

end SchemaDelta
