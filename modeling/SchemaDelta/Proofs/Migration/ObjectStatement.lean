import SchemaDelta.Proofs.Comparison.OuterJoin
import SchemaDelta.Proofs.Ddl.StatementFailure

/-!
# Statements about objects

What the script of a database says about its objects: a statement that creates each of them, and
statements of their own for the keys and the foreign keys of tables and for the indexes of views.
-/

namespace SchemaDelta

open Attempt

/-- A statement, or statements that belong together, about an object of a database. -/
inductive ObjectStatement where
  /-- An object is created, a table without its keys and a view without its indexes. -/
  | create (kind : ObjectKind) (object : Value)
  /-- The primary keys, check constraints and indexes of a table. -/
  | addKeys (table : Value)
  | addForeignKeys (table : Value)
  | createIndexes (view : Value)

namespace Scripter

/-- The text of a statement about an object; the types resolve what types and functions name. -/
def statementText
    (scripter : Scripter)
    (types : Value) : ObjectStatement → Script
  | .create .dataTypes type => scripter.statements.createType scripter.options types type
  | .create .sequences sequence => scripter.statements.createSequence scripter.options sequence
  | .create .tables table => scripter.tableDefinition table .null
  | .create .views view => scripter.statements.createView scripter.options view
  | .create .functions function =>
    scripter.statements.createFunction scripter.options types function
  | .create .procedures procedure =>
    scripter.statements.createProcedure scripter.options procedure
  | .create .triggers trigger => scripter.statements.createTrigger scripter.options trigger
  | .addKeys table => scripter.tableKeysAndIndexes table
  | .addForeignKeys table => scripter.tableForeignKeys table
  | .createIndexes view => do
    scripter.statements.createIndexes scripter.options view (← view.part "indexes")

end Scripter

/-! ## Statements of a database -/

namespace Value

/-- A table has rows of indexes or check constraints. -/
def hasKeyRows
    (table : Value) : Bool :=
  !(table.rows "indexes").isEmpty || !(table.rows "constraints").isEmpty

/-- A table has rows of foreign keys. -/
def hasForeignKeyRows
    (table : Value) : Bool :=
  !(table.rows "foreign_keys").isEmpty

/-- The statements about an object of a kind; the indexes of a view are created after it. -/
def statementsAs
    (object : Value) : ObjectKind → List ObjectStatement
  | .views =>
    .create .views object ::
      if (object.rows "indexes").isEmpty then [] else [.createIndexes object]
  | kind => [.create kind object]

/-- The statement about the keys of a table, if it has some. -/
def keyStatements
    (table : Value) : List ObjectStatement :=
  if table.hasKeyRows then [.addKeys table] else []

/-- The statement about the foreign keys of a table, if it has some. -/
def foreignKeyStatements
    (table : Value) : List ObjectStatement :=
  if table.hasForeignKeyRows then [.addForeignKeys table] else []

/-- All statements about the objects of a database. -/
def objectStatements
    (database : Value) : List ObjectStatement :=
  ObjectKind.all.flatMap (fun kind =>
    (database.objectsIn kind).flatMap fun object => object.statementsAs kind) ++
    (database.rows "tables").flatMap keyStatements ++
    (database.rows "tables").flatMap foreignKeyStatements

end Value

namespace Scripter

variable {scripter : Scripter} {table : Value}

theorem hasKeys_ok
    (typed : table.isTyped .table = true) :
    hasKeys table = .ok table.hasKeyRows := by
  rw [hasKeys, Value.part_rows_of_isTyped typed ObjectClass.table_declares_indexes,
    Attempt.ok_bind, Value.part_rows_of_isTyped typed ObjectClass.table_declares_constraints,
    Value.hasKeyRows]
  cases table.rows "indexes" with
  | nil => rfl
  | cons row rows => rfl

theorem hasForeignKeys_ok
    (typed : table.isTyped .table = true) :
    (do return (← table.part "foreign_keys").isTruthy) =
      (.ok table.hasForeignKeyRows : Attempt Bool) := by
  rw [Value.part_rows_of_isTyped typed ObjectClass.table_declares_foreign_keys]
  rfl

/-! ## Tables without rows -/

/-- Of a table without keys there is nothing to say. -/
theorem tableKeysAndIndexes_eq_empty
    (typed : table.isTyped .table = true)
    (none : table.hasKeyRows = false) :
    scripter.tableKeysAndIndexes table = .ok "" := by
  simp only [Value.hasKeyRows, Bool.or_eq_false_iff, Bool.not_eq_false', List.isEmpty_iff] at none
  have primary : table.primaryRows = [] := by
    rw [Value.primaryRows, none.1]
    rfl
  have secondary : table.secondaryRows = [] := by
    rw [Value.secondaryRows, none.1]
    rfl
  rw [tableKeysAndIndexes, Value.primaryKeys_ok typed, primary, Value.secondaryIndexes_ok typed,
    secondary, Value.part_rows_of_isTyped typed ObjectClass.table_declares_constraints, none.2]
  rcases scripter with ⟨dialect, options⟩
  cases dialect <;> rfl

/-- Of a table without foreign keys there is nothing to say about them. -/
theorem tableForeignKeys_eq_empty
    (typed : table.isTyped .table = true)
    (none : table.hasForeignKeyRows = false) :
    scripter.tableForeignKeys table = .ok "" := by
  simp only [Value.hasForeignKeyRows, Bool.not_eq_false', List.isEmpty_iff] at none
  rw [tableForeignKeys, Value.part_rows_of_isTyped typed ObjectClass.table_declares_foreign_keys,
    none]
  rcases scripter with ⟨dialect, options⟩
  cases dialect with
  | microsoftSql =>
      change (MicrosoftSql.addForeignKeys options table (.list [])) = .ok ""
      rw [MicrosoftSql.addForeignKeys, Dialect.objectName_ok typed]
      rfl
  | mySql => rfl
  | postgreSql => rfl

end Scripter

/-! ## Order of statements -/

/-- Statements about all objects, kind by kind, are the statements of the database. -/
theorem Value.perm_objectStatements
    {database : Value}
    {ofKind : ObjectKind → List ObjectStatement}
    {keys foreignKeys : List ObjectStatement}
    (kinds : ∀ kind, (ofKind kind).Perm
      ((database.objectsIn kind).flatMap fun object => object.statementsAs kind))
    (ofKeys : keys.Perm ((database.rows "tables").flatMap keyStatements))
    (ofForeignKeys : foreignKeys.Perm ((database.rows "tables").flatMap foreignKeyStatements)) :
    (ObjectKind.all.flatMap ofKind ++ keys ++ foreignKeys).Perm database.objectStatements :=
  ((List.Perm.flatMap_left _ fun kind _ => kinds kind).append ofKeys).append ofForeignKeys

/-! ## Failures -/

namespace ObjectStatement

/-- The object of a statement is a typed one of its kind. -/
def IsTyped : ObjectStatement → Prop
  | create kind object => object.isTyped kind.objectClass = true
  | addKeys table => table.isTyped .table = true
  | addForeignKeys table => table.isTyped .table = true
  | createIndexes view => view.isTyped .view = true

/-- The statement creates a function. -/
def isFunction : ObjectStatement → Bool
  | create .functions _ => true
  | _ => false

end ObjectStatement

namespace Value

variable {statement : ObjectStatement} {kind : ObjectKind} {object table : Value}

/-- What is said about an object is that it is created and, of a view, what its indexes are. -/
theorem eq_of_mem_statementsAs
    (member : statement ∈ object.statementsAs kind) :
    statement = .create kind object ∨ kind = .views ∧ statement = .createIndexes object := by
  cases kind with
  | views =>
      rcases List.mem_cons.mp member with same | rest
      · exact .inl same
      · split at rest
        · cases rest
        · exact .inr ⟨rfl, List.mem_singleton.mp rest⟩
  | _ => exact .inl (List.mem_singleton.mp member)

theorem eq_of_mem_keyStatements
    (member : statement ∈ table.keyStatements) :
    statement = .addKeys table := by
  unfold keyStatements at member
  split at member
  · exact List.mem_singleton.mp member
  · cases member

theorem eq_of_mem_foreignKeyStatements
    (member : statement ∈ table.foreignKeyStatements) :
    statement = .addForeignKeys table := by
  unfold foreignKeyStatements at member
  split at member
  · exact List.mem_singleton.mp member
  · cases member

theorem isTyped_of_mem_statementsAs
    (typed : object.isTyped kind.objectClass = true)
    (member : statement ∈ object.statementsAs kind) :
    statement.IsTyped := by
  rcases eq_of_mem_statementsAs member with rfl | ⟨rfl, rfl⟩
  · exact typed
  · exact typed

/-- Only the statements about functions create functions. -/
theorem isFunction_of_mem_flatMap
    (other : kind ≠ .functions)
    (objects : List Value) :
    ∀ statement ∈ objects.flatMap fun object => object.statementsAs kind,
      statement.isFunction = false := by
  intro statement member
  rcases List.mem_flatMap.mp member with ⟨object, _, said⟩
  rcases eq_of_mem_statementsAs said with rfl | ⟨rfl, rfl⟩
  · cases kind with
    | functions => exact absurd rfl other
    | _ => rfl
  · rfl

theorem isFunction_of_mem_flatMap_keys
    (tables : List Value) :
    ∀ statement ∈ tables.flatMap keyStatements, statement.isFunction = false := by
  intro statement member
  rcases List.mem_flatMap.mp member with ⟨table, _, said⟩
  cases eq_of_mem_keyStatements said
  rfl

theorem isFunction_of_mem_flatMap_foreignKeys
    (tables : List Value) :
    ∀ statement ∈ tables.flatMap foreignKeyStatements, statement.isFunction = false := by
  intro statement member
  rcases List.mem_flatMap.mp member with ⟨table, _, said⟩
  cases eq_of_mem_foreignKeyStatements said
  rfl

/-- The statements about the objects of a typed database are about typed objects. -/
theorem isTyped_of_mem_objectStatements
    {database : Value}
    (typed : database.isTyped .database = true)
    (member : statement ∈ database.objectStatements) :
    statement.IsTyped := by
  have tablesTyped : ∀ table ∈ database.rows "tables", table.isTyped .table = true :=
    fun table held => isTyped_of_mem_rows typed (by decide) held
  rcases List.mem_append.mp member with before | ofForeignKeys
  · rcases List.mem_append.mp before with ofObjects | ofKeys
    · rcases List.mem_flatMap.mp ofObjects with ⟨kind, _, ofKind⟩
      rcases List.mem_flatMap.mp ofKind with ⟨object, held, ofObject⟩
      exact isTyped_of_mem_statementsAs (isTyped_of_mem_objectsIn typed held) ofObject
    · rcases List.mem_flatMap.mp ofKeys with ⟨table, held, ofTable⟩
      cases eq_of_mem_keyStatements ofTable
      exact tablesTyped table held
  · rcases List.mem_flatMap.mp ofForeignKeys with ⟨table, held, ofTable⟩
    cases eq_of_mem_foreignKeyStatements ofTable
    exact tablesTyped table held

end Value

namespace Scripter

variable {scripter : Scripter} {types : List Value} {table view : Value}

private theorem failsByScripting_tableDefinition
    (typed : table.isTyped .table = true) :
    FailsByScripting (scripter.tableDefinition table .null) := by
  rcases scripter.options.orderedColumns_ok typed with ⟨columns, ordered, perm⟩
  rw [tableDefinition, Value.required_ok typed, Attempt.ok_bind, Options.scriptedColumns, ordered]
  exact scripter.dialect.failsByScripting_createTable scripter.options typed fun column member =>
    Value.column_isTyped typed (perm.subset member)

private theorem failsByScripting_tableKeysAndIndexes
    (typed : table.isTyped .table = true) :
    FailsByScripting (scripter.tableKeysAndIndexes table) := by
  have isObject : table.isTyped .schemaObject = true := Value.isTyped_of_isWithin typed (by decide)
  rw [tableKeysAndIndexes, Value.primaryKeys_ok typed, Value.secondaryIndexes_ok typed,
    Value.part_rows_of_isTyped typed ObjectClass.table_declares_constraints]
  exact (scripter.dialect.failsByScripting_addPrimaryKeys scripter.options typed
      fun row => Value.primaryRow_isTyped typed).andThen fun _ =>
    (scripter.dialect.failsByScripting_addChecks scripter.options typed
      fun row => Value.constraint_isTyped typed).andThen fun _ =>
    (scripter.dialect.failsByScripting_createIndexes scripter.options isObject
      fun row => Value.secondaryRow_isTyped typed).map

private theorem failsByScripting_tableForeignKeys
    (typed : table.isTyped .table = true) :
    FailsByScripting (scripter.tableForeignKeys table) := by
  rw [tableForeignKeys, Value.part_rows_of_isTyped typed ObjectClass.table_declares_foreign_keys]
  exact scripter.dialect.failsByScripting_addForeignKeys scripter.options typed
    fun row => Value.foreignKey_isTyped typed

private theorem failsByScripting_viewIndexes
    (typed : view.isTyped .view = true) :
    FailsByScripting (do
      scripter.statements.createIndexes scripter.options view (← view.part "indexes")) := by
  have isObject : view.isTyped .schemaObject = true := Value.isTyped_of_isWithin typed (by decide)
  rw [Value.part_rows_of_isTyped typed ObjectClass.view_declares_indexes]
  exact scripter.dialect.failsByScripting_createIndexes scripter.options isObject
    fun row => Value.isTyped_of_mem_rows typed ObjectClass.view_declares_indexes

/-- A statement about a typed object fails only by scripting, functions of PostgreSQL excepted. -/
theorem failsByScripting_statementText
    (typesTyped : ∀ type ∈ types, type.isTyped .dataType = true)
    {statement : ObjectStatement}
    (typed : statement.IsTyped)
    (usual : scripter.dialect = .postgreSql → statement.isFunction = false) :
    FailsByScripting (scripter.statementText (.list types) statement) := by
  cases statement with
  | create kind object =>
      cases kind with
      | dataTypes =>
          exact scripter.dialect.failsByScripting_createType scripter.options typesTyped typed
      | sequences => exact scripter.dialect.failsByScripting_createSequence scripter.options typed
      | tables => exact failsByScripting_tableDefinition typed
      | views => exact scripter.dialect.failsByScripting_createView scripter.options typed
      | functions =>
          have stored : scripter.dialect ≠ .postgreSql := fun isPostgreSql =>
            Bool.noConfusion (usual isPostgreSql)
          exact scripter.dialect.failsByScripting_createFunction scripter.options stored _ typed
      | procedures => exact scripter.dialect.failsByScripting_createProcedure scripter.options typed
      | triggers => exact scripter.dialect.failsByScripting_createTrigger scripter.options typed
  | addKeys table => exact failsByScripting_tableKeysAndIndexes typed
  | addForeignKeys table => exact failsByScripting_tableForeignKeys typed
  | createIndexes view => exact failsByScripting_viewIndexes typed

end Scripter

end SchemaDelta
