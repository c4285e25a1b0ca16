import SchemaDelta.Ddl.Table
import SchemaDelta.Proofs.Ddl.Identifier

/-!
# Typed tables

A typed table holds typed columns and typed rows of indexes, constraints and foreign keys.  The rows
of its indexes are those of its primary key and the others.
-/

namespace SchemaDelta

namespace ObjectClass

theorem table_declares_schema :
    table.declares "schema" .text = true := by
  decide

theorem table_declares_name :
    table.declares "name" .text = true := by
  decide

theorem table_declares_columns :
    table.declares "columns" (.objects column) = true := by
  decide

theorem table_declares_indexes :
    table.declares "indexes" (.objects index) = true := by
  decide

theorem table_declares_constraints :
    table.declares "constraints" (.objects constraint) = true := by
  decide

theorem table_declares_foreign_keys :
    table.declares "foreign_keys" (.objects foreignKey) = true := by
  decide

theorem table_declares_referencing_foreign_keys :
    table.declares "referencing_foreign_keys" (.objects foreignKey) = true := by
  decide

theorem table_declares_triggers :
    table.declares "triggers" (.objects trigger) = true := by
  decide

theorem view_declares_indexes :
    view.declares "indexes" (.objects index) = true := by
  decide

theorem database_declares_tables :
    database.declares "tables" (.objects table) = true := by
  decide

theorem database_declares_data_types :
    database.declares "data_types" (.objects dataType) = true := by
  decide

end ObjectClass

namespace Value

/-- The rows of the primary key of a table. -/
def primaryRows
    (table : Value) : List Value :=
  (table.rows "indexes").filter fun row => (row.get "is_primary_key").isTruthy

/-- The rows of the indexes of a table that belong to no primary key. -/
def secondaryRows
    (table : Value) : List Value :=
  (table.rows "indexes").filter fun row => !(row.get "is_primary_key").isTruthy

variable {table row : Value}

theorem column_isTyped
    (typed : table.isTyped .table = true)
    (member : row ∈ table.rows "columns") :
    row.isTyped .column = true :=
  isTyped_of_mem_rows typed ObjectClass.table_declares_columns member

theorem index_isTyped
    (typed : table.isTyped .table = true)
    (member : row ∈ table.rows "indexes") :
    row.isTyped .index = true :=
  isTyped_of_mem_rows typed ObjectClass.table_declares_indexes member

theorem primaryRow_isTyped
    (typed : table.isTyped .table = true)
    (member : row ∈ table.primaryRows) :
    row.isTyped .index = true :=
  index_isTyped typed (List.mem_filter.mp member).1

theorem secondaryRow_isTyped
    (typed : table.isTyped .table = true)
    (member : row ∈ table.secondaryRows) :
    row.isTyped .index = true :=
  index_isTyped typed (List.mem_filter.mp member).1

theorem constraint_isTyped
    (typed : table.isTyped .table = true)
    (member : row ∈ table.rows "constraints") :
    row.isTyped .constraint = true :=
  isTyped_of_mem_rows typed ObjectClass.table_declares_constraints member

theorem foreignKey_isTyped
    (typed : table.isTyped .table = true)
    (member : row ∈ table.rows "foreign_keys") :
    row.isTyped .foreignKey = true :=
  isTyped_of_mem_rows typed ObjectClass.table_declares_foreign_keys member

theorem referencingForeignKey_isTyped
    (typed : table.isTyped .table = true)
    (member : row ∈ table.rows "referencing_foreign_keys") :
    row.isTyped .foreignKey = true :=
  isTyped_of_mem_rows typed ObjectClass.table_declares_referencing_foreign_keys member

private theorem indexRows_ok
    (typed : table.isTyped .table = true)
    (isWanted : Bool → Bool) :
    table.indexRows isWanted =
      .ok (.list ((table.rows "indexes").filter fun row =>
        isWanted (row.get "is_primary_key").isTruthy)) := by
  have listed := partItems_of_isTyped typed ObjectClass.table_declares_indexes
  have filtered :
      ((table.rows "indexes").filterM fun row => do
          return isWanted (← row.part "is_primary_key").isTruthy) =
        .ok ((table.rows "indexes").filter fun row =>
          isWanted (row.get "is_primary_key").isTruthy) := by
    apply Attempt.filterM_ok
    intro row member
    have declared : ObjectClass.index.declares "is_primary_key" { item := .truth } = true := by
      decide
    rw [(part_of_isTyped (index_isTyped typed member) declared).1]
    rfl
  rcases isTyped_iff.mp typed with ⟨special, fields, rfl, special_isA, _⟩
  cases special with
  | table =>
      simp only [indexRows, listed, Attempt.ok_bind, filtered]
      rfl
  | postgreSqlTable =>
      simp only [indexRows, listed, Attempt.ok_bind, filtered]
      rfl
  | _ => exact absurd special_isA (by decide)

theorem primaryKeys_ok
    (typed : table.isTyped .table = true) :
    table.primaryKeys = .ok (.list table.primaryRows) :=
  indexRows_ok typed id

theorem secondaryIndexes_ok
    (typed : table.isTyped .table = true) :
    table.secondaryIndexes = .ok (.list table.secondaryRows) :=
  indexRows_ok typed not

end Value

namespace Dialect

variable {dialect : Dialect} {options : Options} {object : Value} {kind : ObjectClass}

/-- A text of a typed object is quoted without failure. -/
theorem quotePart_ok
    {name : String}
    (typed : object.isTyped kind = true)
    (declared : kind.declares name .text = true) :
    dialect.quotePart object name = .ok (dialect.quote (object.letters name)) := by
  rw [quotePart, Value.part_text_of_isTyped typed declared]
  rfl

/-- A typed object with a schema and a name has a name in statements. -/
theorem objectName_ok_of_declares
    (typed : object.isTyped kind = true)
    (declaresSchema : kind.declares "schema" .text = true)
    (declaresName : kind.declares "name" .text = true) :
    dialect.objectName options object =
      .ok (dialect.tableText options (object.letters "schema") (object.letters "name")) := by
  have given : object.required "obj" = .ok () := by
    rcases Value.isTyped_iff.mp typed with ⟨_, _, rfl, _, _⟩
    rfl
  rw [objectName, given, Attempt.ok_bind, Value.part_text_of_isTyped typed declaresSchema,
    Attempt.ok_bind, Value.part_text_of_isTyped typed declaresName, Attempt.ok_bind,
    qualifiedName_text]

/-- A typed table has a name in statements. -/
theorem objectName_ok
    {table : Value}
    (typed : table.isTyped .table = true) :
    dialect.objectName options table =
      .ok (dialect.tableText options (table.letters "schema") (table.letters "name")) :=
  objectName_ok_of_declares typed ObjectClass.table_declares_schema
    ObjectClass.table_declares_name

end Dialect

end SchemaDelta
