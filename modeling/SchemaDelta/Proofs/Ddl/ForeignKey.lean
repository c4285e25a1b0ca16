import SchemaDelta.Proofs.Ddl.Grouping
import SchemaDelta.Proofs.Ddl.Identifier
import SchemaDelta.Proofs.Ddl.Table
import SchemaDelta.Proofs.Value.Replacing

/-!
# Foreign keys

A typed foreign key row can be told from others by the folded names of its table and of itself and by
its position.  The rows of a foreign key are found by the columns that any of them references.
-/

namespace SchemaDelta

open Value (rowGroups)

namespace ObjectClass

theorem foreignKey_declares_name :
    foreignKey.declares "name" .text = true := by
  decide

theorem foreignKey_declares_table_schema :
    foreignKey.declares "table_schema" .text = true := by
  decide

theorem foreignKey_declares_table_name :
    foreignKey.declares "table_name" .text = true := by
  decide

theorem foreignKey_declares_ordinal_position :
    foreignKey.declares "ordinal_position" .int = true := by
  decide

end ObjectClass

namespace Dialect

/-- What makes a foreign key row the same as another. -/
def identityOf
    (dialect : Dialect)
    (row : Value) : String × String × String × Int :=
  (dialect.foldedPart "table_schema" row, dialect.foldedPart "table_name" row,
    dialect.foldedPart "name" row, row.number "ordinal_position")

/-- An identity as the list of its parts. -/
def identityKey
    (identity : String × String × String × Int) : Value :=
  .list [.text identity.1, .text identity.2.1, .text identity.2.2.1, .int identity.2.2.2]

/-- Foreign key rows, each identity once. -/
def uniqueRows
    (dialect : Dialect)
    (rows : List Value) : List Value :=
  Keyed.firstByKey dialect.identityOf rows

/-- The groups with a row that references one of some columns. -/
def referencingGroups
    (dialect : Dialect)
    (columns : List String)
    (rows : List Value) : List (List Value) :=
  (rowGroups rows).filter fun group =>
    group.any fun row => columns.contains (dialect.foldedPart "referenced_column_name" row)

theorem identityKey_beq
    (left right : String × String × String × Int) :
    (identityKey left == identityKey right) = (left == right) := by
  rcases left with ⟨schema, table, name, position⟩
  rcases right with ⟨schema', table', name', position'⟩
  rw [Bool.eq_iff_iff]
  simp [identityKey]

variable (dialect : Dialect) {rows : List Value} {row : Value}

theorem foreignKeyIdentity_ok
    (typed : row.isTyped .foreignKey = true) :
    dialect.foreignKeyIdentity row =
      .ok [.text (dialect.foldedPart "table_schema" row),
        .text (dialect.foldedPart "table_name" row), .text (dialect.foldedPart "name" row),
        .int (row.number "ordinal_position")] := by
  simp only [foreignKeyIdentity, Attempt.ok_bind, nameKey_text,
    Value.part_text_of_isTyped typed ObjectClass.foreignKey_declares_table_schema,
    Value.part_text_of_isTyped typed ObjectClass.foreignKey_declares_table_name,
    Value.part_text_of_isTyped typed ObjectClass.foreignKey_declares_name,
    Value.part_int_of_isTyped typed ObjectClass.foreignKey_declares_ordinal_position]
  rfl

/-- Foreign key rows are put under their identities without failure. -/
theorem identified_ok
    (typed : ∀ row ∈ rows, row.isTyped .foreignKey = true) :
    dialect.identified rows =
      .ok (rows.map fun row => (identityKey (dialect.identityOf row), row)) := by
  apply Attempt.mapM_ok
  intro row member
  rw [dialect.foreignKeyIdentity_ok (typed row member)]
  rfl

/-- Rows under their identities, each identity once. -/
theorem firstByKey_identified
    (rows : List Value) :
    Keyed.firstByKey (·.1) (rows.map fun row => (identityKey (dialect.identityOf row), row)) =
      (dialect.uniqueRows rows).map fun row => (identityKey (dialect.identityOf row), row) := by
  have first :
      Keyed.firstByKey (fun row => identityKey (dialect.identityOf row)) rows =
        dialect.uniqueRows rows :=
    Keyed.firstByKey_congr _ _
      (fun left right => identityKey_beq (dialect.identityOf left) (dialect.identityOf right)) rows
  rw [Keyed.firstByKey_map]
  exact congrArg _ first

/-- Repeated rows are left out without failure. -/
theorem uniqueForeignKeys_ok
    (typed : ∀ row ∈ rows, row.isTyped .foreignKey = true) :
    dialect.uniqueForeignKeys rows = .ok (dialect.uniqueRows rows) := by
  rw [uniqueForeignKeys, dialect.identified_ok typed, Attempt.ok_bind, firstByKey_identified,
    List.map_map]
  exact congrArg Except.ok (List.map_id _)

/-- The rows of the foreign keys that reference one of some columns are found without failure. -/
theorem referencing_ok
    (columns : List String)
    (typed : ∀ row ∈ rows, row.isTyped .foreignKey = true) :
    dialect.referencing (columns.map .text) (.list rows) =
      .ok (dialect.referencingGroups columns rows).flatten := by
  have areRows : ∀ row ∈ rows, row.IsRow :=
    fun row member => Value.isRow_of_foreignKey (typed row member)
  have filtered :
      ((rowGroups rows).filterM fun group => group.anyM fun row => do
          return (columns.map Value.text).contains
            (← dialect.partKey "referenced_column_name" row)) =
        .ok (dialect.referencingGroups columns rows) := by
    apply Attempt.filterM_ok
    intro group member
    apply Attempt.anyM_ok
    intro row rowMember
    have rowTyped := typed row ((Value.mem_of_mem_rowGroups member).mp rowMember).1
    rw [dialect.partKey_ok (Value.part_text_of_isTyped rowTyped (by decide)), Attempt.ok_bind,
      contains_map_text]
    rfl
  rw [referencing, Value.groups_ok areRows, Attempt.ok_bind, filtered]
  rfl

/-- A row is found when a row with the same name references one of the columns. -/
theorem mem_referencingGroups_iff
    {columns : List String} :
    row ∈ (dialect.referencingGroups columns rows).flatten ↔
      row ∈ rows ∧ ∃ mate ∈ rows, mate.letters "name" = row.letters "name" ∧
        dialect.foldedPart "referenced_column_name" mate ∈ columns := by
  constructor
  · intro member
    rcases List.mem_flatten.mp member with ⟨group, found, rowMember⟩
    rcases List.mem_filter.mp found with ⟨grouped, references⟩
    rcases List.any_eq_true.mp references with ⟨mate, mateMember, referenced⟩
    rcases (Value.mem_of_mem_rowGroups grouped).mp rowMember with ⟨held, named⟩
    rcases (Value.mem_of_mem_rowGroups grouped).mp mateMember with ⟨mateHeld, mateNamed⟩
    exact ⟨held, mate, mateHeld, mateNamed.trans named.symm, List.contains_iff_mem.mp referenced⟩
  · rintro ⟨held, mate, mateHeld, sameName, referenced⟩
    refine List.mem_flatten.mpr ⟨Value.namedRows rows (row.letters "name"),
      List.mem_filter.mpr ⟨Value.exists_mem_rowGroups held, List.any_eq_true.mpr ?_⟩,
      Value.mem_namedRows.mpr ⟨held, rfl⟩⟩
    exact ⟨mate, Value.mem_namedRows.mpr ⟨mateHeld, sameName⟩,
      List.contains_iff_mem.mpr referenced⟩

end Dialect

/-! ## Rows without a table -/

namespace Value

/-- A foreign key row that names its table; one that names none belongs to the given table. -/
def onTable
    (table row : Value) : Value :=
  if (row.letters "table_name").isEmpty then
    row.withParts [("table_schema", table.get "schema"), ("table_name", table.get "name")]
  else row

variable {table row : Value}

private theorem tableParts_fit
    (tableTyped : table.isTyped .table = true) :
    PartsFit [("table_schema", table.get "schema"), ("table_name", table.get "name")]
      .foreignKey := by
  intro part member
  rcases List.mem_cons.mp member with rfl | member
  · exact ⟨.text, ObjectClass.foreignKey_declares_table_schema,
      (part_of_isTyped tableTyped ObjectClass.table_declares_schema).2⟩
  · obtain rfl := List.mem_singleton.mp member
    exact ⟨.text, ObjectClass.foreignKey_declares_table_name,
      (part_of_isTyped tableTyped ObjectClass.table_declares_name).2⟩

theorem definedOn_ok
    (typed : row.isTyped .foreignKey = true)
    (tableTyped : table.isTyped .table = true) :
    row.definedOn table = .ok (table.onTable row) := by
  rw [definedOn, part_text_of_isTyped typed ObjectClass.foreignKey_declares_table_name,
    Attempt.ok_bind, onTable, isTruthy]
  cases (row.letters "table_name").isEmpty with
  | false => rfl
  | true =>
      simp only [Bool.not_true, Bool.false_eq_true, if_false, if_true,
        (part_of_isTyped tableTyped ObjectClass.table_declares_schema).1,
        (part_of_isTyped tableTyped ObjectClass.table_declares_name).1, Attempt.ok_bind]
      exact replaceParts_ok typed (tableParts_fit tableTyped)

/-- A row stays typed when it is put on a table. -/
theorem isTyped_onTable
    (typed : row.isTyped .foreignKey = true)
    (tableTyped : table.isTyped .table = true) :
    (table.onTable row).isTyped .foreignKey = true := by
  unfold onTable
  split
  · exact isTyped_withParts typed (tableParts_fit tableTyped)
  · exact typed

end Value

end SchemaDelta
