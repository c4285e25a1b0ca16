import SchemaDelta.Proofs.Value.Reading
import SchemaDelta.Snapshot.Document

/-!
# Objects with usual values

An object takes the usual value of its class in every field that is not given.  The usual values are
of the declared types, so that the object is typed when the given values are and none is missing.
-/

namespace SchemaDelta

/-- The values given for a class are of the declared types, and none that has to be given is missing. -/
def ObjectClass.accepts
    (kind : ObjectClass)
    (given : List (String × Value)) : Bool :=
  kind.fields.all fun info =>
    match given.lookup info.name with
    | some value => value.conforms info.type
    | none => info.default?.isSome

namespace Value

/-- An object of a class with given values in some fields and the usual values in the others. -/
def filled
    (kind : ObjectClass)
    (given : List (String × Value)) : Value :=
  .object kind (kind.fields.map fun info =>
    (info.name, (given.lookup info.name).getD (info.default?.getD .null)))

/-- What is constructed from given values is filled with the usual ones. -/
theorem eq_filled_of_construct
    {kind : ObjectClass}
    {given : List (String × Value)}
    {value : Value}
    (constructed : construct kind given = .ok value) :
    value = filled kind given := by
  unfold construct at constructed
  dsimp only at constructed
  split at constructed
  · cases constructed
  · cases constructed
  · split at constructed
    · cases constructed
      rfl
    · cases constructed

/-- Every usual value is of the type of its field. -/
theorem default_conforms
    {kind : ObjectClass}
    {info : FieldInfo}
    (member : info ∈ kind.fields)
    {value : Value}
    (default : info.default? = some value) :
    value.conforms info.type = true := by
  have checked : ∀ kind : ObjectClass,
      (kind.fields.all fun info => (info.default?.all fun value => value.conforms info.type)) =
        true := by
    intro kind
    cases kind <;> decide
  have conforms := List.all_eq_true.mp (checked kind) info member
  rw [default] at conforms
  exact conforms

private theorem fieldsConform_filled
    {kind : ObjectClass}
    {given : List (String × Value)}
    {infos : List FieldInfo}
    (ofKind : ∀ info ∈ infos, info ∈ kind.fields)
    (accepted : (infos.all fun info =>
      match given.lookup info.name with
      | some value => value.conforms info.type
      | none => info.default?.isSome) = true) :
    fieldsConform (infos.map fun info =>
      (info.name, (given.lookup info.name).getD (info.default?.getD .null))) infos = true := by
  induction infos with
  | nil => rfl
  | cons info infos ih =>
      rw [List.all_cons, Bool.and_eq_true] at accepted
      have rest := ih (fun other member => ofKind other (List.mem_cons_of_mem info member))
        accepted.2
      simp only [List.map_cons, fieldsConform, beq_self_eq_true, Bool.true_and, rest,
        Bool.and_true]
      have first := accepted.1
      cases found : given.lookup info.name with
      | some value =>
          rw [found] at first
          exact first
      | none =>
          rw [found] at first
          rcases Option.isSome_iff_exists.mp first with ⟨value, default⟩
          rw [default]
          exact default_conforms (ofKind info List.mem_cons_self) default

/-- A field holds what it holds without the value given for another one. -/
theorem part_filled_cons_of_ne
    {kind : ObjectClass}
    {name field : String}
    (differs : field ≠ name)
    (value : Value)
    (given : List (String × Value)) :
    (filled kind ((name, value) :: given)).part field = (filled kind given).part field := by
  have same : ∀ infos : List FieldInfo,
      (infos.map fun info =>
          (info.name, (((name, value) :: given).lookup info.name).getD
            (info.default?.getD .null))).lookup field =
        (infos.map fun info =>
          (info.name, (given.lookup info.name).getD (info.default?.getD .null))).lookup field := by
    intro infos
    induction infos with
    | nil => rfl
    | cons info infos ih =>
        simp only [List.map_cons, List.lookup_cons]
        cases inField : field == info.name with
        | false => exact ih
        | true => rw [← beq_iff_eq.mp inField, beq_false_of_ne differs]
  rw [filled, filled, part, part, same]

/-- An object is typed when the values given for it are accepted. -/
theorem isTyped_filled
    {kind general : ObjectClass}
    {given : List (String × Value)}
    (accepted : kind.accepts given = true)
    (kind_isA : kind.isA general = true) :
    (filled kind given).isTyped general = true :=
  isTyped_iff.mpr ⟨kind, _, rfl, kind_isA, fieldsConform_filled (fun _ member => member) accepted⟩

/-! ## Objects of PostgreSQL -/

/-- A column with a name, a type and a position. -/
def plainColumn
    (name dataType : String)
    (position : Int) : Value :=
  filled .postgreSqlColumn [
    ("name", .text name), ("data_type", .text dataType), ("ordinal_position", .int position)]

/-- The one row of an index on one column. -/
def plainIndex
    (table name column : String)
    (isPrimaryKey : Bool) : Value :=
  filled .postgreSqlIndex [
    ("name", .text name), ("schema", .text "public"), ("table_schema", .text "public"),
    ("table_name", .text table), ("column_name", .text column), ("ordinal_position", .int 1),
    ("is_unique", .bool true), ("is_primary_key", .bool isPrimaryKey)]

/-- The one row of a foreign key on one column. -/
def plainForeignKey
    (table name column referencedTable referencedColumn : String)
    (deleteRule : ReferentialAction) : Value :=
  filled .postgreSqlForeignKey [
    ("name", .text name), ("schema", .text "public"), ("table_schema", .text "public"),
    ("table_name", .text table), ("column_name", .text column), ("ordinal_position", .int 1),
    ("referenced_table_schema", .text "public"), ("referenced_table_name", .text referencedTable),
    ("referenced_column_name", .text referencedColumn),
    ("delete_rule", .member (.action deleteRule))]

/-- A table with columns, index rows, and rows of its own and of inbound foreign keys. -/
def plainTable
    (name : String)
    (columns indexes foreignKeys referencing : List Value) : Value :=
  filled .postgreSqlTable [
    ("name", .text name), ("schema", .text "public"), ("columns", .list columns),
    ("indexes", .list indexes), ("foreign_keys", .list foreignKeys),
    ("referencing_foreign_keys", .list referencing)]

/-- A database of PostgreSQL with tables and nothing else. -/
def plainDatabase
    (name : String)
    (tables : List Value) : Value :=
  filled .database [
    ("name", .text name), ("dialect", .member (.dialect .postgreSql)), ("tables", .list tables)]

theorem isTyped_plainColumn
    (name dataType : String)
    (position : Int) :
    (plainColumn name dataType position).isTyped .column = true :=
  isTyped_filled rfl rfl

theorem isTyped_plainIndex
    (table name column : String)
    (isPrimaryKey : Bool) :
    (plainIndex table name column isPrimaryKey).isTyped .index = true :=
  isTyped_filled rfl rfl

theorem isTyped_plainForeignKey
    (table name column referencedTable referencedColumn : String)
    (deleteRule : ReferentialAction) :
    (plainForeignKey table name column referencedTable referencedColumn deleteRule).isTyped
      .foreignKey = true :=
  isTyped_filled rfl rfl

theorem isTyped_plainTable
    (name : String)
    {columns indexes foreignKeys referencing : List Value}
    (columnsTyped : ∀ column ∈ columns, column.isTyped .column = true)
    (indexesTyped : ∀ row ∈ indexes, row.isTyped .index = true)
    (foreignKeysTyped : ∀ row ∈ foreignKeys, row.isTyped .foreignKey = true)
    (referencingTyped : ∀ row ∈ referencing, row.isTyped .foreignKey = true) :
    (plainTable name columns indexes foreignKeys referencing).isTyped .table = true := by
  refine isTyped_filled ?_ rfl
  have listed : ∀ {kind : ObjectClass} {items : List Value},
      (∀ item ∈ items, item.isTyped kind = true) →
        (list items).conforms (.objects kind) = true := by
    intro kind items typed
    exact allConform_iff.mpr typed
  have accepted :
      ObjectClass.postgreSqlTable.accepts [
          ("name", .text name), ("schema", .text "public"), ("columns", .list columns),
          ("indexes", .list indexes), ("foreign_keys", .list foreignKeys),
          ("referencing_foreign_keys", .list referencing)] =
        ((list columns).conforms (.objects .column) && ((list indexes).conforms (.objects .index)
          && (true && ((list foreignKeys).conforms (.objects .foreignKey) &&
            ((list referencing).conforms (.objects .foreignKey) && true))))) :=
    rfl
  rw [accepted, listed columnsTyped, listed indexesTyped, listed foreignKeysTyped,
    listed referencingTyped]
  rfl

theorem isTyped_plainDatabase
    (name : String)
    {tables : List Value}
    (tablesTyped : ∀ table ∈ tables, table.isTyped .table = true) :
    (plainDatabase name tables).isTyped .database = true := by
  refine isTyped_filled ?_ rfl
  have listed : (list tables).conforms (.objects .table) = true :=
    allConform_iff.mpr tablesTyped
  have accepted :
      ObjectClass.database.accepts [
          ("name", .text name), ("dialect", .member (.dialect .postgreSql)),
          ("tables", .list tables)] =
        (true && (true && ((list tables).conforms (.objects .table) && true))) :=
    rfl
  rw [accepted, listed]
  rfl

end Value

end SchemaDelta
