import SchemaDelta.Value.Basic

/-!
# Fields of the object classes

The fields of every class in the order in which they are stored, the fields of a more general class
first, with what they are meant to hold and the value that a field takes when a snapshot leaves it
out.
-/

namespace SchemaDelta

/-- What a field or an item of a list is meant to hold. -/
inductive ItemType where
  | text
  | truth
  | int
  /-- An integer or a floating point number. -/
  | number
  | dialect
  | action
  | indexKind
  /-- An object of a class or of a more special one. -/
  | object (kind : ObjectClass)
deriving DecidableEq

/-- What a field is meant to hold: one thing or a list of them, or nothing where that is allowed. -/
structure FieldType where
  item : ItemType
  isList : Bool := false
  isOptional : Bool := false
deriving DecidableEq

/-- A field of a class; without a default a snapshot has to give it. -/
structure FieldInfo where
  name : String
  type : FieldType
  default? : Option Value

namespace ObjectClass

/-- A field that a snapshot has to give. -/
def required
    (name : String)
    (item : ItemType) : FieldInfo :=
  ⟨name, { item }, none⟩

/-- A field with a usual value. -/
def usual
    (name : String)
    (item : ItemType)
    (value : Value) : FieldInfo :=
  ⟨name, { item }, some value⟩

/-- A field that may hold nothing, and usually does. -/
def optional
    (name : String)
    (item : ItemType) : FieldInfo :=
  ⟨name, { item, isOptional := true }, some .null⟩

/-- A field that holds a list, which is usually empty. -/
def listed
    (name : String)
    (item : ItemType) : FieldInfo :=
  ⟨name, { item, isList := true }, some (.list [])⟩

/-- A field that holds a list or, as usual, nothing. -/
def optionalList
    (name : String)
    (item : ItemType) : FieldInfo :=
  ⟨name, { item, isList := true, isOptional := true }, some .null⟩

/-- The fields of every schema object. -/
def objectFields : List FieldInfo := [
  required "name" .text,
  usual "schema" .text (.text ""),
  usual "is_user_defined" .truth (.bool true)]

/-- The fields of every column. -/
def columnFields : List FieldInfo := [
  required "name" .text,
  required "data_type" .text,
  usual "is_nullable" .truth (.bool true),
  optional "column_default" .text,
  usual "ordinal_position" .int (.int 0),
  optional "collation_name" .text,
  optional "character_max_length" .int]

/-- The fields that name the table of a row. -/
def tableFields : List FieldInfo := [
  usual "table_schema" .text (.text ""),
  usual "table_name" .text (.text "")]

/-- The fields of every index. -/
def indexFields : List FieldInfo :=
  objectFields ++ tableFields ++ [
    usual "column_name" .text (.text ""),
    usual "ordinal_position" .int (.int 0),
    usual "is_descending" .truth (.bool false),
    usual "is_unique" .truth (.bool false),
    usual "is_primary_key" .truth (.bool false),
    optional "filter_definition" .text]

/-- The fields of every foreign key. -/
def foreignKeyFields : List FieldInfo :=
  objectFields ++ tableFields ++ [
    usual "column_name" .text (.text ""),
    usual "ordinal_position" .int (.int 0),
    usual "referenced_table_schema" .text (.text ""),
    usual "referenced_table_name" .text (.text ""),
    usual "referenced_column_name" .text (.text ""),
    usual "update_rule" .action (.member (.action .noAction)),
    usual "delete_rule" .action (.member (.action .noAction))]

/-- The fields of every view. -/
def viewFields : List FieldInfo :=
  objectFields ++ [usual "view_definition" .text (.text ""), listed "indexes" (.object .index)]

/-- The fields of an object that is stored by its definition. -/
def definedFields : List FieldInfo :=
  objectFields ++ [usual "definition" .text (.text "")]

/-- The fields of every sequence. -/
def sequenceFields : List FieldInfo :=
  objectFields ++ [
    usual "data_type" .text (.text "bigint"),
    usual "start_value" .int (.int 1),
    usual "increment" .int (.int 1),
    optional "min_value" .int,
    optional "max_value" .int,
    usual "is_cycling" .truth (.bool false)]

/-- The fields of every PostgreSQL type. -/
def postgreSqlTypeFields : List FieldInfo :=
  objectFields ++ [
    usual "type_id" .int (.int 0),
    usual "is_array" .truth (.bool false),
    optional "array_type_id" .int]

/-- The fields of every table. -/
def everyTableFields : List FieldInfo :=
  objectFields ++ [
    listed "columns" (.object .column),
    listed "indexes" (.object .index),
    listed "constraints" (.object .constraint),
    listed "foreign_keys" (.object .foreignKey),
    listed "referencing_foreign_keys" (.object .foreignKey),
    listed "triggers" (.object .trigger)]

/-- The fields of a class. -/
def fields : ObjectClass → List FieldInfo
  | schemaObject => objectFields
  | column => columnFields
  | microsoftSqlColumn => columnFields ++ [
      optional "numeric_precision" .int,
      optional "numeric_scale" .int,
      optional "datetime_precision" .int,
      usual "is_identity" .truth (.bool false),
      usual "identity_seed" .int (.int 1),
      usual "identity_increment" .int (.int 1),
      usual "is_computed" .truth (.bool false),
      usual "is_persisted" .truth (.bool false),
      optional "definition" .text,
      usual "is_user_defined_type" .truth (.bool false),
      optional "user_type_schema" .text]
  | mySqlColumn => columnFields ++ [
      usual "column_type" .text (.text ""),
      optional "numeric_precision" .int,
      optional "numeric_scale" .int,
      optional "character_set_name" .text,
      usual "extra" .text (.text ""),
      optional "generation_expression" .text]
  | postgreSqlColumn => columnFields ++ [
      optional "numeric_precision" .int,
      optional "numeric_scale" .int,
      optional "datetime_precision" .int,
      optional "interval_type" .text,
      optional "udt_name" .text,
      optional "identity_generation" .text,
      optional "generation_expression" .text]
  | index => indexFields
  | microsoftSqlIndex => indexFields ++ [
      usual "type" .indexKind (.member (.indexKind .nonclustered))]
  | mySqlIndex => indexFields ++ [usual "index_type" .text (.text "BTREE")]
  | postgreSqlIndex => indexFields ++ [usual "type" .text (.text "btree")]
  | constraint => objectFields ++ tableFields ++ [usual "definition" .text (.text "")]
  | foreignKey => foreignKeyFields
  | postgreSqlForeignKey => foreignKeyFields ++ [
      usual "match_option" .text (.text "NONE"),
      usual "is_deferrable" .truth (.bool false),
      usual "is_initially_deferred" .truth (.bool false)]
  | trigger => objectFields ++ tableFields ++ [usual "definition" .text (.text "")]
  | view => viewFields
  | postgreSqlView => viewFields ++ [usual "check_option" .text (.text "NONE")]
  | function => definedFields
  | postgreSqlFunction => definedFields ++ [
      usual "return_type" .int (.int 0),
      usual "return_set" .truth (.bool false),
      usual "external_language" .text (.text "plpgsql"),
      usual "cost" .number (.int 100),
      usual "rows" .number (.int 0),
      usual "volatile" .text (.text "v"),
      usual "security_type" .text (.text "INVOKER"),
      usual "is_strict" .truth (.bool false),
      listed "arg_types" .int,
      optionalList "all_arg_types" .int,
      optionalList "arg_modes" .text,
      optionalList "arg_names" .text]
  | storedProcedure => definedFields
  | sequence => sequenceFields
  | postgreSqlSequence => sequenceFields ++ [usual "cache" .int (.int 1)]
  | dataType => objectFields
  | microsoftSqlDataType => objectFields ++ [
      usual "system_type_name" .text (.text ""),
      usual "max_length" .int (.int 0),
      usual "precision" .int (.int 0),
      usual "scale" .int (.int 0),
      usual "is_nullable" .truth (.bool true)]
  | postgreSqlDataType => postgreSqlTypeFields
  | postgreSqlDataTypeEnumerated => postgreSqlTypeFields ++ [listed "labels" .text]
  | postgreSqlDataTypeComposite => postgreSqlTypeFields ++ [
      listed "attribute_names" .text,
      listed "attribute_type_ids" .int]
  | postgreSqlDataTypeRange => postgreSqlTypeFields ++ [
      usual "sub_type_id" .int (.int 0),
      optional "canonical" .text,
      optional "sub_type_diff" .text]
  | postgreSqlDataTypeDomain => postgreSqlTypeFields ++ [
      usual "base_type_id" .int (.int 0),
      optional "constraint_name" .text,
      optional "constraint_definition" .text,
      usual "not_null" .truth (.bool false)]
  | table => everyTableFields
  | postgreSqlTable => everyTableFields ++ [
      optional "inherited_table_schema" .text,
      optional "inherited_table_name" .text]
  | database => [
      required "name" .text,
      required "dialect" .dialect,
      listed "tables" (.object .table),
      listed "views" (.object .view),
      listed "functions" (.object .function),
      listed "stored_procedures" (.object .storedProcedure),
      listed "sequences" (.object .sequence),
      listed "data_types" (.object .dataType)]

end ObjectClass

end SchemaDelta
