import SchemaDelta.Ddl.Identifier
import SchemaDelta.Ddl.Variant
import SchemaDelta.Text.Blank

/-!
# Columns of PostgreSQL

The type and the full definition of a column.
-/

namespace SchemaDelta.PostgreSql

/-- The dialect of this module. -/
abbrev dialect : Dialect := .postgreSql

/-- Catalog names of types with their spelling in statements. -/
def typeSpellings : List (String × String) := [
  ("int8", "bigint"), ("serial8", "bigserial"), ("varbit", "bit varying"), ("bool", "boolean"),
  ("bpchar", "character"), ("char", "character"), ("varchar", "character varying"),
  ("float8", "double precision"), ("int", "integer"), ("int4", "integer"),
  ("decimal", "numeric"), ("float4", "real"), ("int2", "smallint"), ("serial2", "smallserial"),
  ("serial4", "serial"), ("time", "time without time zone"), ("timetz", "time with time zone"),
  ("timestamp", "timestamp without time zone"), ("timestamptz", "timestamp with time zone")]

/-- The spelling of a type in statements. -/
def typeSpelling
    (name : String) : String :=
  (typeSpellings.lookup name).getD name

/-- The spelling of a type whose name may be any value; one without a spelling stays as it is. -/
def typeSpellingOf
    (name : Value) : Attempt Value := do
  match (← name.asKey).asText?.bind fun name => typeSpellings.lookup name with
  | some spelling => return .text spelling
  | none => return name

/-- Types that are written as they are. -/
def fixedTypes : List String := [
  "smallint", "integer", "bigint", "real", "double precision", "money", "date", "bytea",
  "boolean", "point", "line", "lseg", "box", "path", "polygon", "circle", "inet", "cidr",
  "macaddr", "macaddr8", "tsvector", "tsquery", "uuid", "xml", "json", "jsonb", "pg_lsn",
  "txid_snapshot"]

/-- Types of points in time, as the word before the precision and the words after it. -/
def zonedTypes : List (String × String × String) := [
  ("time with time zone", "time", "with time zone"),
  ("time without time zone", "time", "without time zone"),
  ("timestamp with time zone", "timestamp", "with time zone"),
  ("timestamp without time zone", "timestamp", "without time zone")]

/-- The precision of points in time that is not written. -/
def usualPrecision : Int := 6

/-- The precision of a point in time, where it is not the usual one. -/
def precisionClause
    (column : Value) : Script := do
  let precision ← column.part "datetime_precision"
  if precision.isNull || precision == .int usualPrecision then return ""
  return "(" ++ precision.display ++ ")"

/-- The length of a type, if it has one. -/
def lengthClause
    (column : Value) : Script := do
  let length ← column.part "character_max_length"
  return if length.isNull then "" else "(" ++ length.display ++ ")"

/-- The name of the type that a column takes from the catalog. -/
def catalogName
    (column type : Value) : Attempt Value := do
  let name ← column.part "udt_name"
  if !name.isTruthy then throw (.unknownDataType type.display dialect)
  return name

/-- The type of a column by the name of the type. -/
def namedType
    (options : Options)
    (column : Value)
    (name : String) : Attempt Value := do
  if fixedTypes.contains name then return .text name
  if name == "numeric" || name == "decimal" then
    let precision ← column.part "numeric_precision"
    if precision.isNull then return .text "numeric"
    let scale ← column.part "numeric_scale"
    return .text ("numeric(" ++ precision.display ++ "," ++ (scale.orElse (.int 0)).display ++ ")")
  if name == "character" || name == "character varying" then
    return .text (name ++ (← lengthClause column) ++ (← dialect.collateClause options column))
  if name == "text" then return .text ("text" ++ (← dialect.collateClause options column))
  if let some (base, zone) := zonedTypes.lookup name then
    return .text (base ++ (← precisionClause column) ++ " " ++ zone)
  if name == "interval" then
    let fields ← column.part "interval_type"
    if fields.isTruthy then return .text ("interval " ++ fields.display)
    return .text ("interval" ++ (← precisionClause column))
  if name == "bit" || name == "bit varying" then return .text (name ++ (← lengthClause column))
  if name == "USER-DEFINED" then return ← catalogName column (.text name)
  if name == "ARRAY" then
    let element ← (← catalogName column (.text name)).asText
    return .text (typeSpelling (Text.dropLeading '_' element) ++ "[]")
  throw (.unknownDataType name dialect)

/-- The type part of a column definition; a type of the catalog is whatever the column carries. -/
def columnType
    (options : Options)
    (column : Value) : Attempt Value := do
  dialect.expect .postgreSqlColumn column
  let given ← (← column.part "data_type").asKey
  match given with
  | .text name => namedType options column name
  | other => throw (.unknownDataType other.display dialect)

/-- How the values of a column are generated, if they are. -/
def generationClause
    (column : Value) : Script := do
  let identity ← column.part "identity_generation"
  if identity.isTruthy then
    return " GENERATED " ++ Text.upper (← identity.asText) ++ " AS IDENTITY"
  let expression ← column.part "generation_expression"
  if expression.isTruthy then
    return " GENERATED ALWAYS AS (" ++ expression.display ++ ") STORED"
  return ""

/-- The definition of a column as it stands in a table. -/
def columnDefinition
    (options : Options)
    (column : Value) : Script := do
  dialect.expect .postgreSqlColumn column
  let named := (← dialect.quotePart column "name") ++ " " ++ (← columnType options column).display
  let nullable ← column.part "is_nullable"
  let default ← column.part "column_default"
  return named ++ " " ++ nullability nullable.isTruthy ++
    (if default.isNull then "" else " DEFAULT " ++ default.display) ++ (← generationClause column)

end SchemaDelta.PostgreSql
