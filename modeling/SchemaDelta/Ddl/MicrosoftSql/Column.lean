import SchemaDelta.Ddl.Identifier
import SchemaDelta.Ddl.Variant

/-!
# Columns of Microsoft SQL

The type and the full definition of a column.
-/

namespace SchemaDelta.MicrosoftSql

/-- The dialect of this module. -/
abbrev dialect : Dialect := .microsoftSql

/-- Types that are written as a quoted name. -/
def fixedTypes : List String := [
  "bigint", "int", "smallint", "tinyint", "bit", "smallmoney", "money", "real", "date",
  "datetime", "smalldatetime", "image", "cursor", "rowversion", "timestamp", "hierarchyid",
  "uniqueidentifier", "sql_variant", "xml", "geography", "geometry", "sysname"]

/-- A length, where minus one has no bound. -/
def lengthText
    (length : Value) : String :=
  if length == .int (-1) then "max" else length.display

/-- The precision and scale of an exact number, as far as they are given. -/
def numericClause
    (precision scale : Value) : String :=
  if precision.isNull then ""
  else if scale.isNull then "(" ++ precision.display ++ ")"
  else "(" ++ precision.display ++ ", " ++ scale.display ++ ")"

/-- The type of a column that is neither computed nor of an alias type. -/
def systemType
    (options : Options)
    (column : Value) : Script := do
  let given ← column.part "data_type"
  let name ← given.asText
  let quoted := dialect.quote name
  if fixedTypes.contains name then return quoted
  if name == "numeric" || name == "decimal" then
    let precision ← column.part "numeric_precision"
    return quoted ++ numericClause precision (← column.part "numeric_scale")
  if name == "float" then
    let precision ← column.part "numeric_precision"
    if precision.isNull || precision == .int 53 then return quoted
    return quoted ++ "(" ++ precision.display ++ ")"
  if name == "datetimeoffset" || name == "datetime2" || name == "time" then
    return quoted ++ "(" ++ (← column.part "datetime_precision").display ++ ")"
  let length ← column.part "character_max_length"
  if name == "char" || name == "nchar" then
    return quoted ++ "(" ++ length.display ++ ")" ++ (← dialect.collateClause options column)
  if name == "varchar" || name == "nvarchar" then
    return quoted ++ "(" ++ lengthText length ++ ")" ++ (← dialect.collateClause options column)
  if name == "text" || name == "ntext" then
    return quoted ++ (← dialect.collateClause options column)
  if name == "binary" then return quoted ++ "(" ++ length.display ++ ")"
  if name == "varbinary" then return quoted ++ "(" ++ lengthText length ++ ")"
  throw (.unknownDataType given.display dialect)

/-- The type part of a column definition. -/
def columnType
    (options : Options)
    (column : Value) : Script := do
  dialect.expect .microsoftSqlColumn column
  if (← column.part "is_computed").isTruthy then
    return "AS " ++ (← column.part "definition").display
  if (← column.part "is_user_defined_type").isTruthy then
    return ← dialect.qualifiedName options (← column.part "user_type_schema")
      (← column.part "data_type")
  systemType options column

/-- The identity of a column, if it has one. -/
def identityClause
    (column : Value) : Script := do
  if !(← column.part "is_identity").isTruthy then return ""
  return " IDENTITY(" ++ (← column.part "identity_seed").display ++ "," ++
    (← column.part "identity_increment").display ++ ")"

/-- The definition of a column as it stands in a table. -/
def columnDefinition
    (options : Options)
    (column : Value) : Script := do
  dialect.expect .microsoftSqlColumn column
  let named := (← dialect.quotePart column "name") ++ " " ++ (← columnType options column)
  if (← column.part "is_computed").isTruthy then
    return if (← column.part "is_persisted").isTruthy then named ++ " PERSISTED" else named
  let default ← column.part "column_default"
  return named ++ (← identityClause column) ++
    (if default.isNull then "" else " DEFAULT " ++ default.display) ++ " " ++
    nullability (← column.part "is_nullable").isTruthy

end SchemaDelta.MicrosoftSql
