import SchemaDelta.Ddl.Identifier
import SchemaDelta.Ddl.Variant
import SchemaDelta.Text.Blank

/-!
# Columns of MySQL

The type and the full definition of a column.
-/

namespace SchemaDelta.MySql

/-- The dialect of this module. -/
abbrev dialect : Dialect := .mySql

/-- Types whose full spelling the column carries. -/
def spelledTypes : List String := [
  "bit", "tinyint", "smallint", "mediumint", "int", "integer", "bigint", "numeric", "decimal",
  "real", "double", "float", "date", "year", "time", "timestamp", "datetime", "binary",
  "varbinary", "blob", "tinyblob", "mediumblob", "longblob", "enum", "set", "json", "geometry",
  "point", "linestring", "polygon", "multipoint", "multilinestring", "multipolygon",
  "geometrycollection"]

/-- Character types with a length. -/
def characterTypes : List String := ["char", "varchar"]

/-- Character types without a length. -/
def textTypes : List String := ["text", "tinytext", "mediumtext", "longtext"]

/-- How the values of a column come about. -/
inductive Generation where
  | given
  /-- The values are generated and not stored. -/
  | computed
  /-- The values are generated and stored. -/
  | stored
deriving DecidableEq

/-- How the values of a column come about, by what the catalog says beside its type. -/
def generation
    (column : Value) : Attempt Generation := do
  let extra := Text.upper (← column.partText "extra")
  if extra == "VIRTUAL GENERATED" then return .computed
  if extra == "STORED GENERATED" then return .stored
  return .given

/-- The character set of a column. -/
def characterSetClause
    (column : Value) : Script := do
  let name ← column.part "character_set_name"
  return if name.isTruthy then " CHARACTER SET " ++ name.display else ""

/-- The character set and the collation of a column. -/
def characterClauses
    (options : Options)
    (column : Value) : Script := do
  return (← characterSetClause column) ++ (← dialect.collateClause options column)

/-- The type of a column that is not generated. -/
def plainType
    (options : Options)
    (column : Value) : Attempt Value := do
  let given ← column.part "data_type"
  let name := Text.lower (← given.asText)
  let full ← column.part "column_type"
  if spelledTypes.contains name then return full.orElse (.text name)
  if characterTypes.contains name then
    let length ← column.part "character_max_length"
    let type := full.orElse (.text (name ++ "(" ++ length.display ++ ")"))
    return .text (type.display ++ (← characterClauses options column))
  if textTypes.contains name then
    return .text ((full.orElse (.text name)).display ++ (← characterClauses options column))
  throw (.unknownDataType given.display dialect)

/-- The type of a generated column, which ends with a word for how its values are kept. -/
def generatedType
    (column : Value)
    (keeping : String) : Script := do
  return (← column.part "column_type").display ++ " AS (" ++
    (← column.part "generation_expression").display ++ ") " ++ keeping

/-- The type part of a column definition; a spelled type is whatever the column carries. -/
def columnType
    (options : Options)
    (column : Value) : Attempt Value := do
  dialect.expect .mySqlColumn column
  match ← generation column with
  | .computed => return .text (← generatedType column "VIRTUAL")
  | .stored => return .text (← generatedType column "STORED")
  | .given => plainType options column

/-- The definition of a column as it stands in a table. -/
def columnDefinition
    (options : Options)
    (column : Value) : Script := do
  dialect.expect .mySqlColumn column
  let named := (← dialect.quotePart column "name") ++ " " ++ (← columnType options column).display
  if (← generation column) ≠ .given then return named
  let nullable ← column.part "is_nullable"
  let default ← column.part "column_default"
  let extra := Text.trim (Text.erase "DEFAULT_GENERATED" (← column.partText "extra"))
  return named ++ " " ++ nullability nullable.isTruthy ++
    (if default.isNull then "" else " DEFAULT " ++ default.display) ++
    (if extra.isEmpty then "" else " " ++ extra)

end SchemaDelta.MySql
