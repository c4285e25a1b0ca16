import SchemaDelta.Ddl.Access
import SchemaDelta.Ddl.Options
import SchemaDelta.Text.Case

/-!
# Identifiers

How each dialect quotes names, which names it takes to be the same, and the small parts that all of
its statements share.
-/

namespace SchemaDelta

namespace Dialect

/-! ## Quoted names -/

/-- The letter that opens a quoted name. -/
def openingQuote : Dialect → Char
  | microsoftSql => '['
  | mySql => '\x60'
  | postgreSql => '"'

/-- The letter that closes a quoted name. -/
def closingQuote : Dialect → Char
  | microsoftSql => ']'
  | mySql => '\x60'
  | postgreSql => '"'

/-- The letters of a name with every closing quote written twice. -/
def escape
    (dialect : Dialect)
    (letters : List Char) : List Char :=
  letters.flatMap fun letter =>
    if letter = dialect.closingQuote then [letter, letter] else [letter]

/-- A name in quotes. -/
def quote
    (dialect : Dialect)
    (identifier : String) : String :=
  String.ofList
    (dialect.openingQuote :: dialect.escape identifier.toList ++ [dialect.closingQuote])

/-- A value as a name in quotes. -/
def quoteValue
    (dialect : Dialect)
    (identifier : Value) : Script := do
  return dialect.quote (← identifier.asText)

/-- A part of an object as a name in quotes. -/
def quotePart
    (dialect : Dialect)
    (object : Value)
    (name : String) : Script := do
  dialect.quoteValue (← object.part name)

/-- A name in quotes after its schema, if names carry one and there is one. -/
def qualifiedName
    (dialect : Dialect)
    (options : Options)
    (schema name : Value) : Script := do
  if options.useSchemaName && schema.isTruthy then
    return (← dialect.quoteValue schema) ++ "." ++ (← dialect.quoteValue name)
  dialect.quoteValue name

/-- The qualified name of an object, which has to be given. -/
def objectName
    (dialect : Dialect)
    (options : Options)
    (object : Value) : Script := do
  object.required "obj"
  dialect.qualifiedName options (← object.part "schema") (← object.part "name")

/-- The qualified name of the table that a row belongs to. -/
def tableName
    (dialect : Dialect)
    (options : Options)
    (row : Value) : Script := do
  dialect.qualifiedName options (← row.part "table_schema") (← row.part "table_name")

/-- The qualified name of the table that a foreign key references. -/
def referencedTable
    (dialect : Dialect)
    (options : Options)
    (row : Value) : Script := do
  dialect.qualifiedName options (← row.part "referenced_table_schema")
    (← row.part "referenced_table_name")

/-! ## Same names -/

/-- Names that differ only in case are different names. -/
def isCaseSensitive : Dialect → Bool
  | microsoftSql => false
  | mySql => true
  | postgreSql => true

/-- What two names have in common when the dialect takes them to be the same. -/
def nameKey
    (dialect : Dialect)
    (name : Value) : Attempt Value := do
  if dialect.isCaseSensitive then return name
  return .text (Text.fold (← name.asText))

/-- What two qualified names have in common when the dialect takes them to be the same. -/
def identifierKey
    (dialect : Dialect)
    (schema name : Value) : Attempt Value := do
  return .list [← dialect.nameKey schema, ← dialect.nameKey name]

/-! ## Parts of statements -/

/-- The separator after a statement that needs a batch of its own. -/
def batchEnd : Dialect → String
  | microsoftSql => "GO\n"
  | mySql => ""
  | postgreSql => ""

/-- The collation of a column, where collations are written. -/
def collateClause
    (dialect : Dialect)
    (options : Options)
    (column : Value) : Script := do
  if options.ignoreCollation then return ""
  let collation ← column.part "collation_name"
  if !collation.isTruthy then return ""
  match dialect with
  | postgreSql => return " COLLATE " ++ (← dialect.quoteValue collation)
  | _ => return " COLLATE " ++ collation.display

/-- The statement text of a referential action. -/
def referentialAction
    (dialect : Dialect)
    (action : Value) : Script := do
  if dialect = microsoftSql && action == .member (.action .restrict) then
    throw .restrictUnsupported
  match action with
  | .member (.action known) => return Enumeration.value known
  | other => throw (.invalidAction other.display)

end Dialect

/-- A comment that stands out. -/
def bannerComment
    (text : String) : String :=
  "/****** " ++ text ++ " ******/"

/-- The space before the parts of a statement. -/
def indent : String := "    "

/-- The place that nullability has in a column definition. -/
def nullability
    (isNullable : Bool) : String :=
  if isNullable then "NULL" else "NOT NULL"

/-- A statement that drops an object and one that creates it again. -/
def dropAndCreate
    (dropping creating : String) : String :=
  dropping ++ "\n" ++ creating ++ "\n"

/-- What stands in a script for a change that is not scripted; it is no statement. -/
def placeholder
    (label : String) : String :=
  "TODO: " ++ label ++ "\n"

end SchemaDelta
