import SchemaDelta.Ddl.MySql.Column
import SchemaDelta.Ddl.Statements

/-!
# Statements of MySQL

Every statement ends with a semicolon.  There are neither sequences nor user defined types.
-/

namespace SchemaDelta.MySql

/-- A definition that ends with a semicolon and a line break. -/
def terminated
    (definition : String) : String :=
  let trimmed := Text.trimEnd definition
  (if trimmed.toList.getLast? = some ';' then trimmed else trimmed ++ ";") ++ "\n"

/-- The start of a statement that alters a table. -/
def alterTable
    (options : Options)
    (table : Value) : Script := do
  return "ALTER TABLE " ++ (← dialect.objectName options table)

/-- The start of a statement that alters the table a row belongs to. -/
def alterTableOf
    (options : Options)
    (row : Value) : Script := do
  return "ALTER TABLE " ++ (← dialect.tableName options row)

/-- The drop of an object by the word for its kind. -/
def dropObject
    (word : String)
    (options : Options)
    (object : Value) : Script := do
  return "DROP " ++ word ++ " " ++ (← dialect.objectName options object) ++ ";\n"

/-! ## Tables -/

/-- A table with its columns. -/
def createTable
    (options : Options)
    (table columns : Value) : Script := do
  let lines ← columnLines (columnDefinition options) columns
  return "CREATE TABLE " ++ (← dialect.objectName options table) ++ "(\n" ++ lines ++ "\n);\n"

/-- The primary keys of a table; they have no names. -/
def addPrimaryKeys
    (options : Options)
    (table rows : Value) : Script := do
  groupScripts (← rows.groups) fun _ group => do
    return (← alterTable options table) ++ "\n" ++
      "ADD PRIMARY KEY (" ++ (← dialect.indexColumns group) ++ ");\n\n"

/-- The drops of the primary keys that rows stand for. -/
def dropPrimaryKeys
    (options : Options)
    (rows : Value) : Script := do
  groupScripts (← rows.groups) fun row _ => do
    return (← alterTableOf options row) ++ " DROP PRIMARY KEY;\n"

/-- The check constraints of a table. -/
def addChecks
    (options : Options)
    (table rows : Value) : Script := do
  groupScripts (← rows.groups) fun check _ => do
    return (← alterTable options table) ++ "\n" ++
      "ADD CONSTRAINT " ++ (← dialect.quotePart check "name") ++ " CHECK " ++
      (← check.part "definition").display ++ ";\n\n"

/-- The drops of check constraints. -/
def dropChecks
    (options : Options)
    (rows : Value) : Script := do
  groupScripts (← rows.groups) fun row _ => do
    return (← alterTableOf options row) ++ " DROP CHECK " ++ (← dialect.quotePart row "name") ++
      ";\n"

/-- A foreign key of a table. -/
def addForeignKey
    (options : Options)
    (table key : Value)
    (group : List Value) : Script := do
  let columns ← dialect.quotedParts "column_name" group
  let referenced ← dialect.quotedParts "referenced_column_name" group
  let referencedTable ← dialect.referencedTable options key
  let altering ← alterTable options table
  let quoted ← dialect.quotePart key "name"
  let onDelete ← dialect.referentialAction (← key.part "delete_rule")
  let onUpdate ← dialect.referentialAction (← key.part "update_rule")
  return altering ++ "\n" ++
    "ADD CONSTRAINT " ++ quoted ++ " FOREIGN KEY (" ++ columns ++ ")\n" ++
    "REFERENCES " ++ referencedTable ++ " (" ++ referenced ++ ")\n" ++
    "ON DELETE " ++ onDelete ++ "\n" ++
    "ON UPDATE " ++ onUpdate ++ ";\n\n"

/-- The foreign keys of a table. -/
def addForeignKeys
    (options : Options)
    (table rows : Value) : Script := do
  groupScripts (← rows.groups) (addForeignKey options table)

/-- The drops of foreign keys. -/
def dropForeignKeys
    (options : Options)
    (rows : Value) : Script := do
  groupScripts (← rows.groups) fun row _ => do
    return (← alterTableOf options row) ++ " DROP FOREIGN KEY " ++
      (← dialect.quotePart row "name") ++ ";\n"

/-! ## Indexes -/

/-- The methods of indexes with the word that stands before `INDEX`. -/
def indexMethods : List (String × String) := [
  ("BTREE", ""), ("HASH", ""), ("FULLTEXT", "FULLTEXT "), ("SPATIAL", "SPATIAL ")]

/-- An index of a table. -/
def createIndex
    (options : Options)
    (owner row : Value)
    (group : List Value) : Script := do
  dialect.expect .mySqlIndex row
  let given ← row.part "index_type"
  let method := Text.upper (← given.asText)
  match indexMethods.lookup method with
  | none => throw (.unsupportedIndexKind given.display)
  | some word =>
    let unique := (← row.part "is_unique").isTruthy
    let word := if unique && word.isEmpty then "UNIQUE " else word
    return "CREATE " ++ word ++ "INDEX " ++ (← dialect.quotePart row "name") ++ " ON " ++
      (← dialect.objectName options owner) ++ " (" ++ (← dialect.indexColumns group) ++ ")" ++
      (if method == "HASH" then " USING HASH" else "") ++ ";\n\n"

/-- The indexes of a table. -/
def createIndexes
    (options : Options)
    (owner rows : Value) : Script := do
  groupScripts (← rows.groups) (createIndex options owner)

/-- The drops of indexes of a table. -/
def dropIndexes
    (options : Options)
    (owner rows : Value) : Script := do
  groupScripts (← rows.groups) fun row _ => do
    return "DROP INDEX " ++ (← dialect.quotePart row "name") ++ " ON " ++
      (← dialect.objectName options owner) ++ ";\n"

/-! ## Columns -/

/-- A column added to a table. -/
def addColumn
    (options : Options)
    (table column : Value) : Script := do
  return (← alterTable options table) ++ " ADD COLUMN " ++ (← columnDefinition options column) ++
    ";\n"

/-- A column dropped from a table. -/
def dropColumn
    (options : Options)
    (table column : Value) : Script := do
  return (← alterTable options table) ++ " DROP COLUMN " ++ (← dialect.quotePart column "name") ++
    ";\n"

/-- A column of a table brought to the definition of the source column. -/
def alterColumn
    (options : Options)
    (table source : Value) : Script := do
  return (← alterTable options table) ++ " MODIFY COLUMN " ++ (← columnDefinition options source) ++
    ";\n"

/-! ## Modules -/

/-- A view, created or altered as the word says. -/
def viewStatement
    (word : String)
    (options : Options)
    (view : Value) : Script := do
  return terminated (word ++ " VIEW " ++ (← dialect.objectName options view) ++ " AS " ++
    Text.trim (← view.partText "view_definition"))

/-- A module that is stored with its full definition. -/
def createModule
    (module : Value) : Script := do
  return terminated (← module.partText "definition")

/-- A module dropped by the word for its kind and created again. -/
def alterModule
    (word : String)
    (options : Options)
    (source target : Value) : Scripting String :=
  Scripting.ofResult (recreate (dropObject word options target) (createModule source))

/-- The statements of MySQL. -/
def statements : Statements where
  columnDefinition := columnDefinition
  columnType := columnType
  createTable := createTable
  dropTable := dropObject "TABLE"
  addPrimaryKeys := addPrimaryKeys
  dropPrimaryKeys := dropPrimaryKeys
  addChecks := addChecks
  dropChecks := dropChecks
  addForeignKeys := addForeignKeys
  dropForeignKeys := dropForeignKeys
  createIndexes := createIndexes
  dropIndexes := dropIndexes
  addColumn := addColumn
  dropColumn := dropColumn
  alterColumn options table source _ := alterColumn options table source
  createView := viewStatement "CREATE"
  dropView := dropObject "VIEW"
  alterView options source _ := Scripting.ofResult (viewStatement "ALTER" options source)
  createFunction _ _ := createModule
  dropFunction options _ := dropObject "FUNCTION" options
  alterFunction options _ := alterModule "FUNCTION" options
  createProcedure _ := createModule
  dropProcedure := dropObject "PROCEDURE"
  alterProcedure := alterModule "PROCEDURE"
  createTrigger _ := createModule
  dropTrigger := dropObject "TRIGGER"
  alterTrigger := alterModule "TRIGGER"
  createSequence _ _ := .error .noSequences
  dropSequence _ _ := .error .noSequences
  createType _ _ _ := .error .noUserTypes
  dropType _ _ := .error .noUserTypes

end SchemaDelta.MySql
