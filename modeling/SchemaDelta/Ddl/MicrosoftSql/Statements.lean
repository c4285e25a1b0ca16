import SchemaDelta.Ddl.MicrosoftSql.Column
import SchemaDelta.Ddl.MicrosoftSql.Header
import SchemaDelta.Ddl.Statements

/-!
# Statements of Microsoft SQL

Every statement ends its batch.  Modules are stored with their full definition.
-/

namespace SchemaDelta.MicrosoftSql

/-- The separator after a statement. -/
def batchEnd : String := dialect.batchEnd

/-- The start of a statement that alters a table. -/
def alterTable
    (options : Options)
    (table : Value) : Script := do
  return "ALTER TABLE " ++ (← dialect.objectName options table)

/-- The drop of an object by the word for its kind. -/
def dropObject
    (word : String)
    (options : Options)
    (object : Value) : Script := do
  return "DROP " ++ word ++ " " ++ (← dialect.objectName options object) ++ ";\n" ++ batchEnd

/-! ## Tables -/

/-- A table with its columns. -/
def createTable
    (options : Options)
    (table columns : Value) : Script := do
  let lines ← columnLines (columnDefinition options) columns
  return "CREATE TABLE " ++ (← dialect.objectName options table) ++ "(\n" ++ lines ++ "\n)\n" ++
    batchEnd

/-- The primary key that a group of rows stands for. -/
def addPrimaryKey
    (options : Options)
    (table key : Value)
    (group : List Value) : Script := do
  dialect.expect .microsoftSqlIndex key
  let kind ← key.part "type"
  let clustering :=
    if kind == .member (.indexKind .clustered) then "CLUSTERED" else "NONCLUSTERED"
  return (← alterTable options table) ++ "\n" ++
    "ADD CONSTRAINT " ++ (← dialect.quotePart key "name") ++ " PRIMARY KEY " ++ clustering ++
    "(" ++ (← dialect.indexColumns group) ++ ")\n" ++ batchEnd ++ "\n"

/-- The primary keys of a table. -/
def addPrimaryKeys
    (options : Options)
    (table rows : Value) : Script := do
  groupScripts (← rows.groups) (addPrimaryKey options table)

/-- The drop of the constraint that a row stands for. -/
def dropConstraint
    (options : Options)
    (row : Value) : Script := do
  return "ALTER TABLE " ++ (← dialect.tableName options row) ++ " DROP CONSTRAINT " ++
    (← dialect.quotePart row "name") ++ ";\n" ++ batchEnd

/-- The drops of the constraints that rows stand for. -/
def dropConstraints
    (options : Options)
    (rows : Value) : Script := do
  groupScripts (← rows.groups) fun row _ => dropConstraint options row

/-- A check constraint of a table. -/
def addCheck
    (options : Options)
    (table check : Value) : Script := do
  return (← alterTable options table) ++ "\n" ++
    "ADD CONSTRAINT " ++ (← dialect.quotePart check "name") ++ " CHECK " ++
    (← check.part "definition").display ++ "\n" ++ batchEnd ++ "\n"

/-- The check constraints of a table. -/
def addChecks
    (options : Options)
    (table rows : Value) : Script := do
  groupScripts (← rows.groups) fun check _ => addCheck options table check

/-- A foreign key of a table by its quoted name, checked against the rows the table holds. -/
def addForeignKey
    (options : Options)
    (table : String)
    (key : Value)
    (group : List Value) : Script := do
  let quoted ← dialect.quotePart key "name"
  let columns ← dialect.quotedParts "column_name" group
  let referenced ← dialect.quotedParts "referenced_column_name" group
  let referencedTable ← dialect.referencedTable options key
  let onDelete ← dialect.referentialAction (← key.part "delete_rule")
  let onUpdate ← dialect.referentialAction (← key.part "update_rule")
  return "ALTER TABLE " ++ table ++ " WITH CHECK ADD CONSTRAINT " ++ quoted ++ " FOREIGN KEY(" ++
    columns ++ ")\n" ++
    "REFERENCES " ++ referencedTable ++ " (" ++ referenced ++ ")\n" ++
    "ON DELETE " ++ onDelete ++ "\n" ++
    "ON UPDATE " ++ onUpdate ++ "\n" ++ batchEnd ++ "\n" ++
    "ALTER TABLE " ++ table ++ " CHECK CONSTRAINT " ++ quoted ++ "\n" ++ batchEnd ++ "\n"

/-- The foreign keys of a table. -/
def addForeignKeys
    (options : Options)
    (table rows : Value) : Script := do
  let table ← dialect.objectName options table
  groupScripts (← rows.groups) (addForeignKey options table)

/-! ## Indexes -/

/-- The words between `CREATE` and `INDEX`; a kind may be given by its value. -/
def indexWords
    (row kind : Value) : Script := do
  match kind.asText?.bind Enumeration.ofValue? with
  | some (.clustered : MicrosoftSqlIndexKind) => return (← uniqueWord) ++ "CLUSTERED "
  | some .nonclustered => uniqueWord
  | some .xml => return "XML "
  | some .spatial => return "SPATIAL "
  | none => throw (.unsupportedIndexKind kind.display)
where
  /-- The word for an index without repeated entries. -/
  uniqueWord : Script := do
    return if (← row.part "is_unique").isTruthy then "UNIQUE " else ""

/-- An index of a table or view. -/
def createIndex
    (options : Options)
    (owner row : Value)
    (group : List Value) : Script := do
  let words ← indexWords row (← row.part "type")
  let quoted ← dialect.quotePart row "name"
  let ownerName ← dialect.objectName options owner
  let columns ← dialect.indexColumns group
  let condition :=
    match ← indexCondition? row with
    | some condition => indent ++ "WHERE " ++ condition ++ "\n"
    | none => ""
  return "CREATE " ++ words ++ "INDEX " ++ quoted ++ " ON " ++ ownerName ++ "(" ++ columns ++
    ")\n" ++ condition ++ batchEnd ++ "\n"

/-- A row of a clustered index. -/
def isClustered
    (row : Value) : Bool :=
  (row.field? "type").any fun kind => kind == .member (.indexKind .clustered)

/-- The indexes of a table or view; clustered ones have to come first. -/
def createIndexes
    (options : Options)
    (owner rows : Value) : Script := do
  let rows ← rows.items
  rows.forM (dialect.expect .microsoftSqlIndex)
  let clustered ← Value.sortedByName (rows.filter isClustered)
  let others ← Value.sortedByName (rows.filter fun row => !isClustered row)
  groupScripts (← groupByName id (clustered ++ others)) (createIndex options owner)

/-- The drop of an index of a table or view. -/
def dropIndex
    (options : Options)
    (owner row : Value) : Script := do
  return "DROP INDEX " ++ (← dialect.quotePart row "name") ++ " ON " ++
    (← dialect.objectName options owner) ++ ";\n" ++ batchEnd

/-- The drops of indexes of a table or view. -/
def dropIndexes
    (options : Options)
    (owner rows : Value) : Script := do
  groupScripts (← rows.groups) fun row _ => dropIndex options owner row

/-! ## Columns -/

/-- A column added to a table. -/
def addColumn
    (options : Options)
    (table column : Value) : Script := do
  return (← alterTable options table) ++ " ADD " ++ (← columnDefinition options column) ++ "\n" ++
    batchEnd

/-- A column dropped from a table. -/
def dropColumn
    (options : Options)
    (table column : Value) : Script := do
  return (← alterTable options table) ++ " DROP COLUMN " ++ (← dialect.quotePart column "name") ++
    "\n" ++ batchEnd

/-- Identity and computed columns cannot be changed in place. -/
def isRecreated
    (source target : Value) : Attempt Bool := do
  let identity ← source.part "is_identity"
  let computed ← source.part "is_computed"
  let sameNumbering := (← source.part "identity_seed") == (← target.part "identity_seed") &&
    (← source.part "identity_increment") == (← target.part "identity_increment")
  let sameComputation := (← source.part "definition") == (← target.part "definition") &&
    (← source.part "is_persisted") == (← target.part "is_persisted")
  return !identity.agrees (← target.part "is_identity") ||
    !computed.agrees (← target.part "is_computed") ||
    (identity.isTruthy && !sameNumbering) || (computed.isTruthy && !sameComputation)

/-- A default that is added; a default that is replaced has a name that columns do not carry. -/
def alterDefault
    (table quoted : String)
    (source target : Value) : String :=
  if source.agrees target then ""
  else if target.isNull then
    "ALTER TABLE " ++ table ++ " ADD DEFAULT " ++ source.display ++ " FOR " ++ quoted ++ "\n" ++
      batchEnd
  else placeholder "Alter Column Default Script"

/-- A column of a table brought to the definition of the source column. -/
def alterColumn
    (options : Options)
    (table source target : Value) : Script := do
  dialect.expect .microsoftSqlColumn source
  dialect.expect .microsoftSqlColumn target
  let tableName ← dialect.objectName options table
  let quoted ← dialect.quotePart target "name"
  if ← isRecreated source target then
    let dropping ← dropColumn options table target
    let adding ← addColumn options table source
    return "-- WARNING: Column " ++ quoted ++ " of " ++ tableName ++
      " is dropped and recreated, existing data is lost.\n" ++ dropping ++ adding
  let sourceType ← columnType options source
  let targetType ← columnType options target
  let nullable ← source.part "is_nullable"
  let changed :=
    if sourceType != targetType || !nullable.agrees (← target.part "is_nullable") then
      "ALTER TABLE " ++ tableName ++ " ALTER COLUMN " ++ quoted ++ " " ++ sourceType ++ " " ++
        nullability nullable.isTruthy ++ "\n" ++ batchEnd
    else ""
  return changed ++ alterDefault tableName quoted (← source.part "column_default")
    (← target.part "column_default")

/-! ## Modules -/

/-- A definition in a batch of its own. -/
def definitionBatch
    (definition : String) : String :=
  (if definition.toList.getLast? = some '\n' then definition else definition ++ "\n") ++ batchEnd

/-- A module by the part that holds its definition. -/
def createModule
    (definitionPart : String)
    (module : Value) : Script := do
  return definitionBatch (← module.partText definitionPart)

/-- The part that holds the definition of a module, and the word for its kind in drops. -/
def ModuleKind.spelling : ModuleKind → String × String
  | view => ("view_definition", "VIEW")
  | function => ("definition", "FUNCTION")
  | procedure => ("definition", "PROCEDURE")
  | trigger => ("definition", "TRIGGER")

/-- A module of a kind. -/
def ModuleKind.create
    (kind : ModuleKind)
    (module : Value) : Script :=
  createModule kind.spelling.1 module

/-- The drop of a module of a kind. -/
def ModuleKind.drop
    (kind : ModuleKind)
    (options : Options)
    (module : Value) : Script :=
  dropObject kind.spelling.2 options module

/-- A module altered by its definition, or dropped and created where that has no header. -/
def ModuleKind.alter
    (kind : ModuleKind)
    (options : Options)
    (source target : Value) : Scripting String := do
  let definition ← source.part kind.spelling.1
  let dropping ← kind.drop options target
  let creating ← kind.create source
  match alteringDefinition? kind (← definition.asText) with
  | some altering => return definitionBatch altering
  | none =>
    Scripting.notice .headerNotRecognized
    return dropAndCreate dropping creating

/-! ## Sequences and types -/

/-- A sequence. -/
def createSequence
    (options : Options)
    (sequence : Value) : Script := do
  return "CREATE SEQUENCE " ++ (← dialect.objectName options sequence) ++ "\n" ++
    (← sequenceLines sequence) ++ batchEnd

/-- System types with a length. -/
def lengthTypes : List String := ["binary", "char", "nchar", "nvarchar", "varbinary", "varchar"]

/-- System types with a scale. -/
def scaleTypes : List String := ["datetime2", "datetimeoffset", "time"]

/-- System types with a precision and a scale. -/
def precisionTypes : List String := ["decimal", "numeric"]

/-- What an alias type says after the name of its system type. -/
def aliasSuffix
    (type : Value) : Script := do
  match (← type.part "system_type_name").asText? with
  | none => return ""
  | some name =>
    if lengthTypes.contains name then
      return "(" ++ lengthText (← type.part "max_length") ++ ")"
    if scaleTypes.contains name then return "(" ++ (← type.part "scale").display ++ ")"
    if precisionTypes.contains name then
      return "(" ++ (← type.part "precision").display ++ "," ++ (← type.part "scale").display ++ ")"
    return ""

/-- An alias type. -/
def createType
    (options : Options)
    (type : Value) : Script := do
  dialect.expect .microsoftSqlDataType type
  return "CREATE TYPE " ++ (← dialect.objectName options type) ++ "\n" ++
    indent ++ "FROM " ++ (← type.part "system_type_name").display ++ (← aliasSuffix type) ++ " " ++
    nullability (← type.part "is_nullable").isTruthy ++ "\n" ++ batchEnd

/-- The statements of Microsoft SQL. -/
def statements : Statements where
  columnDefinition := columnDefinition
  columnType options column := do return .text (← columnType options column)
  createTable := createTable
  dropTable := dropObject "TABLE"
  addPrimaryKeys := addPrimaryKeys
  dropPrimaryKeys := dropConstraints
  addChecks := addChecks
  dropChecks := dropConstraints
  addForeignKeys := addForeignKeys
  dropForeignKeys := dropConstraints
  createIndexes := createIndexes
  dropIndexes := dropIndexes
  addColumn := addColumn
  dropColumn := dropColumn
  alterColumn := alterColumn
  createView _ := ModuleKind.view.create
  dropView := ModuleKind.view.drop
  alterView := ModuleKind.view.alter
  createFunction _ _ := ModuleKind.function.create
  dropFunction options _ := ModuleKind.function.drop options
  alterFunction options _ := ModuleKind.function.alter options
  createProcedure _ := ModuleKind.procedure.create
  dropProcedure := ModuleKind.procedure.drop
  alterProcedure := ModuleKind.procedure.alter
  createTrigger _ := ModuleKind.trigger.create
  dropTrigger := ModuleKind.trigger.drop
  alterTrigger := ModuleKind.trigger.alter
  createSequence := createSequence
  dropSequence := dropObject "SEQUENCE"
  createType options _ := createType options
  dropType := dropObject "TYPE"

end SchemaDelta.MicrosoftSql
