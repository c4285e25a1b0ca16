import SchemaDelta.Ddl.PostgreSql.Signature
import SchemaDelta.Ddl.Statements
import SchemaDelta.Ddl.Table

/-!
# Statements of PostgreSQL

Every statement ends with a semicolon.  Functions are written out from their catalog entries, and
there are no stored procedures.
-/

namespace SchemaDelta.PostgreSql

/-- The start of a statement that alters a table. -/
def alterTable
    (options : Options)
    (table : Value) : Script := do
  return "ALTER TABLE " ++ (← dialect.objectName options table)

/-- The drop of an object by the word for its kind. -/
def dropObject
    (word : String)
    (options : Options)
    (object : Value) : Script := do
  return "DROP " ++ word ++ " " ++ (← dialect.objectName options object) ++ ";\n"

/-! ## Tables -/

/-- The inheritance of a table. -/
def inheritsClause
    (options : Options)
    (table : Value) : Script := do
  if (← table.parentKey).isNull then return ""
  return "\nINHERITS (" ++
    (← dialect.qualifiedName options (← table.part "inherited_table_schema")
      (← table.part "inherited_table_name")) ++ ")"

/-- A table with its columns. -/
def createTable
    (options : Options)
    (table columns : Value) : Script := do
  dialect.expect .postgreSqlTable table
  let lines ← columnLines (columnDefinition options) columns
  return "CREATE TABLE " ++ (← dialect.objectName options table) ++ "(\n" ++ lines ++ "\n)" ++
    (← inheritsClause options table) ++ ";\n"

/-- The primary keys of a table. -/
def addPrimaryKeys
    (options : Options)
    (table rows : Value) : Script := do
  groupScripts (← rows.groups) fun key group => do
    return (← alterTable options table) ++ "\n" ++
      "ADD CONSTRAINT " ++ (← dialect.quotePart key "name") ++ " PRIMARY KEY (" ++
      (← dialect.indexColumns group) ++ ");\n\n"

/-- The drops of the constraints that rows stand for. -/
def dropConstraints
    (options : Options)
    (rows : Value) : Script := do
  groupScripts (← rows.groups) fun row _ => do
    return "ALTER TABLE " ++ (← dialect.tableName options row) ++ " DROP CONSTRAINT " ++
      (← dialect.quotePart row "name") ++ ";\n"

/-- The check constraints of a table, whose definitions start with their keyword. -/
def addChecks
    (options : Options)
    (table rows : Value) : Script := do
  groupScripts (← rows.groups) fun check _ => do
    return (← alterTable options table) ++ "\n" ++
      "ADD CONSTRAINT " ++ (← dialect.quotePart check "name") ++ " " ++
      (← check.part "definition").display ++ ";\n\n"

/-- A foreign key of a table. -/
def addForeignKey
    (options : Options)
    (table key : Value)
    (group : List Value) : Script := do
  dialect.expect .postgreSqlForeignKey key
  let columns ← dialect.quotedParts "column_name" group
  let referenced ← dialect.quotedParts "referenced_column_name" group
  let referencedTable ← dialect.referencedTable options key
  let matching ← matchOption (← key.part "match_option")
  let altering ← alterTable options table
  let quoted ← dialect.quotePart key "name"
  let onDelete ← dialect.referentialAction (← key.part "delete_rule")
  let onUpdate ← dialect.referentialAction (← key.part "update_rule")
  let deferrable := (← key.part "is_deferrable").isTruthy
  let deferred := (← key.part "is_initially_deferred").isTruthy
  return altering ++ "\n" ++
    "ADD CONSTRAINT " ++ quoted ++ " FOREIGN KEY (" ++ columns ++ ")\n" ++
    "REFERENCES " ++ referencedTable ++ " (" ++ referenced ++ ") " ++ matching ++ "\n" ++
    "ON DELETE " ++ onDelete ++ "\n" ++
    "ON UPDATE " ++ onUpdate ++ "\n" ++
    (if deferrable then "DEFERRABLE\n" else "NOT DEFERRABLE\n") ++
    (if deferred then "INITIALLY DEFERRED;\n" else "INITIALLY IMMEDIATE;\n") ++ "\n"

/-- The foreign keys of a table. -/
def addForeignKeys
    (options : Options)
    (table rows : Value) : Script := do
  groupScripts (← rows.groups) (addForeignKey options table)

/-! ## Indexes -/

/-- The methods of indexes with the words that stand before the columns. -/
def indexMethods : List (String × String) := [
  ("btree", ""), ("gist", "USING gist "), ("hash", "USING hash "), ("gin", "USING gin ")]

/-- An index of a table or view. -/
def createIndex
    (options : Options)
    (owner row : Value)
    (group : List Value) : Script := do
  dialect.expect .postgreSqlIndex row
  let method ← row.part "type"
  match ← entryUnder? indexMethods method with
  | none => throw (.unsupportedIndexKind method.display)
  | some words =>
    let unique := if (← row.part "is_unique").isTruthy then "UNIQUE " else ""
    let quoted ← dialect.quotePart row "name"
    let ownerName ← dialect.objectName options owner
    let columns ← dialect.indexColumns group
    let condition :=
      match ← indexCondition? row with
      | some condition => " WHERE " ++ condition
      | none => ""
    return "CREATE " ++ unique ++ "INDEX " ++ quoted ++ " ON " ++ ownerName ++ " " ++ words ++
      "(" ++ columns ++ ")" ++ condition ++ ";\n\n"

/-- The indexes of a table or view. -/
def createIndexes
    (options : Options)
    (owner rows : Value) : Script := do
  groupScripts (← rows.groups) (createIndex options owner)

/-- The drop of an index, which lives in the schema of its table unless it names one. -/
def dropIndex
    (options : Options)
    (owner row : Value) : Script := do
  let own ← row.part "schema"
  let schema ← if own.isTruthy then pure own else owner.part "schema"
  return "DROP INDEX " ++ (← dialect.qualifiedName options schema (← row.part "name")) ++ ";\n"

/-- The drops of indexes of a table or view. -/
def dropIndexes
    (options : Options)
    (owner rows : Value) : Script := do
  groupScripts (← rows.groups) fun row _ => dropIndex options owner row

/-! ## Columns -/

/-- A column added to a table. -/
def addColumn
    (options : Options)
    (table column : Value) : Script := do
  return (← alterTable options table) ++ " ADD COLUMN " ++ (← columnDefinition options column) ++
    ";\n"

/-- A column dropped from a table. -/
def dropColumn
    (options : Options)
    (table column : Value) : Script := do
  return (← alterTable options table) ++ " DROP COLUMN " ++ (← dialect.quotePart column "name") ++
    ";\n"

/-- How the values of a column are generated cannot be changed in place. -/
def isRecreated
    (source target : Value) : Attempt Bool := do
  return !((← source.part "identity_generation") == (← target.part "identity_generation") &&
    (← source.part "generation_expression") == (← target.part "generation_expression"))

/-- The change of the type of a column. -/
def alterType
    (options : Options)
    (lead : String)
    (source target : Value) : Script := do
  let sourceType ← columnType options source
  let targetType ← columnType options target
  return if sourceType.agrees targetType then ""
    else lead ++ " TYPE " ++ sourceType.display ++ ";\n"

/-- The change of whether a column holds nulls. -/
def alterNullability
    (lead : String)
    (source target : Value) : String :=
  if source.agrees target then ""
  else if source.isTruthy then lead ++ " DROP NOT NULL;\n"
  else lead ++ " SET NOT NULL;\n"

/-- The change of the default of a column. -/
def alterDefault
    (lead : String)
    (source target : Value) : String :=
  if source.agrees target then ""
  else if source.isNull then lead ++ " DROP DEFAULT;\n"
  else lead ++ " SET DEFAULT " ++ source.display ++ ";\n"

/-- A column of a table brought to the definition of the source column. -/
def alterColumn
    (options : Options)
    (table source target : Value) : Script := do
  dialect.expect .postgreSqlColumn source
  dialect.expect .postgreSqlColumn target
  let tableName ← dialect.objectName options table
  let quoted ← dialect.quotePart target "name"
  if ← isRecreated source target then
    let dropping ← dropColumn options table target
    let adding ← addColumn options table source
    return "-- WARNING: Column " ++ quoted ++ " of " ++ tableName ++
      " is dropped and recreated, existing data is lost.\n" ++ dropping ++ adding
  let lead := "ALTER TABLE " ++ tableName ++ " ALTER COLUMN " ++ quoted
  return (← alterType options lead source target) ++
    alterNullability lead (← source.part "is_nullable") (← target.part "is_nullable") ++
    alterDefault lead (← source.part "column_default") (← target.part "column_default")

/-! ## Views and functions -/

/-- A view with its check option. -/
def createView
    (options : Options)
    (view : Value) : Script := do
  dialect.expect .postgreSqlView view
  let name ← dialect.objectName options view
  let checkOption ← view.part "check_option"
  let header :=
    if checkOption == .text "NONE" then "CREATE VIEW " ++ name ++ " AS\n"
    else
      "CREATE VIEW " ++ name ++ "\nWITH(\n" ++ indent ++ "CHECK_OPTION = " ++
        checkOption.display ++ "\n) AS\n"
  return header ++ (← view.part "view_definition").display ++ "\n"

/-- A function written out from its catalog entry. -/
def createFunction
    (options : Options)
    (types function : Value) : Script := do
  dialect.expect .postgreSqlFunction function
  let arguments ← createArguments types function
  let returnsSet := (← function.part "return_set").isTruthy
  let returnType ← typeName types (← function.part "return_type")
  let name ← dialect.objectName options function
  let language ← function.part "external_language"
  let cost ← estimate (← function.part "cost")
  let rows ← rowsLine (← function.part "rows")
  let attributes ← functionAttributes function
  return "CREATE FUNCTION " ++ name ++ "(" ++
    ",".intercalate (arguments.map fun argument => "\n" ++ indent ++ argument) ++ ")\n" ++
    indent ++ "RETURNS " ++ (if returnsSet then "SETOF " else "") ++ returnType.display ++ "\n" ++
    indent ++ "LANGUAGE " ++ language.display ++ "\n" ++
    "\n" ++
    indent ++ "COST " ++ cost ++ "\n" ++ rows ++
    indent ++ attributes ++ "\n" ++
    "AS $BODY$" ++ (← function.part "definition").display ++ "$BODY$;\n"

/-- The drop of a function, which is identified by its input types. -/
def dropFunction
    (options : Options)
    (types function : Value) : Script := do
  dialect.expect .postgreSqlFunction function
  let arguments ← Value.joinTexts ", " (← inputTypes types function)
  return "DROP FUNCTION " ++ (← dialect.objectName options function) ++ "(" ++ arguments ++ ");\n"

/-- A trigger. -/
def createTrigger
    (trigger : Value) : Script := do
  let definition ← trigger.partText "definition"
  return (if definition.toList.getLast? = some ';' then definition else definition ++ ";") ++ "\n"

/-- The drop of a trigger of its table. -/
def dropTrigger
    (options : Options)
    (trigger : Value) : Script := do
  return "DROP TRIGGER " ++ (← dialect.quotePart trigger "name") ++ " ON " ++
    (← dialect.tableName options trigger) ++ ";\n"

/-! ## Sequences and types -/

/-- A sequence. -/
def createSequence
    (options : Options)
    (sequence : Value) : Script := do
  dialect.expect .postgreSqlSequence sequence
  return "CREATE SEQUENCE " ++ (← dialect.objectName options sequence) ++ "\n" ++
    (← sequenceLines sequence) ++ indent ++ "CACHE " ++ (← sequence.part "cache").display ++ ";\n"

/-- The members of a type, one a line. -/
def memberLines
    (members : List String) : String :=
  ",".intercalate (members.map fun text => "\n" ++ indent ++ text)

/-- The labels of an enumerated type. -/
def labelLines
    (type : Value) : Script := do
  let labels ← type.partItems "labels"
  return memberLines (labels.map fun label => "\x27" ++ label.display ++ "\x27")

/-- The attributes of a composite type, as many as have both a name and a type. -/
def attributeLines
    (types type : Value) : Script := do
  let names ← type.partItems "attribute_names"
  let typeIds ← type.partItems "attribute_type_ids"
  return memberLines (← (names.zip typeIds).mapM fun (name, typeId) => do
    return name.display ++ " " ++ (← typeName types typeId).display)

/-- A further line of a range type, if it says something. -/
def rangeLine
    (keyword : String)
    (value : Value) : String :=
  if value.isTruthy then ",\n" ++ indent ++ keyword ++ " = " ++ value.display else ""

/-- The lines of a range type. -/
def rangeLines
    (types type : Value) : Script := do
  return indent ++ "SUBTYPE = " ++ (← typeName types (← type.part "sub_type_id")).display ++
    rangeLine "CANONICAL" (← type.part "canonical") ++
    rangeLine "SUBTYPE_DIFF" (← type.part "sub_type_diff")

/-- The constraint of a domain. -/
def domainConstraint
    (type : Value) : Script := do
  let name ← type.part "constraint_name"
  let named ← if name.isTruthy then
      pure (indent ++ "CONSTRAINT " ++ (← dialect.quoteValue name) ++ "\n")
    else pure ""
  let definition ← type.part "constraint_definition"
  let notNull ← type.part "not_null"
  return named ++ indent ++
    if definition.isTruthy then definition.display else nullability (!notNull.isTruthy)

/-- A type by its form. -/
def createType
    (options : Options)
    (types type : Value) : Script := do
  let name ← dialect.objectName options type
  match type with
  | .object .postgreSqlDataTypeEnumerated _ =>
    return "CREATE TYPE " ++ name ++ " AS ENUM (" ++ (← labelLines type) ++ "\n);\n"
  | .object .postgreSqlDataTypeComposite _ =>
    return "CREATE TYPE " ++ name ++ " AS (" ++ (← attributeLines types type) ++ "\n);\n"
  | .object .postgreSqlDataTypeRange _ =>
    return "CREATE TYPE " ++ name ++ " AS RANGE (\n" ++ (← rangeLines types type) ++ "\n);\n"
  | .object .postgreSqlDataTypeDomain _ =>
    return "CREATE DOMAIN " ++ name ++ "\n" ++
      indent ++ "AS " ++ (← typeName types (← type.part "base_type_id")).display ++ "\n" ++
      (← domainConstraint type) ++ ";\n"
  | other => throw (.unscriptedType other.kind)

/-- The drop of a type. -/
def dropType
    (options : Options)
    (type : Value) : Script :=
  match type with
  | .object .postgreSqlDataTypeDomain _ => dropObject "DOMAIN" options type
  | .object .postgreSqlDataTypeEnumerated _ => dropObject "TYPE" options type
  | .object .postgreSqlDataTypeComposite _ => dropObject "TYPE" options type
  | .object .postgreSqlDataTypeRange _ => dropObject "TYPE" options type
  | other => .error (.unscriptedType other.kind)

/-- The statements of PostgreSQL. -/
def statements : Statements where
  columnDefinition := columnDefinition
  columnType := columnType
  createTable := createTable
  dropTable := dropObject "TABLE"
  addPrimaryKeys := addPrimaryKeys
  dropPrimaryKeys := dropConstraints
  addChecks := addChecks
  dropChecks := dropConstraints
  addForeignKeys := addForeignKeys
  dropForeignKeys := dropConstraints
  createIndexes := createIndexes
  dropIndexes := dropIndexes
  addColumn := addColumn
  dropColumn := dropColumn
  alterColumn := alterColumn
  createView := createView
  dropView := dropObject "VIEW"
  alterView options source target :=
    Scripting.ofResult (recreate (dropObject "VIEW" options target) (createView options source))
  createFunction := createFunction
  dropFunction := dropFunction
  alterFunction options types source target :=
    Scripting.ofResult
      (recreate (dropFunction options types target) (createFunction options types source))
  createProcedure _ _ := .error .noProcedures
  dropProcedure _ _ := .error .noProcedures
  alterProcedure _ _ _ := Scripting.fail .noProcedures
  createTrigger _ := createTrigger
  dropTrigger := dropTrigger
  alterTrigger options source target :=
    Scripting.ofResult (recreate (dropTrigger options target) (createTrigger source))
  createSequence := createSequence
  dropSequence := dropObject "SEQUENCE"
  createType := createType
  dropType := dropType

end SchemaDelta.PostgreSql
