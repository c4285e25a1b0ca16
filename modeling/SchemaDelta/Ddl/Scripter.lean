import SchemaDelta.Ddl.Inheritance
import SchemaDelta.Ddl.MicrosoftSql.Statements
import SchemaDelta.Ddl.MySql.Statements
import SchemaDelta.Ddl.PostgreSql.Statements
import SchemaDelta.Ddl.TableChange

/-!
# Scripts of single objects

A scripter is a dialect with options.  For every kind of object it creates, drops and alters; a pair
of which one side is null is created or dropped.
-/

namespace SchemaDelta

/-- The statements of each dialect. -/
def Dialect.statements : Dialect → Statements
  | microsoftSql => MicrosoftSql.statements
  | mySql => MySql.statements
  | postgreSql => PostgreSql.statements

/-- A dialect with the options of all its scripts. -/
structure Scripter where
  dialect : Dialect
  options : Options := {}

/-- A source that is created, a target that is dropped, or a pair. -/
def scriptPair
    (create drop : Value → Scripting String)
    (alter : Value → Value → Scripting String)
    (source target : Value) : Scripting String :=
  match source.isNull, target.isNull with
  | true, true => Scripting.fail .missingPair
  | false, true => create source
  | true, false => drop target
  | false, false => alter source target

/-- One step of the alteration of a table. -/
inductive AlterStep where
  | inheritance
  | dropForeignKeys (rows : List Value)
  | dropIndexes (rows : List Value)
  | dropChecks (rows : List Value)
  | dropPrimaryKeys (rows : List Value)
  | dropColumn (column : Value)
  | addColumn (column : Value)
  | alterColumn (source target : Value)
  | addPrimaryKeys (rows : List Value)
  | addChecks (rows : List Value)
  | createIndexes (rows : List Value)
  | addForeignKeys (rows : List Value)

/-- A step on rows, if there are any. -/
def AlterStep.onRows
    (step : List Value → AlterStep)
    (rows : List Value) : List AlterStep :=
  if rows.isEmpty then [] else [step rows]

namespace TableChanges

/-- The drops of keys: foreign keys are dropped before the keys that they may reference. -/
def keyDrops
    (changes : TableChanges)
    (includeForeignKeys : Bool) : List AlterStep :=
  (if includeForeignKeys then AlterStep.onRows .dropForeignKeys changes.dropForeignKeys else []) ++
    AlterStep.onRows .dropIndexes changes.dropIndexes ++
    AlterStep.onRows .dropChecks changes.dropChecks ++
    AlterStep.onRows .dropPrimaryKeys changes.dropPrimaryKeys

/-- The changes of columns. -/
def columnSteps
    (changes : TableChanges) : List AlterStep :=
  changes.droppedColumns.map .dropColumn ++ changes.addedColumns.map .addColumn ++
    changes.alteredColumns.map fun (source, target) => .alterColumn source target

/-- The additions of keys: foreign keys are added after the keys that they may reference. -/
def keyAdditions
    (changes : TableChanges)
    (includeForeignKeys : Bool) : List AlterStep :=
  AlterStep.onRows .addPrimaryKeys changes.addPrimaryKeys ++
    AlterStep.onRows .addChecks changes.addChecks ++
    AlterStep.onRows .createIndexes changes.addIndexes ++
    if includeForeignKeys then AlterStep.onRows .addForeignKeys changes.addForeignKeys else []

end TableChanges

namespace Scripter

/-- The statements of the dialect of a scripter. -/
def statements
    (scripter : Scripter) : Statements :=
  scripter.dialect.statements

/-- The name of an object in statements. -/
def objectName
    (scripter : Scripter)
    (object : Value) : Script :=
  scripter.dialect.objectName scripter.options object

/-! ## Foreign keys -/

/-- The drops of foreign keys, each on the table it names. -/
def dropForeignKeys
    (scripter : Scripter)
    (rows : Value) : Script :=
  scripter.statements.dropForeignKeys scripter.options rows

/-- The schema and the name of the table that a row belongs to. -/
def owner
    (row : Value) : Attempt Value := do
  return .list [← row.part "table_schema", ← row.part "table_name"]

/-- The rows of each table, by the schema and name of the table. -/
def ownerGroups
    (rows : List Value) : Attempt (List (Value × List Value)) := do
  let owned ← rows.mapM fun row => do
    return (← (← owner row).asKey, row)
  let groups := (Keyed.firstByKey id (owned.map (·.1))).map fun owner =>
    (owner, (owned.filter fun entry => entry.1 == owner).map (·.2))
  Value.sortedBy (fun group => .ok group.1) groups

/-- A table of which only the schema and the name are known. -/
def namedTable
    (schema name : Value) : Value :=
  .object .table [("name", name), ("schema", schema)]

/-- Foreign keys added to the tables they name, table by table. -/
def addForeignKeys
    (scripter : Scripter)
    (rows : Value) : Script := do
  let scripts ← (← ownerGroups (← rows.items)).mapM fun (owner, rows) => do
    scripter.statements.addForeignKeys scripter.options
      (namedTable (← owner.itemAt 0) (← owner.itemAt 1)) (.list rows)
  return String.join scripts

/-! ## Tables -/

/-- The table statement alone, its columns aligned to a reference table. -/
def tableDefinition
    (scripter : Scripter)
    (table reference : Value) : Script := do
  table.required "table"
  let columns ← scripter.options.scriptedColumns table reference
  scripter.statements.createTable scripter.options table (.list columns)

/-- The primary keys, check constraints and indexes of a table. -/
def tableKeysAndIndexes
    (scripter : Scripter)
    (table : Value) : Script := do
  let statements := scripter.statements
  let keys ← statements.addPrimaryKeys scripter.options table (← table.primaryKeys)
  let checks ← statements.addChecks scripter.options table (← table.part "constraints")
  let indexes ← statements.createIndexes scripter.options table (← table.secondaryIndexes)
  return keys ++ checks ++ indexes

/-- The foreign keys of a table. -/
def tableForeignKeys
    (scripter : Scripter)
    (table : Value) : Script := do
  scripter.statements.addForeignKeys scripter.options table (← table.part "foreign_keys")

/-- A table has indexes or check constraints. -/
def hasKeys
    (table : Value) : Attempt Bool := do
  if (← table.part "indexes").isTruthy then return true
  return (← table.part "constraints").isTruthy

/-- The triggers of a table under their heading. -/
def triggerSection
    (scripter : Scripter)
    (triggers : Value) : Script := do
  let scripts ← (← Value.sortedByName (← triggers.items)).mapM fun trigger =>
    scripter.statements.createTrigger scripter.options trigger
  return "\n\n" ++ bannerComment "Triggers" ++ "\n" ++
    String.join (scripts.map fun script => script ++ "\n")

/-- A table with its triggers, keys, indexes and foreign keys. -/
def createTable
    (scripter : Scripter)
    (table reference : Value) : Script := do
  let definition ← scripter.tableDefinition table reference
  let triggers ← table.part "triggers"
  let triggerScript ← if triggers.isTruthy then scripter.triggerSection triggers else pure ""
  let withKeys ← hasKeys table
  let keyScript ← if withKeys then do
      let script ← scripter.tableKeysAndIndexes table
      pure ((if triggers.isTruthy then "\n" else "\n\n") ++
        bannerComment "Constraints and Indexes" ++ "\n" ++ script)
    else pure ""
  let foreignKeyScript ← if (← table.part "foreign_keys").isTruthy then do
      let script ← scripter.tableForeignKeys table
      pure ((if withKeys then "\n" else "\n\n") ++ bannerComment "Foreign Keys" ++ "\n" ++ script)
    else pure ""
  return definition ++ triggerScript ++ keyScript ++ foreignKeyScript

/-- The drop of a table, after the foreign keys that reference it unless those stay. -/
def dropTable
    (scripter : Scripter)
    (table : Value)
    (dropReferencing : Bool) : Script := do
  table.required "table"
  let inbound ← if dropReferencing then do
      let rows ← table.part "referencing_foreign_keys"
      if rows.isTruthy then scripter.dropForeignKeys rows else pure ""
    else pure ""
  return inbound ++ (← scripter.statements.dropTable scripter.options table)

/-- The changes that make a target table like a source table. -/
def tableChanges
    (scripter : Scripter)
    (source target : Value) : Attempt TableChanges :=
  TableChanges.between scripter.dialect scripter.options source target

/-- The foreign keys that an alteration drops and those that it adds. -/
def foreignKeyChanges
    (scripter : Scripter)
    (source target : Value) : Attempt (List Value × List Value) := do
  source.required "source"
  target.required "target"
  let changes ← scripter.tableChanges source target
  return (changes.dropForeignKeys, changes.addForeignKeys)

/-- The drop of a column with a warning; the table is given by its name in statements, too. -/
def dropColumn
    (scripter : Scripter)
    (table column : Value)
    (tableName : String) : Script := do
  let quoted ← scripter.dialect.quotePart column "name"
  return "-- WARNING: Dropping column " ++ quoted ++ " from " ++ tableName ++
    " may cause data loss.\n" ++ (← scripter.statements.dropColumn scripter.options table column)

/-- The text of one step of the alteration of a table. -/
def alterStep
    (scripter : Scripter)
    (table : Value)
    (step : AlterStep) : Script := do
  let statements := scripter.statements
  let options := scripter.options
  match step with
  | .inheritance => return placeholder "Alter Table Inheritance Script"
  | .dropForeignKeys rows => scripter.dropForeignKeys (.list rows)
  | .dropIndexes rows => statements.dropIndexes options table (.list rows)
  | .dropChecks rows => statements.dropChecks options (.list rows)
  | .dropPrimaryKeys rows => statements.dropPrimaryKeys options (.list rows)
  | .dropColumn column => scripter.dropColumn table column (← scripter.objectName table)
  | .addColumn column => statements.addColumn options table column
  | .alterColumn source target => statements.alterColumn options table source target
  | .addPrimaryKeys rows => statements.addPrimaryKeys options table (.list rows)
  | .addChecks rows => statements.addChecks options table (.list rows)
  | .createIndexes rows => statements.createIndexes options table (.list rows)
  | .addForeignKeys rows => scripter.addForeignKeys (.list rows)

/-- The texts of steps of the alteration of a table, one behind the other. -/
def alterSteps
    (scripter : Scripter)
    (table : Value)
    (steps : List AlterStep) : Script := do
  return String.join (← steps.mapM (scripter.alterStep table))

/-- The change of the table that a table inherits from, if there is one. -/
def inheritanceSteps
    (source target : Value) : Attempt (List AlterStep) := do
  return if (← source.parentKey).agrees (← target.parentKey) then [] else [.inheritance]

/-- The alteration of a target table into a source table; the target has to have a name. -/
def alterTable
    (scripter : Scripter)
    (source target : Value)
    (includeForeignKeys : Bool) : Script := do
  let changes ← scripter.tableChanges source target
  let inheritance ← inheritanceSteps source target
  let dropped ← scripter.alterSteps target (inheritance ++ changes.keyDrops includeForeignKeys)
  discard (scripter.objectName target)
  let changed ← scripter.alterSteps target
    (changes.columnSteps ++ changes.keyAdditions includeForeignKeys)
  return dropped ++ changed

/-- A table created, dropped or altered. -/
def scriptTable
    (scripter : Scripter)
    (includeForeignKeys : Bool) : Value → Value → Scripting String :=
  scriptPair (fun table => scripter.createTable table .null)
    (fun table => scripter.dropTable table true)
    (fun source target => scripter.alterTable source target includeForeignKeys)

/-! ## Views -/

/-- A view with its indexes. -/
def createView
    (scripter : Scripter)
    (view : Value) : Script := do
  view.required "view"
  let created ← scripter.statements.createView scripter.options view
  let rows ← view.part "indexes"
  if !rows.isTruthy then return created
  return created ++ "\n" ++ bannerComment "Indexes" ++ "\n" ++
    (← scripter.statements.createIndexes scripter.options view rows)

/-- The drop of a view, after its indexes. -/
def dropView
    (scripter : Scripter)
    (view : Value) : Script := do
  view.required "view"
  let rows ← view.part "indexes"
  let indexes ← if rows.isTruthy then
      scripter.statements.dropIndexes scripter.options view rows
    else pure ""
  return indexes ++ (← scripter.statements.dropView scripter.options view)

/-- A view created, dropped or altered. -/
def scriptView
    (scripter : Scripter) : Value → Value → Scripting String :=
  scriptPair (fun view => scripter.createView view) (fun view => scripter.dropView view)
    (scripter.statements.alterView scripter.options)

/-! ## Functions, procedures and triggers -/

/-- A function; the types resolve its signature. -/
def createFunction
    (scripter : Scripter)
    (types function : Value) : Script := do
  function.required "function"
  scripter.statements.createFunction scripter.options types function

/-- The drop of a function. -/
def dropFunction
    (scripter : Scripter)
    (types function : Value) : Script := do
  function.required "function"
  scripter.statements.dropFunction scripter.options types function

/-- A function created, dropped or altered. -/
def scriptFunction
    (scripter : Scripter)
    (types : Value) : Value → Value → Scripting String :=
  scriptPair (fun function => scripter.createFunction types function)
    (fun function => scripter.dropFunction types function)
    (scripter.statements.alterFunction scripter.options types)

/-- A procedure. -/
def createProcedure
    (scripter : Scripter)
    (procedure : Value) : Script := do
  procedure.required "procedure"
  scripter.statements.createProcedure scripter.options procedure

/-- The drop of a procedure. -/
def dropProcedure
    (scripter : Scripter)
    (procedure : Value) : Script := do
  procedure.required "procedure"
  scripter.statements.dropProcedure scripter.options procedure

/-- A procedure created, dropped or altered. -/
def scriptProcedure
    (scripter : Scripter) : Value → Value → Scripting String :=
  scriptPair (fun procedure => scripter.createProcedure procedure)
    (fun procedure => scripter.dropProcedure procedure)
    (scripter.statements.alterProcedure scripter.options)

/-- A trigger. -/
def createTrigger
    (scripter : Scripter)
    (trigger : Value) : Script := do
  trigger.required "trigger"
  scripter.statements.createTrigger scripter.options trigger

/-- The drop of a trigger. -/
def dropTrigger
    (scripter : Scripter)
    (trigger : Value) : Script := do
  trigger.required "trigger"
  scripter.statements.dropTrigger scripter.options trigger

/-- A trigger created, dropped or altered. -/
def scriptTrigger
    (scripter : Scripter) : Value → Value → Scripting String :=
  scriptPair (fun trigger => scripter.createTrigger trigger)
    (fun trigger => scripter.dropTrigger trigger)
    (scripter.statements.alterTrigger scripter.options)

/-! ## Sequences and types -/

/-- A sequence. -/
def createSequence
    (scripter : Scripter)
    (sequence : Value) : Script := do
  sequence.required "sequence"
  scripter.statements.createSequence scripter.options sequence

/-- The drop of a sequence. -/
def dropSequence
    (scripter : Scripter)
    (sequence : Value) : Script := do
  sequence.required "sequence"
  scripter.statements.dropSequence scripter.options sequence

/-- A sequence dropped and created again. -/
def alterSequence
    (scripter : Scripter)
    (source target : Value) : Script :=
  recreate (scripter.statements.dropSequence scripter.options target)
    (scripter.statements.createSequence scripter.options source)

/-- A sequence created, dropped or altered. -/
def scriptSequence
    (scripter : Scripter) : Value → Value → Scripting String :=
  scriptPair (fun sequence => scripter.createSequence sequence)
    (fun sequence => scripter.dropSequence sequence)
    (fun source target => scripter.alterSequence source target)

/-- A type; the other types resolve what it is made of. -/
def createType
    (scripter : Scripter)
    (types type : Value) : Script := do
  type.required "data_type"
  scripter.statements.createType scripter.options types type

/-- The drop of a type. -/
def dropType
    (scripter : Scripter)
    (type : Value) : Script := do
  type.required "data_type"
  scripter.statements.dropType scripter.options type

/-- A type dropped and created again. -/
def alterType
    (scripter : Scripter)
    (types source target : Value) : Script :=
  recreate (scripter.statements.dropType scripter.options target)
    (scripter.statements.createType scripter.options types source)

/-- A type created, dropped or altered. -/
def scriptType
    (scripter : Scripter)
    (types : Value) : Value → Value → Scripting String :=
  scriptPair (fun type => scripter.createType types type) (fun type => scripter.dropType type)
    (fun source target => scripter.alterType types source target)

end Scripter

end SchemaDelta
