import SchemaDelta.Ddl.Scripter

/-!
# Scripts of whole databases

Every object of a database in an order in which the statements can be run: types and sequences,
tables, functions, procedures, triggers, keys and indexes, foreign keys, views.
-/

namespace SchemaDelta

/-- The types of a database that users defined. -/
def Value.userTypes
    (database : Value) : Attempt (List Value) := do
  if !database.isA .database then throw (.noPart database.kind "user types")
  (← database.partItems "data_types").filterM fun type =>
    return (← type.part "is_user_defined").isTruthy

/-- A part of a script: the scripts of objects under a heading, unless it is left out. -/
structure ScriptPart where
  heading : String
  isWanted : Bool
  scripts : List (Scripting String)

/-- The text of a part, whose objects may fail to be listed. -/
def ScriptPart.text
    (part : Attempt ScriptPart) : Scripting String := do
  let part ← part
  if !part.isWanted then return ""
  let texts ← part.scripts.mapM id
  return bannerComment part.heading ++ "\n" ++ String.join texts ++ "\n"

/-- A part with the script of each object of a collection, listed by schema and name. -/
def ScriptPart.ofCollection
    (heading : String)
    (collection : Value)
    (script : Value → Scripting String) : Attempt ScriptPart := do
  let isWanted := collection.isTruthy
  let objects ← if isWanted then Value.sortedByName (← collection.items) else pure []
  return { heading, isWanted, scripts := objects.map script }

namespace Scripter

/-- The script of an object; if it fails, the notice tells the kind and name of the object. -/
def guardedObject
    (kind : String)
    (object : Value)
    (script : Script) : Scripting String := do
  let schema ← object.part "schema"
  let name ← object.part "name"
  Scripting.guarded (kind ++ " " ++ schema.display ++ "." ++ name.display) script

/-- The script of an object followed by a line break. -/
def objectLines
    (kind : String)
    (object : Value)
    (script : Script) : Scripting String := do
  return (← guardedObject kind object script) ++ "\n"

/-- The script of a module in a batch of its own. -/
def moduleLines
    (scripter : Scripter)
    (kind : String)
    (object : Value)
    (script : Script) : Scripting String := do
  return scripter.dialect.batchEnd ++ (← objectLines kind object script)

/-- A view and its indexes. -/
def viewLines
    (scripter : Scripter)
    (view : Value) : Scripting String := do
  let created ← scripter.moduleLines "view" view
    (scripter.statements.createView scripter.options view)
  let rows ← view.part "indexes"
  if !rows.isTruthy then return created
  let indexes ← guardedObject "view" view
    (scripter.statements.createIndexes scripter.options view rows)
  return created ++ indexes

/-- The triggers of a table, each in a batch of its own. -/
def triggerLines
    (scripter : Scripter)
    (table : Value) : Scripting String := do
  let triggers ← Value.sortedByName (← table.partItems "triggers")
  let scripts ← triggers.mapM fun trigger =>
    scripter.moduleLines "trigger" trigger
      (scripter.statements.createTrigger scripter.options trigger)
  return String.join scripts

/-! ## Parts -/

/-- The types that users defined. -/
def typePart
    (scripter : Scripter)
    (database : Value) : Attempt ScriptPart := do
  let types ← database.part "data_types"
  ScriptPart.ofCollection "User Defined Types" (.list (← database.userTypes)) fun type =>
    objectLines "type" type (scripter.statements.createType scripter.options types type)

/-- The sequences. -/
def sequencePart
    (scripter : Scripter)
    (database : Value) : Attempt ScriptPart := do
  ScriptPart.ofCollection "Sequences" (← database.part "sequences") fun sequence =>
    objectLines "sequence" sequence
      (scripter.statements.createSequence scripter.options sequence)

/-- The tables without their keys; tables that have no order cannot be scripted. -/
def tablePart
    (scripter : Scripter)
    (tables : List Value) : Attempt ScriptPart := do
  let sorted ← scripter.dialect.sortTables false (.list tables)
  return {
    heading := "Tables"
    isWanted := !tables.isEmpty
    scripts := sorted.map fun table =>
      objectLines "table" table (scripter.tableDefinition table .null) }

/-- The functions. -/
def functionPart
    (scripter : Scripter)
    (database : Value) : Attempt ScriptPart := do
  let types ← database.part "data_types"
  ScriptPart.ofCollection "Functions" (← database.part "functions") fun function =>
    scripter.moduleLines "function" function
      (scripter.statements.createFunction scripter.options types function)

/-- The procedures. -/
def procedurePart
    (scripter : Scripter)
    (database : Value) : Attempt ScriptPart := do
  ScriptPart.ofCollection "Stored Procedures" (← database.part "stored_procedures") fun procedure =>
    scripter.moduleLines "stored procedure" procedure
      (scripter.statements.createProcedure scripter.options procedure)

/-- The triggers, table by table. -/
def triggerPart
    (scripter : Scripter)
    (tables : List Value) : Attempt ScriptPart := do
  let isWanted ← tables.anyM fun table => return (← table.part "triggers").isTruthy
  return { heading := "Triggers", isWanted, scripts := tables.map scripter.triggerLines }

/-- The keys, check constraints and indexes of all tables, if any table has some. -/
def keyPart
    (scripter : Scripter)
    (tables : List Value) : Attempt ScriptPart := do
  return {
    heading := "Constraints and Indexes"
    isWanted := ← tables.anyM hasKeys
    scripts := tables.map fun table =>
      guardedObject "table" table (scripter.tableKeysAndIndexes table) }

/-- The foreign keys of all tables, if any table has some. -/
def foreignKeyPart
    (scripter : Scripter)
    (tables : List Value) : Attempt ScriptPart := do
  return {
    heading := "Foreign Keys"
    isWanted := ← tables.anyM fun table => return (← table.part "foreign_keys").isTruthy
    scripts := tables.map fun table =>
      guardedObject "table" table (scripter.tableForeignKeys table) }

/-- The views with their indexes. -/
def viewPart
    (scripter : Scripter)
    (database : Value) : Attempt ScriptPart := do
  ScriptPart.ofCollection "Views" (← database.part "views") scripter.viewLines

/-- The parts of the script of a database, in order. -/
def fullParts
    (scripter : Scripter)
    (database : Value)
    (tables : List Value) : List (Attempt ScriptPart) := [
  scripter.typePart database,
  scripter.sequencePart database,
  scripter.tablePart tables,
  scripter.functionPart database,
  scripter.procedurePart database,
  scripter.triggerPart tables,
  scripter.keyPart tables,
  scripter.foreignKeyPart tables,
  scripter.viewPart database]

/-- The script of a database, which has to name a dialect. -/
def fullScript
    (scripter : Scripter)
    (database : Value) : Scripting String := do
  database.required "database"
  discard (database.part "name")
  discard ((← database.part "dialect").part "value")
  let tables ← Value.sortedByName (← database.partItems "tables")
  let texts ← (scripter.fullParts database tables).mapM ScriptPart.text
  return String.join texts

end Scripter

end SchemaDelta
