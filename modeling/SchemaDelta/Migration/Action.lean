import SchemaDelta.Comparison.Basic

/-!
# Actions of a migration

What a migration does is a list of actions in sections.  Each action has a script of its own; when
it cannot be scripted, a notice tells which object it was about.
-/

namespace SchemaDelta

/-- One action of a migration. -/
inductive MigrationAction where
  | changeView (pairing : Pairing)
  | changeFunction (types : Value) (pairing : Pairing)
  | changeProcedure (pairing : Pairing)
  | changeTrigger (pairing : Pairing)
  | changeSequence (pairing : Pairing)
  | changeType (types : Value) (pairing : Pairing)
  | dropForeignKeys (rows : List Value)
  | dropTable (table : Value)
  /-- The statement of a new table, without its keys. -/
  | createTable (table : Value)
  /-- The alteration of a table, without its foreign keys. -/
  | alterTable (pairing : Pairing)
  | addKeysAndIndexes (table : Value)
  | addTableForeignKeys (table : Value)
  | addForeignKeys (rows : List Value)

namespace MigrationAction

/-- A script about a pairing; if it fails, the notice tells the pairing. -/
def scriptedPair
    (kind : ObjectKind)
    (pairing : Pairing)
    (script : Value → Value → Scripting String) : Scripting String :=
  (script pairing.source pairing.target).guarded
    (kind.name ++ " " ++ pairing.name.display ++ " (" ++ pairing.status.name ++ ")")

/-- A script about a table; if it fails, the notice tells the table. -/
def scriptedTable
    (table : Value)
    (script : Value → Script) : Scripting String :=
  Scripter.guardedObject ObjectKind.tables.name table (script table)

/-- The script of an action. -/
def script
    (scripter : Scripter) : MigrationAction → Scripting String
  | changeView pairing => scriptedPair .views pairing scripter.scriptView
  | changeFunction types pairing =>
    scriptedPair .functions pairing (scripter.scriptFunction types)
  | changeProcedure pairing => scriptedPair .procedures pairing scripter.scriptProcedure
  | changeTrigger pairing => scriptedPair .triggers pairing scripter.scriptTrigger
  | changeSequence pairing => scriptedPair .sequences pairing scripter.scriptSequence
  | changeType types pairing => scriptedPair .dataTypes pairing (scripter.scriptType types)
  | dropForeignKeys rows => scripter.dropForeignKeys (.list rows)
  | dropTable table => scriptedTable table fun table => scripter.dropTable table false
  | createTable table => scriptedTable table fun table => scripter.tableDefinition table .null
  | alterTable pairing => scriptedPair .tables pairing (scripter.scriptTable false)
  | addKeysAndIndexes table => scriptedTable table scripter.tableKeysAndIndexes
  | addTableForeignKeys table => scriptedTable table scripter.tableForeignKeys
  | addForeignKeys rows => scripter.addForeignKeys (.list rows)

/-- The foreign keys that an action drops on their own. -/
def droppedForeignKeys : MigrationAction → List Value
  | dropForeignKeys rows => rows
  | _ => []

/-- The lines of an action with a text; an alteration that changes nothing has none. -/
def linesOf
    (action : MigrationAction)
    (text : String) : List String :=
  let text := Text.trimLineFeeds text
  match action with
  | alterTable _ => if text.isEmpty then [] else [text]
  | _ => [text]

/-- The lines of an action. -/
def lines
    (scripter : Scripter)
    (action : MigrationAction) : Scripting (List String) := do
  return action.linesOf (← action.script scripter)

end MigrationAction

/-- Actions under a heading. -/
structure MigrationSection where
  heading : String
  actions : List MigrationAction

namespace MigrationSection

/-- A section that tells how many things it is about; there is none about nothing. -/
def counted
    (activity : String)
    (count : Nat)
    (things : String)
    (actions : List MigrationAction) : List MigrationSection :=
  if count = 0 then []
  else [{ heading := "-- " ++ activity ++ " " ++ toString count ++ " " ++ things, actions }]

/-- A section with one action for every item. -/
def ofItems
    {α : Type}
    (activity things : String)
    (items : List α)
    (action : α → MigrationAction) : List MigrationSection :=
  counted activity items.length things (items.map action)

/-- A section about foreign keys, which are counted by their groups of rows. -/
def ofForeignKeys
    (activity things : String)
    (rows : List Value)
    (action : List Value → MigrationAction) : Attempt (List MigrationSection) := do
  if rows.isEmpty then return []
  return counted activity (← (Value.list rows).groups).length things [action rows]

/-- The foreign keys that a section drops on their own. -/
def droppedForeignKeys
    (part : MigrationSection) : List Value :=
  part.actions.flatMap MigrationAction.droppedForeignKeys

/-- The lines of a section. -/
def lines
    (scripter : Scripter)
    (part : MigrationSection) : Scripting (List String) := do
  let scripts ← part.actions.mapM (MigrationAction.lines scripter)
  return part.heading :: scripts.flatten ++ [""]

end MigrationSection

end SchemaDelta
