import SchemaDelta.Migration.Action
import SchemaDelta.Migration.Phase

/-!
# Plan of a migration

A migration moves a target database toward a source database.  Objects that only the target has are
dropped first; tables are created before their keys, keys before foreign keys, and what may refer to
tables comes last.  A foreign key that a dropped or altered table needs out of the way is dropped
once and added back after all keys.
-/

namespace SchemaDelta

/-- A migration from a target database toward a source database. -/
structure Migration where
  source : Value
  target : Value
  comparison : Comparison
  scripter : Scripter
  /-- The phases that run. -/
  includes : Phase → Bool

namespace Migration

open MigrationSection (ofForeignKeys ofItems)

/-! ## Pairings -/

/-- The pairings of objects of a kind that have one of some statuses. -/
def pairingsWith
    (migration : Migration)
    (kind : ObjectKind)
    (statuses : List Status) : List Pairing :=
  (migration.comparison.pairings kind).filter fun pairing => statuses.contains pairing.status

/-- The pairings of objects that only the target has. -/
def targetOnly
    (migration : Migration)
    (kind : ObjectKind) : List Pairing :=
  migration.pairingsWith kind [.missingInSource]

/-- The pairings of objects that only the source has. -/
def sourceOnly
    (migration : Migration)
    (kind : ObjectKind) : List Pairing :=
  migration.pairingsWith kind [.missingInTarget]

/-- The pairings of objects that differ. -/
def differing
    (migration : Migration)
    (kind : ObjectKind) : List Pairing :=
  migration.pairingsWith kind [.different]

/-- The pairings of objects that have to be created or altered. -/
def changed
    (migration : Migration)
    (kind : ObjectKind) : List Pairing :=
  migration.pairingsWith kind [.missingInTarget, .different]

/-! ## Tables -/

/-- The key of a table in the dialect of a migration. -/
def tableKey
    (migration : Migration)
    (table : Value) : Attempt Value := do
  let key ← migration.scripter.dialect.identifierKey (← table.part "schema") (← table.part "name")
  key.asKey

/-- The tables of a list under keys, in the order of the dialect. -/
def tablesUnder
    (migration : Migration)
    (keys : List Value)
    (dropping : Bool)
    (tables : Value) : Attempt (List Value) := do
  (← migration.scripter.dialect.sortTables dropping tables).filterM fun table => do
    return keys.contains (← migration.tableKey table)

/-- The new tables in the order in which they are created among all tables of the source. -/
def newTables
    (migration : Migration) : Attempt (List Value) := do
  let keys ← (migration.sourceOnly .tables).mapM fun pairing => migration.tableKey pairing.source
  migration.tablesUnder keys false (← migration.source.part "tables")

/-- The dropped tables in the order in which they are dropped among all tables of the target. -/
def droppedTables
    (migration : Migration) : Attempt (List Value) := do
  let keys ← (migration.targetOnly .tables).mapM fun pairing => migration.tableKey pairing.target
  migration.tablesUnder keys true (← migration.target.part "tables")

/-! ## Foreign keys -/

/-- The foreign keys on a table and those that reference it, under their identities. -/
def identifiedForeignKeys
    (migration : Migration)
    (table : Value) : Attempt KeyedValues := do
  let own ← table.part "foreign_keys"
  let inbound ← table.part "referencing_foreign_keys"
  migration.scripter.dialect.identified (← (← own.append inbound).items)

/-- The foreign keys on tables and those that reference them, each once. -/
def foreignKeysOf
    (migration : Migration)
    (tables : List Value) : Attempt (List Value) := do
  let keyed ← tables.mapM migration.identifiedForeignKeys
  return (Keyed.firstByKey (·.1) keyed.flatten).map (·.2)

/-- Foreign keys that the changes of altered tables are about, each once under its identity. -/
def changedForeignKeys
    (migration : Migration)
    (rows : List Value × List Value → List Value) : Attempt KeyedValues := do
  let keyed ← (migration.differing .tables).mapM fun pairing => do
    let changes ← migration.scripter.foreignKeyChanges pairing.source pairing.target
    migration.scripter.dialect.identified (rows changes)
  return Keyed.firstByKey (·.1) keyed.flatten

/-- The foreign keys that altered tables need out of the way and that are not dropped yet. -/
def alteredForeignKeys
    (migration : Migration)
    (dropped : List Value) : Attempt (List Value) := do
  let keyed ← migration.changedForeignKeys (·.1)
  return (keyed.filter fun entry => !dropped.contains entry.1).map (·.2)

/-- The foreign keys that altered tables get. -/
def addedForeignKeys
    (migration : Migration) : Attempt (List Value) := do
  return (← migration.changedForeignKeys (·.2)).map (·.2)

/-! ## Phases -/

/--
A part of a phase: sections that are planned together, given the identities of the foreign keys that
the parts before have dropped.
-/
abbrev Part : Type :=
  List Value → Attempt (List MigrationSection)

/-- A part with one action for every pairing. -/
def Part.ofPairings
    (activity things : String)
    (pairings : List Pairing)
    (action : Pairing → MigrationAction) : Part :=
  fun _ => .ok (ofItems activity things pairings action)

/-- The types that resolve the signatures of replaced and replacing functions. -/
def allTypes
    (migration : Migration) : Attempt Value := do
  (← migration.source.part "data_types").append (← migration.target.part "data_types")

/-- The drops of the objects of a kind that only the target has. -/
def dropPart
    (migration : Migration)
    (kind : ObjectKind)
    (action : Pairing → MigrationAction) : Part :=
  Part.ofPairings "Dropping" kind.name (migration.targetOnly kind) action

/-- The drops of functions, whose signatures are resolved by the types of the target. -/
def dropFunctionPart
    (migration : Migration) : Part :=
  fun dropped => do
    let types ← migration.target.part "data_types"
    migration.dropPart .functions (.changeFunction types) dropped

/-- The drops of tables, after the foreign keys on them and those that reference them. -/
def dropTablePart
    (migration : Migration) : Part :=
  fun _ => do
    let tables ← migration.droppedTables
    let rows ← migration.foreignKeysOf tables
    return (← ofForeignKeys "Dropping" "foreign keys" rows .dropForeignKeys) ++
      ofItems "Dropping" "tables" tables .dropTable

/-- The drops of objects that only the target has. -/
def dropParts
    (migration : Migration) : List Part := [
  migration.dropPart .views .changeView,
  migration.dropPart .triggers .changeTrigger,
  migration.dropPart .procedures .changeProcedure,
  migration.dropFunctionPart,
  migration.dropTablePart,
  migration.dropPart .sequences .changeSequence,
  migration.dropPart .dataTypes (.changeType (.list []))]

/-- The types that are new or altered. -/
def typePart
    (migration : Migration) : Part :=
  fun dropped => do
    let types ← migration.source.part "data_types"
    Part.ofPairings "Creating/modifying" "user defined types" (migration.changed .dataTypes)
      (.changeType types) dropped

/-- The types and sequences that are new or altered. -/
def typeParts
    (migration : Migration) : List Part := [
  migration.typePart,
  Part.ofPairings "Creating/modifying" "sequences" (migration.changed .sequences)
    .changeSequence]

/-- The new tables. -/
def newTablePart
    (migration : Migration) : Part :=
  fun _ => do
    return ofItems "Creating" "new tables" (← migration.newTables) .createTable

/-- The altered tables, after the foreign keys that are in their way. -/
def alterTablePart
    (migration : Migration) : Part :=
  fun dropped => do
    let rows ← migration.alteredForeignKeys dropped
    return (← ofForeignKeys "Dropping" "foreign keys of existing tables" rows .dropForeignKeys) ++
      ofItems "Modifying" "existing tables" (migration.differing .tables) .alterTable

/-- The new tables and the altered tables. -/
def tableParts
    (migration : Migration) : List Part :=
  [migration.newTablePart, migration.alterTablePart]

/-- The keys, check constraints and indexes of the new tables. -/
def newKeyPart
    (migration : Migration) : Part :=
  fun _ => do
    let tables ← (← migration.newTables).filterM Scripter.hasKeys
    return ofItems "Adding constraints and indexes to" "new tables" tables .addKeysAndIndexes

/-- What new tables get beside their foreign keys. -/
def constraintParts
    (migration : Migration) : List Part :=
  [migration.newKeyPart]

/-- The foreign keys of the new tables. -/
def newForeignKeyPart
    (migration : Migration) : Part :=
  fun _ => do
    let tables ← (← migration.newTables).filterM fun table => do
      return (← table.part "foreign_keys").isTruthy
    return ofItems "Adding foreign keys to" "new tables" tables .addTableForeignKeys

/-- The foreign keys of the altered tables. -/
def addedForeignKeyPart
    (migration : Migration) : Part :=
  fun _ => do
    ofForeignKeys "Adding" "foreign keys to existing tables" (← migration.addedForeignKeys)
      .addForeignKeys

/-- The foreign keys of the new tables, then those of the altered tables. -/
def foreignKeyParts
    (migration : Migration) : List Part :=
  [migration.newForeignKeyPart, migration.addedForeignKeyPart]

/-- The modules of a kind that are new or altered. -/
def programmabilityPart
    (migration : Migration)
    (kind : ObjectKind)
    (action : Value → Pairing → MigrationAction) : Part :=
  fun dropped => do
    let pairings := migration.changed kind
    if pairings.isEmpty then return []
    Part.ofPairings "Creating/modifying" kind.name pairings (action (← migration.allTypes)) dropped

/-- The functions, procedures, triggers and views that are new or altered. -/
def programmabilityParts
    (migration : Migration) : List Part := [
  migration.programmabilityPart .functions .changeFunction,
  migration.programmabilityPart .procedures fun _ => .changeProcedure,
  migration.programmabilityPart .triggers fun _ => .changeTrigger,
  migration.programmabilityPart .views fun _ => .changeView]

/-- The parts of a phase. -/
def parts
    (migration : Migration) : Phase → List Part
  | .drops => migration.dropParts
  | .types => migration.typeParts
  | .tables => migration.tableParts
  | .constraints => migration.constraintParts
  | .foreignKeys => migration.foreignKeyParts
  | .programmability => migration.programmabilityParts

/-- The phases that run, in order. -/
def phases
    (migration : Migration) : List Phase :=
  Phase.all.filter migration.includes

end Migration

end SchemaDelta
