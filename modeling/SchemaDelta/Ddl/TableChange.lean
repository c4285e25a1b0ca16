import SchemaDelta.Ddl.ColumnOrder
import SchemaDelta.Ddl.Table

/-!
# Changes of a table

What has to be dropped from a target table and added from a source table.  A key or index is rebuilt
when its rows differ or when it covers a column that is dropped or altered, and the foreign keys of
other tables are dropped while a key they may need is rebuilt.
-/

namespace SchemaDelta

/-- What an alteration drops from the target and adds from the source. -/
structure TableChanges where
  droppedColumns : List Value
  addedColumns : List Value
  /-- The source column and the target column it replaces. -/
  alteredColumns : List (Value × Value)
  dropPrimaryKeys : List Value
  addPrimaryKeys : List Value
  dropIndexes : List Value
  addIndexes : List Value
  dropChecks : List Value
  addChecks : List Value
  dropForeignKeys : List Value
  addForeignKeys : List Value

/-- Values under keys. -/
abbrev KeyedValues : Type :=
  List (Value × Value)

namespace Dialect

/-- The key of a name. -/
def keyOf
    (dialect : Dialect)
    (name : Value) : Attempt Value := do
  (← dialect.nameKey name).asKey

/-- The key of the name in a part of a row. -/
def partKey
    (dialect : Dialect)
    (part : String)
    (row : Value) : Attempt Value := do
  dialect.keyOf (← row.part part)

/-- Rows under the keys of the names in a part of them. -/
def keyedBy
    (dialect : Dialect)
    (part : String)
    (rows : List Value) : Attempt KeyedValues :=
  rows.mapM fun row => return (← dialect.partKey part row, row)

/-! ## Foreign keys -/

/-- What makes a foreign key row the same as another: its table, its name and its position. -/
def foreignKeyIdentity
    (dialect : Dialect)
    (row : Value) : Attempt (List Value) := do
  let schema ← row.part "table_schema"
  let table ← row.part "table_name"
  return [← dialect.nameKey schema, ← dialect.nameKey table,
    ← dialect.nameKey (← row.part "name"), ← row.part "ordinal_position"]

/-- Foreign key rows under their identities. -/
def identified
    (dialect : Dialect)
    (rows : List Value) : Attempt KeyedValues :=
  rows.mapM fun row => do
    let identity ← dialect.foreignKeyIdentity row
    return (← (Value.list identity).asKey, row)

/-- Foreign key rows without the ones that are the same as a row before them. -/
def uniqueForeignKeys
    (dialect : Dialect)
    (rows : List Value) : Attempt (List Value) := do
  return (Keyed.firstByKey (·.1) (← dialect.identified rows)).map (·.2)

/-- The rows of the foreign keys that reference one of some columns. -/
def referencing
    (dialect : Dialect)
    (columns : List Value)
    (rows : Value) : Attempt (List Value) := do
  let groups ← (← rows.groups).filterM fun group =>
    group.anyM fun row => return columns.contains (← dialect.partKey "referenced_column_name" row)
  return groups.flatten

/-! ## Groups -/

/-- The groups of rows under the keys of their names; of several under one key the last counts. -/
def keyedGroups
    (dialect : Dialect)
    (rows : Value) : Attempt (List (Value × List Value)) := do
  let keyed ← (← rows.groups).mapM fun group =>
    return (← dialect.partKey "name" (group.headD .null), group)
  return Keyed.ofList keyed

/-- A group covers one of the touched columns. -/
def touches
    (dialect : Dialect)
    (touched group : List Value) : Attempt Bool :=
  group.anyM fun row => do
    let column :=
      match row.part "column_name" with
      | .ok name => name
      | .error _ => .text ""
    return touched.contains (← dialect.keyOf column)

/-- A group stays as it is: the other side has the same rows, and no touched column is in it. -/
def isKept
    (dialect : Dialect)
    (touched group : List Value)
    (other : Option (List Value)) : Attempt Bool := do
  if other == some group then return !(← dialect.touches touched group)
  return false

/-- The rows of the groups that the other side lacks, has differently, or that are touched. -/
def rebuiltRows
    (dialect : Dialect)
    (touched : List Value)
    (groups others : List (Value × List Value)) : Attempt (List Value) := do
  let rebuilt ← groups.filterM fun (key, group) => do
    return !(← dialect.isKept touched group (others.lookup key))
  return rebuilt.flatMap (·.2)

/-- The rows of groups to drop from the target and to add from the source. -/
def changedGroups
    (dialect : Dialect)
    (touched : List Value)
    (source target : Value) : Attempt (List Value × List Value) := do
  let sourceGroups ← dialect.keyedGroups source
  let targetGroups ← dialect.keyedGroups target
  let dropped ← dialect.rebuiltRows touched targetGroups sourceGroups
  let added ← dialect.rebuiltRows touched sourceGroups targetGroups
  return (dropped, added)

end Dialect

/-- A foreign key row that names its table; one that names none belongs to the given table. -/
def Value.definedOn
    (row table : Value) : Attempt Value := do
  if (← row.part "table_name").isTruthy then return row
  row.replaceParts
    [("table_schema", ← table.part "schema"), ("table_name", ← table.part "name")]

/-- Two columns have the same definition, whatever their names and positions. -/
def Value.sameDefinition
    (source target : Value) : Attempt Bool := do
  let unnamed := [("name", .text ""), ("ordinal_position", .int 0)]
  return (← source.replaceParts unnamed) == (← target.replaceParts unnamed)

namespace TableChanges

/-- The columns of a table under the keys of their names; of several the last counts. -/
def keyedColumns
    (dialect : Dialect)
    (table : Value) : Attempt KeyedValues := do
  return Keyed.ofList (← dialect.keyedBy "name" (← table.partItems "columns"))

/-- The columns among some that have no counterpart in others. -/
def columnsOnlyIn
    (dialect : Dialect)
    (others : KeyedValues)
    (columns : List Value) : Attempt (List Value) :=
  columns.filterM fun column => return (others.lookup (← dialect.partKey "name" column)).isNone

/-- The columns among some that have a counterpart with another definition, with it. -/
def columnsAltered
    (dialect : Dialect)
    (others : KeyedValues)
    (columns : List Value) : Attempt (List (Value × Value)) := do
  let altered ← columns.mapM fun column => do
    match others.lookup (← dialect.partKey "name" column) with
    | none => return none
    | some other => return if ← column.sameDefinition other then none else some (column, other)
  return altered.filterMap id

/-- The foreign keys of other tables that are dropped while keys are rebuilt, and those restored. -/
def inboundForeignKeys
    (dialect : Dialect)
    (source target : Value)
    (dropped added : List Value) : Attempt (List Value × List Value) := do
  let rebuilt ← dropped.mapM (dialect.partKey "column_name")
  if rebuilt.isEmpty then return ([], [])
  let inbound ← dialect.referencing rebuilt (← target.part "referencing_foreign_keys")
  let names ← inbound.mapM (dialect.partKey "name")
  let restored ← added.mapM (dialect.partKey "column_name")
  let candidates ← dialect.referencing restored (← source.part "referencing_foreign_keys")
  let returning ← candidates.filterM fun row =>
    return names.contains (← dialect.partKey "name" row)
  return (inbound, returning)

/-- The changes that make a target table like a source table. -/
def between
    (dialect : Dialect)
    (options : Options)
    (source target : Value) : Attempt TableChanges := do
  let sourceColumns ← keyedColumns dialect source
  let targetColumns ← keyedColumns dialect target
  let byPosition ←
    Value.sortedBy (fun column => column.part "ordinal_position") (← target.partItems "columns")
  let droppedColumns ← columnsOnlyIn dialect sourceColumns byPosition
  let scripted ← options.scriptedColumns source target
  let addedColumns ← columnsOnlyIn dialect targetColumns scripted
  let alteredColumns ← columnsAltered dialect targetColumns scripted
  let touched ← (droppedColumns ++ alteredColumns.map (·.1)).mapM (dialect.partKey "name")
  let (dropIndexes, addIndexes) ←
    dialect.changedGroups touched (← source.secondaryIndexes) (← target.secondaryIndexes)
  let (dropPrimaryKeys, addPrimaryKeys) ←
    dialect.changedGroups touched (← source.primaryKeys) (← target.primaryKeys)
  let (dropChecks, addChecks) ←
    dialect.changedGroups [] (← source.part "constraints") (← target.part "constraints")
  let (ownDropped, ownAdded) ←
    dialect.changedGroups touched (← source.part "foreign_keys") (← target.part "foreign_keys")
  let ownDropped ← ownDropped.mapM (·.definedOn target)
  let ownAdded ← ownAdded.mapM (·.definedOn target)
  let (inbound, returning) ← inboundForeignKeys dialect source target
    (dropPrimaryKeys ++ dropIndexes) (addPrimaryKeys ++ addIndexes)
  return {
    droppedColumns, addedColumns, alteredColumns, dropPrimaryKeys, addPrimaryKeys, dropIndexes,
    addIndexes, dropChecks, addChecks
    dropForeignKeys := ← dialect.uniqueForeignKeys (ownDropped ++ inbound)
    addForeignKeys := ← dialect.uniqueForeignKeys (ownAdded ++ returning) }

end TableChanges

end SchemaDelta
