import SchemaDelta.Ddl.Access
import SchemaDelta.Text.Blank

/-!
# Tables

What scripting reads from tables beside their fields: the two sorts of index rows and the table from
which a table inherits.  Only tables have these parts.
-/

namespace SchemaDelta.Value

/-- The rows of indexes of a table that pass a test of whether they belong to its primary key. -/
def indexRows
    (table : Value)
    (isWanted : Bool → Bool) : Attempt Value := do
  if !(table matches object .table _ | object .postgreSqlTable _) then
    throw (.noPart table.kind "index rows")
  return .list (← (← table.partItems "indexes").filterM fun row =>
    return isWanted (← row.part "is_primary_key").isTruthy)

/-- The index rows of the primary key. -/
def primaryKeys
    (table : Value) : Attempt Value :=
  table.indexRows id

/-- The index rows that belong to no primary key. -/
def secondaryIndexes
    (table : Value) : Attempt Value :=
  table.indexRows not

/--
The schema and the name of the table from which a table inherits, or null; only tables of PostgreSQL
inherit, and a blank name is none.
-/
def parentKey
    (table : Value) : Attempt Value :=
  match table with
  | object .table _ => .ok null
  | object .postgreSqlTable _ => do
    let name ← table.part "inherited_table_name"
    if (Text.trim (← (name.orElse (text "")).asText)).isEmpty then return null
    let schema ← table.part "inherited_table_schema"
    return list [schema.orElse (text ""), name]
  | table => .error (.noPart table.kind "parent")

end SchemaDelta.Value
