import SchemaDelta.Ddl.Grouping
import SchemaDelta.Ddl.Table

/-!
# Order of inheriting tables

A table is created after the table from which it inherits and dropped before it.  Tables are visited
by schema and name, and each is placed right after those of its ancestors that have no place yet.
A parent that is not among the tables and a circle of parents leave no order.
-/

namespace SchemaDelta

/-- A table with the schema and name by which it is found. -/
structure KeyedTable where
  key : Value
  table : Value

namespace Inheritance

/-- The tables of a list by schema and name, each with its key. -/
def listed
    (tables : Value) : Attempt (List KeyedTable) := do
  let sorted ← Value.sortedByName (← tables.items)
  sorted.mapM fun table => return ⟨← (← table.listingKey).asKey, table⟩

/-- The table under a key; of several the last one counts. -/
def find?
    (tables : List KeyedTable)
    (key : Value) : Option KeyedTable :=
  tables.reverse.find? fun table => table.key == key

/-- The keys of a pool that differ from one. -/
def without
    (key : Value)
    (pool : List Value) : List Value :=
  pool.filter fun other => !(key == other)

/-- A pool without a key that is in it is smaller. -/
theorem length_without_lt
    {pool : List Value}
    {key : Value}
    (met : (pool.any fun other => key == other) = true) :
    (without key pool).length < pool.length := by
  obtain ⟨other, member, same⟩ := List.any_eq_true.mp met
  refine List.length_filter_lt_length_iff_exists.mpr ⟨other, member, ?_⟩
  simp [same]

/--
A table after those of its ancestors that have no place yet, the root first.  The pool holds the
keys that were not met on the way from the first table of the chain; a key that is met again closes
a circle.
-/
def chain
    (tables : List KeyedTable)
    (placed pool : List Value)
    (table : KeyedTable) : Attempt (List KeyedTable) :=
  if placed.any fun key => table.key == key then .ok []
  else if _ : (pool.any fun key => table.key == key) = true then do
    let parentKey ← table.table.parentKey
    if parentKey.isNull then return [table]
    match find? tables (← parentKey.asKey) with
    | none =>
      throw (.missingParent (← parentKey.itemAt 0).display (← parentKey.itemAt 1).display
        (← table.table.part "schema").display (← table.table.part "name").display)
    | some parent =>
      let ancestors ← chain tables placed (without table.key pool) parent
      return ancestors ++ [table]
  else do
    throw (.circularInheritance (← table.table.part "schema").display
      (← table.table.part "name").display)
termination_by pool.length
decreasing_by
  exact length_without_lt ‹_›

/-- The order that places tables one after the other behind the tables placed before. -/
def place
    (tables : List KeyedTable)
    (placed : List KeyedTable) : List KeyedTable → Attempt (List KeyedTable)
  | [] => .ok placed
  | table :: rest => do
    let added ← chain tables (placed.map (·.key)) (tables.map (·.key)) table
    place tables (placed ++ added) rest

/-- The order in which listed tables are created. -/
def createOrder
    (tables : List KeyedTable) : Attempt (List Value) := do
  return (← place tables [] tables).map (·.table)

/-- The order in which listed tables are dropped. -/
def dropOrder
    (tables : List KeyedTable) : Attempt (List Value) := do
  return (← createOrder tables).reverse

/-- Some table inherits from another. -/
def hasDependencies
    (tables : List KeyedTable) : Attempt Bool :=
  tables.anyM fun table => return !(← table.table.parentKey).isNull

/-- The order in which tables are created or dropped: by schema and name, unless some inherit. -/
def order
    (dropping : Bool)
    (tables : Value) : Attempt (List Value) := do
  let tables ← listed tables
  if ← hasDependencies tables then
    if dropping then dropOrder tables else createOrder tables
  else
    let sorted := tables.map (·.table)
    return if dropping then sorted.reverse else sorted

end Inheritance

/-- The order in which a dialect creates or drops tables; only PostgreSQL knows inheritance. -/
def Dialect.sortTables
    (dialect : Dialect)
    (dropping : Bool)
    (tables : Value) : Attempt (List Value) := do
  if dialect = .postgreSql then return ← Inheritance.order dropping tables
  let sorted ← Value.sortedByName (← tables.items)
  return if dropping then sorted.reverse else sorted

end SchemaDelta
