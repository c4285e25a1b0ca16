import SchemaDelta.Ddl.Grouping

/-!
# Column order

The columns of a table are scripted by position or by name.  Beside a table on the other side of a
comparison, the columns that both share take the order of that table, so that the two scripts line
up.
-/

namespace SchemaDelta

/-- The columns of a table by name or by position; equal ones keep their order. -/
def Options.orderedColumns
    (options : Options)
    (table : Value) : Attempt (List Value) := do
  let columns ← table.partItems "columns"
  Value.sortedBy
    (fun column => column.part (if options.alphabeticalColumns then "name" else "ordinal_position"))
    columns

/-- The name of a column as columns are aligned by it. -/
def Value.alignmentName
    (column : Value) : Script := do
  return Text.lower (← column.partText "name")

/-- The first column with a name to be aligned by, and the columns without it. -/
def takeColumn?
    (wanted : String) : List Value → Attempt (Option (Value × List Value))
  | [] => .ok none
  | column :: columns => do
    if (← column.alignmentName) = wanted then return some (column, columns)
    match ← takeColumn? wanted columns with
    | none => return none
    | some (found, others) => return some (found, column :: others)

/--
Columns in the order of reference columns.  Every reference column takes the first column left that
it is aligned with; what is left in the end follows.
-/
def alignColumns : List Value → List Value → Attempt (List Value)
  | [], columns => .ok columns
  | reference :: references, columns => do
    match ← takeColumn? (← reference.alignmentName) columns with
    | some (column, others) => return column :: (← alignColumns references others)
    | none => alignColumns references columns

/-- The columns of a table in the order in which they are scripted beside another table or null. -/
def Options.scriptedColumns
    (options : Options)
    (table reference : Value) : Attempt (List Value) := do
  let columns ← options.orderedColumns table
  if reference.isNull || options.ignoreReferenceOrder then return columns
  alignColumns (← options.orderedColumns reference) columns

end SchemaDelta
