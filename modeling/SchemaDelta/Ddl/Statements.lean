import SchemaDelta.Ddl.Grouping
import SchemaDelta.Ddl.Scripting
import SchemaDelta.Text.Blank

/-!
# Statements of a dialect

What every dialect says in its own way.  The statements are given the objects and lists of rows to
script; which rows have to be scripted is decided elsewhere.  Rows that are dropped carry the table
they belong to.
-/

namespace SchemaDelta

/-- The statements of a dialect. -/
structure Statements where
  /-- The definition of a column as it stands in a table. -/
  columnDefinition : Options → (column : Value) → Script
  /-- The type part of a column definition, which may be whatever the column carries. -/
  columnType : Options → (column : Value) → Attempt Value
  /-- A table with its columns in the given order. -/
  createTable : Options → (table columns : Value) → Script
  dropTable : Options → (table : Value) → Script
  addPrimaryKeys : Options → (table rows : Value) → Script
  dropPrimaryKeys : Options → (rows : Value) → Script
  addChecks : Options → (table rows : Value) → Script
  dropChecks : Options → (rows : Value) → Script
  addForeignKeys : Options → (table rows : Value) → Script
  dropForeignKeys : Options → (rows : Value) → Script
  /-- The indexes of a table or view. -/
  createIndexes : Options → (owner rows : Value) → Script
  dropIndexes : Options → (owner rows : Value) → Script
  addColumn : Options → (table column : Value) → Script
  dropColumn : Options → (table column : Value) → Script
  /-- The column of a table on the source side and the one it replaces. -/
  alterColumn : Options → (table source target : Value) → Script
  createView : Options → (view : Value) → Script
  dropView : Options → (view : Value) → Script
  alterView : Options → (source target : Value) → Scripting String
  createFunction : Options → (types function : Value) → Script
  dropFunction : Options → (types function : Value) → Script
  alterFunction : Options → (types source target : Value) → Scripting String
  createProcedure : Options → (procedure : Value) → Script
  dropProcedure : Options → (procedure : Value) → Script
  alterProcedure : Options → (source target : Value) → Scripting String
  createTrigger : Options → (trigger : Value) → Script
  dropTrigger : Options → (trigger : Value) → Script
  alterTrigger : Options → (source target : Value) → Scripting String
  createSequence : Options → (sequence : Value) → Script
  dropSequence : Options → (sequence : Value) → Script
  createType : Options → (types type : Value) → Script
  dropType : Options → (type : Value) → Script

/-- The column lines of a table. -/
def columnLines
    (definition : Value → Script)
    (columns : Value) : Script := do
  let definitions ← (← columns.items).mapM definition
  return ",\n".intercalate (definitions.map fun text => indent ++ text)

/-- A change by dropping and creating again; the drop is scripted first. -/
def recreate
    (dropping creating : Script) : Script := do
  let dropping ← dropping
  let creating ← creating
  return dropAndCreate dropping creating

/-- The condition of an index; a blank one is none. -/
def indexCondition?
    (row : Value) : Attempt (Option String) := do
  let condition ← row.part "filter_definition"
  if !condition.isTruthy then return none
  if (Text.trim (← condition.asText)).isEmpty then return none
  return some condition.display

/-- A bound of a sequence, if it has one. -/
def boundLine
    (keyword : String)
    (bound : Value) : String :=
  if bound.isNull then indent ++ "NO " ++ keyword ++ "\n"
  else indent ++ keyword ++ " " ++ bound.display ++ "\n"

/-- The bounds and the cycling of a sequence, which all dialects write alike. -/
def sequenceLines
    (sequence : Value) : Script := do
  let type ← sequence.part "data_type"
  let start ← sequence.part "start_value"
  let increment ← sequence.part "increment"
  let least ← sequence.part "min_value"
  let greatest ← sequence.part "max_value"
  let cycling ← sequence.part "is_cycling"
  return indent ++ "AS " ++ type.display ++ "\n" ++
    indent ++ "START WITH " ++ start.display ++ "\n" ++
    indent ++ "INCREMENT BY " ++ increment.display ++ "\n" ++
    boundLine "MINVALUE" least ++ boundLine "MAXVALUE" greatest ++
    indent ++ (if cycling.isTruthy then "CYCLE\n" else "NO CYCLE\n")

end SchemaDelta
