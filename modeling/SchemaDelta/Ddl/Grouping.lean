import SchemaDelta.Ddl.Identifier
import SchemaDelta.Keyed

/-!
# Order and grouping of rows

Objects are listed by schema and name.  Rows with one name make up a group, which is ordered by the
positions of its rows.
-/

namespace SchemaDelta

namespace Value

/-- What objects are listed by: the schema, then the name. -/
def listingKey
    (object : Value) : Attempt Value := do
  return .list [← object.part "schema", ← object.part "name"]

/-- Objects listed by schema and name; equal ones keep their order. -/
def sortedByName
    (objects : List Value) : Attempt (List Value) :=
  sortedBy listingKey objects

/-- The position of a row in its group; rows without one are all first. -/
def positionInGroup
    (row : Value) : Value :=
  match row.part "ordinal_position" with
  | .ok position => position
  | .error _ => .int 0

end Value

section Groups

variable {α : Type}

/-- One group a name, in the order in which the names first come, each by position. -/
def groupByName
    (row : α → Value)
    (items : List α) : Attempt (List (List α)) := do
  let named ← items.mapM fun item => return (← (← (row item).part "name").asKey, item)
  (Keyed.firstByKey id (named.map (·.1))).mapM fun name =>
    Value.sortedBy (fun item => .ok (row item).positionInGroup)
      ((named.filter fun entry => entry.1 == name).map (·.2))

/-- The groups of rows that are first listed by schema and name. -/
def sortAndGroup
    (row : α → Value)
    (items : List α) : Attempt (List (List α)) := do
  groupByName row (← Value.sortedBy (fun item => (row item).listingKey) items)

end Groups

/-- The groups of the rows of a list. -/
def Value.groups
    (rows : Value) : Attempt (List (List Value)) := do
  sortAndGroup id (← rows.items)

/-- The texts of parts of rows in quotes, with commas between them. -/
def Dialect.quotedParts
    (dialect : Dialect)
    (name : String)
    (rows : List Value) : Script := do
  return ",".intercalate (← rows.mapM fun row => dialect.quotePart row name)

/-- The columns of an index; if one is descending, every column says its direction. -/
def Dialect.indexColumns
    (dialect : Dialect)
    (rows : List Value) : Script := do
  let showsDirection ← rows.anyM fun row => return (← row.part "is_descending").isTruthy
  let sorted ← Value.sortedBy (fun row => row.part "ordinal_position") rows
  let columns ← sorted.mapM fun row => do
    let column ← dialect.quotePart row "column_name"
    if !showsDirection then return column
    return column ++ if (← row.part "is_descending").isTruthy then " DESC" else " ASC"
  return ",".intercalate columns

/-- One statement a group, from its first row and all of its rows. -/
def groupScripts
    (groups : List (List Value))
    (statement : Value → List Value → Script) : Script := do
  return String.join (← groups.mapM fun group => statement (group.headD .null) group)

end SchemaDelta
