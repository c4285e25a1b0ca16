import SchemaDelta.Ddl.Access
import SchemaDelta.Snapshot.Document

/-!
# Sameness of objects

Two objects are the same when their stored fields are.  Tags do not count, so the class of an object
and the member of an enumeration are not compared; lists count as the sets of their items; values
without parts are the same when they have one type and are equal.  The positions of columns do not
count either.

Items of lists are told apart by the marks of what is in them, so that numbers of equal value count
as one item and a text may stand for what has it as its mark.
-/

namespace SchemaDelta

namespace Value

/-- Names that begin with two underscores are tags. -/
def isTag
    (name : String) : Bool :=
  ['_', '_'].isPrefixOf name.toList

/-! ## Items of lists -/

/-- The names of a record, tags apart, all occur in another. -/
def sameNames
    (lefts rights : List (String × Value)) : Bool :=
  rights.all fun right => isTag right.1 || lefts.any fun left => left.1 == right.1

/-- The mark of a value in which nothing stands that counts; other values have none. -/
def mark? : Value → Option String
  | null => some "NONE"
  | bool value => some ("bool:" ++ if value then "true" else "false")
  | int value => some ("int:" ++ toString value)
  | float value => some ("float:" ++ (float value).display)
  | text value => some value
  | list [] => some "list:"
  | record fields => if sameNames [] fields then some "dict:\x7b\x7d" else none
  | _ => none

/-- Values that are told apart by their marks or, if they are numbers, by value. -/
def sameMark : Value → Value → Bool
  | member left, member right => left == right
  | int left, float right => right.equalInt left
  | float left, int right => left.equalInt right
  | float left, float right => float left == float right
  | left, right =>
    match left.mark?, right.mark? with
    | some left, some right => left == right
    | _, _ => false

/-- Every place up to a width is true in some row. -/
def coversAll
    (width : Nat)
    (rows : List (List Bool)) : Bool :=
  (rows.foldl (List.zipWith (· || ·)) (List.replicate width false)).all id

mutual

/--
Two values are one item of a list.  Of two lists, every item of either one is one with some item of
the other.
-/
def alike : Value → Value → Bool
  | list lefts, list rights =>
    let rows := alikeRows lefts rights
    rows.all (·.any id) && coversAll rights.length rows
  | record lefts, record rights => sameNames lefts rights && alikeFields lefts rights
  | object kind lefts, object kind' rights => kind == kind' && alikeFields lefts rights
  | left, right => sameMark left right
termination_by structural left => left

/-- For every item of a list, which items of another it is one with. -/
def alikeRows : List Value → List Value → List (List Bool)
  | [], _ => []
  | left :: lefts, rights => rights.map (fun right => alike left right) :: alikeRows lefts rights

/-- The fields of a record, tags apart, hold what counts as one item with those of another. -/
def alikeFields : List (String × Value) → List (String × Value) → Bool
  | [], _ => true
  | (name, left) :: lefts, rights =>
    (isTag name ||
      match rights.lookup name with
      | some right => alike left right
      | none => false) && alikeFields lefts rights

end

/-! ## Values -/

mutual

/-- Sameness of two values. -/
def same : Value → Value → Bool
  | null, null => true
  | bool left, bool right => left == right
  | int left, int right => left == right
  | float left, float right => float left == float right
  | text left, text right => left == right
  | member left, member right => left == right
  | list lefts, list rights => alike (list lefts) (list rights)
  | record lefts, record rights => sameNames lefts rights && sameFields lefts rights
  | object kind lefts, object kind' rights => kind == kind' && sameFields lefts rights
  | _, _ => false
termination_by structural left => left

/-- The fields of a record, tags apart, are the same in another. -/
def sameFields : List (String × Value) → List (String × Value) → Bool
  | [], _ => true
  | (name, left) :: lefts, rights =>
    (isTag name ||
      match rights.lookup name with
      | some right => same left right
      | none => false) && sameFields lefts rights

end

/-! ## Objects -/

/-- A column as it is compared: without its position. -/
def withoutPosition
    (column : Value) : Attempt Value :=
  match column with
  | record fields => .ok (record (fields.filter fun field => field.1 != "ordinal_position"))
  | list items => .error (.unsuitable (list items).kind)
  | column => .error (.noPart column.kind "ordinal_position")

/-- The columns of a table as they are compared. -/
def comparableColumns
    (columns : Value) : Attempt Value := do
  let compared ← (← columns.items).mapM withoutPosition
  return if columns matches .list _ then .list compared else columns

/-- A field of an object as it is compared. -/
def comparableField : String × Value → Attempt (String × Value)
  | ("columns", columns) => do return ("columns", ← comparableColumns columns)
  | field => .ok field

/-- An object as it is compared: in stored form, its columns without their positions. -/
def comparable
    (object : Value) : Attempt Value := do
  match object.toPlain with
  | record fields => return record (← fields.mapM comparableField)
  | value => return value

/-- Sameness of two objects. -/
def sameObject
    (left right : Value) : Attempt Bool := do
  let left ← left.comparable
  let right ← right.comparable
  return same left right

end Value

end SchemaDelta
