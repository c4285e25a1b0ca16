import SchemaDelta.Ddl.Failure
import SchemaDelta.Value.Display
import SchemaDelta.Value.Order

/-!
# Use of values

Scripting reads the parts of objects, the letters of texts and the items of lists.  Where a value of
another kind stands, it fails by what was asked of the value.
-/

namespace SchemaDelta

/-- A result, or why there is none. -/
abbrev Attempt (α : Type) : Type :=
  Except ScriptFailure α

/-- A text, or why there is none. -/
abbrev Script : Type :=
  Attempt String

namespace Value

/-- A part of a value: a field of an object, or the name or the value of a member. -/
def part
    (value : Value)
    (name : String) : Attempt Value :=
  match value with
  | object kind fields =>
    match fields.lookup name with
    | some found => .ok found
    | none => .error (.noPart (.object kind) name)
  | member known =>
    if name = "name" then .ok (text known.name)
    else if name = "value" then .ok (text known.value)
    else .error (.noPart value.kind name)
  | value => .error (.noPart value.kind name)

/-- A value has to be given; the failure names what is missing. -/
def required
    (value : Value)
    (argument : String) : Attempt Unit :=
  if value.isNull then .error (.missingArgument argument) else .ok ()

/-- The text that a value counts as. -/
def asText
    (value : Value) : Attempt String :=
  match value.asText? with
  | some letters => .ok letters
  | none => .error (.noPart value.kind "letters")

/-- The text of a part. -/
def partText
    (value : Value)
    (name : String) : Attempt String := do
  (← value.part name).asText

/-- The letters of a text, each as a text. -/
def lettersOf
    (letters : String) : List Value :=
  letters.toList.map fun letter => text (String.ofList [letter])

/-- The items of a list, the letters of a text or the names of a record. -/
def items
    (value : Value) : Attempt (List Value) :=
  match value with
  | list items => .ok items
  | record fields => .ok (fields.map fun field => text field.1)
  | text letters => .ok (lettersOf letters)
  | member known => .ok (lettersOf known.value)
  | value => .error (.unsuitable value.kind)

/-- The items of a part. -/
def partItems
    (value : Value)
    (name : String) : Attempt (List Value) := do
  (← value.part name).items

/-- The item of a list, or the letter of a text, at a place; a record has no entries for places. -/
def itemAt
    (value : Value)
    (place : Nat) : Attempt Value :=
  match value with
  | record _ => .error (.noEntry (toString place))
  | value => do
    match (← value.items)[place]? with
    | some item => return item
    | none => throw .outOfRange

/-- A value as a key, unless there is a record in it. -/
def asKey
    (value : Value) : Attempt Value :=
  if value.isKey then .ok value else .error (.unsuitable .record)

/-- An object with other values in fields that its class has to have. -/
def replaceParts
    (value : Value)
    (parts : List (String × Value)) : Attempt Value :=
  match value with
  | object kind fields =>
    if parts.all fun part => (fields.lookup part.1).isSome then
      .ok (object kind (fields.map fun (name, given) => (name, (parts.lookup name).getD given)))
    else .error (.unsuitable (.object kind))
  | value => .error (.unsuitable value.kind)

/-- Two lists or two texts, one behind the other. -/
def append
    (left right : Value) : Attempt Value :=
  match left, right with
  | list left, list right => .ok (list (left ++ right))
  | left, right =>
    match left.asText?, right.asText? with
    | some left, some right => .ok (text (left ++ right))
    | _, _ => .error (.unsuitable left.kind)

/-- The texts of values with a separator between them. -/
def joinTexts
    (separator : String)
    (values : List Value) : Script := do
  let texts ← values.mapM fun value =>
    match value.asText? with
    | some letters => Except.ok letters
    | none => .error (.unsuitable value.kind)
  return separator.intercalate texts

/-- An item put in front of the first one that it does not come after. -/
def insertOn
    {α : Type}
    (key : α → Value)
    (item : α) : List α → List α
  | [] => [item]
  | first :: items =>
    if (key item).precedes (key first) then item :: first :: items
    else first :: insertOn key item items

/-- Items in the order of keys that are already read; items with equal keys keep their order. -/
def sortedOn
    {α : Type}
    (key : α → Value)
    (items : List α) : List α :=
  items.foldr (insertOn key) []

/--
Items in the order of their keys; items with equal keys keep their order.  Keys without an order
among them leave neighbours without one.
-/
def sortedBy
    {α : Type}
    (key : α → Attempt Value)
    (items : List α) : Attempt (List α) := do
  let keyed ← items.mapM fun item => return (← key item, item)
  let sorted := sortedOn (·.1) keyed
  if !areComparable (sorted.map (·.1)) then throw (.unsuitable .list)
  return sorted.map (·.2)

end Value

end SchemaDelta
