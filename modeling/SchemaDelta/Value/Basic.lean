import SchemaDelta.Decimal.Binary64
import SchemaDelta.Schema.Enumeration
import SchemaDelta.Schema.ObjectClass

/-!
# Values

What the fields of a schema hold: plain values, lists, records, objects of a class with all their
fields, and members of enumerations.  A field may hold any value, whatever it is meant for.  A
member counts as the text that is its value, and numbers are equal when their values are, true and
one among them.
-/

namespace SchemaDelta

open Decimal (Binary64)

/-- A value of a schema. -/
inductive Value where
  | null
  | bool (value : Bool)
  | int (value : Int)
  | float (value : Binary64)
  | text (value : String)
  | member (member : Member)
  | list (items : List Value)
  | record (fields : List (String × Value))
  | object (kind : ObjectClass) (fields : List (String × Value))

namespace Value

/-- The integer that a truth value or an integer counts as. -/
def asInt? : Value → Option Int
  | bool value => some (if value then 1 else 0)
  | int value => some value
  | _ => none

/-- The text that a text or a member counts as. -/
def asText? : Value → Option String
  | text value => some value
  | member value => some value.value
  | _ => none

/-- The field of an object under a name. -/
def field?
    (name : String) : Value → Option Value
  | object _ fields => fields.lookup name
  | _ => none

/-- There is no value. -/
def isNull : Value → Bool
  | null => true
  | _ => false

/-- The value is a number that is none. -/
def isUndefined : Value → Bool
  | float .undefined => true
  | _ => false

/--
Null, false, zero and whatever is empty do not count as a yes; everything else does, members and
objects among them.
-/
def isTruthy : Value → Bool
  | null => false
  | bool value => value
  | int value => value != 0
  | float value => !value.equalInt 0
  | text value => !value.isEmpty
  | list items => !items.isEmpty
  | record fields => !fields.isEmpty
  | member _ => true
  | object _ _ => true

/-- A value, or another one where it is no yes. -/
def orElse
    (value otherwise : Value) : Value :=
  if value.isTruthy then value else otherwise

/-! ## Equality -/

/-- Equality of two values without parts. -/
def equalScalar
    (left right : Value) : Bool :=
  match left, right with
  | null, null => true
  | float .undefined, float .undefined => true
  | float left, float right => left.equal right
  | float left, right => right.asInt?.any left.equalInt
  | left, float right => left.asInt?.any right.equalInt
  | left, right =>
    match left.asInt?, right.asInt? with
    | some left, some right => left == right
    | none, none =>
      match left.asText?, right.asText? with
      | some left, some right => left == right
      | _, _ => false
    | _, _ => false

mutual

/--
Equality of values.  Lists are compared in order and records by their names; objects are equal when
their classes are the same and all their fields are equal.  The undefined number is one value.
-/
def equal : Value → Value → Bool
  | list left, list right => equalItems left right
  | record left, record right => left.length == right.length && equalRecord left right
  | object kind left, object kind' right => kind == kind' && equalFields left right
  | list _, _ => false
  | record _, _ => false
  | object _ _, _ => false
  | left, right => equalScalar left right
termination_by structural left => left

/-- Lists of equal length with equal items. -/
def equalItems : List Value → List Value → Bool
  | [], [] => true
  | left :: lefts, right :: rights => equal left right && equalItems lefts rights
  | _, _ => false

/-- Every field of a record has an equal field of the same name in the other. -/
def equalRecord : List (String × Value) → List (String × Value) → Bool
  | [], _ => true
  | (name, left) :: lefts, rights =>
    (match rights.lookup name with
      | some right => equal left right
      | none => false) && equalRecord lefts rights

/-- The fields of two objects of one class, pair by pair. -/
def equalFields : List (String × Value) → List (String × Value) → Bool
  | [], [] => true
  | (name, left) :: lefts, (name', right) :: rights =>
    name == name' && equal left right && equalFields lefts rights
  | _, _ => false

end

instance : BEq Value := ⟨equal⟩

/-- Equality as numbers are compared: the undefined number equals nothing, not even itself. -/
def agrees
    (left right : Value) : Bool :=
  !left.isUndefined && left == right

/-! ## Keys -/

mutual

/-- The value can be a key: there is no record in it. -/
def isKey : Value → Bool
  | record _ => false
  | list items => areKeys items
  | object _ fields => holdKeys fields
  | _ => true
termination_by structural value => value

/-- All items can be keys. -/
def areKeys : List Value → Bool
  | [] => true
  | item :: items => isKey item && areKeys items

/-- All fields hold what can be a key. -/
def holdKeys : List (String × Value) → Bool
  | [] => true
  | (_, value) :: fields => isKey value && holdKeys fields

end

end Value

end SchemaDelta
