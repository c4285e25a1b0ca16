import SchemaDelta.Decimal.Binary64
import SchemaDelta.Keyed

/-!
# JSON documents

A document is a tree of values.  Integers are kept exactly and apart from floating point numbers,
and the fields of an object keep their order.
-/

namespace SchemaDelta

open Decimal (Binary64)

/-- A JSON value. -/
inductive Json where
  | null
  | bool (value : Bool)
  | int (value : Int)
  | float (value : Binary64)
  | text (value : String)
  | list (items : List Json)
  | object (fields : List (String × Json))

namespace Json

/-- The field of an object under a name. -/
def field?
    (name : String) : Json → Option Json
  | object fields => fields.lookup name
  | _ => none

/--
Null, false, zero and whatever is empty do not count as a yes; everything else does, the text
`"false"` among them.
-/
def isTruthy : Json → Bool
  | null => false
  | bool value => value
  | int value => value != 0
  | float value => !value.equalInt 0
  | text value => !value.isEmpty
  | list items => !items.isEmpty
  | object fields => !fields.isEmpty

mutual

/-- The greatest count of lists and objects inside one another. -/
def depth : Json → Nat
  | list items => itemsDepth items + 1
  | object fields => fieldsDepth fields + 1
  | _ => 0
termination_by structural value => value

/-- The greatest depth among items. -/
def itemsDepth : List Json → Nat
  | [] => 0
  | item :: items => max (depth item) (itemsDepth items)

/-- The greatest depth among fields. -/
def fieldsDepth : List (String × Json) → Nat
  | [] => 0
  | (_, value) :: fields => max (depth value) (fieldsDepth fields)

end

end Json

end SchemaDelta
