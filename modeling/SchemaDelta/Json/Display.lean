import SchemaDelta.Json.Basic
import SchemaDelta.Value.Display

/-!
# JSON values in messages

A value that a request holds where it should not, as messages show it: a text as it is, anything
inside another value so that its kind can be told.
-/

namespace SchemaDelta.Json

mutual

/-- A value inside another one. -/
def displayInner : Json → String
  | null => Value.null.displayInner
  | bool value => (Value.bool value).displayInner
  | int value => (Value.int value).displayInner
  | float value => (Value.float value).displayInner
  | text value => Text.quoted value
  | list items => "[" ++ ", ".intercalate (displayItems items) ++ "]"
  | object fields => "\x7b" ++ ", ".intercalate (displayFields fields) ++ "\x7d"
termination_by structural value => value

/-- The items of a list, each as it is shown inside. -/
def displayItems : List Json → List String
  | [] => []
  | item :: items => displayInner item :: displayItems items

/-- The fields of an object. -/
def displayFields : List (String × Json) → List String
  | [] => []
  | (name, value) :: fields =>
    (Text.quoted name ++ ": " ++ displayInner value) :: displayFields fields

end

/-- A value as it is shown: a text as it is. -/
def display : Json → String
  | text value => value
  | value => displayInner value

end SchemaDelta.Json
