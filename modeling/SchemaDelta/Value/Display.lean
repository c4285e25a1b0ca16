import SchemaDelta.Decimal.Style
import SchemaDelta.Text.Quoted
import SchemaDelta.Value.Basic

/-!
# Values in messages and statements

How a value is shown wherever a text is made from it: a text as it is, a member by its qualified
name, anything inside another value so that its kind can be told.
-/

namespace SchemaDelta.Value

/-- How a number is spelled. -/
def numberStyle : Decimal.Style := ⟨16, ".0", "inf", "nan"⟩

mutual

/-- A value inside another one. -/
def displayInner : Value → String
  | null => "None"
  | bool value => if value then "True" else "False"
  | int value => toString value
  | float value => numberStyle.writeShortest value
  | text value => Text.quoted value
  | member value => "<" ++ value.qualifiedName ++ ": " ++ Text.quoted value.value ++ ">"
  | list [item] => "(" ++ displayInner item ++ ",)"
  | list items => "(" ++ ", ".intercalate (displayItems items) ++ ")"
  | record fields => "\x7b" ++ ", ".intercalate (displayRecord fields) ++ "\x7d"
  | object kind fields => kind.name ++ "(" ++ ", ".intercalate (displayFields fields) ++ ")"

/-- The items of a list, each as it is shown inside. -/
def displayItems : List Value → List String
  | [] => []
  | item :: items => displayInner item :: displayItems items

/-- The fields of a record. -/
def displayRecord : List (String × Value) → List String
  | [] => []
  | (name, value) :: fields =>
    (Text.quoted name ++ ": " ++ displayInner value) :: displayRecord fields

/-- The fields of an object. -/
def displayFields : List (String × Value) → List String
  | [] => []
  | (name, value) :: fields => (name ++ "=" ++ displayInner value) :: displayFields fields

end

/-- A value as it is shown: a text as it is, a member by its qualified name. -/
def display : Value → String
  | text value => value
  | member value => value.qualifiedName
  | value => displayInner value

end SchemaDelta.Value
