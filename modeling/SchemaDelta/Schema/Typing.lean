import SchemaDelta.Schema.Fields

/-!
# Typed values

Fields may hold any value.  A typed object is one whose fields, and those of the objects in them,
hold what they are meant to hold.
-/

namespace SchemaDelta

/-- A value without parts is of a type. -/
def ItemType.admits : ItemType → Value → Bool
  | .text, .text _ => true
  | .truth, .bool _ => true
  | .int, .int _ => true
  | .number, .int _ => true
  | .number, .float _ => true
  | .dialect, .member (.dialect _) => true
  | .action, .member (.action _) => true
  | .indexKind, .member (.indexKind _) => true
  | _, _ => false

/-- The type of the items of a list of a type. -/
def FieldType.itemType
    (type : FieldType) : FieldType :=
  { item := type.item }

mutual

/-- A value holds what a field of a type is meant to hold. -/
def Value.conforms : Value → FieldType → Bool
  | .null, type => type.isOptional
  | .list items, type => type.isList && Value.allConform items type.itemType
  | .object kind fields, type =>
    match type.item with
    | .object expected =>
      !type.isList && kind.isA expected && Value.fieldsConform fields kind.fields
    | _ => false
  | value, type => !type.isList && type.item.admits value
termination_by structural value => value

/-- All values hold what an item of a type is meant to hold. -/
def Value.allConform : List Value → FieldType → Bool
  | [], _ => true
  | item :: items, type => Value.conforms item type && Value.allConform items type

/-- The fields of an object are those of its class and hold what they are meant to hold. -/
def Value.fieldsConform : List (String × Value) → List FieldInfo → Bool
  | [], [] => true
  | (name, value) :: fields, info :: infos =>
    name == info.name && Value.conforms value info.type && Value.fieldsConform fields infos
  | _, _ => false

end

/-- A typed object of a class. -/
def Value.isTyped
    (value : Value)
    (kind : ObjectClass) : Bool :=
  value.conforms { item := .object kind }

end SchemaDelta
