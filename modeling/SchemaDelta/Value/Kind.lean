import SchemaDelta.Value.Basic

/-!
# Kinds of values

Messages and reports say what kind of value they met: one of the plain kinds, an enumeration or a
class of objects.
-/

namespace SchemaDelta

/-- What a value is, whatever it holds. -/
inductive ValueKind where
  | null
  | bool
  | int
  | float
  | text
  | list
  | record
  | enumeration (title : String)
  | object (kind : ObjectClass)
deriving DecidableEq

/-- The kind of a value. -/
def Value.kind : Value → ValueKind
  | .null => .null
  | .bool _ => .bool
  | .int _ => .int
  | .float _ => .float
  | .text _ => .text
  | .list _ => .list
  | .record _ => .record
  | .member found => .enumeration found.title
  | .object kind _ => .object kind

/-- The name of a kind in messages and reports. -/
def ValueKind.name : ValueKind → String
  | null => "NoneType"
  | bool => "bool"
  | int => "int"
  | float => "float"
  | text => "str"
  | list => "tuple"
  | record => "dict"
  | enumeration title => title
  | object kind => kind.name

end SchemaDelta
