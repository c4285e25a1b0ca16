import SchemaDelta.Ddl.Access

/-!
# Variants

Each dialect scripts only the variants of its own.  An object of another class is refused by the
name of its class and of the class that was expected.
-/

namespace SchemaDelta

/-- A value is an object of a class or of a more special one. -/
def Value.isA
    (value : Value)
    (expected : ObjectClass) : Bool :=
  match value with
  | .object kind _ => kind.isA expected
  | _ => false

/-- A value has to be given and has to be of a class that the dialect scripts. -/
def Dialect.expect
    (dialect : Dialect)
    (expected : ObjectClass)
    (found : Value) : Attempt Unit := do
  found.required expected.name
  if !found.isA expected then throw (.foreignVariant found.kind dialect expected)

end SchemaDelta
