import SchemaDelta.Ddl.FullScript
import SchemaDelta.Json.Display

/-!
# Choice of a dialect

A scripter is asked for by the value of its dialect, or it takes the dialect of the database that it
scripts.
-/

namespace SchemaDelta

namespace Dialect

/-- The dialect that a value of a schema stands for. -/
def ofValue
    (given : Value) : Attempt Dialect :=
  match given.asText?.bind Enumeration.ofValue? with
  | some found => .ok found
  | none => .error (.unsupportedDialect given.display)

/-- The dialect that a request names by its value. -/
def ofRequest
    (given : Json) : Attempt Dialect :=
  match given with
  | .text name => ofValue (.text name)
  | given => .error (.unsupportedDialect given.display)

end Dialect

namespace Scripter

/-- The scripter of a requested dialect, or of the dialect of a database. -/
def choose
    (requested : Option Json)
    (options : Options)
    (database : Value) : Attempt Scripter := do
  let dialect ←
    match requested with
    | some given => Dialect.ofRequest given
    | none => Dialect.ofValue (← database.part "dialect")
  return { dialect, options }

end Scripter

end SchemaDelta
