import SchemaDelta.Comparison.Sameness
import SchemaDelta.Ddl.Scripting
import SchemaDelta.Text.Case

/-!
# Pairing of objects

The objects of two collections are paired by schema and name.  Every name that occurs on either side
has one pairing, in the order of the names; of several objects with one name the first is paired and
the others are left out with a notice.
-/

namespace SchemaDelta

/-- Where an object occurs and whether both sides agree. -/
inductive Status where
  | identical
  | different
  | missingInTarget
  | missingInSource
deriving DecidableEq

namespace Status

/-- All statuses in the order in which they are reported. -/
def all : List Status := [identical, different, missingInTarget, missingInSource]

/-- The name of a status in results and reports. -/
def name : Status → String
  | identical => "IDENTICAL"
  | different => "DIFFERENT"
  | missingInTarget => "MISSING_IN_TARGET"
  | missingInSource => "MISSING_IN_SOURCE"

end Status

/-- The name by which results and reports show an object; without a schema it may be any value. -/
def Value.displayName
    (object : Value) : Value :=
  let schema := (object.field? "schema").getD .null
  let name := (object.field? "name").getD .null
  if schema.isTruthy then .text (schema.display ++ "." ++ name.display) else name

/-- The objects of two collections that share a name. -/
inductive Pairing where
  | onlySource (source : Value)
  | onlyTarget (target : Value)
  | identical (source target : Value)
  | different (source target : Value)

namespace Pairing

/-- The status of a pairing. -/
def status : Pairing → Status
  | onlySource _ => .missingInTarget
  | onlyTarget _ => .missingInSource
  | identical _ _ => .identical
  | different _ _ => .different

/-- The object of the source, or null. -/
def source : Pairing → Value
  | onlySource source => source
  | onlyTarget _ => .null
  | identical source _ => source
  | different source _ => source

/-- The object of the target, or null. -/
def target : Pairing → Value
  | onlySource _ => .null
  | onlyTarget target => target
  | identical _ target => target
  | different _ target => target

/-- The name by which results and reports show a pairing. -/
def name : Pairing → Value
  | onlyTarget target => target.displayName
  | pairing => pairing.source.displayName

/-- The pairing of the objects under one name, if there is any. -/
def ofSides : Option Value → Option Value → Attempt (Option Pairing)
  | none, none => .ok none
  | some source, none => .ok (some (onlySource source))
  | none, some target => .ok (some (onlyTarget target))
  | some source, some target => do
    return some (if ← source.sameObject target then identical source target
      else different source target)

end Pairing

/-! ## Names -/

/-- How names are matched. -/
inductive NameMatching where
  | exact
  | ignoringCase
deriving DecidableEq

namespace NameMatching

/--
Names are matched exactly within one dialect that distinguishes case, and ignoring case otherwise.
-/
def ofDialects
    (source target : Value) : NameMatching :=
  if source.agrees target && !(source == .member (.dialect .microsoftSql)) then exact
  else ignoringCase

/-- What the names of matching objects have in common. -/
def key
    (matching : NameMatching)
    (object : Value) : Attempt Value := do
  match matching with
  | exact => return .list [← object.part "schema", ← object.part "name"]
  | ignoringCase =>
    return .list [.text (Text.fold (← object.partText "schema")),
      .text (Text.fold (← object.partText "name"))]

end NameMatching

/-- An object of a collection under its name. -/
structure NamedObject where
  key : Value
  object : Value

/-! ## Collections -/

/-- The notice for an object that is left out. -/
def leftOut
    (object : Value) : Attempt Notice := do
  return .duplicateIgnored (← object.part "schema").display (← object.part "name").display

/-- The first object under each name, those known before included. -/
def namedObjects
    (matching : NameMatching)
    (known : List NamedObject) : List Value → Scripting (List NamedObject)
  | [] => pure known
  | object :: objects => do
    let key ← (← matching.key object).asKey
    if known.any fun other => other.key == key then
      Scripting.notice (← leftOut object)
      namedObjects matching known objects
    else namedObjects matching (known ++ [{ key, object }]) objects

/-- The object under a key. -/
def objectUnder?
    (objects : List NamedObject)
    (key : Value) : Option Value :=
  (objects.find? fun other => other.key == key).map (·.object)

/-- The keys of two collections in the order of the names, each once. -/
def pairingKeys
    (sources targets : List NamedObject) : Attempt (List Value) :=
  Value.sortedBy Except.ok (Keyed.firstByKey id ((sources ++ targets).map (·.key)))

/-- The pairings of two collections, which may fail to be collected. -/
def pairObjects
    (matching : NameMatching)
    (sources targets : Attempt (List Value)) : Scripting (List Pairing) := do
  let sources ← namedObjects matching [] (← sources)
  let targets ← namedObjects matching [] (← targets)
  let pairings ← (← pairingKeys sources targets).mapM fun key =>
    (Pairing.ofSides (objectUnder? sources key) (objectUnder? targets key) : Attempt _)
  return pairings.filterMap id

end SchemaDelta
