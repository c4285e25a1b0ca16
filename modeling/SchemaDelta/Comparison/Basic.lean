import SchemaDelta.Comparison.Difference
import SchemaDelta.Comparison.Pairing
import SchemaDelta.Ddl.FullScript

/-!
# Comparison of databases

Two databases are compared kind by kind.  The result lists a pairing for every name; reports see an
entry for each of them.
-/

namespace SchemaDelta

/-- The kinds of objects that are compared. -/
inductive ObjectKind where
  | dataTypes
  | sequences
  | tables
  | views
  | functions
  | procedures
  | triggers
deriving DecidableEq

namespace ObjectKind

/-- All kinds in the order in which they are compared and reported. -/
def all : List ObjectKind := [
  dataTypes, sequences, tables, views, functions, procedures, triggers]

/-- The name of a kind in results and reports. -/
def name : ObjectKind → String
  | dataTypes => "data_types"
  | sequences => "sequences"
  | tables => "tables"
  | views => "views"
  | functions => "functions"
  | procedures => "stored_procedures"
  | triggers => "triggers"

/-- The kind with a name. -/
def ofName?
    (name : String) : Option ObjectKind :=
  all.find? fun kind => kind.name == name

end ObjectKind

/-- The triggers of all tables of a database. -/
def Value.allTriggers
    (database : Value) : Attempt (List Value) := do
  let triggers ← (← database.partItems "tables").mapM fun table => table.partItems "triggers"
  return triggers.flatten

/-- The objects of one kind; of the types only those that users defined are compared. -/
def Value.objectsOf
    (database : Value) : ObjectKind → Attempt (List Value)
  | .dataTypes => database.userTypes
  | .triggers => database.allTriggers
  | kind => database.partItems kind.name

/-- The pairings of two databases, kind by kind. -/
abbrev Comparison : Type :=
  List (ObjectKind × List Pairing)

namespace Comparison

/-- The comparison of two databases. -/
def between
    (source target : Value) : Scripting Comparison := do
  let matching := NameMatching.ofDialects (← source.part "dialect") (← target.part "dialect")
  discard (source.part "name")
  discard (target.part "name")
  ObjectKind.all.mapM fun kind => do
    return (kind, ← pairObjects matching (source.objectsOf kind) (target.objectsOf kind))

/-- The pairings of one kind. -/
def pairings
    (comparison : Comparison)
    (kind : ObjectKind) : List Pairing :=
  (comparison.lookup kind).getD []

end Comparison

/-! ## Entries -/

/-- What reports tell about a pairing. -/
structure Entry where
  /-- The name as it is shown, which may be any value. -/
  name : Value
  status : Status
  /-- The changes, for objects that differ. -/
  difference : Option Json

/-- The entries of a comparison, kind by kind. -/
abbrev Entries : Type :=
  List (ObjectKind × List Entry)

/-- The entry of a pairing. -/
def Entry.ofPairing
    (pairing : Pairing) : Entry where
  name := pairing.name
  status := pairing.status
  difference :=
    match pairing with
    | .different source target => some (differenceReport source target)
    | _ => none

/-- The entries of a comparison. -/
def Comparison.entries
    (comparison : Comparison) : Entries :=
  comparison.map fun (kind, pairings) => (kind, pairings.map Entry.ofPairing)

/-- How many entries have each status. -/
def Entries.summary
    (entries : Entries) : List (Status × Nat) :=
  Status.all.map fun status =>
    (status, (entries.flatMap (·.2)).countP fun entry => entry.status == status)

end SchemaDelta
