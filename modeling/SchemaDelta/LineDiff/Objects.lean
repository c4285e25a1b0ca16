import SchemaDelta.Comparison.Basic
import SchemaDelta.LineDiff.SideBySide

/-!
# Side by side view of objects

The scripts that create a source and a target object, side by side.  The columns of a source table
follow the order of the target table, so that an order that comparisons ignore does not show.
-/

namespace SchemaDelta.Scripter

/-- The script that creates an object of a kind. -/
def createOfKind
    (scripter : Scripter)
    (object : Value) : ObjectKind → Script
  | .dataTypes => scripter.createType (.list []) object
  | .sequences => scripter.createSequence object
  | .tables => scripter.createTable object .null
  | .views => scripter.createView object
  | .functions => scripter.createFunction (.list []) object
  | .procedures => scripter.createProcedure object
  | .triggers => scripter.createTrigger object

/-- The script that creates an object of a kind that is given by its name; null has an empty one. -/
def createObject
    (scripter : Scripter)
    (kind : String)
    (object : Value) : Script :=
  if object.isNull then .ok ""
  else
    match ObjectKind.ofName? kind with
    | some kind => scripter.createOfKind object kind
    | none => .error (.noEntry kind)

/-- The script that creates the source of a pair; a table is aligned to the target. -/
def createSource
    (scripter : Scripter)
    (kind : String)
    (source target : Value) : Script :=
  if ObjectKind.ofName? kind = some .tables && !source.isNull then
    scripter.createTable source target
  else scripter.createObject kind source

/-- The side by side view of the scripts of two objects of a kind. -/
def objectDiff
    (scripter : Scripter)
    (kind : String)
    (source target : Value) : Attempt (List LineDiff.DiffRow) := do
  let sourceScript ← scripter.createSource kind source target
  let targetScript ← scripter.createObject kind target
  return LineDiff.sideBySide sourceScript targetScript

end SchemaDelta.Scripter
