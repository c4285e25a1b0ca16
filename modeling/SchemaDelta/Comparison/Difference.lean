import SchemaDelta.Comparison.Sameness
import SchemaDelta.Value.Kind

/-!
# Differences of flat objects

The fields in which two stored objects differ, as reports tell them.  Only fields without parts are
told: first those whose type changes, then those whose value changes.
-/

namespace SchemaDelta

/-- A field with a different value on either side. -/
structure FieldChange where
  field : String
  source : Value
  target : Value

namespace FieldChange

/-- Values without parts, whose changes are told. -/
def isFlat : Value → Bool
  | .list _ => false
  | .record _ => false
  | .object _ _ => false
  | _ => true

/-- A change of the type of a field. -/
def changesType
    (change : FieldChange) : Bool :=
  change.source.kind != change.target.kind

/-- The path of a field in reports. -/
def path
    (change : FieldChange) : String :=
  "root[\x27" ++ change.field ++ "\x27]"

/-- A value in reports. -/
def shown
    (value : Value) : Json :=
  value.toJson?.getD .null

/-- What reports tell about a field whose type changes. -/
def typeReport
    (change : FieldChange) : Json :=
  .object [
    ("old_type", .text change.source.kind.name),
    ("new_type", .text change.target.kind.name),
    ("old_value", shown change.source),
    ("new_value", shown change.target)]

/-- What reports tell about a field whose value changes. -/
def valueReport
    (change : FieldChange) : Json :=
  .object [
    ("new_value", shown change.target),
    ("old_value", shown change.source)]

/-- The changes between the fields of two records. -/
def between
    (source target : List (String × Value)) : List FieldChange :=
  source.filterMap fun (field, value) =>
    match target.lookup field with
    | some other =>
      if Value.isTag field || Value.same value other then none
      else if isFlat value && isFlat other then some { field, source := value, target := other }
      else none
    | none => none

end FieldChange

/-- The changes from a source to a target object, by the path of the field. -/
def differenceReport
    (source target : Value) : Json :=
  match source.comparable, target.comparable with
  | .ok (.record source), .ok (.record target) =>
    let changes := FieldChange.between source target
    let part (name : String) (report : FieldChange → Json) (changes : List FieldChange) :
        List (String × Json) :=
      if changes.isEmpty then []
      else [(name, .object (changes.map fun change => (change.path, report change)))]
    .object
      (part "type_changes" FieldChange.typeReport (changes.filter (·.changesType)) ++
        part "values_changed" FieldChange.valueReport (changes.filter (!·.changesType)))
  | _, _ => .object []

end SchemaDelta
