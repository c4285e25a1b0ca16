import SchemaDelta.Json.Display
import SchemaDelta.Json.Reader
import SchemaDelta.Json.Writer
import SchemaDelta.Schema.Fields
import SchemaDelta.Snapshot.Failure

/-!
# Snapshot documents

Objects and members are stored as JSON objects with a tag.  Reading restores them depth first and
checks the names of their fields; writing tags every object outside a plain record.
-/

namespace SchemaDelta

namespace Value

/-- The tag of a member. -/
def memberTag : String := "__enum__"

/-- The tag of an object. -/
def classTag : String := "__type__"

/-- The member named by the text of a tag: the name of its enumeration, a point and its own name. -/
def ofMemberTag
    (tag : String) : Except SnapshotFailure Value :=
  let letters := tag.toList
  let title := String.ofList (letters.takeWhile (· != '.'))
  let name := String.ofList ((letters.dropWhile (· != '.')).drop 1)
  match Member.ofTitle? title with
  | none => .error (.unknownEnumeration title)
  | some members =>
    match members.find? fun member => member.name == name with
    | none => .error (.unknownMember tag)
    | some found => .ok (.member found)

/-- An object of a class from the fields that are given for it. -/
def construct
    (kind : ObjectClass)
    (given : List (String × Value)) : Except SnapshotFailure Value :=
  let known := kind.fields
  let isStray (field : String × Value) : Bool := !known.any fun info => info.name == field.1
  match given.find? isStray with
  | some ("self", _) => .error (.repeatedReceiver kind.name)
  | some (name, _) => .error (.unexpectedField kind.name name)
  | none =>
    let missing := known.filter fun info =>
      info.default?.isNone && !given.any fun field => field.1 == info.name
    if missing.isEmpty then
      .ok (.object kind (known.map fun info =>
        (info.name, (given.lookup info.name).getD (info.default?.getD .null))))
    else .error (.missingFields kind.name (missing.map (·.name)))

/-- The class named by a tag, if the tag counts as one. -/
def classOfTag
    (tag : Option Json) : Except SnapshotFailure (Option ObjectClass) :=
  let ofName (name : String) : Except SnapshotFailure (Option ObjectClass) :=
    match ObjectClass.ofName? name with
    | some kind => .ok (some kind)
    | none => .error (.unknownClass name)
  match tag with
  | none => .ok none
  | some .null => .ok none
  | some (.list _) => .error .unreadableClassTag
  | some (.object _) => .error .unreadableClassTag
  | some tag => ofName tag.display

mutual

/-- The value stored by a JSON value. -/
def ofPlain : Json → Except SnapshotFailure Value
  | .null => .ok .null
  | .bool value => .ok (.bool value)
  | .int value => .ok (.int value)
  | .float value => .ok (.float value)
  | .text value => .ok (.text value)
  | .list items =>
    match ofPlainItems items with
    | .error failure => .error failure
    | .ok values => .ok (.list values)
  | .object fields =>
    match fields.lookup memberTag with
    | some (.text tag) => ofMemberTag tag
    | some _ => .error .unreadableMemberTag
    | none =>
      match classOfTag (fields.lookup classTag) with
      | .error failure => .error failure
      | .ok none =>
        match ofPlainFields fields with
        | .error failure => .error failure
        | .ok values => .ok (.record values)
      | .ok (some kind) =>
        match ofPlainFields fields with
        | .error failure => .error failure
        | .ok values => construct kind (values.filter fun field => field.1 != classTag)
termination_by structural document => document

/-- The values stored by the items of a list, up to the first failure. -/
def ofPlainItems : List Json → Except SnapshotFailure (List Value)
  | [] => .ok []
  | item :: items =>
    match ofPlain item with
    | .error failure => .error failure
    | .ok value =>
      match ofPlainItems items with
      | .error failure => .error failure
      | .ok values => .ok (value :: values)

/-- The values stored by the fields of an object, up to the first failure. -/
def ofPlainFields : List (String × Json) → Except SnapshotFailure (List (String × Value))
  | [] => .ok []
  | (name, field) :: fields =>
    match ofPlain field with
    | .error failure => .error failure
    | .ok value =>
      match ofPlainFields fields with
      | .error failure => .error failure
      | .ok values => .ok ((name, value) :: values)

end

/-- The greatest count of lists and objects inside one another that can be restored. -/
def deepestNesting : Nat := 495

/-- The value stored by a JSON value, unless that is too deep. -/
def restore
    (document : Json) : Except SnapshotFailure Value :=
  if deepestNesting < document.depth then .error .tooDeep else ofPlain document

mutual

/-- A value with its objects and members turned into tagged records; plain records stay. -/
def toPlain : Value → Value
  | .object kind fields => .record ((classTag, .text kind.name) :: toPlainFields fields)
  | .member known => .record [(memberTag, .text known.qualifiedName)]
  | .list items => .list (toPlainItems items)
  | value => value
termination_by structural value => value

/-- The items of a list with their objects and members turned into tagged records. -/
def toPlainItems : List Value → List Value
  | [] => []
  | item :: items => toPlain item :: toPlainItems items

/-- The fields of an object with their objects and members turned into tagged records. -/
def toPlainFields : List (String × Value) → List (String × Value)
  | [] => []
  | (name, value) :: fields => (name, toPlain value) :: toPlainFields fields

end

mutual

/-- The JSON value of a value without objects; a member is written as its value. -/
def toJson? : Value → Option Json
  | .null => some .null
  | .bool value => some (.bool value)
  | .int value => some (.int value)
  | .float value => some (.float value)
  | .text value => some (.text value)
  | .member known => some (.text known.value)
  | .list items => (toJsonItems? items).map .list
  | .record fields => (toJsonFields? fields).map .object
  | .object _ _ => none
termination_by structural value => value

/-- The JSON values of the items of a list. -/
def toJsonItems? : List Value → Option (List Json)
  | [] => some []
  | item :: items =>
    match toJson? item, toJsonItems? items with
    | some item, some items => some (item :: items)
    | _, _ => none

/-- The JSON values of the fields of a record. -/
def toJsonFields? : List (String × Value) → Option (List (String × Json))
  | [] => some []
  | (name, value) :: fields =>
    match toJson? value, toJsonFields? fields with
    | some value, some fields => some ((name, value) :: fields)
    | _, _ => none

end

end Value

/-! ## Snapshots -/

namespace Snapshot

/-- The version of the documents that are written. -/
def version : Int := 1

/-- A version is newer than the one supported, if it can be compared at all. -/
def isNewer? : Json → Option Bool
  | .bool _ => some false
  | .int value => some (decide (version < value))
  | .float value => some (value.exceedsInt version)
  | _ => none

/-- The part of a document that holds the database: all of it, unless it has a header. -/
def payload
    (document : Json) : Except SnapshotFailure Json :=
  match document.field? "database" with
  | none => .ok document
  | some database =>
    let stated := (document.field? "version").getD (.int version)
    match isNewer? stated with
    | none => .error .incomparableVersion
    | some true => .error (.newerVersion stated.display)
    | some false => .ok database

/-- A value has to be a database object. -/
def asDatabase
    (value : Value) : Except SnapshotFailure Value :=
  match value with
  | .object .database _ => .ok value
  | _ => .error .noDatabase

/-- The database object of a document. -/
def load
    (document : Json) : Except SnapshotFailure Value := do
  asDatabase (← Value.ofPlain (← payload document))

/-- The database object of the text of a snapshot, which is not too deep. -/
def loadText
    (text : String) : Except SnapshotFailure Value := do
  let document ← (Json.read text).mapError .unreadableText
  asDatabase (← Value.restore (← payload document))

/-- The document that stores a database object. -/
def store
    (database : Value) : Except SnapshotFailure Json :=
  match database.toPlain.toJson? with
  | none => .error .unwritableObject
  | some plain => .ok (.object [("version", .int version), ("database", plain)])

/-- The text that stores a database object. -/
def storeText
    (database : Value) : Except SnapshotFailure String :=
  (store database).map Json.indented

end Snapshot

end SchemaDelta
