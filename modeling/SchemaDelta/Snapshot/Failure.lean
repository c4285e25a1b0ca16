import SchemaDelta.Json.Fault

/-!
# Failures of snapshots

Why a document is no snapshot, and the wording of every reason.
-/

namespace SchemaDelta

/-- Why a document is no snapshot. -/
inductive SnapshotFailure where
  | unreadableText (failure : Json.ReadFailure)
  /-- Too many lists and objects stand inside one another. -/
  | tooDeep
  | unknownEnumeration (title : String)
  | unknownMember (name : String)
  | unknownClass (name : String)
  | unexpectedField (kind field : String)
  | repeatedReceiver (kind : String)
  | missingFields (kind : String) (fields : List String)
  | newerVersion (version : String)
  | noDatabase
  /-- The tag of an enumeration member is no text. -/
  | unreadableMemberTag
  /-- The tag of an object cannot be a name. -/
  | unreadableClassTag
  /-- The version cannot be compared with a number. -/
  | incomparableVersion
  /-- An object stands where only plain values can be written. -/
  | unwritableObject
deriving DecidableEq

namespace SnapshotFailure

/-- Names in quotes, the last one after an "and". -/
def enumerated : List String → String
  | [] => ""
  | [name] => "'" ++ name ++ "'"
  | [first, second] => "'" ++ first ++ "' and '" ++ second ++ "'"
  | names =>
    ", ".intercalate ((names.dropLast).map fun name => "'" ++ name ++ "'") ++ ", and '" ++
      names.getLastD "" ++ "'"

/-- The wording of a constructor failure. -/
def constructorMessage
    (kind reason : String) : String :=
  "Invalid " ++ kind ++ " in snapshot: " ++ kind ++ ".__init__() " ++ reason

/-- The wording of a failure. -/
def message : SnapshotFailure → String
  | unreadableText failure => failure.message
  | tooDeep => Json.depthMessage
  | unknownEnumeration title => "Unknown enum in snapshot: " ++ title
  | unknownMember name => "Unknown enum member in snapshot: " ++ name
  | unknownClass name => "Unknown object type in snapshot: " ++ name
  | unexpectedField kind field =>
    constructorMessage kind ("got an unexpected keyword argument '" ++ field ++ "'")
  | repeatedReceiver kind => constructorMessage kind "got multiple values for argument 'self'"
  | missingFields kind fields =>
    constructorMessage kind ("missing " ++ toString fields.length ++
      " required keyword-only argument" ++ (if fields.length = 1 then "" else "s") ++ ": " ++
      enumerated fields)
  | newerVersion version =>
    "Snapshot version " ++ version ++ " is newer than supported version 1"
  | noDatabase => "Snapshot file does not contain a database object"
  | unreadableMemberTag => "member tag is no text"
  | unreadableClassTag => "class tag cannot be a name"
  | incomparableVersion => "version cannot be compared with a number"
  | unwritableObject => "object inside a plain record cannot be written"

/-- The failures that are told to the user rather than ending the run. -/
def isReported : SnapshotFailure → Bool
  | unreadableText .tooDeep => false
  | tooDeep => false
  | unreadableMemberTag => false
  | unreadableClassTag => false
  | incomparableVersion => false
  | unwritableObject => false
  | _ => true

end SnapshotFailure

end SchemaDelta
