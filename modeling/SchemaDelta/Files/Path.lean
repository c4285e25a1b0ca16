/-!
# File paths

A path is a list of names under a root.  Empty names and single points are left out; two points
stay, because they depend on the directories that are there.
-/

namespace SchemaDelta

/-- A path to a file or directory. -/
structure FilePath where
  /-- One or two slashes for an absolute path, nothing for a relative one. -/
  root : String
  names : List String
deriving DecidableEq

namespace FilePath

/-- The names between the slashes of a path. -/
def splitSlashes : List Char → List (List Char)
  | [] => [[]]
  | '/' :: letters => [] :: splitSlashes letters
  | letter :: letters =>
    match splitSlashes letters with
    | [] => [[letter]]
    | name :: names => (letter :: name) :: names

/-- The root of a path from the slashes at its start: exactly two stay two, more are one. -/
def rootOf : List Char → String
  | '/' :: '/' :: '/' :: _ => "/"
  | '/' :: '/' :: _ => "//"
  | '/' :: _ => "/"
  | _ => ""

/-- The path that a text spells. -/
def ofText
    (text : String) : FilePath where
  root := rootOf text.toList
  names := ((splitSlashes text.toList).map String.ofList).filter fun name =>
    name != "" && name != "."

/-- The text of a path; the current directory is a point. -/
def toText
    (path : FilePath) : String :=
  if path.root.isEmpty && path.names.isEmpty then "."
  else path.root ++ "/".intercalate path.names

/-- The last name of a path. -/
def name
    (path : FilePath) : String :=
  path.names.getLastD ""

/-- The directory that holds a path; a path without names holds itself. -/
def parent
    (path : FilePath) : FilePath :=
  { path with names := path.names.dropLast }

/--
The suffix of the last name with its point.  A point at the start or at the end of the name makes no
suffix.
-/
def suffix
    (path : FilePath) : String :=
  let letters := path.name.toList
  let ending := (letters.reverse.takeWhile (· != '.')).reverse
  if ending.isEmpty || letters.length ≤ ending.length + 1 then ""
  else String.ofList ('.' :: ending)

/-! ## Limits -/

/-- The longest name of a file or directory, in bytes. -/
def longestName : Nat := 255

/-- The longest text of a path, in bytes. -/
def longestPath : Nat := 4095

/-- The text of a path is no longer than paths can be. -/
def fits
    (path : FilePath) : Bool :=
  path.toText.utf8ByteSize ≤ longestPath

/-- There is no null character in a path. -/
def isPossible
    (path : FilePath) : Bool :=
  !path.toText.toList.contains '\x00'

end FilePath

end SchemaDelta
