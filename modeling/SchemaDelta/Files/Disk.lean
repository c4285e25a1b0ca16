import SchemaDelta.Files.FileSystem
import SchemaDelta.Keyed

/-!
# Disks

A file system as a value: the directories and files under a working directory.  Names are resolved
one by one; two points lead to the directory above.
-/

namespace SchemaDelta

/-- A place on a disk, from the working directory on. -/
abbrev Place : Type :=
  List String

/-- The directories and files of a disk. -/
structure Disk where
  directories : List Place := []
  files : List (Place × FileContent) := []

namespace Disk

/-- The place above; above the working directory there are directories without end. -/
def above
    (place : Place) : Place :=
  if place.all (· == "..") then ".." :: place else place.dropLast

/-- A place is a directory: one that was made, the working directory, or one above it. -/
def isDirectoryAt
    (disk : Disk)
    (place : Place) : Bool :=
  place == ["/"] || place.all (· == "..") || disk.directories.contains place

/-- A place with names below it; every name but the last has to lead to a directory. -/
def walk
    (disk : Disk)
    (place : Place) : List String → Except FileFault Place
  | [] => .ok place
  | name :: names =>
    if disk.isDirectoryAt place then
      if FilePath.longestName < name.utf8ByteSize then .error .nameTooLong
      else disk.walk (if name == ".." then above place else place ++ [name]) names
    else if (disk.files.lookup place).isSome then .error .notDirectory
    else .error .missing

/-- The place of a path. -/
def resolve
    (disk : Disk)
    (path : FilePath) : Except FileFault Place :=
  if !path.isPossible then .error .impossibleName
  else if !path.fits then .error .nameTooLong
  else disk.walk (if path.root.isEmpty then [] else ["/"]) path.names

/-- Something is at the place of a path. -/
def holds
    (disk : Disk)
    (path : FilePath) : Bool :=
  match disk.resolve path with
  | .error _ => false
  | .ok place => disk.isDirectoryAt place || (disk.files.lookup place).isSome

/-- A directory is at the place of a path. -/
def holdsDirectory
    (disk : Disk)
    (path : FilePath) : Bool :=
  match disk.resolve path with
  | .error _ => false
  | .ok place => disk.isDirectoryAt place

/-- The text of the file at a path. -/
def read
    (disk : Disk)
    (path : FilePath) : Except FileFault String := do
  let place ← disk.resolve path
  if disk.isDirectoryAt place then throw .isDirectory
  match disk.files.lookup place with
  | none => throw .missing
  | some (.text content) => return content
  | some .unspecified => throw (.other "content is not known")

/-- A new directory at a path. -/
def makeDirectory
    (disk : Disk)
    (path : FilePath) : Except FileFault Disk := do
  let place ← disk.resolve path
  if disk.isDirectoryAt place || (disk.files.lookup place).isSome then throw .present
  return { disk with directories := disk.directories ++ [place] }

/-- A file at a path, new or in place of the one that is there. -/
def write
    (disk : Disk)
    (path : FilePath)
    (content : FileContent) : Except FileFault Disk := do
  let place ← disk.resolve path
  if disk.isDirectoryAt place then throw .isDirectory
  return { disk with files := Keyed.put place content disk.files }

/-- A disk with one more file and the directories above it. -/
def addFile
    (disk : Disk)
    (path : FilePath)
    (content : String) : Disk :=
  let lengths := (List.range path.names.length).drop 1
  let directories := (lengths.map path.names.take).filter fun place =>
    !disk.directories.contains place
  { directories := disk.directories ++ directories
    files := Keyed.put path.names (.text content) disk.files }

/-- An operation that changes a disk or leaves it as it is. -/
def change
    (operation : Disk → Except FileFault Disk) : StateM Disk (Except FileFault Unit) :=
  fun disk =>
    match operation disk with
    | .ok changed => (.ok (), changed)
    | .error fault => (.error fault, disk)

/-- The file system of a disk. -/
def fileSystem : FileSystem (StateM Disk) where
  isPresent path := fun disk => (disk.holds path, disk)
  isDirectory path := fun disk => (disk.holdsDirectory path, disk)
  read path := fun disk => (disk.read path, disk)
  makeDirectory path := change fun disk => disk.makeDirectory path
  write path content := change fun disk => disk.write path content

end Disk

end SchemaDelta
