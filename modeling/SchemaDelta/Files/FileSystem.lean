import SchemaDelta.Files.Path
import SchemaDelta.Text.Quoted

/-!
# File systems

The few operations on files that programs need, and the making of directories from them.  Programs
run on any file system that offers the operations.
-/

namespace SchemaDelta

/-- Why a file cannot be used. -/
inductive FileFault where
  | missing
  | present
  | notDirectory
  | isDirectory
  | nameTooLong
  /-- A name has the letter in it that no name can have. -/
  | impossibleName
  | other (reason : String)
deriving DecidableEq

namespace FileFault

/-- The number and the wording of a fault. -/
def wording : FileFault → String
  | missing => "[Errno 2] No such file or directory"
  | present => "[Errno 17] File exists"
  | notDirectory => "[Errno 20] Not a directory"
  | isDirectory => "[Errno 21] Is a directory"
  | nameTooLong => "[Errno 36] File name too long"
  | impossibleName => "embedded null byte"
  | other reason => reason

/-- The message about a fault of a path. -/
def message
    (fault : FileFault)
    (path : FilePath) : String :=
  match fault with
  | impossibleName => fault.wording
  | fault => fault.wording ++ ": " ++ Text.quoted path.toText

end FileFault

/-- What may be written to a file. -/
inductive FileContent where
  | text (content : String)
  /-- A file whose content is left to others. -/
  | unspecified
deriving DecidableEq

/-- The operations of a file system. -/
structure FileSystem (m : Type → Type) where
  isPresent : FilePath → m Bool
  isDirectory : FilePath → m Bool
  /-- The text of a file with its line ends as they are. -/
  read : FilePath → m (Except FileFault String)
  /-- A new directory in a directory that is there. -/
  makeDirectory : FilePath → m (Except FileFault Unit)
  write : FilePath → FileContent → m (Except FileFault Unit)

namespace FileSystem

variable {m : Type → Type} [Monad m]

/-- A fault with the path that it is about. -/
abbrev PathFault : Type :=
  FileFault × FilePath

/-- A directory that is made, unless it is there already. -/
def makeUnlessPresent
    (files : FileSystem m)
    (path : FilePath) : m (Except PathFault Unit) := do
  match ← files.makeDirectory path with
  | .ok () => return .ok ()
  | .error fault =>
    if ← files.isDirectory path then return .ok ()
    return .error (fault, path)

/-- A directory of some names under a root, and those above it that are missing. -/
def makeAll
    (files : FileSystem m)
    (root : String) : List String → m (Except PathFault Unit)
  | reversed => go reversed
where
  /-- The directory of names in reverse order. -/
  go : List String → m (Except PathFault Unit)
    | [] => files.makeUnlessPresent { root, names := [] }
    | name :: above => do
      let path : FilePath := { root, names := (name :: above).reverse }
      match ← files.makeDirectory path with
      | .ok () => return .ok ()
      | .error .missing =>
        match ← go above with
        | .error fault => return .error fault
        | .ok () => files.makeUnlessPresent path
      | .error fault =>
        if ← files.isDirectory path then return .ok ()
        return .error (fault, path)

/-- A directory and those above it, as far as they are missing. -/
def makeDirectories
    (files : FileSystem m)
    (path : FilePath) : m (Except PathFault Unit) :=
  files.makeAll path.root path.names.reverse

/-- Letters with every line end made a line feed. -/
def unifyLineEnds : List Char → List Char
  | [] => []
  | '\r' :: '\n' :: letters => '\n' :: unifyLineEnds letters
  | '\r' :: letters => '\n' :: unifyLineEnds letters
  | letter :: letters => letter :: unifyLineEnds letters

/-- The text of a file with every line end made a line feed. -/
def readText
    (files : FileSystem m)
    (path : FilePath) : m (Except PathFault String) := do
  match ← files.read path with
  | .ok text => return .ok (String.ofList (unifyLineEnds text.toList))
  | .error fault => return .error (fault, path)

/-- A file that is written in a directory that is made for it. -/
def writeInDirectory
    (files : FileSystem m)
    (path : FilePath)
    (content : FileContent) : m (Except PathFault Unit) := do
  match ← files.makeDirectories path.parent with
  | .error fault => return .error fault
  | .ok () =>
    match ← files.write path content with
    | .ok () => return .ok ()
    | .error fault => return .error (fault, path)

end FileSystem

end SchemaDelta
