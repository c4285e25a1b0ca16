import SchemaDelta.CommandLine.Run

/-!
# Program

The command line on the files of the machine.
-/

namespace SchemaDelta.Program

open CommandLine (Outcome)

/-- The fault behind an error of the machine. -/
def faultOf : IO.Error → FileFault
  | .noFileOrDirectory _ _ _ => .missing
  | .alreadyExists _ _ _ => .present
  | .inappropriateType _ _ _ => .notDirectory
  | error => .other (toString error)

/-- The result of an operation of the machine. -/
def attempt
    {α : Type}
    (operation : IO α) : IO (Except FileFault α) := do
  try
    return .ok (← operation)
  catch error =>
    return .error (faultOf error)

/-- Something can be opened under a name. -/
def opens
    (name : String) : IO Bool := do
  match ← attempt (IO.FS.Handle.mk name .read) with
  | .ok _ => return true
  | .error _ => return false

/-- A name leads to a directory. -/
def isDirectory
    (path : FilePath) : IO Bool :=
  opens (path.toText ++ "/.")

/-- The files of the machine. -/
def machineFiles : FileSystem IO where
  isPresent path := opens path.toText
  isDirectory
  read path := do
    if ← isDirectory path then return .error .isDirectory
    attempt (IO.FS.readFile path.toText)
  makeDirectory path := attempt (IO.FS.createDir path.toText)
  write path content := do
    if ← isDirectory path then return .error .isDirectory
    match content with
    | .text text => attempt (IO.FS.writeFile path.toText text)
    | .unspecified => attempt (IO.FS.writeFile path.toText "")

/-- What a run gives, told to the user, and the exit code. -/
def tell
    (outcome : Outcome) : IO UInt32 := do
  IO.print outcome.output
  outcome.notices.forM fun notice => IO.eprintln notice.line
  match outcome.exit with
  | .finished => return 0
  | .failed failure =>
    IO.eprintln ("Error: " ++ failure.message)
    return 1
  | .aborted failure =>
    IO.eprintln failure.message
    return 1
  | .refused .help =>
    IO.println "usage: sql-schema-compare [--config FILE] script|compare|migrate ..."
    return 0
  | .refused .usage =>
    IO.eprintln "usage: sql-schema-compare [--config FILE] script|compare|migrate ..."
    return 2

end SchemaDelta.Program

/-- The program. -/
def main
    (words : List String) : IO UInt32 := do
  SchemaDelta.Program.tell (← SchemaDelta.CommandLine.run SchemaDelta.Program.machineFiles words)
