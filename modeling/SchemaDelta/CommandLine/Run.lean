import SchemaDelta.CommandLine.Command
import SchemaDelta.Ddl.DialectChoice
import SchemaDelta.Migration.Generator
import SchemaDelta.Report.Basic
import SchemaDelta.Settings.Log
import SchemaDelta.Settings.Store

/-!
# Runs of commands

A command runs on a file system.  It gives output and notices and ends well or with a failure, which
is told to the user or ends the program.
-/

namespace SchemaDelta.CommandLine

/-- Why a command fails. -/
inductive CommandFailure where
  | snapshot (failure : SnapshotFailure)
  | script (failure : ScriptFailure)
  | settings (failure : SettingsFailure)
  | file (fault : FileFault) (path : FilePath)
  | report (failure : ReportFailure)
  | unsupportedReport (path : FilePath)
  /-- The option for the output names no file. -/
  | unnamedOutput
  /-- The option for the settings names no file. -/
  | unnamedSettings

namespace CommandFailure

/-- The message of a failure. -/
def message : CommandFailure → String
  | snapshot failure => failure.message
  | script failure => failure.message
  | settings failure => failure.message
  | file fault path => fault.message path
  | report failure => failure.message
  | unsupportedReport path => Report.unsupportedMessage path
  | unnamedOutput => "output has no name"
  | unnamedSettings => "settings have no name"

/-- The failures that are told to the user rather than ending the program. -/
def isReported : CommandFailure → Bool
  | snapshot failure => failure.isReported
  | script failure => failure.isReported
  | settings failure => failure.isReported
  | file _ _ => true
  | report failure => failure.isReported
  | unsupportedReport _ => true
  | unnamedOutput => false
  | unnamedSettings => false

end CommandFailure

/-- What a command has given so far. -/
structure Progress where
  output : String := ""
  notices : List Notice := []

/-- A command on a file system; what it has given before a failure is kept. -/
abbrev Run (m : Type → Type) : Type → Type :=
  ExceptT CommandFailure (StateT Progress m)

section Steps

variable {m : Type → Type} [Monad m]

/-- More output. -/
def print
    (text : String) : Run m Unit :=
  modify fun progress => { progress with output := progress.output ++ text }

/-- More notices. -/
def note
    (notices : List Notice) : Run m Unit :=
  modify fun progress => { progress with notices := progress.notices ++ notices }

/-- A result, or the end of the command by its failure. -/
def orFail
    {ε α : Type}
    (failure : ε → CommandFailure)
    (result : Except ε α) : Run m α :=
  match result with
  | .ok value => pure value
  | .error cause => throw (failure cause)

/-- A result of scripting with its notices. -/
def scripted
    {α : Type}
    (run : Scripting α) : Run m α := do
  note run.notices
  orFail .script run.result

/-- A result of an operation on files. -/
def onFiles
    {α : Type}
    (operation : m (Except FileSystem.PathFault α)) : Run m α := do
  let result ← (liftM operation : StateT Progress m _)
  orFail (fun (fault, path) => .file fault path) result

/-- The database object of a snapshot file. -/
def loadSnapshot
    (files : FileSystem m)
    (name : String) : Run m Value := do
  let text ← onFiles (files.readText (FilePath.ofText name))
  orFail .snapshot (Snapshot.loadText text)

/-- A script printed or written to a file. -/
def deliver
    (files : FileSystem m)
    (script : String)
    (output : FileChoice) : Run m Unit :=
  match output with
  | .notGiven => print script
  | .unnamed => throw .unnamedOutput
  | .named name => onFiles (files.writeInDirectory (FilePath.ofText name) (.text script))

/-- The scripting options of settings with those of flags in their place. -/
def scriptingOptions
    (settings : Settings)
    (overrides : List (String × Json)) : Run m Options := do
  let options ← orFail .settings settings.scriptingOptions
  return options.override overrides

/-- A text filled with spaces to a width. -/
def padded
    (width : Nat)
    (text : String) : String :=
  text ++ String.ofList (List.replicate (width - text.length) ' ')

/-- The line of an entry, unless both sides are the same. -/
def entryLine
    (kind : ObjectKind)
    (entry : Entry) : Option String :=
  if entry.status = .identical then none
  else some (padded 18 entry.status.name ++ " " ++ padded 18 kind.name ++ " " ++ entry.name.display)

/-- The lines about entries and the line that counts them. -/
def comparisonLines
    (entries : Entries) : List String :=
  ((Report.rows entries).filterMap fun (kind, entry) => entryLine kind entry) ++
    [", ".intercalate (entries.summary.map fun (status, count) =>
      status.name ++ ": " ++ toString count)]

/-- A report written in the format of its path. -/
def writeReport
    (files : FileSystem m)
    (entries : Entries)
    (path : FilePath) : Run m Unit :=
  match ReportFormat.ofPath path with
  | none => throw (.unsupportedReport path)
  | some format => do
    onFiles (files.makeDirectories path.parent)
    let content ← orFail .report (Report.content format entries)
    onFiles (files.writeInDirectory path content)

/-! ## Commands -/

/-- The script of a snapshot. -/
def runScript
    (files : FileSystem m)
    (settings : Settings)
    (snapshot : String)
    (overrides : List (String × Json))
    (output : FileChoice) : Run m Unit := do
  let database ← loadSnapshot files snapshot
  let options ← scriptingOptions settings overrides
  let scripter ← orFail .script (Scripter.choose none options database)
  let script ← scripted (scripter.fullScript database)
  deliver files script output

/-- The comparison of two snapshots. -/
def runCompare
    (files : FileSystem m)
    (source target : String)
    (report : FileChoice) : Run m Unit := do
  let source ← loadSnapshot files source
  let target ← loadSnapshot files target
  let entries := (← scripted (Comparison.between source target)).entries
  (comparisonLines entries).forM fun line => print (line ++ "\n")
  match report with
  | .notGiven => pure ()
  | .unnamed => pure ()
  | .named name => writeReport files entries (FilePath.ofText name)

/-- The migration between two snapshots. -/
def runMigrate
    (files : FileSystem m)
    (settings : Settings)
    (source target : String)
    (overrides : List (String × Json))
    (output : FileChoice)
    (keepsObjects : Bool) : Run m Unit := do
  let source ← loadSnapshot files source
  let target ← loadSnapshot files target
  let comparison ← scripted (Comparison.between source target)
  let deployment ← orFail .settings settings.deployment
  let deployment :=
    if keepsObjects then Keyed.put Phase.drops.setting (.bool false) deployment else deployment
  let options ← scriptingOptions settings overrides
  let scripter ← orFail .script (Scripter.choose none options target)
  let migration : Migration :=
    { source, target, comparison, scripter, includes := Phase.isEnabled deployment }
  let script ← scripted ({ migration : Generator }).generate.1
  deliver files script output

/-- One command with its settings. -/
def runCommand
    (files : FileSystem m)
    (settings : Settings) : Command → Run m Unit
  | .script snapshot overrides output => runScript files settings snapshot overrides output
  | .compare source target report => runCompare files source target report
  | .migrate source target overrides output keepsObjects =>
    runMigrate files settings source target overrides output keepsObjects

/-- The settings of a file, which is written with the defaults if it is missing. -/
def loadSettings
    (files : FileSystem m)
    (path : FilePath) : Run m Settings := do
  let isPresent ← (liftM (files.isPresent path) : StateT Progress m Bool)
  if isPresent then
    match ← (liftM (files.readText path) : StateT Progress m _) with
    | .error _ => return Settings.defaults
    | .ok text => orFail .settings (SettingsFile.ofText? (some text)).settings
  else
    onFiles (files.writeInDirectory path (.text (SettingsStore.textOf Settings.defaults)))
    return Settings.defaults

/-- The directory of the log, made if one is kept. -/
def prepareLog
    (files : FileSystem m)
    (settings : Settings) : Run m Unit := do
  match ← orFail .settings settings.logDirectory with
  | none => pure ()
  | some name => onFiles (files.makeDirectories (FilePath.ofText name))

/-! ## Outcomes -/

/-- How a run ends. -/
inductive Exit where
  | finished
  /-- The failure is told to the user. -/
  | failed (failure : CommandFailure)
  /-- The failure ends the program. -/
  | aborted (failure : CommandFailure)
  | refused (refusal : Refusal)

/-- What a run gives. -/
structure Outcome where
  exit : Exit
  output : String := ""
  notices : List Notice := []

/-- The settings file of an invocation that names none. -/
def usualSettings : String := "config/settings.json"

/-- The path of the settings file of an invocation. -/
def settingsPath
    (invocation : Invocation) : Run m FilePath :=
  match invocation.settings with
  | .notGiven => return FilePath.ofText usualSettings
  | .unnamed => throw .unnamedSettings
  | .named name => return FilePath.ofText name

/-- The settings of an invocation and the severities that they silence. -/
def prepare
    (files : FileSystem m)
    (invocation : Invocation) : Run m (Settings × List Severity) := do
  let settings ← loadSettings files (← settingsPath invocation)
  let silenced ← orFail .settings settings.silenced
  prepareLog files settings
  return (settings, silenced)

/-- The outcome of a command. -/
def outcomeOf
    (silenced : List Severity)
    (result : Except CommandFailure Unit)
    (progress : Progress) : Outcome where
  exit :=
    match result with
    | .ok () => .finished
    | .error failure => if failure.isReported then .failed failure else .aborted failure
  output := progress.output
  notices := progress.notices.filter fun notice => !silenced.contains notice.severity

/-- The run of a command line on a file system. -/
def run
    (files : FileSystem m)
    (words : List String) : m Outcome := do
  match readInvocation words with
  | .error refusal => return { exit := .refused refusal }
  | .ok invocation =>
    match ← (prepare files invocation).run {} with
    | (.error failure, _) => return { exit := .aborted failure }
    | (.ok (settings, silenced), progress) =>
      let (result, progress) ← (runCommand files settings invocation.command).run progress
      return outcomeOf silenced result progress

end Steps

end SchemaDelta.CommandLine
