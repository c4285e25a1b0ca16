import SchemaDelta.Ddl.Scripting
import SchemaDelta.Settings.Basic
import SchemaDelta.Text.Case

/-!
# Log settings

Settings tell how serious a notice has to be to be given, and in which directory logs are kept.
-/

namespace SchemaDelta.Settings

/-- The severities that are too slight to be given, by the name of a level in upper case. -/
def silencedBy : List (String × List Severity) := [
  ("ERROR", [.warning]),
  ("CRITICAL", [.warning, .error]),
  ("FATAL", [.warning, .error])]

/-- The meanings of names that are no levels and that nothing else stands for. -/
def otherMeanings : List (String × SettingsFailure) := [
  ("BASIC_FORMAT", .unknownLevel "%(levelname)s:%(name)s:%(message)s"),
  ("_STYLES", .unusableLevel)]

/-- The severities that settings silence; a level that is no text silences none. -/
def silenced
    (settings : Settings) : Except SettingsFailure (List Severity) := do
  match ← settings.value "logging" "level" (.text "INFO") with
  | .text level =>
    let level := Text.upper level
    match otherMeanings.lookup level with
    | some failure => throw failure
    | none => return (silencedBy.lookup level).getD []
  | _ => return []

/-- The directory of the log, if one is kept. -/
def logDirectory
    (settings : Settings) : Except SettingsFailure (Option String) := do
  match ← settings.value "logging" "log_dir" (.text "logs") with
  | .text name => return if name.isEmpty then none else some name
  | given => if given.isTruthy then throw .noDirectoryName else return none

end SchemaDelta.Settings
