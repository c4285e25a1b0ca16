import SchemaDelta.CommandLine.Arguments
import SchemaDelta.Ddl.Options

/-!
# Commands

What the words of a command line ask for: the script of a snapshot, a comparison of two snapshots or
a migration between them.
-/

namespace SchemaDelta.CommandLine

/-- The file that an option names. -/
inductive FileChoice where
  /-- The option is not given. -/
  | notGiven
  /-- The value of the option is the separator, which names no file. -/
  | unnamed
  | named (name : String)

/-- The file that the last value of an option names. -/
def Given.file
    (given : Given)
    (spec : OptionSpec) : FileChoice :=
  match given.value? spec with
  | none => .notGiven
  | some name => if name = "--" then .unnamed else .named name

/-- A command. -/
inductive Command where
  | script (snapshot : String) (overrides : List (String × Json)) (output : FileChoice)
  | compare (source target : String) (report : FileChoice)
  | migrate (source target : String) (overrides : List (String × Json)) (output : FileChoice)
    (keepsObjects : Bool)

/-- A command and the settings file that it runs with. -/
structure Invocation where
  settings : FileChoice
  command : Command

/-! ## Options of the commands -/

/-- The settings file. -/
def configOption : OptionSpec := ⟨["--config"], true⟩

/-- Names do not carry their schema. -/
def noSchemaNameOption : OptionSpec := ⟨["--no-schema-name"], false⟩

/-- Columns are ordered by name. -/
def alphabeticalOption : OptionSpec := ⟨["--alphabetical-columns"], false⟩

/-- Columns are not aligned to the other table. -/
def ignoreOrderOption : OptionSpec := ⟨["--ignore-reference-column-order"], false⟩

/-- Collations are left out. -/
def ignoreCollationOption : OptionSpec := ⟨["--ignore-collate"], false⟩

/-- The file to which a script is written. -/
def outputOption : OptionSpec := ⟨["-o", "--output"], true⟩

/-- The file to which a report is written. -/
def reportOption : OptionSpec := ⟨["--report"], true⟩

/-- Objects that the source lacks are kept. -/
def noDropOption : OptionSpec := ⟨["--no-drop"], false⟩

/-- The options of every command that scripts. -/
def scriptingSpecs : List OptionSpec := [
  noSchemaNameOption, alphabeticalOption, ignoreOrderOption, ignoreCollationOption]

/-- The settings that flags stand for. -/
def flagSettings : List (OptionSpec × String × Json) := [
  (noSchemaNameOption, "use_schema_name", .bool false),
  (alphabeticalOption, "order_column_alphabetically", .bool true),
  (ignoreOrderOption, "ignore_reference_table_column_order", .bool true),
  (ignoreCollationOption, "ignore_collate", .bool true)]

/-- The scripting settings that flags set. -/
def overridesOf
    (given : Given) : List (String × Json) :=
  flagSettings.filterMap fun (spec, setting) => if given.has spec then some setting else none

/-! ## Reading -/

/-- The script command of words. -/
def readScript
    (words : List String) : Except Refusal Command := do
  let given ← readArguments (scriptingSpecs ++ [outputOption]) 1 words
  match given.arguments with
  | [snapshot] => .ok (.script snapshot (overridesOf given) (given.file outputOption))
  | _ => .error .usage

/-- The compare command of words. -/
def readCompare
    (words : List String) : Except Refusal Command := do
  let given ← readArguments [reportOption] 2 words
  match given.arguments with
  | [source, target] => .ok (.compare source target (given.file reportOption))
  | _ => .error .usage

/-- The migrate command of words. -/
def readMigrate
    (words : List String) : Except Refusal Command := do
  let given ← readArguments (scriptingSpecs ++ [outputOption, noDropOption]) 2 words
  match given.arguments with
  | [source, target] =>
    .ok (.migrate source target (overridesOf given) (given.file outputOption)
      (given.has noDropOption))
  | _ => .error .usage

/-- The command with a name and the words behind it. -/
def readCommand
    (name : String)
    (words : List String) : Except Refusal Command :=
  if name = "script" then readScript words
  else if name = "compare" then readCompare words
  else if name = "migrate" then readMigrate words
  else .error .usage

/-- The invocation of a list of words. -/
def readInvocation
    (words : List String) : Except Refusal Invocation := do
  let specs := [helpOption, configOption]
  let some tokens := tokens? specs words | throw .usage
  let (given, command) ← readLeading specs false {} (tokens.zip words)
  let some (name, words) := command | throw .usage
  let command ← readCommand name words
  if given.hasLeftovers then throw .usage
  return { settings := given.file configOption, command }

end SchemaDelta.CommandLine
