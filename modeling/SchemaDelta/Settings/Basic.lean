import SchemaDelta.Ddl.Options
import SchemaDelta.Json.Fault
import SchemaDelta.Keyed
import SchemaDelta.Migration.Phase
import SchemaDelta.Text.Quoted

/-!
# Settings

Settings are sections of named values.  A section of a settings file replaces the default values it
names and keeps the others; a section that is no object takes the place of the default one.
-/

namespace SchemaDelta

/-- Why settings cannot be used. -/
inductive SettingsFailure where
  /-- The text of the file asks for more than can be read. -/
  | unreadable (failure : Json.ReadFailure)
  /-- The file holds something other than sections. -/
  | noSections
  /-- A section holds no named values. -/
  | noNamedValues
  /-- A value cannot be put into a section that holds no named values. -/
  | unassignable
  /-- A section cannot be read as a list of pairs. -/
  | noPairs
  /-- An item of a section that is read as a list of pairs is no pair. -/
  | itemLength (place length : Nat)
  /-- The directory of the log is no text. -/
  | noDirectoryName
  /-- The level of the log is the name of something else. -/
  | unknownLevel (meaning : String)
  | unusableLevel
deriving DecidableEq

namespace SettingsFailure

/-- The wording of a failure. -/
def message : SettingsFailure → String
  | unreadable failure => failure.message
  | noSections => "settings are no object"
  | noNamedValues => "section is no object"
  | unassignable => "section cannot hold values"
  | noPairs => "section is no list of pairs"
  | itemLength place length =>
    "dictionary update sequence element #" ++ toString place ++ " has length " ++
      toString length ++ "; 2 is required"
  | noDirectoryName => "directory name is no text"
  | unknownLevel meaning => "Unknown level: " ++ Text.quoted meaning
  | unusableLevel => "level is no level"

/-- The failures that are told to the user rather than ending the run. -/
def isReported : SettingsFailure → Bool
  | itemLength _ _ => true
  | _ => false

end SettingsFailure

/-- Sections of settings in the order in which they are written. -/
structure Settings where
  sections : List (String × Json)

namespace Settings

/-- The settings that hold where a file gives none. -/
def defaults : Settings where
  sections := [
    ("app", .object [
      ("name", .text "SQL Schema Compare"),
      ("version", .text "1.0.0")]),
    ("scripting", .object [
      ("use_schema_name", .bool true),
      ("order_column_alphabetically", .bool false),
      ("ignore_reference_table_column_order", .bool false),
      ("ignore_collate", .bool false)]),
    ("comparison", .object [("report_format", .text "html")]),
    ("deployment", .object (Phase.all.map fun phase => (phase.setting, .bool true))),
    ("logging", .object [
      ("level", .text "INFO"),
      ("log_dir", .text "logs")])]

/-- Named values with others put among them. -/
def update
    (values others : List (String × Json)) : List (String × Json) :=
  others.foldl (fun values entry => Keyed.put entry.1 entry.2 values) values

/-- Settings with a section of a file put among them. -/
def addSection
    (settings : Settings)
    (name : String)
    (given : Json) : Settings :=
  match given, settings.sections.lookup name with
  | .object others, some (.object values) =>
    ⟨Keyed.put name (.object (update values others)) settings.sections⟩
  | given, _ => ⟨Keyed.put name given settings.sections⟩

/-- The defaults with the sections of a file put among them. -/
def ofSections
    (sections : List (String × Json)) : Settings :=
  sections.foldl (fun settings entry => settings.addSection entry.1 entry.2) defaults

/-- The document of settings. -/
def document
    (settings : Settings) : Json :=
  .object settings.sections

/-- A section; one that is not there is empty. -/
def sectionNamed
    (settings : Settings)
    (name : String) : Json :=
  (settings.sections.lookup name).getD (.object [])

/-- A section, or another value where it is not there. -/
def sectionOr
    (settings : Settings)
    (name : String)
    (otherwise : Json) : Json :=
  (settings.sections.lookup name).getD otherwise

/-- A value of a section, or another one where it is not there. -/
def value
    (settings : Settings)
    (name key : String)
    (otherwise : Json) : Except SettingsFailure Json :=
  match settings.sections.lookup name with
  | none => .ok otherwise
  | some (.object values) => .ok ((values.lookup key).getD otherwise)
  | some _ => .error .noNamedValues

/-- Settings with a section of a name, an empty one if there was none. -/
def openSection
    (settings : Settings)
    (name : String) : Settings :=
  ⟨Keyed.put name (settings.sectionNamed name) settings.sections⟩

/-- Settings with a value put into a section, which is made if it is not there. -/
def assign
    (settings : Settings)
    (name key : String)
    (given : Json) : Except SettingsFailure Settings :=
  match settings.sectionNamed name with
  | .object values =>
    .ok ⟨Keyed.put name (.object (Keyed.put key given values)) settings.sections⟩
  | _ => .error .unassignable

/-- The options for scripts. -/
def scriptingOptions
    (settings : Settings) : Except SettingsFailure Options :=
  match Options.ofSection? (settings.sectionNamed "scripting") with
  | some options => .ok options
  | none => .error .noNamedValues

/-! ## Deployment -/

/-- The two sides of an item that counts as a pair. -/
def pairOf?
    (place : Nat) : Json → Except SettingsFailure (Json × Json)
  | .list [key, value] => .ok (key, value)
  | .list items => .error (.itemLength place items.length)
  | .object [(key, _), (value, _)] => .ok (.text key, .text value)
  | .object fields => .error (.itemLength place fields.length)
  | .text text =>
    match text.toList with
    | [key, value] => .ok (.text (String.ofList [key]), .text (String.ofList [value]))
    | letters => .error (.itemLength place letters.length)
  | _ => .error .noPairs

/-- Values that cannot stand as a name. -/
def isComposite : Json → Bool
  | .list _ => true
  | .object _ => true
  | _ => false

/-- The named values among pairs, counted from a place on; other names than texts name nothing. -/
def pairsFrom
    (place : Nat) : List Json → Except SettingsFailure (List (String × Json))
  | [] => .ok []
  | item :: items => do
    let (key, value) ← pairOf? place item
    if isComposite key then throw .noPairs
    let others ← pairsFrom (place + 1) items
    match key with
    | .text name => return (name, value) :: others
    | _ => return others

/-- The named values of a section that may also be given as a list of pairs. -/
def namedValues : Json → Except SettingsFailure (List (String × Json))
  | .object values => .ok values
  | .list items => (pairsFrom 0 items).map fun pairs => update [] pairs
  | .text text =>
    if text.isEmpty then .ok [] else .error (.itemLength 0 1)
  | _ => .error .noPairs

/-- The settings of migrations. -/
def deployment
    (settings : Settings) : Except SettingsFailure (List (String × Json)) :=
  namedValues (settings.sectionNamed "deployment")

end Settings

end SchemaDelta
