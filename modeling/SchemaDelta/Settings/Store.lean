import SchemaDelta.Json.Reader
import SchemaDelta.Json.Writer
import SchemaDelta.Settings.Basic

/-!
# Stored settings

Settings in memory beside the file that keeps them.  Every assignment is written to the file; a file
that cannot be read is left as it is and the defaults hold.
-/

namespace SchemaDelta

/-- What a settings file holds. -/
inductive SettingsFile where
  /-- There is no file yet. -/
  | absent
  /-- The text is no document. -/
  | unreadable
  /-- The text asks for more than can be read. -/
  | excessive (failure : Json.ReadFailure)
  | document (document : Json)

namespace SettingsFile

/-- What the text of a file holds, if there is one. -/
def ofText? : Option String → SettingsFile
  | none => absent
  | some text =>
    match Json.read text with
    | .error (.malformed _) => unreadable
    | .error failure => excessive failure
    | .ok found => document found

/-- The settings of a file. -/
def settings : SettingsFile → Except SettingsFailure Settings
  | absent => .ok Settings.defaults
  | unreadable => .ok Settings.defaults
  | excessive failure => .error (.unreadable failure)
  | document (.object sections) => .ok (Settings.ofSections sections)
  | document _ => .error .noSections

end SettingsFile

/-- Settings in memory and the text of their file. -/
structure SettingsStore where
  settings : Settings
  file : Option String

namespace SettingsStore

/-- The text that keeps settings. -/
def textOf
    (settings : Settings) : String :=
  settings.document.indented

/-- The text of a file after it is read: a missing file is written with the defaults. -/
def fileAfterReading : Option String → String
  | none => textOf Settings.defaults
  | some text => text

/-- The store of a file. -/
def load
    (file : Option String) : Except SettingsFailure SettingsStore :=
  ((SettingsFile.ofText? file).settings).map fun settings =>
    { settings, file := some (fileAfterReading file) }

/--
A store after its file is read again.  The defaults hold where the file holds no sections, and
memory stays as it is where the file cannot be read at all.
-/
def reload
    (store : SettingsStore) : SettingsStore × Except SettingsFailure Unit :=
  match load store.file with
  | .ok loaded => (loaded, .ok ())
  | .error (.unreadable failure) => (store, .error (.unreadable failure))
  | .error failure => ({ store with settings := Settings.defaults }, .error failure)

/-- A store after a value is put into a section and all settings are written. -/
def assign
    (store : SettingsStore)
    (name key : String)
    (given : Json) : Except SettingsFailure SettingsStore :=
  (store.settings.assign name key given).map fun settings =>
    { settings, file := some (textOf settings) }

/-- A store whose memory has a section of a name; the file stays as it is. -/
def openSection
    (store : SettingsStore)
    (name : String) : SettingsStore :=
  { store with settings := store.settings.openSection name }

/-- A store whose file has another text; memory stays as it is. -/
def replaceFile
    (store : SettingsStore)
    (text : String) : SettingsStore :=
  { store with file := some text }

end SettingsStore

end SchemaDelta
