import SchemaDelta.Proofs.Json.Readable
import SchemaDelta.Settings.Basic

/-!
# Settings among the defaults

The sections of a file are put among the default sections, and the values of a section among its
default values.  Where the names already begin with the default ones, nothing is added and nothing
changes its place.
-/

namespace SchemaDelta

/-! ## Values that can be stored -/

/-- A value that is read back where lists and objects may be nested so many times. -/
def Json.FitsWithin
    (room : Nat)
    (value : Json) : Prop :=
  value.IsWritable ∧ value.depth ≤ room

/-- An object is read back when its names are distinct and there is room for each of its values. -/
theorem Json.fitsWithin_object_iff
    {room : Nat}
    {fields : List (String × Json)} :
    (Json.object fields).FitsWithin (room + 1) ↔
      (fields.map Prod.fst).Nodup ∧ ∀ field ∈ fields, field.2.FitsWithin room := by
  rw [FitsWithin, Json.depth, Nat.add_le_add_iff_right, fieldsDepth_le_iff]
  constructor
  · rintro ⟨isObject, shallow⟩
    cases isObject with
    | object distinct writable =>
        exact ⟨distinct, fun field member => ⟨writable field member, shallow field member⟩⟩
  · rintro ⟨distinct, fits⟩
    exact ⟨.object distinct fun field member => (fits field member).1,
      fun field member => (fits field member).2⟩

/-- An object in which a value was put can be stored when it and the value can. -/
theorem Json.fitsWithin_put
    {room : Nat}
    {fields : List (String × Json)}
    (fits : (Json.object fields).FitsWithin (room + 1))
    (name : String)
    {given : Json}
    (givenFits : given.FitsWithin room) :
    (Json.object (Keyed.put name given fields)).FitsWithin (room + 1) := by
  rcases fitsWithin_object_iff.mp fits with ⟨distinct, fieldsFit⟩
  refine fitsWithin_object_iff.mpr ⟨Keyed.nodup_keys_put name given distinct, ?_⟩
  intro entry member
  rcases Keyed.mem_put member with same | old
  · exact same ▸ givenFits
  · exact fieldsFit entry old

namespace Settings

/-! ## Values put among others -/

section Update

variable {values others : List (String × Json)}

/-- Values put among others that their names begin with take the place of those. -/
theorem update_of_begins
    (distinct : (others.map Prod.fst).Nodup)
    (begins : values.map Prod.fst <+: others.map Prod.fst) :
    update values others = others :=
  Keyed.foldl_put_of_begins distinct begins

end Update

/-! ## The default settings -/

/-- A section of a file with the default values that it does not name. -/
def withDefaults
    (name : String)
    (given : Json) : Json :=
  match given, defaults.sections.lookup name with
  | .object others, some (.object values) => .object (update values others)
  | given, _ => given

/-- A section is put into settings as it would be put into the defaults, where they agree. -/
theorem addSection_eq
    {settings : Settings}
    {name : String}
    (agree : settings.sections.lookup name = defaults.sections.lookup name)
    (given : Json) :
    settings.addSection name given =
      ⟨Keyed.put name (withDefaults name given) settings.sections⟩ := by
  unfold addSection withDefaults
  rw [agree]
  split <;> simp_all

/-- The settings of a file are its completed sections put among the default ones. -/
theorem ofSections_eq
    {sections : List (String × Json)}
    (distinct : (sections.map Prod.fst).Nodup) :
    ofSections sections =
      ⟨update defaults.sections
        (sections.map fun entry => (entry.1, withDefaults entry.1 entry.2))⟩ := by
  -- A section that is yet to come stands in the settings so far as it does in the defaults.
  have folded : ∀ settings : Settings,
      (∀ entry ∈ sections,
        settings.sections.lookup entry.1 = defaults.sections.lookup entry.1) →
      sections.foldl (fun settings entry => settings.addSection entry.1 entry.2) settings =
        ⟨update settings.sections
          (sections.map fun entry => (entry.1, withDefaults entry.1 entry.2))⟩ := by
    induction sections with
    | nil => exact fun settings _ => rfl
    | cons first sections ih =>
        intro settings agree
        rw [List.map_cons, List.nodup_cons] at distinct
        rw [List.forall_mem_cons] at agree
        rw [List.foldl_cons, addSection_eq agree.1, ih distinct.2]
        · rfl
        · intro entry member
          have differs : (entry.1 == first.1) = false := by
            rw [beq_eq_false_iff_ne]
            intro same
            exact distinct.1 (same ▸ List.mem_map_of_mem member)
          rw [Keyed.lookup_put, differs, if_neg Bool.false_ne_true, agree.2 entry member]
  exact folded defaults fun _ _ => rfl

/--
Settings that can be stored and that begin with the default sections, each of which begins with its
default values unless it holds something else than values.
-/
structure IsComplete
    (settings : Settings) : Prop where
  fits : settings.document.FitsWithin Json.deepestNesting
  names : defaults.sections.map Prod.fst <+: settings.sections.map Prod.fst
  keys :
    ∀ name values others,
      defaults.sections.lookup name = some (.object values) →
        settings.sectionNamed name = .object others →
          values.map Prod.fst <+: others.map Prod.fst

namespace IsComplete

variable {settings : Settings}

theorem distinct
    (complete : settings.IsComplete) :
    (settings.sections.map Prod.fst).Nodup :=
  (Json.fitsWithin_object_iff.mp complete.fits).1

/-- Every section can be stored below the document. -/
theorem section_fits
    (complete : settings.IsComplete)
    {name : String}
    {given : Json}
    (found : settings.sections.lookup name = some given) :
    given.FitsWithin (Json.deepestNesting - 1) :=
  (Json.fitsWithin_object_iff.mp complete.fits).2 (name, given)
    ((Keyed.lookup_eq_some_iff_mem complete.distinct).mp found)

/-- A section has all its default values already. -/
theorem withDefaults_eq
    (complete : settings.IsComplete)
    {name : String}
    {given : Json}
    (found : settings.sections.lookup name = some given) :
    withDefaults name given = given := by
  unfold withDefaults
  split
  · rename_i others values isDefault
    have holds : settings.sectionNamed name = .object others := by rw [sectionNamed, found]; rfl
    rw [update_of_begins (Json.fitsWithin_object_iff.mp (complete.section_fits found)).1
      (complete.keys name values others isDefault holds)]
  · rfl

/-- Settings that begin with the defaults are the settings of a file with their sections. -/
theorem ofSections_sections
    (complete : settings.IsComplete) :
    ofSections settings.sections = settings := by
  have completed : (settings.sections.map fun entry => (entry.1, withDefaults entry.1 entry.2)) =
      settings.sections := by
    refine (List.map_congr_left fun entry member => ?_).trans (List.map_id _)
    have found := (Keyed.lookup_eq_some_iff_mem complete.distinct).mpr member
    rw [complete.withDefaults_eq found]
    rfl
  rw [ofSections_eq complete.distinct, completed,
    update_of_begins complete.distinct complete.names]

end IsComplete

end Settings

end SchemaDelta
