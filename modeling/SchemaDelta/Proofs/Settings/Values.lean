import SchemaDelta.Proofs.Settings.Defaults

/-!
# Values of settings

A section holds named values or is closed, when it holds something else.  Values are read from and
assigned to the sections that are not closed, and assigning one changes no other.
-/

namespace SchemaDelta

namespace Settings

/-! ## Reading values -/

/-- A section that is there and holds something else than named values. -/
def IsClosed
    (sections : List (String × Json))
    (name : String) : Prop :=
  ∃ given, sections.lookup name = some given ∧ ∀ values, given ≠ .object values

variable {settings : Settings} {name : String}

/-- A section is closed, or it holds named values, none if it is not there. -/
theorem isClosed_or_exists_values
    (settings : Settings)
    (name : String) :
    IsClosed settings.sections name ∨ ∃ values, settings.sectionNamed name = .object values := by
  cases found : settings.sections.lookup name with
  | none => exact Or.inr ⟨[], by rw [sectionNamed, found]; rfl⟩
  | some given =>
      cases given with
      | object values => exact Or.inr ⟨values, by rw [sectionNamed, found]; rfl⟩
      | _ => exact Or.inl ⟨_, found, fun values same => by cases same⟩

/-- A section that holds named values is there with them, or it is not there and has none. -/
theorem lookup_of_sectionNamed
    {values : List (String × Json)}
    (holds : settings.sectionNamed name = .object values) :
    settings.sections.lookup name = some (.object values) ∨
      settings.sections.lookup name = none ∧ values = [] := by
  rw [sectionNamed] at holds
  cases found : settings.sections.lookup name with
  | none =>
      rw [found, Option.getD_none, Json.object.injEq] at holds
      exact Or.inr ⟨rfl, holds.symm⟩
  | some given =>
      rw [found, Option.getD_some] at holds
      exact Or.inl (congrArg some holds)

section OfSections

variable {sections : List (String × Json)}

end OfSections

/-! ## Assigning values -/

/-- Settings after a value is put among the named values of a section. -/
def withValue
    (settings : Settings)
    (name key : String)
    (values : List (String × Json))
    (given : Json) : Settings :=
  ⟨Keyed.put name (.object (Keyed.put key given values)) settings.sections⟩

/-- Opening a closed section leaves the settings as they are, and no value can be put there. -/
theorem assign_of_isClosed
    (closed : IsClosed settings.sections name)
    (key : String)
    (given : Json) :
    settings.openSection name = settings ∧
      settings.assign name key given = .error .unassignable := by
  rcases closed with ⟨held, found, noValues⟩
  have named : settings.sectionNamed name = held := by rw [sectionNamed, found]; rfl
  constructor
  · rw [openSection, named, Keyed.put_of_lookup found]
  · rw [assign, named]
    cases held with
    | object values => exact absurd rfl (noValues values)
    | _ => rfl

/-- A value is put into an open section as into a section of named values. -/
theorem assign_openSection
    {values : List (String × Json)}
    (holds : settings.sectionNamed name = .object values)
    (key : String)
    (given : Json) :
    (settings.openSection name).assign name key given =
      .ok (settings.withValue name key values given) := by
  have named : (settings.openSection name).sectionNamed name = .object values := by
    rw [sectionNamed, openSection, Keyed.lookup_put, if_pos (beq_self_eq_true name), holds]
    rfl
  rw [assign, named]
  simp only [openSection, Keyed.put_put, withValue]

/-- Settings that begin with the defaults do so after a value is put into a section. -/
theorem IsComplete.withValue
    (complete : settings.IsComplete)
    {values : List (String × Json)}
    (holds : settings.sectionNamed name = .object values)
    (key : String)
    {given : Json}
    (givenFits : given.FitsWithin (Json.deepestNesting - 2)) :
    (settings.withValue name key values given).IsComplete := by
  have valuesFit : (Json.object values).FitsWithin (Json.deepestNesting - 1) := by
    rcases lookup_of_sectionNamed holds with found | ⟨_, rfl⟩
    · exact complete.section_fits found
    · exact ⟨.object List.nodup_nil (by simp), by decide⟩
  constructor
  case fits =>
    exact Json.fitsWithin_put complete.fits name (Json.fitsWithin_put valuesFit key givenFits)
  case names => exact complete.names.trans (Keyed.keys_prefix_put name _ settings.sections)
  case keys =>
    intro other defaultValues others isDefault found
    rw [sectionNamed, Settings.withValue, Keyed.lookup_put] at found
    by_cases same : other = name
    · subst same
      rw [if_pos (beq_self_eq_true other), Option.getD_some, Json.object.injEq] at found
      rw [← found]
      exact (complete.keys other defaultValues values isDefault holds).trans
        (Keyed.keys_prefix_put key given values)
    · rw [if_neg (by simpa using same)] at found
      exact complete.keys other defaultValues others isDefault found

end Settings

end SchemaDelta
