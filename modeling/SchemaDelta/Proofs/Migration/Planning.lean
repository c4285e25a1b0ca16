import SchemaDelta.Migration.Generator
import SchemaDelta.Proofs.Ddl.Scripting

/-!
# Plans of migrations

A script that is generated is the text of a plan: the sections of all phases, each part planned with
the foreign keys that the parts before have dropped.
-/

namespace SchemaDelta

open Attempt (bind_eq_ok_iff)

/-- The sections of the phases of a migration. -/
abbrev MigrationPlan : Type :=
  List (Phase × List MigrationSection)

/-- All actions of a plan in their order. -/
def MigrationPlan.actions
    (plan : MigrationPlan) : List MigrationAction :=
  plan.flatMap fun entry => entry.2.flatMap (·.actions)

namespace Migration

/-! ## Plans -/

/--
The sections of parts planned one after the other, and the identities of the foreign keys dropped
before and by them.
-/
def planParts
    (migration : Migration) :
    List Part → List Value → Attempt (List MigrationSection × List Value)
  | [], dropped => .ok ([], dropped)
  | part :: parts, dropped => do
    let (sections, keyed) ← migration.planPart part dropped
    let (others, dropped) ← planParts migration parts (dropped ++ keyed.map (·.1))
    return (sections ++ others, dropped)

/-- The plan of phases, and the identities of the foreign keys dropped before and in them. -/
def planPhases
    (migration : Migration) : List Phase → List Value → Attempt (MigrationPlan × List Value)
  | [], dropped => .ok ([], dropped)
  | phase :: phases, dropped => do
    let (sections, dropped) ← migration.planParts (migration.parts phase) dropped
    let (plan, dropped) ← planPhases migration phases dropped
    return ((phase, sections) :: plan, dropped)

/-- The lines of sections. -/
def sectionLines
    (migration : Migration)
    (sections : List MigrationSection) : Attempt (List String) := do
  return (← sections.mapM fun part => (part.lines migration.scripter).result).flatten

/-- The lines of a plan, phase by phase. -/
def planLines
    (migration : Migration) : MigrationPlan → Attempt (List String)
  | [] => .ok []
  | (phase, sections) :: plan => do
    let lines ← migration.sectionLines sections
    return phaseHeading phase ++ lines ++ (← planLines migration plan)

/-- A script is the text of a plan under the lines at its start. -/
def Writes
    (migration : Migration)
    (plan : MigrationPlan)
    (script : String) : Prop :=
  ∃ opening lines, migration.preamble = .ok opening ∧ migration.planLines plan = .ok lines ∧
    script = "\n".intercalate (opening ++ lines) ++ "\n"

variable {migration : Migration}

/-- Parts are planned together exactly when the later ones are planned after the earlier ones. -/
theorem planParts_append_iff
    {parts others : List Part}
    {dropped final : List Value}
    {sections : List MigrationSection} :
    migration.planParts (parts ++ others) dropped = .ok (sections, final) ↔
      ∃ first middle rest, migration.planParts parts dropped = .ok (first, middle) ∧
        migration.planParts others middle = .ok (rest, final) ∧ sections = first ++ rest := by
  induction parts generalizing dropped sections with
  | nil =>
      constructor
      · intro planned
        exact ⟨[], dropped, sections, rfl, planned, rfl⟩
      · rintro ⟨_, _, rest, equal, planned, rfl⟩
        cases equal
        exact planned
  | cons part parts ih =>
      constructor
      · intro planned
        rcases bind_eq_ok_iff.mp planned with ⟨⟨own, keyed⟩, ownOk, restRun⟩
        rcases bind_eq_ok_iff.mp restRun with ⟨⟨later, _⟩, laterOk, equal⟩
        cases equal
        rcases ih.mp laterOk with ⟨first, middle, rest, firstOk, restOk, rfl⟩
        refine ⟨own ++ first, middle, rest, ?_, restOk, (List.append_assoc own first rest).symm⟩
        simp only [planParts, ownOk, Attempt.ok_bind, firstOk, Attempt.pure_eq_ok]
      · rintro ⟨_, middle, rest, firstOk, restOk, rfl⟩
        rcases bind_eq_ok_iff.mp firstOk with ⟨⟨own, keyed⟩, ownOk, firstRun⟩
        rcases bind_eq_ok_iff.mp firstRun with ⟨⟨first, _⟩, laterOk, equal⟩
        cases equal
        have together := ih.mpr ⟨first, middle, rest, laterOk, restOk, rfl⟩
        simp only [planParts, List.cons_append, ownOk, Attempt.ok_bind, together,
          Attempt.pure_eq_ok, List.append_assoc]

/-- The first of several phases is planned before the others, which know what it drops. -/
theorem planPhases_cons_ok
    {phase : Phase}
    {phases : List Phase}
    {dropped final : List Value}
    {plan : MigrationPlan}
    (planned : migration.planPhases (phase :: phases) dropped = .ok (plan, final)) :
    ∃ sections middle rest,
      migration.planParts (migration.parts phase) dropped = .ok (sections, middle) ∧
        migration.planPhases phases middle = .ok (rest, final) ∧ plan = (phase, sections) :: rest := by
  rcases bind_eq_ok_iff.mp planned with ⟨⟨sections, middle⟩, sectionsOk, restRun⟩
  rcases bind_eq_ok_iff.mp restRun with ⟨⟨rest, _⟩, restOk, equal⟩
  cases equal
  exact ⟨sections, middle, rest, sectionsOk, restOk, rfl⟩

theorem planPhases_append_ok
    {phases others : List Phase}
    {dropped final : List Value}
    {plan : MigrationPlan}
    (planned : migration.planPhases (phases ++ others) dropped = .ok (plan, final)) :
    ∃ first middle rest, migration.planPhases phases dropped = .ok (first, middle) ∧
      migration.planPhases others middle = .ok (rest, final) ∧ plan = first ++ rest := by
  induction phases generalizing dropped plan with
  | nil => exact ⟨[], dropped, plan, rfl, planned, rfl⟩
  | cons phase phases ih =>
      rcases planPhases_cons_ok planned with ⟨sections, middle, later, sectionsOk, laterOk, rfl⟩
      rcases ih laterOk with ⟨first, after, rest, firstOk, restOk, rfl⟩
      refine ⟨(phase, sections) :: first, after, rest, ?_, restOk, rfl⟩
      simp only [planPhases, sectionsOk, Attempt.ok_bind, firstOk, Attempt.pure_eq_ok]

/-- A plan has one entry for each of its phases. -/
theorem phases_of_planPhases
    {phases : List Phase}
    {dropped final : List Value}
    {plan : MigrationPlan}
    (planned : migration.planPhases phases dropped = .ok (plan, final)) :
    plan.map (·.1) = phases := by
  induction phases generalizing dropped plan with
  | nil =>
      cases planned
      rfl
  | cons phase phases ih =>
      rcases planPhases_cons_ok planned with ⟨sections, middle, rest, _, restOk, rfl⟩
      rw [List.map_cons, ih restOk]

/-! ## Runs -/

/-- A sequence of runs that succeeds goes on where its first run ends. -/
private theorem sequence_cons_ok
    {run : Run}
    {runs : List Run}
    {dropped : List Value}
    {lines : List String}
    (succeeds : (Run.sequence (run :: runs) dropped).1.result = .ok lines) :
    ∃ first rest, (run dropped).1.result = .ok first ∧
      (Run.sequence runs (run dropped).2).1.result = .ok rest ∧ lines = first ++ rest ∧
        (Run.sequence (run :: runs) dropped).2 = (Run.sequence runs (run dropped).2).2 := by
  cases firstOk : (run dropped).1.result with
  | error failure =>
      simp only [Run.sequence, firstOk] at succeeds
      cases succeeds
  | ok first =>
      simp only [Run.sequence, firstOk] at succeeds ⊢
      cases restOk : (Run.sequence runs (run dropped).2).1.result with
      | error failure =>
          rw [restOk] at succeeds
          cases succeeds
      | ok rest =>
          rw [restOk] at succeeds
          cases succeeds
          exact ⟨first, rest, rfl, rfl, rfl, trivial⟩

private theorem runPart_ok
    {part : Part}
    {dropped : List Value}
    {lines : List String}
    (succeeds : (migration.runPart part dropped).1.result = .ok lines) :
    ∃ sections keyed, migration.planPart part dropped = .ok (sections, keyed) ∧
      migration.sectionLines sections = .ok lines ∧
        (migration.runPart part dropped).2 = dropped ++ keyed.map (·.1) := by
  simp only [runPart] at succeeds ⊢
  split at succeeds
  · cases succeeds
  · rename_i sections keyed planned
    refine ⟨sections, keyed, planned, ?_, rfl⟩
    rw [Scripting.result_bind, Scripting.result_mapM] at succeeds
    exact succeeds

private theorem sectionLines_append
    {sections others : List MigrationSection}
    {lines otherLines : List String}
    (sectionsOk : migration.sectionLines sections = .ok lines)
    (othersOk : migration.sectionLines others = .ok otherLines) :
    migration.sectionLines (sections ++ others) = .ok (lines ++ otherLines) := by
  rcases bind_eq_ok_iff.mp sectionsOk with ⟨scripts, scriptsOk, equal⟩
  cases equal
  rcases bind_eq_ok_iff.mp othersOk with ⟨otherScripts, otherScriptsOk, equal⟩
  cases equal
  rw [sectionLines, List.mapM_append, scriptsOk, Attempt.ok_bind, otherScriptsOk]
  simp

/-- Parts that run one after the other give the lines of the sections that they plan. -/
private theorem runParts_ok
    {parts : List Part}
    {dropped : List Value}
    {lines : List String}
    (succeeds : (Run.sequence (parts.map migration.runPart) dropped).1.result = .ok lines) :
    ∃ sections, migration.planParts parts dropped =
        .ok (sections, (Run.sequence (parts.map migration.runPart) dropped).2) ∧
      migration.sectionLines sections = .ok lines := by
  induction parts generalizing dropped lines with
  | nil =>
      cases succeeds
      exact ⟨[], rfl, rfl⟩
  | cons part parts ih =>
      rcases sequence_cons_ok succeeds with ⟨first, rest, firstOk, restOk, rfl, final⟩
      rcases runPart_ok firstOk with ⟨own, keyed, ownPlanned, ownLines, after⟩
      rcases ih restOk with ⟨others, othersPlanned, otherLines⟩
      refine ⟨own ++ others, ?_, sectionLines_append ownLines otherLines⟩
      rw [List.map_cons, final]
      rw [after] at othersPlanned ⊢
      simp only [planParts, ownPlanned, Attempt.ok_bind, othersPlanned, Attempt.pure_eq_ok]

private theorem runPhase_ok
    {phase : Phase}
    {dropped : List Value}
    {lines : List String}
    (succeeds : (migration.runPhase phase dropped).1.result = .ok lines) :
    ∃ sections sectionLines, migration.planParts (migration.parts phase) dropped =
        .ok (sections, (migration.runPhase phase dropped).2) ∧
      migration.sectionLines sections = .ok sectionLines ∧
        lines = phaseHeading phase ++ sectionLines := by
  rcases sequence_cons_ok succeeds with ⟨heading, rest, headingOk, restOk, rfl, final⟩
  cases headingOk
  rcases runParts_ok restOk with ⟨sections, planned, linesOk⟩
  refine ⟨sections, rest, ?_, linesOk, rfl⟩
  rw [runPhase, final]
  exact planned

private theorem runPhases_ok
    {phases : List Phase}
    {dropped : List Value}
    {lines : List String}
    (succeeds : (Run.sequence (phases.map migration.runPhase) dropped).1.result = .ok lines) :
    ∃ plan, migration.planPhases phases dropped =
        .ok (plan, (Run.sequence (phases.map migration.runPhase) dropped).2) ∧
      migration.planLines plan = .ok lines := by
  induction phases generalizing dropped lines with
  | nil =>
      cases succeeds
      exact ⟨[], rfl, rfl⟩
  | cons phase phases ih =>
      rcases sequence_cons_ok succeeds with ⟨first, rest, firstOk, restOk, rfl, final⟩
      rcases runPhase_ok firstOk with ⟨sections, lines, planned, linesOk, rfl⟩
      rcases ih restOk with ⟨plan, restPlanned, restLines⟩
      refine ⟨(phase, sections) :: plan, ?_, ?_⟩
      · rw [List.map_cons, final, planPhases, planned, Attempt.ok_bind]
        dsimp only
        rw [restPlanned]
        rfl
      · rw [planLines, linesOk, Attempt.ok_bind, restLines]
        rfl

end Migration

/-- A script is generated only for databases of one dialect. -/
theorem Generator.checkDialects_of_generate
    {generator : Generator}
    {script : String}
    (generated : generator.generate.1.result = .ok script) :
    generator.migration.checkDialects = .ok () := by
  unfold generate at generated
  split at generated
  · cases generated
  · assumption

/--
A generated script is the text of a plan of the phases that run.  The generator remembers the foreign
keys that the plan drops.
-/
theorem Generator.exists_remembered_plan_of_generate
    {generator : Generator}
    {script : String}
    (generated : generator.generate.1.result = .ok script) :
    ∃ plan,
      generator.migration.planPhases generator.migration.phases [] =
          .ok (plan, generator.generate.2.dropped) ∧
        generator.migration.Writes plan script := by
  have checked := checkDialects_of_generate generated
  simp only [generate, checked, Scripting.result_bind, Scripting.result_pure, Migration.run]
    at generated ⊢
  rcases bind_eq_ok_iff.mp generated with ⟨lines, runOk, equal⟩
  cases equal
  rcases Migration.sequence_cons_ok runOk with ⟨opening, rest, openingOk, restOk, rfl, final⟩
  rcases Migration.runPhases_ok restOk with ⟨plan, planned, linesOk⟩
  exact ⟨plan, final ▸ planned, opening, rest, openingOk, linesOk, rfl⟩

/-- A generated script is the text of a plan of the phases that run. -/
theorem Generator.exists_plan_of_generate
    {generator : Generator}
    {script : String}
    (generated : generator.generate.1.result = .ok script) :
    ∃ plan dropped,
      generator.migration.planPhases generator.migration.phases [] = .ok (plan, dropped) ∧
        generator.migration.Writes plan script := by
  rcases exists_remembered_plan_of_generate generated with ⟨plan, planned, writes⟩
  exact ⟨plan, _, planned, writes⟩

end SchemaDelta
