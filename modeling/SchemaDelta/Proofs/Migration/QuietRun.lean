import SchemaDelta.Proofs.Migration.Planning

/-!
# Runs that drop no foreign keys

A part is planned with the foreign keys that the parts before it have dropped.  Where no part drops
any on its own, every part runs as if it were alone, and a script is put together from the lines of
its parts.
-/

namespace SchemaDelta

open Attempt (bind_eq_ok_iff)

namespace Migration

/-- Alone, a part drops no foreign keys. -/
def Part.IsQuiet
    (part : Part) : Prop :=
  ∀ sections, part [] = .ok sections → sections.flatMap MigrationSection.droppedForeignKeys = []

/-- The lines of a part that runs alone. -/
def partLines
    (migration : Migration)
    (part : Part) : Attempt (List String) := do
  migration.sectionLines (← part [])

/-- The heading of a phase and the lines of its parts, each of which runs alone. -/
def phaseLines
    (migration : Migration)
    (phase : Phase) : Attempt (List String) := do
  return phaseHeading phase ++ (← (migration.parts phase).mapM migration.partLines).flatten

/-- A run that comes first drops nothing and gives lines. -/
structure Run.GivesQuietly
    (run : Run)
    (lines : Attempt (List String)) : Prop where
  result : (run []).1.result = lines
  dropped : (run []).2 = []

variable {migration : Migration}

/-- Runs that drop nothing give their lines one behind the other. -/
private theorem givesQuietly_sequence
    {runs : List Run}
    {lines : List (Attempt (List String))}
    (quiet : List.Forall₂ Run.GivesQuietly runs lines) :
    (Run.sequence runs).GivesQuietly (do return (← lines.mapM id).flatten) := by
  induction quiet with
  | nil => exact ⟨rfl, rfl⟩
  | @cons run own runs lines first _ ih =>
      rw [List.mapM_cons, id_eq, ← first.result]
      cases firstRun : (run []).1.result with
      | error failure =>
          constructor
          · simp only [Run.sequence, firstRun]
            rfl
          · simp only [Run.sequence, firstRun, first.dropped]
      | ok text =>
          constructor
          · simp only [Run.sequence, firstRun, first.dropped, ih.result]
            cases lines.mapM id <;> rfl
          · simp only [Run.sequence, firstRun, first.dropped, ih.dropped]

private theorem givesQuietly_runPart
    {part : Part}
    (quiet : part.IsQuiet) :
    (migration.runPart part).GivesQuietly (migration.partLines part) := by
  cases planned : part [] with
  | error failure =>
      constructor
      · simp only [runPart, planPart, planned, partLines]
        rfl
      · simp only [runPart, planPart, planned]
        rfl
  | ok sections =>
      have together : migration.planPart part [] = .ok (sections, []) := by
        rw [planPart, planned, Attempt.ok_bind, quiet sections planned]
        rfl
      constructor
      · simp only [runPart, together, partLines, planned, Scripting.result_bind,
          Scripting.result_mapM]
        rfl
      · simp only [runPart, together]
        rfl

private theorem givesQuietly_runPhase
    {phase : Phase}
    (quiet : ∀ part ∈ migration.parts phase, part.IsQuiet) :
    (migration.runPhase phase).GivesQuietly (migration.phaseLines phase) := by
  have heading : (Run.ofLines (.ok (phaseHeading phase))).GivesQuietly (.ok (phaseHeading phase)) :=
    ⟨rfl, rfl⟩
  have parts : List.Forall₂ Run.GivesQuietly ((migration.parts phase).map migration.runPart)
      ((migration.parts phase).map migration.partLines) := by
    rw [List.forall₂_map_left_iff, List.forall₂_map_right_iff, List.forall₂_same]
    exact fun part member => givesQuietly_runPart (quiet part member)
  have together := givesQuietly_sequence (.cons heading parts)
  rw [List.mapM_cons, List.mapM_map] at together
  simpa [runPhase, phaseLines] using together

/-- The script of a run is the text of the opening lines and the lines of each phase. -/
theorem result_generate_of_isQuiet
    {generator : Generator}
    (checked : generator.migration.checkDialects = .ok ())
    (quiet : ∀ phase, ∀ part ∈ generator.migration.parts phase, part.IsQuiet) :
    generator.generate.1.result = (do
      let opening ← generator.migration.preamble
      let phases ← generator.migration.phases.mapM generator.migration.phaseLines
      return "\n".intercalate (opening ++ phases.flatten) ++ "\n") := by
  have opening : (Run.ofLines generator.migration.preamble).GivesQuietly
      generator.migration.preamble :=
    ⟨rfl, rfl⟩
  have phases : List.Forall₂ Run.GivesQuietly
      (generator.migration.phases.map generator.migration.runPhase)
      (generator.migration.phases.map generator.migration.phaseLines) := by
    rw [List.forall₂_map_left_iff, List.forall₂_map_right_iff, List.forall₂_same]
    exact fun phase _ => givesQuietly_runPhase (quiet phase)
  have together := (givesQuietly_sequence (.cons opening phases)).result
  rw [List.mapM_cons, List.mapM_map] at together
  rw [Generator.generate, checked]
  simp only [Scripting.result_bind, Scripting.result_pure, run, Generator.forget, together]
  simp

end Migration

end SchemaDelta
