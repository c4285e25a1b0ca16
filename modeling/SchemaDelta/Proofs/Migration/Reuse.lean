import SchemaDelta.Proofs.Migration.Contents

/-!
# Generators that are used again

A generator remembers the foreign keys that a run has dropped.  Every run forgets them first, so
that a generator gives after any runs, complete or not, what it gives when it is new.  Within a run
the memory parts the foreign keys among two phases: what the drops have dropped is not dropped again
for altered tables, and everything else that these need out of the way is.
-/

namespace SchemaDelta

open Attempt (bind_eq_ok_iff exists_ok_of_isSome)

/-! ## Runs one after the other -/

namespace Generator

/-- A generator after some runs, each of which may have failed. -/
def afterRuns
    (generator : Generator) : Nat → Generator
  | 0 => generator
  | count + 1 => (generator.afterRuns count).generate.2

/-- A run is about the same migration as the runs before it. -/
theorem migration_generate
    (generator : Generator) :
    generator.generate.2.migration = generator.migration := by
  rw [generate]
  split
  · rfl
  · rfl

theorem migration_afterRuns
    (generator : Generator)
    (count : Nat) :
    (generator.afterRuns count).migration = generator.migration := by
  induction count with
  | zero => rfl
  | succ count ih => rw [afterRuns, migration_generate, ih]

/-- What a run gives does not depend on what is remembered before it. -/
theorem generate_forget
    (generator : Generator) :
    generator.generate.1 = generator.forget.generate.1 := by
  simp only [generate, forget]
  cases generator.migration.checkDialects with
  | error failure => rfl
  | ok _ => rfl

/-- A run that begins remembers at its end only what it has dropped itself. -/
theorem generate_forget_of_checkDialects
    {generator : Generator}
    (checked : generator.migration.checkDialects = .ok ()) :
    generator.generate = generator.forget.generate := by
  simp only [generate, forget, checked]

theorem forget_afterRuns
    (generator : Generator)
    (count : Nat) :
    (generator.afterRuns count).forget = generator.forget := by
  rw [forget, forget, migration_afterRuns]

end Generator

/-! ## What plans drop -/

/-- The foreign keys that a plan drops on their own. -/
def MigrationPlan.droppedForeignKeys
    (plan : MigrationPlan) : List Value :=
  plan.flatMap fun entry => entry.2.flatMap MigrationSection.droppedForeignKeys

/-- What a plan does in a phase. -/
def MigrationPlan.inPhase
    (plan : MigrationPlan)
    (phase : Phase) : MigrationPlan :=
  plan.filter fun entry => entry.1 == phase

theorem MigrationPlan.droppedForeignKeys_append
    (plan other : MigrationPlan) :
    MigrationPlan.droppedForeignKeys (plan ++ other) =
      plan.droppedForeignKeys ++ other.droppedForeignKeys :=
  List.flatMap_append

theorem MigrationPlan.inPhase_append
    (plan other : MigrationPlan)
    (phase : Phase) :
    MigrationPlan.inPhase (plan ++ other) phase = plan.inPhase phase ++ other.inPhase phase :=
  List.filter_append ..

theorem Dialect.identified_append
    {dialect : Dialect}
    {rows others : List Value}
    {keyed otherKeyed : KeyedValues}
    (identified : dialect.identified rows = .ok keyed)
    (othersIdentified : dialect.identified others = .ok otherKeyed) :
    dialect.identified (rows ++ others) = .ok (keyed ++ otherKeyed) := by
  rw [Dialect.identified] at identified othersIdentified ⊢
  rw [List.mapM_append, identified, Attempt.ok_bind, othersIdentified]
  rfl

namespace Migration

variable {migration : Migration} {dropped final : List Value}

/-- Parts remember the identities of the foreign keys that they drop. -/
theorem planParts_remembers
    {parts : List Part}
    {sections : List MigrationSection}
    (planned : migration.planParts parts dropped = .ok (sections, final)) :
    ∃ keyed, migration.scripter.dialect.identified
        (sections.flatMap MigrationSection.droppedForeignKeys) = .ok keyed ∧
      final = dropped ++ keyed.map (·.1) := by
  induction parts generalizing dropped sections with
  | nil =>
      cases planned
      exact ⟨[], rfl, (List.append_nil _).symm⟩
  | cons part parts ih =>
      rcases bind_eq_ok_iff.mp planned with ⟨⟨own, keyed⟩, ownPlanned, restRun⟩
      rcases bind_eq_ok_iff.mp restRun with ⟨⟨rest, _⟩, restOk, equal⟩
      cases equal
      rcases bind_eq_ok_iff.mp ownPlanned with ⟨_, _, keyedRun⟩
      rcases bind_eq_ok_iff.mp keyedRun with ⟨_, keyedOk, equal⟩
      cases equal
      rcases ih restOk with ⟨restKeyed, restIdentified, rfl⟩
      refine ⟨keyed ++ restKeyed, ?_, by rw [List.map_append, List.append_assoc]⟩
      rw [List.flatMap_append]
      exact Dialect.identified_append keyedOk restIdentified

/-- A plan remembers the identities of the foreign keys that it drops. -/
theorem planPhases_remembers
    {phases : List Phase}
    {plan : MigrationPlan}
    (planned : migration.planPhases phases dropped = .ok (plan, final)) :
    ∃ keyed, migration.scripter.dialect.identified plan.droppedForeignKeys = .ok keyed ∧
      final = dropped ++ keyed.map (·.1) := by
  induction phases generalizing dropped plan with
  | nil =>
      cases planned
      exact ⟨[], rfl, (List.append_nil _).symm⟩
  | cons phase phases ih =>
      rcases planPhases_cons_ok planned with ⟨sections, middle, rest, sectionsOk, restOk, rfl⟩
      rcases planParts_remembers sectionsOk with ⟨keyed, identified, rfl⟩
      rcases ih restOk with ⟨restKeyed, restIdentified, rfl⟩
      exact ⟨keyed ++ restKeyed, Dialect.identified_append identified restIdentified,
        by rw [List.map_append, List.append_assoc]⟩

/-! ## Phases that drop no foreign keys -/

/-- A part never drops foreign keys on their own. -/
def Part.Silent
    (part : Part) : Prop :=
  ∀ dropped, Attempt.Ensures
    (fun sections => sections.flatMap MigrationSection.droppedForeignKeys = []) (part dropped)

private theorem droppedForeignKeys_ofItems
    {α : Type}
    {action : α → MigrationAction}
    (silent : ∀ item, (action item).droppedForeignKeys = [])
    (activity things : String)
    (items : List α) :
    (MigrationSection.ofItems activity things items action).flatMap
      MigrationSection.droppedForeignKeys = [] := by
  rw [MigrationSection.droppedForeignKeys_eq, MigrationSection.actionsOf_ofItems]
  exact droppedForeignKeys_map silent items

private theorem silent_ofPairings
    {activity things : String}
    {pairings : List Pairing}
    {action : Pairing → MigrationAction}
    (silent : ∀ pairing, (action pairing).droppedForeignKeys = []) :
    (Part.ofPairings activity things pairings action).Silent := by
  intro dropped sections planned
  cases planned
  exact droppedForeignKeys_ofItems silent activity things pairings

private theorem silent_typePart :
    migration.typePart.Silent :=
  fun _ => Attempt.ensures_bind fun _ => silent_ofPairings (fun _ => rfl) _

private theorem silent_newKeyPart :
    migration.newKeyPart.Silent :=
  fun _ => Attempt.ensures_bind fun _ => Attempt.ensures_bind fun tables =>
    Attempt.ensures_pure (droppedForeignKeys_ofItems (fun _ => rfl) _ _ tables)

private theorem silent_newForeignKeyPart :
    migration.newForeignKeyPart.Silent :=
  fun _ => Attempt.ensures_bind fun _ => Attempt.ensures_bind fun tables =>
    Attempt.ensures_pure (droppedForeignKeys_ofItems (fun _ => rfl) _ _ tables)

private theorem silent_addedForeignKeyPart :
    migration.addedForeignKeyPart.Silent := by
  refine fun _ => Attempt.ensures_bind fun rows sections planned => ?_
  rw [MigrationSection.droppedForeignKeys_eq, MigrationSection.actionsOf_ofForeignKeys planned]
  split
  · rfl
  · rfl

private theorem silent_programmabilityPart
    (kind : ObjectKind)
    {action : Value → Pairing → MigrationAction}
    (silent : ∀ types pairing, (action types pairing).droppedForeignKeys = []) :
    (migration.programmabilityPart kind action).Silent := by
  intro dropped
  rw [programmabilityPart]
  refine Attempt.ensures_ite (Attempt.ensures_pure rfl) ?_
  exact Attempt.ensures_bind fun types => silent_ofPairings (silent types) dropped

/-- Only the drops and the phase of tables drop foreign keys on their own. -/
private theorem silent_parts
    {phase : Phase}
    (notDrops : phase ≠ .drops)
    (notTables : phase ≠ .tables) :
    ∀ part ∈ migration.parts phase, part.Silent := by
  cases phase with
  | drops => exact absurd rfl notDrops
  | tables => exact absurd rfl notTables
  | types =>
      exact List.forall_mem_cons.mpr ⟨silent_typePart,
        List.forall_mem_singleton.mpr (silent_ofPairings fun _ => rfl)⟩
  | constraints => simp [parts, constraintParts, silent_newKeyPart]
  | foreignKeys =>
      simp [parts, foreignKeyParts, silent_newForeignKeyPart, silent_addedForeignKeyPart]
  | programmability =>
      refine List.forall_mem_cons.mpr ⟨silent_programmabilityPart _ fun _ _ => rfl, ?_⟩
      refine List.forall_mem_cons.mpr ⟨silent_programmabilityPart _ fun _ _ => rfl, ?_⟩
      exact List.forall_mem_cons.mpr ⟨silent_programmabilityPart _ fun _ _ => rfl,
        List.forall_mem_singleton.mpr (silent_programmabilityPart _ fun _ _ => rfl)⟩

private theorem droppedForeignKeys_of_silentParts
    {parts : List Part}
    (silent : ∀ part ∈ parts, part.Silent)
    {sections : List MigrationSection}
    (planned : migration.planParts parts dropped = .ok (sections, final)) :
    sections.flatMap MigrationSection.droppedForeignKeys = [] := by
  induction parts generalizing dropped sections with
  | nil =>
      cases planned
      rfl
  | cons part parts ih =>
      rcases bind_eq_ok_iff.mp planned with ⟨⟨own, keyed⟩, ownPlanned, restRun⟩
      rcases bind_eq_ok_iff.mp restRun with ⟨⟨rest, _⟩, restOk, equal⟩
      cases equal
      rcases bind_eq_ok_iff.mp ownPlanned with ⟨_, ownOk, keyedRun⟩
      rcases bind_eq_ok_iff.mp keyedRun with ⟨_, _, equal⟩
      cases equal
      rw [List.flatMap_append, silent part List.mem_cons_self dropped own ownOk,
        ih (fun other member => silent other (List.mem_cons_of_mem part member)) restOk,
        List.append_nil]

/-- A plan of other phases drops no foreign keys on their own. -/
theorem droppedForeignKeys_of_silentPhases
    {phases : List Phase}
    (silent : ∀ phase ∈ phases, phase ≠ .drops ∧ phase ≠ .tables)
    {plan : MigrationPlan}
    (planned : migration.planPhases phases dropped = .ok (plan, final)) :
    plan.droppedForeignKeys = [] ∧ final = dropped := by
  have none : plan.droppedForeignKeys = [] := by
    induction phases generalizing dropped plan with
    | nil =>
        cases planned
        rfl
    | cons phase phases ih =>
        rcases planPhases_cons_ok planned with ⟨sections, middle, rest, sectionsOk, restOk, rfl⟩
        have ⟨notDrops, notTables⟩ := silent phase List.mem_cons_self
        have own := droppedForeignKeys_of_silentParts (silent_parts notDrops notTables) sectionsOk
        have later :=
          ih (fun other member => silent other (List.mem_cons_of_mem phase member)) restOk
        rw [MigrationPlan.droppedForeignKeys, List.flatMap_cons, own, List.nil_append]
        exact later
  rcases planPhases_remembers planned with ⟨keyed, identified, rfl⟩
  rw [none] at identified
  cases identified
  exact ⟨none, List.append_nil dropped⟩

/-! ## Foreign keys in the phase of tables -/

/-- In the phase of tables the foreign keys in the way of altered tables are dropped. -/
private theorem droppedForeignKeys_of_tables
    {sections : List MigrationSection}
    (planned : migration.planParts (migration.parts .tables) dropped = .ok (sections, final)) :
    ∃ needed, migration.changedForeignKeys (·.1) = .ok needed ∧
      sections.flatMap MigrationSection.droppedForeignKeys =
        (needed.filter fun entry => !dropped.contains entry.1).map (·.2) := by
  rcases plan_tables planned with ⟨tables, rows, _, rowsOk, actions⟩
  rcases bind_eq_ok_iff.mp rowsOk with ⟨needed, neededOk, equal⟩
  cases equal
  refine ⟨needed, neededOk, ?_⟩
  rw [MigrationSection.droppedForeignKeys_eq, actions ⟨[], [], tables, _, []⟩ rfl rfl, actionsIn,
    List.flatMap_append, List.flatMap_append, flatMap_actionOn rfl,
    droppedForeignKeys_map fun _ => rfl, droppedForeignKeys_map fun _ => rfl, List.nil_append,
    List.append_nil]
  rfl

/--
Only the drops and the phase of tables drop foreign keys on their own.  The phase of tables drops
those that altered tables need out of the way, except for the ones that the drops have dropped.
-/
structure DropsWhatIsLeft
    (migration : Migration)
    (plan : MigrationPlan) : Prop where
  whole : plan.droppedForeignKeys =
    (plan.inPhase .drops).droppedForeignKeys ++ (plan.inPhase .tables).droppedForeignKeys
  left : migration.includes .tables = true →
    ∃ keyed needed,
      migration.scripter.dialect.identified (plan.inPhase .drops).droppedForeignKeys = .ok keyed ∧
        migration.changedForeignKeys (·.1) = .ok needed ∧
        (plan.inPhase .tables).droppedForeignKeys =
          (needed.filter fun entry => !(keyed.map (·.1)).contains entry.1).map (·.2)

private theorem inPhase_eq_nil
    {phases : List Phase}
    {plan : MigrationPlan}
    (phase : Phase)
    (planned : migration.planPhases (phases.filter migration.includes) dropped = .ok (plan, final))
    (others : phase ∉ phases) :
    plan.inPhase phase = [] := by
  refine List.filter_eq_nil_iff.mpr fun entry member same => others ?_
  have held : entry.1 ∈ phases.filter migration.includes :=
    phases_of_planPhases planned ▸ List.mem_map_of_mem member
  exact beq_iff_eq.mp same ▸ (List.mem_filter.mp held).1

private theorem inPhase_eq_self
    {phase : Phase}
    {plan : MigrationPlan}
    (planned : migration.planPhases ([phase].filter migration.includes) dropped =
      .ok (plan, final)) :
    plan.inPhase phase = plan := by
  refine List.filter_eq_self.mpr fun entry member => beq_iff_eq.mpr ?_
  have held : entry.1 ∈ [phase].filter migration.includes :=
    phases_of_planPhases planned ▸ List.mem_map_of_mem member
  exact List.mem_singleton.mp (List.mem_filter.mp held).1

theorem dropsWhatIsLeft
    {plan : MigrationPlan}
    (planned : migration.planPhases migration.phases [] = .ok (plan, final)) :
    migration.DropsWhatIsLeft plan := by
  have split : migration.phases =
      [Phase.drops].filter migration.includes ++ ([Phase.types].filter migration.includes ++
        ([Phase.tables].filter migration.includes ++
          [Phase.constraints, .foreignKeys, .programmability].filter migration.includes)) := by
    rw [← List.filter_append, ← List.filter_append, ← List.filter_append]
    rfl
  rw [split] at planned
  rcases planPhases_append_ok planned with ⟨drops, _, _, dropsOk, behindDrops, rfl⟩
  rcases planPhases_append_ok behindDrops with ⟨types, _, _, typesOk, behindTypes, rfl⟩
  rcases planPhases_append_ok behindTypes with ⟨tables, _, others, tablesOk, othersOk, rfl⟩
  rcases droppedForeignKeys_of_silentPhases (by simp) typesOk with ⟨noTypeDrops, rfl⟩
  have ⟨noOtherDrops, _⟩ := droppedForeignKeys_of_silentPhases (by simp) othersOk
  have inDrops : (drops ++ (types ++ (tables ++ others))).inPhase .drops = drops := by
    simp only [MigrationPlan.inPhase_append, inPhase_eq_self dropsOk,
      inPhase_eq_nil .drops typesOk (by decide), inPhase_eq_nil .drops tablesOk (by decide),
      inPhase_eq_nil .drops othersOk (by decide), List.append_nil]
  have inTables : (drops ++ (types ++ (tables ++ others))).inPhase .tables = tables := by
    simp only [MigrationPlan.inPhase_append, inPhase_eq_self tablesOk,
      inPhase_eq_nil .tables dropsOk (by decide), inPhase_eq_nil .tables typesOk (by decide),
      inPhase_eq_nil .tables othersOk (by decide), List.append_nil, List.nil_append]
  refine ⟨?_, fun included => ?_⟩
  · rw [inDrops, inTables]
    simp only [MigrationPlan.droppedForeignKeys_append, noTypeDrops, noOtherDrops, List.nil_append,
      List.append_nil]
  · rw [inDrops, inTables]
    rw [List.filter_cons_of_pos included] at tablesOk
    rcases planPhases_cons_ok tablesOk with ⟨sections, _, none, sectionsOk, noneOk, rfl⟩
    cases noneOk
    rcases planPhases_remembers dropsOk with ⟨keyed, identified, rfl⟩
    rcases droppedForeignKeys_of_tables sectionsOk with ⟨needed, neededOk, left⟩
    refine ⟨keyed, needed, identified, neededOk, ?_⟩
    rw [MigrationPlan.droppedForeignKeys, List.flatMap_singleton, left, List.nil_append]

end Migration

/-! ## Scripts -/

namespace Generator

/--
After any number of runs, complete or failed, a generator gives the same script or the same failure
with the same notices as a new generator of the same migration.  A run that begins also leaves
behind what it leaves behind in a new generator: the identities of the foreign keys that it has
dropped.  In a script the foreign keys in the way of altered tables are dropped unless the drops
have dropped them.
-/
theorem generate_afterRuns
    (generator : Generator)
    (count : Nat) :
    (generator.afterRuns count).generate.1 =
        (Generator.mk generator.migration []).generate.1 ∧
      (generator.migration.checkDialects = .ok () →
        (generator.afterRuns count).generate.2 =
          (Generator.mk generator.migration []).generate.2) ∧
      ∀ script, (generator.afterRuns count).generate.1.result = .ok script →
        ∃ plan keyed,
          generator.migration.planPhases generator.migration.phases [] =
              .ok (plan, (generator.afterRuns count).generate.2.dropped) ∧
            generator.migration.Writes plan script ∧
            generator.migration.scripter.dialect.identified plan.droppedForeignKeys = .ok keyed ∧
            (generator.afterRuns count).generate.2.dropped = keyed.map (·.1) ∧
            generator.migration.DropsWhatIsLeft plan := by
  have same : (generator.afterRuns count).forget = Generator.mk generator.migration [] :=
    forget_afterRuns generator count
  have migrates := migration_afterRuns generator count
  refine ⟨?_, fun checked => ?_, fun script generated => ?_⟩
  · rw [generate_forget, same]
  · rw [generate_forget_of_checkDialects (migrates ▸ checked), same]
  · rcases exists_remembered_plan_of_generate generated with ⟨plan, planned, writes⟩
    rw [migrates] at planned writes
    rcases Migration.planPhases_remembers planned with ⟨keyed, identified, remembered⟩
    exact ⟨plan, keyed, planned, writes, identified, remembered,
      Migration.dropsWhatIsLeft planned⟩

/-- The identifier of a table that is referenced gets another type. -/
private def rebuildingAgain : Generator :=
  betweenTables (linkedTables "bigint" "o") (linkedTables "integer" "o")

/-- A foreign key that the first run has dropped is dropped in the next run again. -/
theorem generate_afterRuns_of_rebuiltKey :
    rebuildingAgain.migration.checkDialects = .ok () ∧
      (rebuildingAgain.afterRuns 1).dropped ≠ [] ∧
      (rebuildingAgain.afterRuns 1).generate = rebuildingAgain.generate ∧
      ∃ script plan final, (rebuildingAgain.afterRuns 1).generate.1.result = .ok script ∧
        rebuildingAgain.migration.planPhases rebuildingAgain.migration.phases [] =
          .ok (plan, final) ∧
        rebuildingAgain.migration.Writes plan script ∧
        rebuildingAgain.migration.DropsWhatIsLeft plan ∧
        (plan.inPhase .tables).droppedForeignKeys.map Value.foreignKeyName =
          [("public", "o", "fk")] := by
  have checked : rebuildingAgain.migration.checkDialects = .ok () := rfl
  have ⟨sameScript, sameMemory, scripts⟩ := generate_afterRuns rebuildingAgain 1
  have same : (rebuildingAgain.afterRuns 1).generate = rebuildingAgain.generate :=
    Prod.ext sameScript (sameMemory checked)
  have generates : rebuildingAgain.generate.1.result.toOption.isSome = true := by
    decide +kernel
  rcases exists_ok_of_isSome generates with ⟨script, generated, _⟩
  rw [← same] at generated
  rcases scripts script generated with ⟨plan, keyed, planned, writes, _, _, left⟩
  rw [same] at planned
  generalize isFinal : rebuildingAgain.generate.2.dropped = final at planned
  have drops :
      (rebuildingAgain.migration.planPhases rebuildingAgain.migration.phases []).toOption.map
          (fun planned =>
            ((planned.1.inPhase .tables).droppedForeignKeys.map Value.foreignKeyName,
              planned.2.isEmpty)) =
        some ([("public", "o", "fk")], false) := by
    decide +kernel
  rw [planned] at drops
  rcases Prod.mk.inj (Option.some.inj drops) with ⟨names, remembered⟩
  have remembers : (rebuildingAgain.afterRuns 1).dropped ≠ [] := by
    rw [afterRuns, afterRuns, isFinal]
    rintro rfl
    cases remembered
  exact ⟨checked, remembers, same, script, plan, final, generated, planned, writes, left, names⟩

end Generator

end SchemaDelta
