import SchemaDelta.Proofs.Ddl.Dependents
import SchemaDelta.Proofs.Migration.Contents
import SchemaDelta.Proofs.Migration.Planning

/-!
# Safety of alterations

No statement of an alteration meets anything that still depends on what it drops or alters.  In a
migration the foreign keys that altered tables need out of the way are dropped before the first of
these tables is altered, and no foreign key is added before the last one is altered and the new tables
have their keys.
-/

namespace SchemaDelta

open Attempt (bind_eq_ok_iff)

/-- What an alteration drops and alters has no dependents left, and its statements are in order. -/
def Scripter.AltersSafely
    (scripter : Scripter)
    (source target : Value) : Prop :=
  ∃ changes, scripter.tableChanges source target = .ok changes ∧
    changes.DropsDependents scripter.dialect target ∧
    ∀ includeForeignKeys script,
      (scripter.scriptTable includeForeignKeys source target).result = .ok script →
        scripter.StatesInOrder changes source target includeForeignKeys script

theorem Scripter.altersSafely_of_tellsKeysApart
    {scripter : Scripter}
    {source target : Value}
    (sourceTyped : source.isTyped .table = true)
    (targetTyped : target.isTyped .table = true)
    (apart : scripter.dialect.TellsKeysApart target) :
    scripter.AltersSafely source target := by
  rcases TableChanges.between_ok scripter.dialect scripter.options sourceTyped targetTyped with
    ⟨byPosition, scripted, _, _, planned⟩
  exact ⟨_, planned, TableChanges.planned_dropsDependents sourceTyped targetTyped apart,
    fun _ _ => statesInOrder_of_scriptTable sourceTyped targetTyped planned⟩

/-! ## Order of actions -/

namespace MigrationAction

/--
When an action on foreign keys, altered tables or keys of new tables comes: foreign keys are dropped
first and added last.
-/
def keyStage? : MigrationAction → Option Nat
  | dropForeignKeys _ => some 0
  | alterTable _ => some 1
  | addKeysAndIndexes _ => some 2
  | addTableForeignKeys _ => some 3
  | addForeignKeys _ => some 3
  | _ => none

end MigrationAction

/-- The foreign keys that altered tables need out of the way are dropped and those they get added. -/
structure Migration.MovesForeignKeys
    (migration : Migration)
    (actions : List MigrationAction)
    (changes : List Value × List Value) : Prop where
  drops : ∀ row ∈ changes.1, ∃ rows, .dropForeignKeys rows ∈ actions ∧
    ∃ dropped ∈ rows, migration.scripter.dialect.identityOf dropped =
      migration.scripter.dialect.identityOf row
  adds : ∀ row ∈ changes.2, ∃ rows, .addForeignKeys rows ∈ actions ∧
    ∃ added ∈ rows, migration.scripter.dialect.identityOf added =
      migration.scripter.dialect.identityOf row

/-- The actions come in the order of their stages, and all foreign keys of altered tables move. -/
structure Migration.AltersInOrder
    (migration : Migration)
    (actions : List MigrationAction) : Prop where
  ordered : (actions.filterMap MigrationAction.keyStage?).Pairwise (· ≤ ·)
  moves : ∀ pairing, .alterTable pairing ∈ actions → ∃ changes,
    migration.scripter.foreignKeyChanges pairing.source pairing.target = .ok changes ∧
      migration.MovesForeignKeys actions changes

namespace Migration

variable {migration : Migration} {contents : PlanContents}

private theorem keyStages_actionOn
    {action : List Value → MigrationAction}
    {stage : Nat}
    (atStage : ∀ rows, (action rows).keyStage? = some stage)
    (rows : List Value) :
    (actionOn action rows).filterMap MigrationAction.keyStage? =
      List.replicate (actionOn action rows).length stage := by
  cases rows with
  | nil => rfl
  | cons row rows => simp [actionOn, atStage]

/-- The stages of a migration in all phases ascend. -/
theorem pairwise_keyStages
    (contents : PlanContents) :
    ((Phase.all.flatMap (migration.actionsIn contents)).filterMap
      MigrationAction.keyStage?).Pairwise (· ≤ ·) := by
  have dropsFirst : ∀ rows, (actionOn .dropForeignKeys rows).filterMap
      MigrationAction.keyStage? = List.replicate _ 0 :=
    keyStages_actionOn fun _ => rfl
  have addsLast : ∀ rows, (actionOn .addForeignKeys rows).filterMap
      MigrationAction.keyStage? = List.replicate _ 3 :=
    keyStages_actionOn fun _ => rfl
  have constant : ∀ {α : Type} (stage : Nat) (items : List α),
      items.filterMap (fun _ => some stage) = List.replicate items.length stage :=
    fun stage items => by rw [List.filterMap_eq_map', List.map_const']
  simp only [Phase.all, List.flatMap_cons, List.flatMap_nil, actionsIn, List.filterMap_append,
    dropsFirst, addsLast, List.filterMap_map, Function.comp_def, MigrationAction.keyStage?,
    List.filterMap_none, constant, List.nil_append, List.append_nil]
  simp only [List.pairwise_append, List.pairwise_replicate_of_refl, List.mem_append,
    List.mem_replicate]
  grind

/-- What altered tables drop is dropped with tables or for them; what they add is added. -/
private theorem IsTyped.movesForeignKeys
    (typed : migration.IsTyped)
    (collects : migration.Collects contents)
    {pairing : Pairing}
    (member : pairing ∈ migration.differing .tables) :
    migration.MovesForeignKeys (Phase.all.flatMap (migration.actionsIn contents))
      (migration.changesOf pairing) where
  drops _ := typed.exists_dropForeignKeys collects.inAll rfl member
  adds _ := typed.exists_addForeignKeys collects.inAll rfl member

/-- What is altered in a plan is what the comparison found to differ. -/
private theorem mem_differing_of_alterTable
    {pairing : Pairing}
    (member : .alterTable pairing ∈ Phase.all.flatMap (migration.actionsIn contents)) :
    pairing ∈ migration.differing .tables := by
  have silent : ∀ {action : List Value → MigrationAction} {rows : List Value},
      (∀ rows, MigrationAction.alterTable pairing ≠ action rows) →
        MigrationAction.alterTable pairing ∉ actionOn action rows :=
    fun other held => other _ (eq_of_mem_actionOn held)
  simpa [Phase.all, actionsIn, silent] using member

end Migration

namespace Generator

/--
Between typed tables whose keys the dialect tells apart every alteration is safe.  In a script of all
phases the foreign keys of altered tables are dropped before the first alteration, and none is added
before the last one and the keys of the new tables.
-/
theorem alters_safely
    (generator : Generator) :
    (∀ source target, source.isTyped .table = true → target.isTyped .table = true →
      generator.migration.scripter.dialect.TellsKeysApart target →
        generator.migration.scripter.AltersSafely source target) ∧
    ∀ script, generator.migration.IsTyped →
      (∀ phase, generator.migration.includes phase = true) →
        generator.generate.1.result = .ok script →
          ∃ plan dropped,
            generator.migration.planPhases generator.migration.phases [] = .ok (plan, dropped) ∧
            generator.migration.Writes plan script ∧
            generator.migration.AltersInOrder plan.actions := by
  constructor
  · intro source target sourceTyped targetTyped apart
    exact Scripter.altersSafely_of_tellsKeysApart sourceTyped targetTyped apart
  · intro script typed allPhases generated
    rcases exists_plan_of_generate generated with ⟨plan, dropped, planned, writes⟩
    refine ⟨plan, dropped, planned, writes, ?_⟩
    rw [Migration.phases_eq_all allPhases] at planned
    rcases typed.exists_contents planned with ⟨contents, collects, phases⟩
    rw [Migration.actions_eq_of_phases phases]
    refine ⟨Migration.pairwise_keyStages contents, fun pairing member => ?_⟩
    have differs := Migration.mem_differing_of_alterTable member
    exact ⟨_, typed.foreignKeyChanges_ok differs, typed.movesForeignKeys collects differs⟩

/-- The identifier of a table gets another type, while another table has a foreign key on it. -/
private def retyping : Generator :=
  betweenTables (linkedTables "bigint" "o") (linkedTables "integer" "o")

/-- The foreign key is dropped before the identifier is altered and added behind. -/
theorem alters_safely_retyped_identifier :
    retyping.migration.scripter.AltersSafely
        (Scripter.referencedTable "bigint" [.plainIndex "t" "pk" "id" true])
        (Scripter.referencedTable "integer" [.plainIndex "t" "pk" "id" true]) ∧
      ∃ script plan dropped, retyping.generate.1.result = .ok script ∧
        retyping.migration.planPhases retyping.migration.phases [] = .ok (plan, dropped) ∧
        retyping.migration.AltersInOrder plan.actions ∧
        plan.actions.filterMap MigrationAction.keyStage? = [0, 1, 3] := by
  have typed : retyping.migration.IsTyped :=
    betweenTables_isTyped (linkedTables_isTyped ..) (linkedTables_isTyped ..) (by decide +kernel)
  have generates : retyping.generate.1.result.toOption.isSome = true := by
    decide +kernel
  rcases Attempt.exists_ok_of_isSome generates with ⟨script, generated, _⟩
  rcases (alters_safely retyping).2 script typed (fun _ => rfl) generated with
    ⟨plan, dropped, planned, _, inOrder⟩
  have stages :
      (retyping.migration.planPhases retyping.migration.phases []).toOption.map
        (fun planned => planned.1.actions.filterMap MigrationAction.keyStage?) =
      some [0, 1, 3] := by
    decide +kernel
  rw [planned] at stages
  refine ⟨(alters_safely retyping).1 _ _ (by decide) (by decide) ⟨?_, ?_, ?_⟩,
    script, plan, dropped, generated, planned, inOrder, Option.some.inj stages⟩
  all_goals decide

end Generator

end SchemaDelta
