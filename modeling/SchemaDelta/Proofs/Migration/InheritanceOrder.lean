import SchemaDelta.Proofs.Ddl.Independence
import SchemaDelta.Proofs.Migration.Contents
import SchemaDelta.Proofs.Migration.Planning
import SchemaDelta.Proofs.Migration.TableLists

/-!
# Inheritance in migrations

New tables are created behind their parents, and dropped tables are dropped before theirs.  Both
lists are found among all tables of a database, so that one table without a line of ancestors is
enough to end a migration, unless something that is scripted before ends it first.
-/

namespace SchemaDelta

open Attempt (IsIndependent bind_eq_ok_iff isIndependent_bind_iff)
open Inheritance (IsLost PutsChildrenFirst PutsParentsFirst)

/-! ## Runs that fail for a dependency -/

namespace Migration.Run

/-- A run gives lines. -/
def Succeeds
    (run : Run)
    (dropped : List Value) : Prop :=
  ∃ lines, (run dropped).1.result = .ok lines

/-- A run ends at a dependency that is not resolved. -/
def EndsUnresolved
    (run : Run)
    (dropped : List Value) : Prop :=
  ∃ failure, (run dropped).1.result = .error failure ∧ failure.family = .unresolvedDependency

/-- A run that does not end at a dependency, whatever was dropped before. -/
def IsIndependent
    (run : Run) : Prop :=
  ∀ dropped, ¬ run.EndsUnresolved dropped

theorem endsUnresolved_iff
    {run : Run}
    {dropped : List Value} :
    run.EndsUnresolved dropped ↔ ¬ Attempt.IsIndependent (run dropped).1.result := by
  simp only [EndsUnresolved, Attempt.IsIndependent, not_forall, not_not, exists_prop]

variable {run : Run} {runs others : List Run} {dropped : List Value}

/-- A sequence ends where its first run ends, or later runs end after it has succeeded. -/
theorem endsUnresolved_sequence_cons_iff :
    EndsUnresolved (Run.sequence (run :: runs)) dropped ↔
      run.EndsUnresolved dropped ∨
        run.Succeeds dropped ∧ EndsUnresolved (Run.sequence runs) (run dropped).2 := by
  cases first : (run dropped).1.result with
  | error failure => simp [EndsUnresolved, Succeeds, Run.sequence, first]
  | ok lines =>
      cases rest : (Run.sequence runs (run dropped).2).1.result with
      | error failure => simp [EndsUnresolved, Succeeds, Run.sequence, first, rest, Except.map]
      | ok others => simp [EndsUnresolved, Succeeds, Run.sequence, first, rest, Except.map]

theorem succeeds_sequence_cons_iff :
    Succeeds (Run.sequence (run :: runs)) dropped ↔
      run.Succeeds dropped ∧ Succeeds (Run.sequence runs) (run dropped).2 := by
  cases first : (run dropped).1.result with
  | error failure => simp [Succeeds, Run.sequence, first]
  | ok lines =>
      cases rest : (Run.sequence runs (run dropped).2).1.result with
      | error failure => simp [Succeeds, Run.sequence, first, rest, Except.map]
      | ok others => simp [Succeeds, Run.sequence, first, rest, Except.map]

theorem sequence_dropped_of_succeeds
    (succeeds : run.Succeeds dropped) :
    (Run.sequence (run :: runs) dropped).2 = (Run.sequence runs (run dropped).2).2 := by
  rcases succeeds with ⟨lines, first⟩
  simp only [Run.sequence, first]

theorem endsUnresolved_sequence_append_iff :
    EndsUnresolved (Run.sequence (runs ++ others)) dropped ↔
      EndsUnresolved (Run.sequence runs) dropped ∨ Succeeds (Run.sequence runs) dropped ∧
        EndsUnresolved (Run.sequence others) (Run.sequence runs dropped).2 := by
  induction runs generalizing dropped with
  | nil =>
      have empty : Succeeds (Run.sequence []) dropped := ⟨[], rfl⟩
      have never : ¬ EndsUnresolved (Run.sequence []) dropped :=
        fun ends => nomatch ends.choose_spec.1
      simp only [List.nil_append, empty, never, false_or, true_and]
      rfl
  | cons run runs ih =>
      rw [List.cons_append, endsUnresolved_sequence_cons_iff, endsUnresolved_sequence_cons_iff, ih,
        succeeds_sequence_cons_iff]
      by_cases succeeds : run.Succeeds dropped
      · rw [sequence_dropped_of_succeeds succeeds]
        tauto
      · tauto

theorem isIndependent_sequence
    (independent : ∀ run ∈ runs, run.IsIndependent) :
    IsIndependent (Run.sequence runs) := by
  induction runs with
  | nil => exact fun dropped ends => nomatch ends.choose_spec.1
  | cons run runs ih =>
      intro dropped ends
      rcases endsUnresolved_sequence_cons_iff.mp ends with here | ⟨_, later⟩
      · exact independent run List.mem_cons_self dropped here
      · exact ih (fun other member => independent other (List.mem_cons_of_mem run member)) _ later

end Migration.Run

namespace Migration

variable {migration : Migration}

/-! ## Parts that do not fail for a dependency -/

/-- A part that can be planned, or else cannot for another reason than a dependency. -/
def Part.IsIndependent
    (part : Part) : Prop :=
  ∀ dropped, Attempt.IsIndependent (part dropped)

@[simp]
theorem isIndependent_ofForeignKeys
    (activity things : String)
    (rows : List Value)
    (action : List Value → MigrationAction) :
    IsIndependent (MigrationSection.ofForeignKeys activity things rows action) := by
  simp [MigrationSection.ofForeignKeys]

@[simp]
theorem isIndependent_foreignKeysOf
    (tables : List Value) :
    IsIndependent (migration.foreignKeysOf tables) := by
  have identified : ∀ table, IsIndependent (migration.identifiedForeignKeys table) := by
    simp [identifiedForeignKeys]
  simp [foreignKeysOf, identified]

@[simp]
theorem isIndependent_changedForeignKeys
    (onPostgreSql : migration.scripter.dialect = .postgreSql)
    (rows : List Value × List Value → List Value) :
    IsIndependent (migration.changedForeignKeys rows) := by
  have changes : ∀ source target,
      IsIndependent (migration.scripter.foreignKeyChanges source target) := by
    rcases migration with ⟨_, _, _, ⟨dialect, options⟩, _⟩
    cases onPostgreSql
    simp
  simp [changedForeignKeys, changes]

/-- The lines of a part are those of the sections that are planned. -/
private theorem result_runPart
    (part : Part)
    (dropped : List Value) :
    (migration.runPart part dropped).1.result = (do
      let planned ← migration.planPart part dropped
      migration.sectionLines planned.1) := by
  unfold runPart
  cases migration.planPart part dropped with
  | error failure => rfl
  | ok planned =>
      simp only [Attempt.ok_bind, Scripting.result_bind, Scripting.result_mapM]
      rfl

section Runs

variable (onPostgreSql : migration.scripter.dialect = .postgreSql)

include onPostgreSql

theorem isIndependent_lines
    (action : MigrationAction) :
    IsIndependent (action.lines migration.scripter).result := by
  rcases migration with ⟨_, _, _, ⟨dialect, options⟩, _⟩
  cases onPostgreSql
  cases action <;>
    simp [MigrationAction.lines, MigrationAction.script, MigrationAction.scriptedPair,
      MigrationAction.scriptedTable, Scripter.guardedObject]

/-- A part ends a run at a dependency exactly when it cannot be planned for one. -/
theorem endsUnresolved_runPart_iff
    {part : Part}
    {dropped : List Value} :
    (migration.runPart part).EndsUnresolved dropped ↔
      ¬ Attempt.IsIndependent (part dropped) := by
  have lines : ∀ sections, IsIndependent (migration.sectionLines sections) := by
    simp [sectionLines, MigrationSection.lines, Scripting.result_mapM,
      isIndependent_lines onPostgreSql]
  rw [Run.endsUnresolved_iff, result_runPart, not_iff_not]
  simp [planPart, lines]

theorem isIndependent_runParts
    {parts : List Part}
    (independent : ∀ part ∈ parts, part.IsIndependent) :
    Run.IsIndependent (Run.sequence (parts.map migration.runPart)) := by
  refine Run.isIndependent_sequence fun run member => ?_
  rcases List.mem_map.mp member with ⟨part, partMember, rfl⟩
  exact fun dropped ends => (endsUnresolved_runPart_iff onPostgreSql).mp ends
    (independent part partMember dropped)

end Runs

/-! ## Lists of tables -/

theorem isIndependent_sortTables_iff
    {tables : List Value}
    (typed : ∀ table ∈ tables, table.isTyped .table = true)
    (distinct : (tables.map Value.fullName).Nodup)
    (dropping : Bool) :
    IsIndependent (Dialect.postgreSql.sortTables dropping (.list tables)) ↔
      ∀ table ∈ tables, ¬ IsLost tables table := by
  have fails : (∃ failure, Dialect.postgreSql.sortTables dropping (.list tables) =
      .error failure) ↔ ∃ table ∈ tables, IsLost tables table :=
    Dialect.sortTables_error_iff typed distinct
  rw [← not_iff_not]
  push Not
  rw [← fails, IsIndependent]
  push Not
  exact exists_congr fun failure =>
    ⟨And.left, fun failed => ⟨failed, Dialect.family_of_sortTables typed distinct failed⟩⟩

section Tables

variable (typed : migration.IsTyped) (onPostgreSql : migration.scripter.dialect = .postgreSql)

include typed onPostgreSql

theorem IsTyped.isIndependent_newTables_iff
    (distinct : ((migration.source.rows "tables").map Value.fullName).Nodup) :
    IsIndependent migration.newTables ↔
      ∀ table ∈ migration.source.rows "tables", ¬ IsLost (migration.source.rows "tables") table := by
  rw [← isIndependent_sortTables_iff (tables_isTyped typed.source) distinct false,
    typed.newTables_eq_filter distinct, onPostgreSql]
  simp

theorem IsTyped.isIndependent_droppedTables_iff
    (distinct : ((migration.target.rows "tables").map Value.fullName).Nodup) :
    IsIndependent migration.droppedTables ↔
      ∀ table ∈ migration.target.rows "tables", ¬ IsLost (migration.target.rows "tables") table := by
  rw [← isIndependent_sortTables_iff (tables_isTyped typed.target) distinct true,
    typed.droppedTables_eq_filter distinct, onPostgreSql]
  simp

end Tables

/-! ## Phases -/

/-- What is dropped before tables: views, triggers, procedures and functions. -/
def moduleDropParts
    (migration : Migration) : List Part := [
  migration.dropPart .views .changeView,
  migration.dropPart .triggers .changeTrigger,
  migration.dropPart .procedures .changeProcedure,
  migration.dropFunctionPart]

private theorem isIndependent_moduleDropParts :
    ∀ part ∈ migration.moduleDropParts, part.IsIndependent := by
  simp [moduleDropParts, Part.IsIndependent, dropPart, dropFunctionPart, Part.ofPairings]

private theorem isIndependent_dropTablePart_iff
    (dropped : List Value) :
    IsIndependent (migration.dropTablePart dropped) ↔ IsIndependent migration.droppedTables := by
  simp [dropTablePart]

private theorem isIndependent_newTablePart_iff
    (dropped : List Value) :
    IsIndependent (migration.newTablePart dropped) ↔ IsIndependent migration.newTables := by
  simp [newTablePart]

private theorem isIndependent_parts
    (onPostgreSql : migration.scripter.dialect = .postgreSql)
    (newTables : IsIndependent migration.newTables)
    {phase : Phase}
    (notDrops : phase ≠ .drops) :
    ∀ part ∈ migration.parts phase, part.IsIndependent := by
  cases phase with
  | drops => exact absurd rfl notDrops
  | types => simp [parts, typeParts, typePart, Part.IsIndependent, Part.ofPairings]
  | tables =>
      simp [parts, tableParts, newTablePart, alterTablePart, alteredForeignKeys, newTables,
        onPostgreSql, Part.IsIndependent]
  | constraints =>
      simp [parts, constraintParts, newKeyPart, newTables, Part.IsIndependent]
  | foreignKeys =>
      simp [parts, foreignKeyParts, newForeignKeyPart, addedForeignKeyPart, addedForeignKeys,
        newTables, onPostgreSql, Part.IsIndependent]
  | programmability =>
      simp [parts, programmabilityParts, programmabilityPart, allTypes, Part.ofPairings,
        Part.IsIndependent]

section RunsOfPhases

variable {phase : Phase} {dropped : List Value}

/-- The heading of a phase ends nothing. -/
private theorem endsUnresolved_runPhase_iff :
    (migration.runPhase phase).EndsUnresolved dropped ↔
      Run.EndsUnresolved (Run.sequence ((migration.parts phase).map migration.runPart)) dropped := by
  have heading : (Run.ofLines (.ok (phaseHeading phase))).Succeeds dropped := ⟨_, rfl⟩
  have never : ¬ (Run.ofLines (.ok (phaseHeading phase))).EndsUnresolved dropped :=
    fun ends => nomatch ends.choose_spec.1
  rw [runPhase, Run.endsUnresolved_sequence_cons_iff, or_iff_right never, and_iff_right heading]
  rfl

variable (onPostgreSql : migration.scripter.dialect = .postgreSql)

include onPostgreSql

/-- The drops end at a dependency where the modules are dropped and the tables have no order. -/
private theorem endsUnresolved_runPhase_drops_iff :
    (migration.runPhase .drops).EndsUnresolved dropped ↔
      (Run.sequence (migration.moduleDropParts.map migration.runPart)).Succeeds dropped ∧
        ¬ IsIndependent migration.droppedTables := by
  have split : migration.parts .drops = migration.moduleDropParts ++
      migration.dropTablePart :: [migration.dropPart .sequences .changeSequence,
        migration.dropPart .dataTypes (.changeType (.list []))] := rfl
  have modules := isIndependent_runParts onPostgreSql migration.isIndependent_moduleDropParts
  have typeDrops : ∀ part ∈ [migration.dropPart .sequences .changeSequence,
      migration.dropPart .dataTypes (.changeType (.list []))], part.IsIndependent := by
    simp [Part.IsIndependent, dropPart, Part.ofPairings]
  have later := isIndependent_runParts onPostgreSql typeDrops
  rw [endsUnresolved_runPhase_iff, split, List.map_append, List.map_cons,
    Run.endsUnresolved_sequence_append_iff, or_iff_right (modules dropped),
    Run.endsUnresolved_sequence_cons_iff, endsUnresolved_runPart_iff onPostgreSql,
    isIndependent_dropTablePart_iff]
  exact and_congr_right fun _ => or_iff_left fun ends => later _ ends.2

/-- The new tables come first in their phase. -/
private theorem endsUnresolved_runPhase_tables
    (unordered : ¬ IsIndependent migration.newTables) :
    (migration.runPhase .tables).EndsUnresolved dropped := by
  rw [endsUnresolved_runPhase_iff]
  refine Run.endsUnresolved_sequence_cons_iff.mpr (Or.inl ?_)
  rwa [endsUnresolved_runPart_iff onPostgreSql, isIndependent_newTablePart_iff]

private theorem isIndependent_runPhase
    (newTables : IsIndependent migration.newTables)
    (notDrops : phase ≠ .drops) :
    (migration.runPhase phase).IsIndependent := by
  intro dropped ends
  exact isIndependent_runParts onPostgreSql
    (isIndependent_parts onPostgreSql newTables notDrops) dropped
    (endsUnresolved_runPhase_iff.mp ends)

end RunsOfPhases

/-! ## Runs of all phases -/

/-- The phases before that of the tables that run. -/
def phasesBeforeTables
    (migration : Migration) : List Phase :=
  [Phase.drops, .types].filter migration.includes

section WholeRuns

variable (typed : migration.IsTyped)
  (onPostgreSql : migration.scripter.dialect = .postgreSql)
  (runsDrops : migration.includes .drops = true) (runsTables : migration.includes .tables = true)

include typed in
private theorem IsTyped.exists_preamble :
    ∃ lines, migration.preamble = .ok lines := by
  rcases Value.exists_dialect typed.target with ⟨dialect, dialectRead, _⟩
  have dialectNamed : ∃ name, dialectValue migration.target = .ok name := by
    rw [dialectValue, dialectRead]
    cases dialect <;> exact ⟨_, rfl⟩
  rcases dialectNamed with ⟨name, dialectOk⟩
  rw [preamble, Value.part_text_of_isTyped typed.source (by decide),
    Value.part_text_of_isTyped typed.target (by decide), dialectOk]
  exact ⟨_, rfl⟩

include onPostgreSql runsDrops in
/-- Of the phases before the tables only the drops end at a dependency. -/
private theorem endsUnresolved_beforeTables_iff :
    Run.EndsUnresolved (Run.sequence (migration.phasesBeforeTables.map migration.runPhase)) [] ↔
      (Run.sequence (migration.moduleDropParts.map migration.runPart)).Succeeds [] ∧
        ¬ IsIndependent migration.droppedTables := by
  have types : Run.IsIndependent
      (Run.sequence (([Phase.types].filter migration.includes).map migration.runPhase)) := by
    refine Run.isIndependent_sequence fun run member => ?_
    rcases List.mem_map.mp member with ⟨phase, phaseMember, rfl⟩
    rw [List.mem_singleton.mp (List.mem_of_mem_filter phaseMember)]
    intro dropped ends
    refine isIndependent_runParts onPostgreSql ?_ dropped (endsUnresolved_runPhase_iff.mp ends)
    simp [parts, typeParts, typePart, Part.IsIndependent, Part.ofPairings]
  rw [phasesBeforeTables, List.filter_cons_of_pos runsDrops, List.map_cons,
    Run.endsUnresolved_sequence_cons_iff, endsUnresolved_runPhase_drops_iff onPostgreSql]
  exact or_iff_left fun ends => types _ ends.2

include typed onPostgreSql runsDrops runsTables in
/-- A run ends at a dependency where the tables of one of its phases have no order. -/
private theorem IsTyped.endsUnresolved_run_iff :
    migration.run.EndsUnresolved [] ↔
      (Run.sequence (migration.moduleDropParts.map migration.runPart)).Succeeds [] ∧
          ¬ IsIndependent migration.droppedTables ∨
        Run.Succeeds (Run.sequence (migration.phasesBeforeTables.map migration.runPhase)) [] ∧
          ¬ IsIndependent migration.newTables := by
  rcases typed.exists_preamble with ⟨opening, preambleOk⟩
  have phases : migration.phases = migration.phasesBeforeTables ++
      Phase.tables :: [Phase.constraints, .foreignKeys, .programmability].filter
        migration.includes := by
    rw [Migration.phases, phasesBeforeTables, ← List.filter_cons_of_pos runsTables,
      ← List.filter_append]
    rfl
  have starts : (Run.ofLines migration.preamble).Succeeds [] := ⟨opening, preambleOk⟩
  have never : ¬ (Run.ofLines migration.preamble).EndsUnresolved [] := by
    rintro ⟨failure, failed, _⟩
    cases preambleOk.symm.trans failed
  rw [run, Run.endsUnresolved_sequence_cons_iff, or_iff_right never, and_iff_right starts, phases,
    List.map_append, List.map_cons, Run.endsUnresolved_sequence_append_iff]
  refine or_congr (endsUnresolved_beforeTables_iff onPostgreSql runsDrops)
    (and_congr_right fun _ => ⟨fun ends newTables => ?_, fun unordered => ?_⟩)
  · rw [← List.map_cons] at ends
    refine Run.isIndependent_sequence (fun run member => ?_) _ ends
    rcases List.mem_map.mp member with ⟨phase, phaseMember, rfl⟩
    refine isIndependent_runPhase onPostgreSql newTables ?_
    rcases List.mem_cons.mp phaseMember with rfl | later
    · decide
    · rintro rfl
      simp at later
  · exact Run.endsUnresolved_sequence_cons_iff.mpr
      (Or.inl (endsUnresolved_runPhase_tables onPostgreSql unordered))

end WholeRuns

end Migration

/-! ## Order of tables -/

namespace MigrationAction

/-- The table that an action creates. -/
def createdTable? : MigrationAction → Option Value
  | createTable table => some table
  | _ => none

/-- The table that an action drops. -/
def droppedTable? : MigrationAction → Option Value
  | dropTable table => some table
  | _ => none

end MigrationAction

/--
Each new table is created once in the phase of the tables, no table before its parent, and each table
that only the target has is dropped once in the phase of the drops, no table after its parent.
-/
structure Migration.FollowsInheritance
    (migration : Migration)
    (plan : MigrationPlan) : Prop where
  creates : ∃ sections, (Phase.tables, sections) ∈ plan ∧
    ∃ created,
      (MigrationSection.actionsOf sections).filterMap MigrationAction.createdTable? = created ∧
        created.Perm ((migration.sourceOnly .tables).map (·.object)) ∧ PutsParentsFirst created
  drops : ∃ sections, (Phase.drops, sections) ∈ plan ∧
    ∃ dropped,
      (MigrationSection.actionsOf sections).filterMap MigrationAction.droppedTable? = dropped ∧
        dropped.Perm ((migration.targetOnly .tables).map (·.object)) ∧ PutsChildrenFirst dropped

namespace Migration

variable {migration : Migration}

section Lists

variable (typed : migration.IsTyped) (onPostgreSql : migration.scripter.dialect = .postgreSql)
  {tables : List Value}

include typed onPostgreSql

/-- New tables come in an order of creation of all tables of the source. -/
theorem IsTyped.putsParentsFirst_newTables
    (distinct : ((migration.source.rows "tables").map Value.fullName).Nodup)
    (found : migration.newTables = .ok tables) :
    PutsParentsFirst tables := by
  rw [typed.newTables_eq_filter distinct, onPostgreSql] at found
  rcases bind_eq_ok_iff.mp found with ⟨sorted, sortedOk, kept⟩
  cases kept
  exact ((Dialect.isCreationOrder_of_sortTables (tables_isTyped typed.source) distinct
    sortedOk).putsParentsFirst distinct).filter _

/-- Dropped tables come in an order of removal of all tables of the target. -/
theorem IsTyped.putsChildrenFirst_droppedTables
    (distinct : ((migration.target.rows "tables").map Value.fullName).Nodup)
    (found : migration.droppedTables = .ok tables) :
    PutsChildrenFirst tables := by
  rw [typed.droppedTables_eq_filter distinct, onPostgreSql] at found
  rcases bind_eq_ok_iff.mp found with ⟨sorted, sortedOk, kept⟩
  cases kept
  have reversed := (Dialect.isCreationOrder_of_sortTables (tables_isTyped typed.target) distinct
    sortedOk).putsParentsFirst distinct
  rw [if_pos rfl] at reversed
  have order := Inheritance.putsChildrenFirst_reverse reversed
  rw [List.reverse_reverse] at order
  exact order.filter _

end Lists

private theorem filterMap_dropForeignKeys
    {told? : MigrationAction → Option Value}
    (silent : ∀ rows, told? (.dropForeignKeys rows) = none)
    (rows : List Value) :
    (actionOn .dropForeignKeys rows).filterMap told? = [] := by
  rw [List.filterMap_eq_nil_iff]
  intro member isMember
  rw [eq_of_mem_actionOn isMember, silent]

theorem createdTables_actionsIn
    (contents : PlanContents) :
    (migration.actionsIn contents .tables).filterMap MigrationAction.createdTable? =
      contents.newTables := by
  have silent : ∀ rows, (actionOn .dropForeignKeys rows).filterMap
      MigrationAction.createdTable? = [] :=
    filterMap_dropForeignKeys fun _ => rfl
  simp only [actionsIn, List.filterMap_append, List.filterMap_map, Function.comp_def, silent,
    MigrationAction.createdTable?, List.filterMap_none, List.filterMap_some, List.append_nil]

theorem droppedTables_actionsIn
    (contents : PlanContents) :
    (migration.actionsIn contents .drops).filterMap MigrationAction.droppedTable? =
      contents.droppedTables := by
  have silent : ∀ rows, (actionOn .dropForeignKeys rows).filterMap
      MigrationAction.droppedTable? = [] :=
    filterMap_dropForeignKeys fun _ => rfl
  simp only [actionsIn, List.filterMap_append, List.filterMap_map, Function.comp_def, silent,
    MigrationAction.droppedTable?, List.filterMap_none, List.filterMap_some, List.append_nil,
    List.nil_append]

end Migration

namespace Generator

variable {generator : Generator}

/-- A migration ends at a dependency where its run does. -/
private theorem generate_unresolved_iff
    (checked : generator.migration.checkDialects = .ok ()) :
    (∃ failure, generator.generate.1.result = .error failure ∧
        failure.family = .unresolvedDependency) ↔
      generator.migration.run.EndsUnresolved [] := by
  rw [generate, checked]
  simp only [Scripting.result_bind, Scripting.result_pure, Generator.forget]
  refine exists_congr fun failure => and_congr_left fun _ => ?_
  cases (generator.migration.run []).1.result with
  | error reason =>
      exact ⟨fun failed => by cases failed; rfl, fun failed => by cases failed; rfl⟩
  | ok lines => exact iff_of_false (fun failed => by cases failed) fun failed => by cases failed

/--
A migration of PostgreSQL follows inheritance in the phases of the drops and of the tables.  It has no
script where some table of the source or of the target is lost, and it ends at the dependency exactly
when a table of the target is lost and the drops of modules can be scripted, or a table of the source
is lost and the phases before that of the tables can be scripted.
-/
theorem follows_inheritance
    (typed : generator.migration.IsTyped)
    (checked : generator.migration.checkDialects = .ok ())
    (onPostgreSql : generator.migration.scripter.dialect = .postgreSql)
    (sourceDistinct : ((generator.migration.source.rows "tables").map Value.fullName).Nodup)
    (targetDistinct : ((generator.migration.target.rows "tables").map Value.fullName).Nodup)
    (runsDrops : generator.migration.includes .drops = true)
    (runsTables : generator.migration.includes .tables = true) :
    (∀ script, generator.generate.1.result = .ok script →
      (∃ plan dropped,
        generator.migration.planPhases generator.migration.phases [] = .ok (plan, dropped) ∧
          generator.migration.Writes plan script ∧ generator.migration.FollowsInheritance plan) ∧
      ∀ database ∈ [generator.migration.source, generator.migration.target],
        ∀ table ∈ database.rows "tables", ¬ IsLost (database.rows "tables") table) ∧
    ((∃ failure, generator.generate.1.result = .error failure ∧
        failure.family = .unresolvedDependency) ↔
      (∃ table ∈ generator.migration.target.rows "tables",
          IsLost (generator.migration.target.rows "tables") table) ∧
        (Migration.Run.sequence
          (generator.migration.moduleDropParts.map generator.migration.runPart)).Succeeds [] ∨
      (∃ table ∈ generator.migration.source.rows "tables",
          IsLost (generator.migration.source.rows "tables") table) ∧
        Migration.Run.Succeeds (Migration.Run.sequence
          (generator.migration.phasesBeforeTables.map generator.migration.runPhase)) []) := by
  have sourceApart : generator.migration.scripter.dialect.TellsTablesApart
      generator.migration.source := by
    rw [onPostgreSql]
    exact sourceDistinct
  have targetApart : generator.migration.scripter.dialect.TellsTablesApart
      generator.migration.target := by
    rw [onPostgreSql]
    exact targetDistinct
  have newTables := typed.isIndependent_newTables_iff onPostgreSql sourceDistinct
  have droppedTables := typed.isIndependent_droppedTables_iff onPostgreSql targetDistinct
  constructor
  · intro script generated
    rcases exists_plan_of_generate generated with ⟨plan, dropped, planned, writes⟩
    rcases typed.exists_contentsIn planned with ⟨contents, collects, phases⟩
    have created := collects.newTables .tables (by decide) runsTables
    have removed := collects.droppedTables
    rw [if_pos runsDrops] at removed
    rcases Migration.exists_sections_of_phases phases runsTables with
      ⟨creating, creatingMember, creatingActions⟩
    rcases Migration.exists_sections_of_phases phases runsDrops with
      ⟨dropping, droppingMember, droppingActions⟩
    refine ⟨⟨plan, dropped, planned, writes, ⟨creating, creatingMember, contents.newTables, ?_,
      typed.newTables_perm checked sourceApart created,
      typed.putsParentsFirst_newTables onPostgreSql sourceDistinct created⟩,
      ⟨dropping, droppingMember, contents.droppedTables, ?_,
        typed.droppedTables_perm checked targetApart removed,
        typed.putsChildrenFirst_droppedTables onPostgreSql targetDistinct removed⟩⟩, ?_⟩
    · rw [creatingActions, Migration.createdTables_actionsIn]
    · rw [droppingActions, Migration.droppedTables_actionsIn]
    · exact List.forall_mem_cons.mpr ⟨newTables.mp (created ▸ Attempt.isIndependent_ok _),
        List.forall_mem_cons.mpr ⟨droppedTables.mp (removed ▸ Attempt.isIndependent_ok _),
          List.forall_mem_nil _⟩⟩
  · rw [generate_unresolved_iff checked,
      typed.endsUnresolved_run_iff onPostgreSql runsDrops runsTables, newTables, droppedTables]
    simp only [not_forall, not_not, exists_prop, and_comm]

/-- A table and its child are new, and another table and its child are no longer there. -/
private def exchangedHeirs : Generator :=
  betweenTables [Inheritance.heir "a" "b", .plainTable "b" [] [] [] []]
    [Inheritance.heir "c" "d", .plainTable "d" [] [] [] []]

/-- The new child is created behind its parent, and the other child is dropped before its parent. -/
theorem follows_inheritance_of_exchangedHeirs :
    exchangedHeirs.migration.IsTyped ∧
      ∃ script plan dropped, exchangedHeirs.generate.1.result = .ok script ∧
        exchangedHeirs.migration.planPhases exchangedHeirs.migration.phases [] =
          .ok (plan, dropped) ∧
        exchangedHeirs.migration.FollowsInheritance plan ∧
        (plan.actions.filterMap MigrationAction.createdTable?).map (·.letters "name") =
          ["b", "a"] ∧
        (plan.actions.filterMap MigrationAction.droppedTable?).map (·.letters "name") =
          ["c", "d"] := by
  have typed : exchangedHeirs.migration.IsTyped :=
    betweenTables_isTyped (Value.isTyped_plainDatabase _ (by decide))
      (Value.isTyped_plainDatabase _ (by decide)) (by decide +kernel)
  have generates : exchangedHeirs.generate.1.result.toOption.isSome = true := by
    decide +kernel
  rcases Attempt.exists_ok_of_isSome generates with ⟨script, generated, _⟩
  rcases ((follows_inheritance typed (checkDialects_of_generate generated) rfl (by decide +kernel)
    (by decide +kernel) rfl rfl).1 script generated).1 with ⟨plan, dropped, planned, _, follows⟩
  have names :
      (exchangedHeirs.migration.planPhases exchangedHeirs.migration.phases []).toOption.map
        (fun planned =>
          ((planned.1.actions.filterMap MigrationAction.createdTable?).map (·.letters "name"),
            (planned.1.actions.filterMap MigrationAction.droppedTable?).map (·.letters "name"))) =
      some (["b", "a"], ["c", "d"]) := by
    decide +kernel
  rw [planned] at names
  rcases Prod.mk.inj (Option.some.inj names) with ⟨createdNames, droppedNames⟩
  exact ⟨typed, script, plan, dropped, generated, planned, follows, createdNames, droppedNames⟩

/-- A database with a stored procedure and a table whose parent is missing. -/
private def orphanedDatabase : Value :=
  .filled .database [
    ("name", .text "d"), ("dialect", .member (.dialect .postgreSql)),
    ("tables", .list [Inheritance.heir "a" "b"]),
    ("stored_procedures", .list [.filled .storedProcedure [("name", .text "p")]])]

/-- The migration in all phases from a database with a procedure and a lost table to none of them. -/
private def clearingOrphan : Generator where
  migration := {
    source := .plainDatabase "s" []
    target := orphanedDatabase
    comparison := (Comparison.between (.plainDatabase "s" []) orphanedDatabase).result.toOption.getD
      []
    scripter := { dialect := .postgreSql }
    includes := fun _ => true }

/--
A table of the target has no parent, but the drop of the stored procedure, which PostgreSQL does not
script, ends the migration before.
-/
theorem fails_before_lost_table :
    clearingOrphan.migration.IsTyped ∧
      ((clearingOrphan.migration.target.rows "tables").map Value.fullName).Nodup ∧
      (∃ table ∈ clearingOrphan.migration.target.rows "tables",
        IsLost (clearingOrphan.migration.target.rows "tables") table) ∧
      clearingOrphan.generate.1.result = .error .noProcedures ∧
      ScriptFailure.noProcedures.family ≠ .unresolvedDependency := by
  have tables : clearingOrphan.migration.target.rows "tables" = [Inheritance.heir "a" "b"] :=
    rfl
  have compares : (Comparison.between (.plainDatabase "s" [])
      orphanedDatabase).result.toOption.isSome = true := by
    decide +kernel
  rcases Attempt.exists_ok_of_isSome compares with ⟨comparison, compared, found⟩
  refine ⟨⟨Value.isTyped_plainDatabase "s" (by decide), by decide +kernel, ?_⟩, by decide +kernel,
    ?_, by decide +kernel, by decide⟩
  · rw [clearingOrphan, found]
    exact compared
  · rw [tables]
    exact ⟨_, List.mem_singleton_self _, _, Relation.ReflTransGen.refl,
      Or.inl ⟨("public", "b"), by decide, by decide⟩⟩

end Generator

end SchemaDelta
