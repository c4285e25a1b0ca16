import SchemaDelta.Proofs.Migration.ForeignKeyRows
import SchemaDelta.Proofs.Migration.ObjectStatement
import SchemaDelta.Proofs.Migration.Parts
import SchemaDelta.Proofs.Value.Filled

/-!
# Contents of plans

A plan of all phases is made of the pairings that the comparison found and of tables and rows that
are collected on the way.  Given these, the actions of every phase can be written down.
-/

namespace SchemaDelta

open Attempt (bind_eq_ok_iff)

/-- The tables and the foreign key rows that a plan is about. -/
structure PlanContents where
  droppedTables : List Value
  /-- The foreign keys that are dropped with tables. -/
  droppedRows : List Value
  newTables : List Value
  /-- The foreign keys that altered tables need out of the way. -/
  alteredRows : List Value
  /-- The foreign keys that altered tables get. -/
  addedRows : List Value

namespace Migration

open MigrationAction (aboutForeignKeys)
open MigrationSection (actionsOf)

variable {migration : Migration}

/-- The one action about some rows, if there are any. -/
def actionOn
    (action : List Value → MigrationAction)
    (rows : List Value) : List MigrationAction :=
  if rows.isEmpty then [] else [action rows]

theorem flatMap_actionOn
    {α : Type}
    {action : List Value → MigrationAction}
    {told : MigrationAction → List α}
    (none : told (action []) = [])
    (rows : List Value) :
    (actionOn action rows).flatMap told = told (action rows) := by
  cases rows with
  | nil => exact none.symm
  | cons row rows => exact List.flatMap_singleton told (action (row :: rows))

theorem eq_of_mem_actionOn
    {action : List Value → MigrationAction}
    {rows : List Value}
    {member : MigrationAction}
    (isMember : member ∈ actionOn action rows) :
    member = action rows := by
  cases rows with
  | nil => cases isMember
  | cons row rows => exact List.mem_singleton.mp isMember

theorem mem_actionOn
    (action : List Value → MigrationAction)
    {rows : List Value}
    {row : Value}
    (member : row ∈ rows) :
    action rows ∈ actionOn action rows := by
  rw [actionOn, if_neg (by simp [List.ne_nil_of_mem member])]
  exact List.mem_singleton_self _

/-- The identities of rows as values. -/
def identities
    (migration : Migration)
    (rows : List Value) : List Value :=
  rows.map fun row => Dialect.identityKey (migration.scripter.dialect.identityOf row)

/-- The contents are what the parts of a migration collect. -/
structure Collects
    (migration : Migration)
    (contents : PlanContents) : Prop where
  droppedTables : migration.droppedTables = .ok contents.droppedTables
  droppedRows : contents.droppedRows =
    migration.scripter.dialect.uniqueRows (contents.droppedTables.flatMap Value.linkedRows)
  newTables : migration.newTables = .ok contents.newTables
  alteredRows :
    migration.alteredForeignKeys (migration.identities contents.droppedRows) =
      .ok contents.alteredRows
  addedRows : migration.addedForeignKeys = .ok contents.addedRows

/--
The contents are what the parts of the phases that run collect.  Where no tables are dropped, no
foreign keys are dropped with them.
-/
structure CollectsIn
    (migration : Migration)
    (runs : Phase → Bool)
    (contents : PlanContents) : Prop where
  droppedTables :
    (if runs .drops then migration.droppedTables else .ok []) = .ok contents.droppedTables
  droppedRows : contents.droppedRows =
    migration.scripter.dialect.uniqueRows (contents.droppedTables.flatMap Value.linkedRows)
  newTables : ∀ phase ∈ [Phase.tables, .constraints, .foreignKeys], runs phase = true →
    migration.newTables = .ok contents.newTables
  alteredRows :
    migration.alteredForeignKeys (migration.identities contents.droppedRows) =
      .ok contents.alteredRows
  addedRows : migration.addedForeignKeys = .ok contents.addedRows

theorem Collects.inAll
    {migration : Migration}
    {contents : PlanContents}
    (collects : migration.Collects contents) :
    migration.CollectsIn (fun _ => true) contents where
  droppedTables := collects.droppedTables
  droppedRows := collects.droppedRows
  newTables _ _ _ := collects.newTables
  alteredRows := collects.alteredRows
  addedRows := collects.addedRows

/-- The types of the source and of the target, which resolve the signatures of functions. -/
def typesOf
    (databases : List Value) : Value :=
  .list (databases.flatMap fun database => database.rows "data_types")

/-- The actions of a phase. -/
def actionsIn
    (migration : Migration)
    (contents : PlanContents) : Phase → List MigrationAction
  | .drops =>
    (migration.targetOnly .views).map .changeView ++
      (migration.targetOnly .triggers).map .changeTrigger ++
      (migration.targetOnly .procedures).map .changeProcedure ++
      (migration.targetOnly .functions).map (.changeFunction (typesOf [migration.target])) ++
      (actionOn .dropForeignKeys contents.droppedRows ++
        contents.droppedTables.map .dropTable) ++
      (migration.targetOnly .sequences).map .changeSequence ++
      (migration.targetOnly .dataTypes).map (.changeType (.list []))
  | .types =>
    (migration.changed .dataTypes).map (.changeType (typesOf [migration.source])) ++
      (migration.changed .sequences).map .changeSequence
  | .tables =>
    contents.newTables.map .createTable ++
      (actionOn .dropForeignKeys contents.alteredRows ++
        (migration.differing .tables).map .alterTable)
  | .constraints => (contents.newTables.filter Value.hasKeyRows).map .addKeysAndIndexes
  | .foreignKeys =>
    (contents.newTables.filter Value.hasForeignKeyRows).map .addTableForeignKeys ++
      actionOn .addForeignKeys contents.addedRows
  | .programmability =>
    (migration.changed .functions).map
        (.changeFunction (typesOf [migration.source, migration.target])) ++
      (migration.changed .procedures).map .changeProcedure ++
      (migration.changed .triggers).map .changeTrigger ++
      (migration.changed .views).map .changeView

/-! ## Parts -/

private theorem part_types
    {database : Value}
    (typed : database.isTyped .database = true) :
    database.part "data_types" = .ok (.list (database.rows "data_types")) :=
  Value.part_rows_of_isTyped typed ObjectClass.database_declares_data_types

theorem IsTyped.allTypes_ok
    (typed : migration.IsTyped) :
    migration.allTypes = .ok (typesOf [migration.source, migration.target]) := by
  rw [allTypes, part_types typed.source, Attempt.ok_bind, part_types typed.target]
  simp [typesOf, Value.append]

private theorem IsTyped.yieldsQuietly_dropFunctionPart
    (typed : migration.IsTyped) :
    migration.dropFunctionPart.YieldsQuietly
      ((migration.targetOnly .functions).map (.changeFunction (typesOf [migration.target]))) := by
  have quiet : (migration.dropPart .functions
      (.changeFunction (typesOf [migration.target]))).YieldsQuietly _ :=
    yieldsQuietly_ofPairings fun _ => rfl
  refine ⟨fun dropped => ?_, quiet.2⟩
  rw [dropFunctionPart, part_types typed.target, Attempt.ok_bind,
    show Value.list (migration.target.rows "data_types") = typesOf [migration.target] by
      simp [typesOf]]
  exact quiet.1 dropped

private theorem IsTyped.yieldsQuietly_typePart
    (typed : migration.IsTyped) :
    migration.typePart.YieldsQuietly
      ((migration.changed .dataTypes).map (.changeType (typesOf [migration.source]))) := by
  have quiet : (Part.ofPairings "Creating/modifying" "user defined types"
      (migration.changed .dataTypes) (.changeType (typesOf [migration.source]))).YieldsQuietly _ :=
    yieldsQuietly_ofPairings fun _ => rfl
  refine ⟨fun dropped => ?_, quiet.2⟩
  rw [typePart, part_types typed.source, Attempt.ok_bind,
    show Value.list (migration.source.rows "data_types") = typesOf [migration.source] by
      simp [typesOf]]
  exact quiet.1 dropped

/-- Tables are dropped after the foreign keys that are linked to them. -/
private theorem IsTyped.actionsOf_dropTablePart
    (typed : migration.IsTyped)
    {dropped : List Value}
    {sections : List MigrationSection}
    (planned : migration.dropTablePart dropped = .ok sections) :
    ∃ tables, migration.droppedTables = .ok tables ∧
      actionsOf sections = actionOn .dropForeignKeys
          (migration.scripter.dialect.uniqueRows (tables.flatMap Value.linkedRows)) ++
        tables.map .dropTable := by
  rcases bind_eq_ok_iff.mp planned with ⟨tables, tablesOk, rowsRun⟩
  have tablesTyped : ∀ table ∈ tables, table.isTyped .table = true :=
    fun table member => tables_isTyped typed.target table
      ((typed.droppedTables_subperm tablesOk).subset member)
  rw [foreignKeysOf_ok tablesTyped, Attempt.ok_bind] at rowsRun
  rcases bind_eq_ok_iff.mp rowsRun with ⟨dropping, droppingOk, equal⟩
  cases equal
  refine ⟨tables, tablesOk, ?_⟩
  rw [MigrationSection.actionsOf_append, MigrationSection.actionsOf_ofItems,
    MigrationSection.actionsOf_ofForeignKeys droppingOk]
  rfl

/-- New tables are created, and nothing else is done in their part. -/
private theorem yieldsQuietly_newTablePart
    {tables : List Value}
    (tablesOk : migration.newTables = .ok tables) :
    migration.newTablePart.YieldsQuietly (tables.map .createTable) := by
  constructor
  · intro dropped
    rw [newTablePart, tablesOk]
    exact Attempt.ensures_pure (MigrationSection.actionsOf_ofItems _ _ tables _)
  · exact droppedForeignKeys_map (fun _ => rfl) _

/-- Tables are altered after the foreign keys that are in their way. -/
theorem actionsOf_alterTablePart
    {dropped : List Value}
    {sections : List MigrationSection}
    (planned : migration.alterTablePart dropped = .ok sections) :
    ∃ rows, migration.alteredForeignKeys dropped = .ok rows ∧
      actionsOf sections = actionOn .dropForeignKeys rows ++
        (migration.differing .tables).map .alterTable := by
  rcases bind_eq_ok_iff.mp planned with ⟨rows, rowsOk, droppingRun⟩
  rcases bind_eq_ok_iff.mp droppingRun with ⟨dropping, droppingOk, equal⟩
  cases equal
  refine ⟨rows, rowsOk, ?_⟩
  rw [MigrationSection.actionsOf_append, MigrationSection.actionsOf_ofItems,
    MigrationSection.actionsOf_ofForeignKeys droppingOk]
  rfl

/-- New tables that have keys get them all. -/
private theorem IsTyped.yieldsQuietly_newKeyPart
    (typed : migration.IsTyped)
    {tables : List Value}
    (tablesOk : migration.newTables = .ok tables) :
    migration.newKeyPart.YieldsQuietly
      ((tables.filter Value.hasKeyRows).map .addKeysAndIndexes) := by
  have filtered : tables.filterM Scripter.hasKeys = .ok (tables.filter Value.hasKeyRows) :=
    Attempt.filterM_ok fun table member => Scripter.hasKeys_ok (tables_isTyped typed.source table
      ((typed.newTables_subperm tablesOk).subset member))
  constructor
  · intro dropped
    rw [newKeyPart, tablesOk, Attempt.ok_bind, filtered]
    exact Attempt.ensures_pure (MigrationSection.actionsOf_ofItems _ _ _ _)
  · exact droppedForeignKeys_map (fun _ => rfl) _

/-- New tables that have foreign keys get them all. -/
private theorem IsTyped.yieldsQuietly_newForeignKeyPart
    (typed : migration.IsTyped)
    {tables : List Value}
    (tablesOk : migration.newTables = .ok tables) :
    migration.newForeignKeyPart.YieldsQuietly
      ((tables.filter Value.hasForeignKeyRows).map .addTableForeignKeys) := by
  have filtered :
      (tables.filterM fun table => do return (← table.part "foreign_keys").isTruthy) =
        .ok (tables.filter Value.hasForeignKeyRows) :=
    Attempt.filterM_ok fun table member => Scripter.hasForeignKeys_ok (tables_isTyped
      typed.source table ((typed.newTables_subperm tablesOk).subset member))
  constructor
  · intro dropped
    rw [newForeignKeyPart, tablesOk, Attempt.ok_bind, filtered]
    exact Attempt.ensures_pure (MigrationSection.actionsOf_ofItems _ _ _ _)
  · exact droppedForeignKeys_map (fun _ => rfl) _

/-- Altered tables get what their changes add. -/
private theorem actionsOf_addedForeignKeyPart
    {dropped : List Value}
    {sections : List MigrationSection}
    (planned : migration.addedForeignKeyPart dropped = .ok sections) :
    ∃ rows, migration.addedForeignKeys = .ok rows ∧
      actionsOf sections = actionOn .addForeignKeys rows := by
  rcases bind_eq_ok_iff.mp planned with ⟨rows, rowsOk, addingOk⟩
  exact ⟨rows, rowsOk, MigrationSection.actionsOf_ofForeignKeys addingOk⟩

/-! ## Phases -/

/-- The entry of a phase in a plan; a phase that does not run has none and drops nothing. -/
private def Enters
    (migration : Migration)
    (runs : Phase → Bool)
    (phase : Phase)
    (dropped : List Value)
    (entries : MigrationPlan)
    (after : List Value) : Prop :=
  if runs phase then
    ∃ sections, migration.planParts (migration.parts phase) dropped = .ok (sections, after) ∧
      entries = [(phase, sections)]
  else entries = [] ∧ after = dropped

private theorem planPhases_filter_cons_ok
    {runs : Phase → Bool}
    {phase : Phase}
    {phases : List Phase}
    {dropped final : List Value}
    {plan : MigrationPlan}
    (planned : migration.planPhases ((phase :: phases).filter runs) dropped = .ok (plan, final)) :
    ∃ entries after rest, migration.Enters runs phase dropped entries after ∧
      migration.planPhases (phases.filter runs) after = .ok (rest, final) ∧
        plan = entries ++ rest := by
  rw [List.filter_cons] at planned
  unfold Enters
  split at planned
  · rename_i included
    rcases bind_eq_ok_iff.mp planned with ⟨⟨sections, after⟩, sectionsOk, restRun⟩
    rcases bind_eq_ok_iff.mp restRun with ⟨⟨rest, _⟩, restOk, equal⟩
    cases equal
    rw [included]
    exact ⟨[(phase, sections)], after, rest, ⟨sections, sectionsOk, rfl⟩, restOk, rfl⟩
  · rename_i excluded
    rw [Bool.not_eq_true] at excluded
    rw [excluded]
    exact ⟨[], dropped, plan, ⟨rfl, rfl⟩, planned, rfl⟩

/-- The entries of a phase have the actions of some contents, if the phase runs. -/
private def EntersWith
    (migration : Migration)
    (runs : Phase → Bool)
    (phase : Phase)
    (contents : PlanContents)
    (entries : MigrationPlan) : Prop :=
  entries.map (fun entry => (entry.1, actionsOf entry.2)) =
    ([phase].filter runs).map fun phase => (phase, migration.actionsIn contents phase)

private theorem entersWith_of_excluded
    {runs : Phase → Bool}
    {phase : Phase}
    (excluded : runs phase = false)
    (contents : PlanContents) :
    migration.EntersWith runs phase contents [] := by
  rw [EntersWith, List.filter_cons_of_neg (by simp [excluded])]
  rfl

private theorem entersWith_of_included
    {runs : Phase → Bool}
    {phase : Phase}
    (included : runs phase = true)
    {contents : PlanContents}
    {sections : List MigrationSection}
    (actions : actionsOf sections = migration.actionsIn contents phase) :
    migration.EntersWith runs phase contents [(phase, sections)] := by
  rw [EntersWith, List.filter_cons_of_pos included, List.map_singleton, actions]
  rfl

private theorem droppedForeignKeys_droppingTables
    (rows tables : List Value) :
    (actionOn .dropForeignKeys rows ++ tables.map MigrationAction.dropTable).flatMap
      MigrationAction.droppedForeignKeys = rows := by
  rw [List.flatMap_append, flatMap_actionOn rfl, droppedForeignKeys_map fun _ => rfl,
    List.append_nil]
  rfl

/-- The drops tell the later phases which foreign keys they have dropped. -/
private theorem IsTyped.plan_drops
    (typed : migration.IsTyped)
    {sections : List MigrationSection}
    {final : List Value}
    (planned : migration.planParts (migration.parts .drops) [] = .ok (sections, final)) :
    ∃ tables rows, migration.droppedTables = .ok tables ∧
      rows = migration.scripter.dialect.uniqueRows (tables.flatMap Value.linkedRows) ∧
      final = migration.identities rows ∧
      ∀ contents : PlanContents, contents.droppedTables = tables → contents.droppedRows = rows →
        actionsOf sections = migration.actionsIn contents .drops := by
  have modules : List.Forall₂ Part.YieldsQuietly
      [migration.dropPart .views .changeView, migration.dropPart .triggers .changeTrigger,
        migration.dropPart .procedures .changeProcedure, migration.dropFunctionPart] _ :=
    .cons (yieldsQuietly_ofPairings fun _ => rfl) (.cons (yieldsQuietly_ofPairings fun _ => rfl)
      (.cons (yieldsQuietly_ofPairings fun _ => rfl)
        (.cons typed.yieldsQuietly_dropFunctionPart .nil)))
  have types : List.Forall₂ Part.YieldsQuietly
      [migration.dropPart .sequences .changeSequence,
        migration.dropPart .dataTypes (.changeType (.list []))] _ :=
    .cons (yieldsQuietly_ofPairings fun _ => rfl) (.cons (yieldsQuietly_ofPairings fun _ => rfl)
      .nil)
  rcases planParts_append_of_yieldsQuietly modules planned with ⟨fromTables, tablesPlanned, actions⟩
  rcases planParts_cons_ok tablesPlanned with
    ⟨dropping, keyed, fromTypes, droppingOk, keyedOk, typesPlanned, tableActions⟩
  rcases planParts_of_yieldsQuietly types typesPlanned with ⟨rfl, typeActions⟩
  rcases typed.actionsOf_dropTablePart droppingOk with ⟨tables, tablesOk, droppingActions⟩
  have tablesTyped : ∀ table ∈ tables, table.isTyped .table = true :=
    fun table member => tables_isTyped typed.target table
      ((typed.droppedTables_subperm tablesOk).subset member)
  rw [droppingActions, droppedForeignKeys_droppingTables,
    Dialect.identified_ok _ (uniqueRows_isTyped tablesTyped)] at keyedOk
  cases keyedOk
  refine ⟨tables, _, tablesOk, rfl, List.map_map, ?_⟩
  rintro contents rfl equalRows
  rw [actions, tableActions, droppingActions, typeActions, actionsIn, equalRows]
  simp only [List.flatten_cons, List.flatten_nil, List.append_nil, List.append_assoc]

private theorem IsTyped.plan_types
    (typed : migration.IsTyped)
    {dropped final : List Value}
    {sections : List MigrationSection}
    (planned : migration.planParts (migration.parts .types) dropped = .ok (sections, final)) :
    final = dropped ∧ ∀ contents, actionsOf sections = migration.actionsIn contents .types := by
  have types : List.Forall₂ Part.YieldsQuietly (migration.parts .types) _ :=
    .cons typed.yieldsQuietly_typePart (.cons (yieldsQuietly_ofPairings fun _ => rfl) .nil)
  rcases planParts_of_yieldsQuietly types planned with ⟨rfl, actions⟩
  exact ⟨rfl, fun contents => by
    simp only [actions, actionsIn, List.flatten_cons, List.flatten_nil, List.append_nil]⟩

/-- Altered tables are planned with the foreign keys that were dropped with tables. -/
theorem plan_tables
    {dropped final : List Value}
    {sections : List MigrationSection}
    (planned : migration.planParts (migration.parts .tables) dropped = .ok (sections, final)) :
    ∃ tables rows, migration.newTables = .ok tables ∧
      migration.alteredForeignKeys dropped = .ok rows ∧
      ∀ contents : PlanContents, contents.newTables = tables → contents.alteredRows = rows →
        actionsOf sections = migration.actionsIn contents .tables := by
  rcases planParts_cons_ok planned with ⟨creating, _, _, creatingOk, _, _, _⟩
  rcases bind_eq_ok_iff.mp creatingOk with ⟨tables, tablesOk, _⟩
  have creation : List.Forall₂ Part.YieldsQuietly [migration.newTablePart] _ :=
    .cons (yieldsQuietly_newTablePart tablesOk) .nil
  rcases planParts_append_of_yieldsQuietly creation planned with
    ⟨fromAltered, alteredPlanned, actions⟩
  rcases planParts_cons_ok alteredPlanned with
    ⟨altering, _, none, alteringOk, _, nonePlanned, alteredActions⟩
  cases nonePlanned
  rcases actionsOf_alterTablePart alteringOk with ⟨rows, rowsOk, alteringActions⟩
  refine ⟨tables, rows, tablesOk, rowsOk, ?_⟩
  rintro contents rfl rfl
  rw [actions, alteredActions, alteringActions, actionsIn]
  simp only [actionsOf, List.flatMap_nil, List.flatten_cons, List.flatten_nil, List.append_nil]

private theorem IsTyped.plan_constraints
    (typed : migration.IsTyped)
    {dropped final : List Value}
    {sections : List MigrationSection}
    (planned : migration.planParts (migration.parts .constraints) dropped = .ok (sections, final))
    (contents : PlanContents)
    (tablesOk : migration.newTables = .ok contents.newTables) :
    final = dropped ∧ actionsOf sections = migration.actionsIn contents .constraints := by
  have keys : List.Forall₂ Part.YieldsQuietly (migration.parts .constraints) _ :=
    .cons (typed.yieldsQuietly_newKeyPart tablesOk) .nil
  rcases planParts_of_yieldsQuietly keys planned with ⟨rfl, actions⟩
  exact ⟨rfl, by simp only [actions, actionsIn, List.flatten_cons, List.flatten_nil,
    List.append_nil]⟩

private theorem IsTyped.plan_foreignKeyPhase
    (typed : migration.IsTyped)
    {dropped final : List Value}
    {sections : List MigrationSection}
    (planned : migration.planParts (migration.parts .foreignKeys) dropped = .ok (sections, final))
    {tables : List Value}
    (tablesOk : migration.newTables = .ok tables) :
    ∃ rows, migration.addedForeignKeys = .ok rows ∧
      ∀ contents : PlanContents, contents.newTables = tables → contents.addedRows = rows →
        actionsOf sections = migration.actionsIn contents .foreignKeys := by
  have creation : List.Forall₂ Part.YieldsQuietly [migration.newForeignKeyPart] _ :=
    .cons (typed.yieldsQuietly_newForeignKeyPart tablesOk) .nil
  rcases planParts_append_of_yieldsQuietly creation planned with
    ⟨fromAdded, addedPlanned, actions⟩
  rcases planParts_cons_ok addedPlanned with
    ⟨adding, _, none, addingOk, _, nonePlanned, addedActions⟩
  cases nonePlanned
  rcases actionsOf_addedForeignKeyPart addingOk with ⟨rows, rowsOk, addingActions⟩
  refine ⟨rows, rowsOk, ?_⟩
  rintro contents rfl rfl
  rw [actions, addedActions, addingActions, actionsIn]
  simp only [actionsOf, List.flatMap_nil, List.flatten_cons, List.flatten_nil, List.append_nil]

private theorem IsTyped.plan_programmability
    (typed : migration.IsTyped)
    {dropped final : List Value}
    {sections : List MigrationSection}
    (planned :
      migration.planParts (migration.parts .programmability) dropped = .ok (sections, final))
    (contents : PlanContents) :
    actionsOf sections = migration.actionsIn contents .programmability := by
  have types := typed.allTypes_ok
  have modules : List.Forall₂ Part.YieldsQuietly (migration.parts .programmability) _ :=
    .cons (yieldsQuietly_programmabilityPart .functions (fun _ _ => rfl) types)
      (.cons (yieldsQuietly_programmabilityPart .procedures (fun _ _ => rfl) types)
        (.cons (yieldsQuietly_programmabilityPart .triggers (fun _ _ => rfl) types)
          (.cons (yieldsQuietly_programmabilityPart .views (fun _ _ => rfl) types) .nil)))
  rw [(planParts_of_yieldsQuietly modules planned).2, actionsIn]
  simp only [List.flatten_cons, List.flatten_nil, List.append_nil, List.append_assoc]

theorem phases_eq_all
    (allPhases : ∀ phase, migration.includes phase = true) :
    migration.phases = Phase.all :=
  List.filter_eq_self.mpr fun phase _ => allPhases phase

section Entries

variable {runs : Phase → Bool} {dropped after : List Value} {entries : MigrationPlan}

private theorem IsTyped.enters_drops
    (typed : migration.IsTyped)
    (enters : migration.Enters runs .drops [] entries after) :
    ∃ tables, (if runs .drops then migration.droppedTables else .ok []) = .ok tables ∧
      after = migration.identities
        (migration.scripter.dialect.uniqueRows (tables.flatMap Value.linkedRows)) ∧
      ∀ contents : PlanContents, contents.droppedTables = tables →
        contents.droppedRows =
            migration.scripter.dialect.uniqueRows (tables.flatMap Value.linkedRows) →
          migration.EntersWith runs .drops contents entries := by
  unfold Enters at enters
  split at enters
  · rename_i included
    rcases enters with ⟨sections, planned, rfl⟩
    rcases typed.plan_drops planned with ⟨tables, _, tablesOk, rfl, rfl, actions⟩
    rw [if_pos included]
    exact ⟨tables, tablesOk, rfl, fun contents sameTables sameRows =>
      entersWith_of_included included (actions contents sameTables sameRows)⟩
  · rename_i excluded
    rw [Bool.not_eq_true] at excluded
    rcases enters with ⟨rfl, rfl⟩
    rw [if_neg (by simp [excluded])]
    exact ⟨[], rfl, rfl, fun contents _ _ => entersWith_of_excluded excluded contents⟩

private theorem IsTyped.enters_types
    (typed : migration.IsTyped)
    (enters : migration.Enters runs .types dropped entries after) :
    after = dropped ∧ ∀ contents, migration.EntersWith runs .types contents entries := by
  unfold Enters at enters
  split at enters
  · rename_i included
    rcases enters with ⟨sections, planned, rfl⟩
    rcases typed.plan_types planned with ⟨rfl, actions⟩
    exact ⟨rfl, fun contents => entersWith_of_included included (actions contents)⟩
  · rename_i excluded
    rcases enters with ⟨rfl, rfl⟩
    exact ⟨rfl, entersWith_of_excluded (Bool.not_eq_true _ ▸ excluded)⟩

/-- The phases about new tables know them. -/
private theorem exists_newTables_of_enters
    {phase : Phase}
    (aboutTables : phase ∈ [Phase.tables, .constraints, .foreignKeys])
    (included : runs phase = true)
    (enters : migration.Enters runs phase dropped entries after) :
    ∃ tables, migration.newTables = .ok tables := by
  rw [Enters, if_pos included] at enters
  rcases enters with ⟨sections, planned, _⟩
  have first : ∃ part parts, migration.parts phase = part :: parts ∧
      ∀ own, part dropped = .ok own → ∃ tables, migration.newTables = .ok tables := by
    simp only [List.mem_cons, List.not_mem_nil, or_false] at aboutTables
    rcases aboutTables with rfl | rfl | rfl <;>
      exact ⟨_, _, rfl, fun own ownOk => (bind_eq_ok_iff.mp ownOk).imp fun tables held => held.1⟩
  rcases first with ⟨part, parts, listed, tablesOk⟩
  rw [listed] at planned
  rcases planParts_cons_ok planned with ⟨own, _, _, ownOk, _⟩
  exact tablesOk own ownOk

/-- The actions of a phase are those of some contents once they are so where it runs. -/
private theorem entersWith_of_enters
    {phase : Phase}
    {contents : PlanContents}
    (enters : migration.Enters runs phase dropped entries after)
    (actions : runs phase = true → ∀ sections : List MigrationSection,
      migration.planParts (migration.parts phase) dropped = .ok (sections, after) →
        actionsOf sections = migration.actionsIn contents phase) :
    migration.EntersWith runs phase contents entries := by
  unfold Enters at enters
  split at enters
  · rename_i included
    rcases enters with ⟨sections, planned, rfl⟩
    exact entersWith_of_included included (actions included sections planned)
  · rename_i excluded
    rcases enters with ⟨rfl, rfl⟩
    exact entersWith_of_excluded (Bool.not_eq_true _ ▸ excluded) contents

private theorem enters_tables
    {contents : PlanContents}
    (collects : migration.CollectsIn runs contents)
    (enters : migration.Enters runs .tables (migration.identities contents.droppedRows) entries
      after) :
    migration.EntersWith runs .tables contents entries := by
  refine entersWith_of_enters enters fun included sections planned => ?_
  rcases plan_tables planned with ⟨tables, rows, tablesOk, rowsOk, actions⟩
  rw [collects.newTables .tables (by decide) included] at tablesOk
  rw [collects.alteredRows] at rowsOk
  exact actions contents (Except.ok.inj tablesOk) (Except.ok.inj rowsOk)

private theorem IsTyped.enters_constraints
    (typed : migration.IsTyped)
    {contents : PlanContents}
    (collects : migration.CollectsIn runs contents)
    (enters : migration.Enters runs .constraints dropped entries after) :
    migration.EntersWith runs .constraints contents entries := by
  refine entersWith_of_enters enters fun included sections planned => ?_
  exact (typed.plan_constraints planned contents
    (collects.newTables .constraints (by decide) included)).2

private theorem IsTyped.enters_foreignKeys
    (typed : migration.IsTyped)
    {contents : PlanContents}
    (collects : migration.CollectsIn runs contents)
    (enters : migration.Enters runs .foreignKeys dropped entries after) :
    migration.EntersWith runs .foreignKeys contents entries := by
  refine entersWith_of_enters enters fun included sections planned => ?_
  have tablesOk := collects.newTables .foreignKeys (by decide) included
  rcases typed.plan_foreignKeyPhase planned tablesOk with ⟨rows, rowsOk, actions⟩
  rw [collects.addedRows] at rowsOk
  exact actions contents rfl (Except.ok.inj rowsOk)

private theorem IsTyped.enters_programmability
    (typed : migration.IsTyped)
    (contents : PlanContents)
    (enters : migration.Enters runs .programmability dropped entries after) :
    migration.EntersWith runs .programmability contents entries :=
  entersWith_of_enters enters fun _ _ planned => typed.plan_programmability planned contents

/-- Dropped tables and what is found beside them are contents, where new tables are known. -/
private theorem IsTyped.exists_collectsIn
    (typed : migration.IsTyped)
    {tables : List Value}
    (droppedTables : (if runs .drops then migration.droppedTables else .ok []) = .ok tables)
    (known : ∀ phase ∈ [Phase.tables, .constraints, .foreignKeys], runs phase = true →
      ∃ newTables, migration.newTables = .ok newTables) :
    ∃ contents, migration.CollectsIn runs contents ∧ contents.droppedTables = tables ∧
      contents.droppedRows =
        migration.scripter.dialect.uniqueRows (tables.flatMap Value.linkedRows) := by
  have altered := typed.alteredForeignKeys_ok (migration.identities
    (migration.scripter.dialect.uniqueRows (tables.flatMap Value.linkedRows)))
  refine ⟨⟨tables, _, migration.newTables.toOption.getD [], _, _⟩,
    ⟨droppedTables, rfl, fun phase aboutTables included => ?_, altered, typed.addedForeignKeys_ok⟩,
    rfl, rfl⟩
  rcases known phase aboutTables included with ⟨newTables, found⟩
  rw [found]
  rfl

end Entries

/-- The phases that run, one after the other. -/
private theorem filter_allPhases
    (runs : Phase → Bool) :
    Phase.all.filter runs =
      [Phase.drops].filter runs ++ ([Phase.types].filter runs ++ ([Phase.tables].filter runs ++
        ([Phase.constraints].filter runs ++ ([Phase.foreignKeys].filter runs ++
          [Phase.programmability].filter runs)))) := by
  rw [← List.filter_append, ← List.filter_append, ← List.filter_append, ← List.filter_append,
    ← List.filter_append]
  rfl

/-- The plan of the phases of a typed migration that run has the actions of its contents. -/
theorem IsTyped.exists_contentsIn
    (typed : migration.IsTyped)
    {runs : Phase → Bool}
    {plan : MigrationPlan}
    {final : List Value}
    (planned : migration.planPhases (Phase.all.filter runs) [] = .ok (plan, final)) :
    ∃ contents, migration.CollectsIn runs contents ∧
      plan.map (fun entry => (entry.1, actionsOf entry.2)) =
        (Phase.all.filter runs).map fun phase => (phase, migration.actionsIn contents phase) := by
  rw [Phase.all] at planned
  rcases planPhases_filter_cons_ok planned with ⟨drops, _, _, entersDrops, fromTypes, rfl⟩
  rcases planPhases_filter_cons_ok fromTypes with ⟨types, _, _, entersTypes, fromTables, rfl⟩
  rcases planPhases_filter_cons_ok fromTables with ⟨tables, _, _, entersTables, fromKeys, rfl⟩
  rcases planPhases_filter_cons_ok fromKeys with
    ⟨keys, _, _, entersKeys, fromForeignKeys, rfl⟩
  rcases planPhases_filter_cons_ok fromForeignKeys with
    ⟨foreignKeys, _, _, entersForeignKeys, fromModules, rfl⟩
  rcases planPhases_filter_cons_ok fromModules with ⟨modules, _, _, entersModules, none, rfl⟩
  cases none
  rcases typed.enters_drops entersDrops with ⟨droppedTables, droppedTablesOk, rfl, dropActions⟩
  rcases typed.enters_types entersTypes with ⟨rfl, typeActions⟩
  have known : ∀ phase ∈ [Phase.tables, .constraints, .foreignKeys], runs phase = true →
      ∃ newTables, migration.newTables = .ok newTables := by
    intro phase aboutTables included
    have listed := aboutTables
    simp only [List.mem_cons, List.not_mem_nil, or_false] at listed
    rcases listed with rfl | rfl | rfl
    · exact exists_newTables_of_enters aboutTables included entersTables
    · exact exists_newTables_of_enters aboutTables included entersKeys
    · exact exists_newTables_of_enters aboutTables included entersForeignKeys
  rcases typed.exists_collectsIn droppedTablesOk known with
    ⟨contents, collects, sameTables, sameRows⟩
  rw [← sameRows] at entersTables
  have dropsEntered := dropActions contents sameTables sameRows
  have typesEntered := typeActions contents
  have tablesEntered := enters_tables collects entersTables
  have keysEntered := typed.enters_constraints collects entersKeys
  have foreignKeysEntered := typed.enters_foreignKeys collects entersForeignKeys
  have modulesEntered := typed.enters_programmability contents entersModules
  unfold EntersWith at dropsEntered typesEntered tablesEntered
  unfold EntersWith at keysEntered foreignKeysEntered modulesEntered
  refine ⟨contents, collects, ?_⟩
  rw [filter_allPhases]
  simp only [List.map_append, dropsEntered, typesEntered, tablesEntered, keysEntered,
    foreignKeysEntered, modulesEntered, List.append_nil]

/-- The plan of all phases of a typed migration has the actions of its contents. -/
theorem IsTyped.exists_contents
    (typed : migration.IsTyped)
    {plan : MigrationPlan}
    {final : List Value}
    (planned : migration.planPhases Phase.all [] = .ok (plan, final)) :
    ∃ contents, migration.Collects contents ∧
      plan.map (fun entry => (entry.1, actionsOf entry.2)) =
        Phase.all.map fun phase => (phase, migration.actionsIn contents phase) := by
  have every : Phase.all.filter (fun _ => true) = Phase.all := List.filter_true _
  rw [← every] at planned
  rcases typed.exists_contentsIn planned with ⟨contents, collects, phases⟩
  rw [every] at phases
  exact ⟨contents, ⟨collects.droppedTables, collects.droppedRows,
    collects.newTables .tables (by decide) rfl, collects.alteredRows, collects.addedRows⟩, phases⟩

/-- The sections of a phase that runs are in the plan. -/
theorem exists_sections_of_phases
    {contents : PlanContents}
    {plan : MigrationPlan}
    (planned : plan.map (fun entry => (entry.1, actionsOf entry.2)) =
      migration.phases.map fun phase => (phase, migration.actionsIn contents phase))
    {phase : Phase}
    (runs : migration.includes phase = true) :
    ∃ sections, (phase, sections) ∈ plan ∧
      actionsOf sections = migration.actionsIn contents phase := by
  have known : phase ∈ migration.phases :=
    List.mem_filter.mpr ⟨by cases phase <;> decide, runs⟩
  have listed : (phase, migration.actionsIn contents phase) ∈
      plan.map fun entry => (entry.1, actionsOf entry.2) := by
    rw [planned]
    exact List.mem_map_of_mem known
  rcases List.mem_map.mp listed with ⟨⟨_, sections⟩, member, equal⟩
  rcases Prod.mk.inj equal with ⟨rfl, actions⟩
  exact ⟨sections, member, actions⟩

/-- All actions of a plan, given the actions of its phases. -/
theorem actions_eq_of_phases
    {plan : MigrationPlan}
    {contents : PlanContents}
    {phases : List Phase}
    (planned : plan.map (fun entry => (entry.1, actionsOf entry.2)) =
      phases.map fun phase => (phase, migration.actionsIn contents phase)) :
    plan.actions = phases.flatMap (migration.actionsIn contents) := by
  have perEntry : plan.actions =
      (plan.map fun entry => (entry.1, actionsOf entry.2)).flatMap (·.2) := by
    rw [List.flatMap_map]
    rfl
  rw [perEntry, planned, List.flatMap_map]

/-! ## Actions about foreign keys -/

private theorem filter_actionOn
    (test : MigrationAction → Bool)
    (action : List Value → MigrationAction)
    (passes : ∀ rows, test (action rows) = true)
    (rows : List Value) :
    (actionOn action rows).filter test = actionOn action rows := by
  apply List.filter_eq_self.mpr
  intro member isMember
  rw [eq_of_mem_actionOn isMember]
  exact passes rows

/-- The actions about foreign keys in the order of the phases. -/
def foreignKeyActions
    (contents : PlanContents) : List MigrationAction :=
  actionOn .dropForeignKeys contents.droppedRows ++
    actionOn .dropForeignKeys contents.alteredRows ++
    (contents.newTables.filter Value.hasForeignKeyRows).map .addTableForeignKeys ++
    actionOn .addForeignKeys contents.addedRows

/-- All actions about foreign keys of a migration in all phases. -/
theorem aboutForeignKeys_actionsIn
    (contents : PlanContents) :
    aboutForeignKeys (Phase.all.flatMap (migration.actionsIn contents)) =
      foreignKeyActions contents := by
  have drops := filter_actionOn MigrationAction.isAboutForeignKeys .dropForeignKeys fun _ => rfl
  have adds := filter_actionOn MigrationAction.isAboutForeignKeys .addForeignKeys fun _ => rfl
  simp only [Phase.all, List.flatMap_cons, List.flatMap_nil, actionsIn, aboutForeignKeys,
    List.filter_append, List.filter_map, Function.comp_def, drops, adds,
    MigrationAction.isAboutForeignKeys, List.filter_false, List.filter_true, List.map_nil,
    foreignKeyActions, List.nil_append, List.append_nil, List.append_assoc]

/-! ## Foreign keys of altered tables -/

section Moves

variable {runs : Phase → Bool} {contents : PlanContents} {pairing : Pairing} {row : Value}

theorem mem_flatMap_actionsIn
    {phase : Phase}
    (included : runs phase = true)
    {action : MigrationAction}
    (member : action ∈ migration.actionsIn contents phase) :
    action ∈ (Phase.all.filter runs).flatMap (migration.actionsIn contents) := by
  have known : phase ∈ Phase.all := by
    cases phase <;> decide
  exact List.mem_flatMap.mpr ⟨phase, List.mem_filter.mpr ⟨known, included⟩, member⟩

/-- Foreign keys are dropped with tables only where tables are dropped. -/
theorem CollectsIn.includes_drops
    (collects : migration.CollectsIn runs contents)
    (member : row ∈ contents.droppedRows) :
    runs .drops = true := by
  by_contra excluded
  have none := collects.droppedTables
  rw [if_neg excluded, Except.ok.injEq] at none
  rw [collects.droppedRows, ← none] at member
  cases member

theorem exists_phase_of_mem
    {action : MigrationAction}
    (member : action ∈ (Phase.all.filter runs).flatMap (migration.actionsIn contents)) :
    ∃ phase, runs phase = true ∧ action ∈ migration.actionsIn contents phase := by
  rcases List.mem_flatMap.mp member with ⟨phase, listed, inPhase⟩
  exact ⟨phase, (List.mem_filter.mp listed).2, inPhase⟩

/-- No action about rows is another action. -/
theorem not_mem_actionOn
    {action : List Value → MigrationAction}
    {other : MigrationAction}
    (differs : ∀ rows, other ≠ action rows) :
    other ∉ actionOn action rows :=
  fun held => differs rows (eq_of_mem_actionOn held)

/-- Foreign keys are dropped on their own with tables or for altered tables. -/
theorem eq_of_mem_dropForeignKeys
    {rows : List Value}
    (member : .dropForeignKeys rows ∈
      (Phase.all.filter runs).flatMap (migration.actionsIn contents)) :
    runs .drops = true ∧ rows = contents.droppedRows ∨
      runs .tables = true ∧ rows = contents.alteredRows := by
  have sameRows : ∀ {others : List Value},
      .dropForeignKeys rows ∈ actionOn .dropForeignKeys others → rows = others :=
    fun held => MigrationAction.dropForeignKeys.inj (eq_of_mem_actionOn held)
  have silent : ∀ {others : List Value},
      .dropForeignKeys rows ∉ actionOn .addForeignKeys others :=
    not_mem_actionOn fun _ => nofun
  rcases exists_phase_of_mem member with ⟨phase, included, inPhase⟩
  cases phase with
  | drops =>
      simp only [actionsIn, List.mem_append, List.mem_map, reduceCtorEq, and_false, exists_false,
        or_false, false_or] at inPhase
      exact Or.inl ⟨included, sameRows inPhase⟩
  | tables =>
      simp only [actionsIn, List.mem_append, List.mem_map, reduceCtorEq, and_false, exists_false,
        or_false, false_or] at inPhase
      exact Or.inr ⟨included, sameRows inPhase⟩
  | _ => simp [actionsIn, silent] at inPhase

/-- The rows of the foreign keys that a migration drops on their own are typed. -/
theorem IsTyped.isTyped_of_mem_dropForeignKeys
    (typed : migration.IsTyped)
    (collects : migration.CollectsIn runs contents)
    {rows : List Value}
    (listed : .dropForeignKeys rows ∈
      (Phase.all.filter runs).flatMap (migration.actionsIn contents)) :
    ∀ row ∈ rows, row.isTyped .foreignKey = true := by
  intro row member
  rcases eq_of_mem_dropForeignKeys listed with ⟨_, rfl⟩ | ⟨_, rfl⟩
  · have tablesOk := collects.droppedTables
    rw [if_pos (collects.includes_drops member)] at tablesOk
    rw [collects.droppedRows] at member
    exact uniqueRows_isTyped (fun table dropped => tables_isTyped typed.target table
      ((typed.droppedTables_subperm tablesOk).subset dropped)) row member
  · exact (typed.alteredForeignKeys_areLinked collects.alteredRows member).1

/-- What altered tables drop is dropped with tables or for them. -/
theorem IsTyped.exists_dropForeignKeys
    (typed : migration.IsTyped)
    (collects : migration.CollectsIn runs contents)
    (tables : runs .tables = true)
    (member : pairing ∈ migration.differing .tables)
    (rowMember : row ∈ (migration.changesOf pairing).1) :
    ∃ rows, .dropForeignKeys rows ∈ (Phase.all.filter runs).flatMap (migration.actionsIn contents) ∧
      ∃ dropped ∈ rows, migration.scripter.dialect.identityOf dropped =
        migration.scripter.dialect.identityOf row := by
  rcases exists_mem_changedRows (·.1) member rowMember with ⟨changed, changedMember, same⟩
  have altered := collects.alteredRows
  rw [typed.alteredForeignKeys_ok, Except.ok.injEq] at altered
  cases before : (migration.identities contents.droppedRows).contains
      (Dialect.identityKey (migration.scripter.dialect.identityOf changed)) with
  | true =>
      rw [identities, List.contains_eq_any_beq, List.any_map, List.any_eq_true] at before
      rcases before with ⟨dropped, droppedMember, equal⟩
      rw [Function.comp_apply, Dialect.identityKey_beq, beq_iff_eq] at equal
      refine ⟨contents.droppedRows,
        mem_flatMap_actionsIn (collects.includes_drops droppedMember) ?_, dropped, droppedMember,
        equal.symm.trans same⟩
      simp [actionsIn, mem_actionOn .dropForeignKeys droppedMember]
  | false =>
      have kept : changed ∈ contents.alteredRows := by
        rw [← altered]
        exact List.mem_filter.mpr ⟨changedMember, by simp [before]⟩
      refine ⟨contents.alteredRows, mem_flatMap_actionsIn tables ?_, changed, kept, same⟩
      simp [actionsIn, mem_actionOn .dropForeignKeys kept]

/-- What altered tables add is added. -/
theorem IsTyped.exists_addForeignKeys
    (typed : migration.IsTyped)
    (collects : migration.CollectsIn runs contents)
    (foreignKeys : runs .foreignKeys = true)
    (member : pairing ∈ migration.differing .tables)
    (rowMember : row ∈ (migration.changesOf pairing).2) :
    ∃ rows, .addForeignKeys rows ∈ (Phase.all.filter runs).flatMap (migration.actionsIn contents) ∧
      ∃ added ∈ rows, migration.scripter.dialect.identityOf added =
        migration.scripter.dialect.identityOf row := by
  rcases exists_mem_changedRows (·.2) member rowMember with ⟨changed, changedMember, same⟩
  have added := collects.addedRows
  rw [typed.addedForeignKeys_ok, Except.ok.injEq] at added
  rw [added] at changedMember
  refine ⟨contents.addedRows, mem_flatMap_actionsIn foreignKeys ?_, changed, changedMember, same⟩
  simp [actionsIn, mem_actionOn .addForeignKeys changedMember]

end Moves

end Migration

/-! ## Migrations of plain databases -/

namespace Generator

/-- The foreign key of a table on the identifier of another. -/
def keyOf
    (owner : String) : Value :=
  .plainForeignKey owner "fk" "t_id" "t" "id" .noAction

/-- A table with an identifier of a type, and a table with a foreign key on the identifier. -/
def linkedTables
    (dataType owner : String) : List Value := [
  .plainTable "t" [.plainColumn "id" dataType 1] [.plainIndex "t" "pk" "id" true] []
    [keyOf owner],
  .plainTable owner [.plainColumn "t_id" "integer" 1] [] [keyOf owner] []]

/-- The migration in all phases between two databases of PostgreSQL. -/
def between
    (source target : Value) : Generator where
  migration := {
    source, target
    comparison := (Comparison.between source target).result.toOption.getD []
    scripter := { dialect := .postgreSql }
    includes := fun _ => true }

theorem between_isTyped
    {source target : Value}
    (sourceTyped : source.isTyped .database = true)
    (targetTyped : target.isTyped .database = true)
    (compares : (Comparison.between source target).result.toOption.isSome = true) :
    (between source target).migration.IsTyped where
  source := sourceTyped
  target := targetTyped
  compared := by
    rcases Attempt.exists_ok_of_isSome compares with ⟨comparison, compared, found⟩
    rw [between, found]
    exact compared

/-- The migration in all phases between two databases that have tables only. -/
def betweenTables
    (source target : List Value) : Generator where
  migration := {
    source := .plainDatabase "s" source
    target := .plainDatabase "d" target
    comparison := (Comparison.between (.plainDatabase "s" source)
      (.plainDatabase "d" target)).result.toOption.getD []
    scripter := { dialect := .postgreSql }
    includes := fun _ => true }

theorem betweenTables_isTyped
    {source target : List Value}
    (sourceTyped : (Value.plainDatabase "s" source).isTyped .database = true)
    (targetTyped : (Value.plainDatabase "d" target).isTyped .database = true)
    (compares : (Comparison.between (.plainDatabase "s" source)
      (.plainDatabase "d" target)).result.toOption.isSome = true) :
    (betweenTables source target).migration.IsTyped :=
  between_isTyped sourceTyped targetTyped compares

theorem linkedTables_isTyped
    (name dataType owner : String) :
    (Value.plainDatabase name (linkedTables dataType owner)).isTyped .database = true := by
  have none : ∀ {kind : ObjectClass}, ∀ row ∈ ([] : List Value), row.isTyped kind = true :=
    fun _ => List.not_mem_nil.elim
  have keyTyped : ∀ row ∈ [keyOf owner], row.isTyped .foreignKey = true := by
    intro row member
    rw [List.mem_singleton.mp member]
    exact Value.isTyped_plainForeignKey owner "fk" "t_id" "t" "id" .noAction
  apply Value.isTyped_plainDatabase
  intro table member
  rcases List.mem_cons.mp member with rfl | later
  · apply Value.isTyped_plainTable "t" _ _ none keyTyped
    · intro column columnMember
      rw [List.mem_singleton.mp columnMember]
      exact Value.isTyped_plainColumn "id" dataType 1
    · intro row rowMember
      rw [List.mem_singleton.mp rowMember]
      exact Value.isTyped_plainIndex "t" "pk" "id" true
  · rw [List.mem_singleton.mp later]
    apply Value.isTyped_plainTable owner _ none keyTyped none
    intro column columnMember
    rw [List.mem_singleton.mp columnMember]
    exact Value.isTyped_plainColumn "t_id" "integer" 1

end Generator

end SchemaDelta
