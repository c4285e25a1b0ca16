import SchemaDelta.Proofs.Migration.Contents
import SchemaDelta.Proofs.Migration.Planning
import SchemaDelta.Proofs.Migration.TableLists

/-!
# Deployment of differences

A migration in all phases deals with every pairing that a comparison found once: what only the target
has is dropped in the first phase, what only the source has is created and what differs is altered in
the phase of its kind, and nothing is done about what is identical.  The keys and the foreign keys of
new tables follow in phases of their own.
-/

namespace SchemaDelta

open Attempt (bind_eq_ok_iff)

/-! ## Deeds -/

/-- What a migration does with an object. -/
inductive Deed where
  | drop (kind : ObjectKind) (object : Value)
  | create (kind : ObjectKind) (object : Value)
  | alter (kind : ObjectKind) (source target : Value)
  /-- The keys, check constraints and indexes of a new table. -/
  | addKeys (table : Value)
  /-- The foreign keys of a new table. -/
  | addForeignKeys (table : Value)

namespace Scripter

/-- The scripts of objects of a kind; the types resolve signatures. -/
def scriptKind
    (scripter : Scripter)
    (types : Value) : ObjectKind → Value → Value → Scripting String
  | .dataTypes => scripter.scriptType types
  | .sequences => scripter.scriptSequence
  | .tables => scripter.scriptTable false
  | .views => scripter.scriptView
  | .functions => scripter.scriptFunction types
  | .procedures => scripter.scriptProcedure
  | .triggers => scripter.scriptTrigger

/-- The script of a deed; tables are created without their keys and dropped on their own. -/
def scriptDeed
    (scripter : Scripter)
    (types : Value) : Deed → Script
  | .drop .tables table => scripter.dropTable table false
  | .drop kind object => (scripter.scriptKind types kind .null object).result
  | .create .tables table => scripter.tableDefinition table .null
  | .create kind object => (scripter.scriptKind types kind object .null).result
  | .alter kind source target => (scripter.scriptKind types kind source target).result
  | .addKeys table => scripter.tableKeysAndIndexes table
  | .addForeignKeys table => scripter.tableForeignKeys table

end Scripter

namespace Pairing

/-- The deed that a pairing asks for in the phase of its kind or in the phase of the drops. -/
def deed
    (kind : ObjectKind) : Pairing → Deed
  | onlySource source => .create kind source
  | onlyTarget target => .drop kind target
  | identical source target => .alter kind source target
  | different source target => .alter kind source target

end Pairing

namespace MigrationAction

/-- The deed that an action is; foreign keys are dropped and added beside the deeds. -/
def deed? : MigrationAction → Option Deed
  | changeView pairing => some (pairing.deed .views)
  | changeFunction _ pairing => some (pairing.deed .functions)
  | changeProcedure pairing => some (pairing.deed .procedures)
  | changeTrigger pairing => some (pairing.deed .triggers)
  | changeSequence pairing => some (pairing.deed .sequences)
  | changeType _ pairing => some (pairing.deed .dataTypes)
  | dropForeignKeys _ => none
  | dropTable table => some (.drop .tables table)
  | createTable table => some (.create .tables table)
  | alterTable pairing => some (.alter .tables pairing.source pairing.target)
  | addKeysAndIndexes table => some (.addKeys table)
  | addTableForeignKeys table => some (.addForeignKeys table)
  | addForeignKeys _ => none

/-- The types that an action resolves signatures with. -/
def types : MigrationAction → Value
  | changeFunction types _ => types
  | changeType types _ => types
  | _ => .list []

end MigrationAction

/-! ## Deeds of pairings -/

/-- The phase in which the objects of a kind are created and altered. -/
def ObjectKind.phase : ObjectKind → Phase
  | dataTypes => .types
  | sequences => .types
  | tables => .tables
  | views => .programmability
  | functions => .programmability
  | procedures => .programmability
  | triggers => .programmability

namespace Pairing

/-- The deed that a pairing asks for in a phase. -/
def deedIn?
    (kind : ObjectKind)
    (phase : Phase) : Pairing → Option Deed
  | onlyTarget target => if phase = .drops then some (.drop kind target) else none
  | different source target => if phase = kind.phase then some (.alter kind source target) else none
  | identical _ _ => none
  | onlySource source =>
    if phase = kind.phase then some (.create kind source)
    else if kind = .tables ∧ phase = .constraints ∧ source.hasKeyRows = true then
      some (.addKeys source)
    else if kind = .tables ∧ phase = .foreignKeys ∧ source.hasForeignKeyRows = true then
      some (.addForeignKeys source)
    else none

end Pairing

namespace Migration

variable {migration : Migration} {contents : PlanContents}

/-- The deeds that the pairings of a comparison ask for in a phase. -/
def deedsIn
    (migration : Migration)
    (phase : Phase) : List Deed :=
  ObjectKind.all.flatMap fun kind =>
    (migration.comparison.pairings kind).filterMap (Pairing.deedIn? kind phase)

/-- What pairings with some statuses are asked for. -/
private theorem filterMap_eq_map_pairingsWith
    (migration : Migration)
    {kind : ObjectKind}
    {statuses : List Status}
    {deed? : Pairing → Option Deed}
    (asked : ∀ pairing, deed? pairing =
      if statuses.contains pairing.status then some (pairing.deed kind) else none) :
    (migration.comparison.pairings kind).filterMap deed? =
      (migration.pairingsWith kind statuses).map (Pairing.deed kind) := by
  rw [pairingsWith, ← List.filterMap_eq_map, List.filterMap_filter]
  refine congrArg (List.filterMap · _) (funext fun pairing => ?_)
  rw [asked]
  rfl

private theorem filterMap_deedIn_drops
    (migration : Migration)
    (kind : ObjectKind) :
    (migration.comparison.pairings kind).filterMap (Pairing.deedIn? kind .drops) =
      (migration.targetOnly kind).map (Pairing.deed kind) := by
  apply filterMap_eq_map_pairingsWith
  intro pairing
  cases pairing <;> cases kind <;> rfl

private theorem filterMap_deedIn_own
    (migration : Migration)
    {kind : ObjectKind}
    {phase : Phase}
    (own : kind.phase = phase) :
    (migration.comparison.pairings kind).filterMap (Pairing.deedIn? kind phase) =
      (migration.changed kind).map (Pairing.deed kind) := by
  subst own
  apply filterMap_eq_map_pairingsWith
  intro pairing
  cases pairing <;> cases kind <;> rfl

/-- In phases that are not about a kind its pairings ask for no deed. -/
private theorem filterMap_deedIn_eq_nil
    (migration : Migration)
    {kind : ObjectKind}
    {phase : Phase}
    (other : phase ≠ .drops ∧ phase ≠ kind.phase ∧
      (kind = .tables → phase ≠ .constraints ∧ phase ≠ .foreignKeys)) :
    (migration.comparison.pairings kind).filterMap (Pairing.deedIn? kind phase) = [] := by
  rcases other with ⟨notDrops, notOwn, notTables⟩
  apply List.filterMap_eq_nil_iff.mpr
  intro pairing _
  cases pairing with
  | onlySource source =>
      by_cases isTable : kind = .tables
      · simp [Pairing.deedIn?, notOwn, notTables isTable]
      · simp [Pairing.deedIn?, notOwn, isTable]
  | onlyTarget target => simp [Pairing.deedIn?, notDrops]
  | identical source target => rfl
  | different source target => simp [Pairing.deedIn?, notOwn]

/-- New and differing objects of a kind together are the changed ones. -/
private theorem sourceOnly_append_differing_perm
    (migration : Migration)
    (kind : ObjectKind) :
    (migration.sourceOnly kind ++ migration.differing kind).Perm (migration.changed kind) := by
  have new : migration.sourceOnly kind =
      (migration.changed kind).filter fun pairing => pairing.status == .missingInTarget := by
    rw [changed, pairingsWith, List.filter_filter]
    apply List.filter_congr
    intro pairing _
    cases pairing <;> rfl
  have altered : migration.differing kind =
      (migration.changed kind).filter fun pairing => !(pairing.status == .missingInTarget) := by
    rw [changed, pairingsWith, List.filter_filter]
    apply List.filter_congr
    intro pairing _
    cases pairing <;> rfl
  rw [new, altered]
  exact List.filter_append_perm _ _

/-! ## Deeds of phases -/

private theorem filterMap_deed_actionOn
    {action : List Value → MigrationAction}
    {rows : List Value}
    (noDeed : (action rows).deed? = none) :
    (actionOn action rows).filterMap MigrationAction.deed? = [] := by
  rw [List.filterMap_eq_nil_iff]
  intro member isMember
  rw [eq_of_mem_actionOn isMember, noDeed]

/-- Dropped tables are what pairings ask for. -/
private theorem droppedTables_deeds_perm
    (droppedPerm : contents.droppedTables.Perm ((migration.targetOnly .tables).map (·.object))) :
    (contents.droppedTables.map (Deed.drop .tables)).Perm
      ((migration.targetOnly .tables).map (Pairing.deed .tables)) := by
  refine (droppedPerm.map _).trans (List.Perm.of_eq ?_)
  rw [List.map_map]
  exact List.map_congr_left fun pairing member => by
    rw [eq_onlyTarget_of_mem member]
    rfl

/-- Created tables with altered tables are what pairings ask for. -/
private theorem newTables_deeds_perm
    (newPerm : contents.newTables.Perm ((migration.sourceOnly .tables).map (·.object))) :
    (contents.newTables.map (Deed.create .tables) ++
        (migration.differing .tables).map fun pairing =>
          Deed.alter .tables pairing.source pairing.target).Perm
      ((migration.changed .tables).map (Pairing.deed .tables)) := by
  have created : (contents.newTables.map (Deed.create .tables)).Perm
      ((migration.sourceOnly .tables).map (Pairing.deed .tables)) := by
    refine (newPerm.map _).trans (List.Perm.of_eq ?_)
    rw [List.map_map]
    exact List.map_congr_left fun pairing member => by
      rw [eq_onlySource_of_mem member]
      rfl
  have altered : ((migration.differing .tables).map fun pairing =>
        Deed.alter .tables pairing.source pairing.target) =
      (migration.differing .tables).map (Pairing.deed .tables) := by
    apply List.map_congr_left
    intro pairing member
    have status := (List.mem_filter.mp member).2
    cases pairing with
    | different source target => rfl
    | _ => cases status
  apply (created.append_right _).trans
  rw [altered, ← List.map_append]
  exact (sourceOnly_append_differing_perm migration .tables).map _

/-- What is added to the new tables with some rows is what pairings ask for. -/
private theorem newRows_deeds_perm
    (newPerm : contents.newTables.Perm ((migration.sourceOnly .tables).map (·.object)))
    {phase : Phase}
    {hasRows : Value → Bool}
    {deed : Value → Deed}
    (asked : ∀ pairing : Pairing, pairing.deedIn? .tables phase =
      if pairing.status = .missingInTarget ∧ hasRows pairing.object = true then
        some (deed pairing.object)
      else none) :
    ((contents.newTables.filter hasRows).map deed).Perm
      ((migration.comparison.pairings .tables).filterMap (Pairing.deedIn? .tables phase)) := by
  refine ((newPerm.filter hasRows).map deed).trans (List.Perm.of_eq ?_)
  rw [List.filter_map, List.map_map, sourceOnly, pairingsWith, List.filter_filter,
    ← List.filterMap_eq_map, List.filterMap_filter]
  refine congrArg (List.filterMap · _) (funext fun pairing => ?_)
  rw [asked]
  cases pairing <;> simp [Pairing.status]

private theorem deedIn?_constraints
    (pairing : Pairing) :
    pairing.deedIn? .tables .constraints =
      if pairing.status = .missingInTarget ∧ pairing.object.hasKeyRows = true then
        some (.addKeys pairing.object)
      else none := by
  cases pairing <;> simp [Pairing.deedIn?, Pairing.status, Pairing.object, ObjectKind.phase]

private theorem deedIn?_foreignKeys
    (pairing : Pairing) :
    pairing.deedIn? .tables .foreignKeys =
      if pairing.status = .missingInTarget ∧ pairing.object.hasForeignKeyRows = true then
        some (.addForeignKeys pairing.object)
      else none := by
  cases pairing <;> simp [Pairing.deedIn?, Pairing.status, Pairing.object, ObjectKind.phase]

/-- The deeds in a phase, given what is found for new and dropped tables. -/
private theorem deeds_actionsIn_perm
    (newPerm : contents.newTables.Perm ((migration.sourceOnly .tables).map (·.object)))
    (droppedPerm : contents.droppedTables.Perm ((migration.targetOnly .tables).map (·.object)))
    (phase : Phase) :
    ((migration.actionsIn contents phase).filterMap MigrationAction.deed?).Perm
      (migration.deedsIn phase) := by
  classical
  have noDrops : ∀ rows, (actionOn .dropForeignKeys rows).filterMap MigrationAction.deed? = [] :=
    fun rows => filterMap_deed_actionOn rfl
  have noAdds : ∀ rows, (actionOn .addForeignKeys rows).filterMap MigrationAction.deed? = [] :=
    fun rows => filterMap_deed_actionOn rfl
  -- The kinds stand in other orders on both sides, so every deed is counted.
  simp only [List.perm_iff_count, deedsIn, ObjectKind.all, List.flatMap_cons, List.flatMap_nil]
  intro deed
  cases phase with
  | drops =>
      have dropped := (droppedTables_deeds_perm droppedPerm).count_eq deed
      simp only [actionsIn, List.filterMap_append, List.filterMap_map, Function.comp_def,
        MigrationAction.deed?, List.filterMap_eq_map', noDrops, List.nil_append,
        filterMap_deedIn_drops, List.count_append, List.count_nil]
      omega
  | types =>
      simp (disch := decide) only [actionsIn, List.filterMap_append, List.filterMap_map,
        Function.comp_def, MigrationAction.deed?, List.filterMap_eq_map', filterMap_deedIn_own,
        filterMap_deedIn_eq_nil, List.count_append, List.count_nil, Nat.add_zero]
  | tables =>
      have changed := (newTables_deeds_perm newPerm).count_eq deed
      simp (disch := decide) only [actionsIn, List.filterMap_append, List.filterMap_map,
        Function.comp_def, MigrationAction.deed?, List.filterMap_eq_map', filterMap_deedIn_own,
        filterMap_deedIn_eq_nil, noDrops, List.nil_append, List.count_append,
        List.count_nil] at changed ⊢
      omega
  | constraints =>
      have added := (newRows_deeds_perm newPerm deedIn?_constraints).count_eq deed
      simp (disch := decide) only [actionsIn, List.filterMap_map, Function.comp_def,
        MigrationAction.deed?, List.filterMap_eq_map', filterMap_deedIn_eq_nil, List.count_append,
        List.count_nil]
      omega
  | foreignKeys =>
      have added := (newRows_deeds_perm newPerm deedIn?_foreignKeys).count_eq deed
      simp (disch := decide) only [actionsIn, List.filterMap_append, List.filterMap_map,
        Function.comp_def, MigrationAction.deed?, List.filterMap_eq_map', filterMap_deedIn_eq_nil,
        noAdds, List.append_nil, List.count_append, List.count_nil]
      omega
  | programmability =>
      simp (disch := decide) only [actionsIn, List.filterMap_append, List.filterMap_map,
        Function.comp_def, MigrationAction.deed?, List.filterMap_eq_map', filterMap_deedIn_own,
        filterMap_deedIn_eq_nil, List.count_append, List.count_nil, Nat.add_zero]
      omega

end Migration

/-! ## Repetitions -/

/-- The kind and the object that a deed is about. -/
def Deed.subject : Deed → ObjectKind × Value
  | drop kind object => (kind, object)
  | create kind object => (kind, object)
  | alter kind source _ => (kind, source)
  | addKeys table => (.tables, table)
  | addForeignKeys table => (.tables, table)

namespace Migration

variable {migration : Migration}

private theorem subject_of_deedIn?
    {kind : ObjectKind}
    {phase : Phase}
    {pairing : Pairing}
    {deed : Deed}
    (asked : pairing.deedIn? kind phase = some deed) :
    deed.subject = (kind, pairing.object) := by
  cases pairing with
  | identical source target => cases asked
  | _ =>
      simp only [Pairing.deedIn?] at asked
      grind [Deed.subject, Pairing.object]

/-- No deed is asked for twice in a phase. -/
theorem IsTyped.nodup_deedsIn
    (typed : migration.IsTyped)
    (checked : migration.checkDialects = .ok ())
    (phase : Phase) :
    (migration.deedsIn phase).Nodup := by
  refine List.nodup_flatMap.mpr ⟨fun kind _ => ?_, ?_⟩
  · refine List.pairwise_filterMap.mpr ?_
    refine (List.pairwise_map.mp (typed.nodup_names checked kind)).imp ?_
    rintro left right differ deed ofLeft _ ofRight rfl
    have sameSubject := (subject_of_deedIn? ofLeft).symm.trans (subject_of_deedIn? ofRight)
    exact differ (congrArg migration.scripter.dialect.nameOf (Prod.mk.inj sameSubject).2)
  · have distinct : ObjectKind.all.Nodup := by decide
    refine distinct.imp ?_
    intro kind other differ deed ofKind ofOther
    rcases List.mem_filterMap.mp ofKind with ⟨pairing, _, asked⟩
    rcases List.mem_filterMap.mp ofOther with ⟨otherPairing, _, otherAsked⟩
    have sameSubject := (subject_of_deedIn? asked).symm.trans (subject_of_deedIn? otherAsked)
    exact differ (Prod.mk.inj sameSubject).1

/-- What is asked for is asked for by a pairing about the object. -/
private theorem exists_pairing_of_mem_deedsIn
    {phase : Phase}
    {deed : Deed}
    (asked : deed ∈ migration.deedsIn phase) :
    ∃ pairing ∈ migration.comparison.pairings deed.subject.1, pairing.object = deed.subject.2 := by
  rcases List.mem_flatMap.mp asked with ⟨kind, _, ofKind⟩
  rcases List.mem_filterMap.mp ofKind with ⟨pairing, paired, isDeed⟩
  rw [subject_of_deedIn? isDeed]
  exact ⟨pairing, paired, rfl⟩

private theorem IsTyped.object_isTyped
    (typed : migration.IsTyped)
    {pairing : Pairing}
    (paired : pairing ∈ migration.comparison.pairings .tables) :
    pairing.object.isTyped .table = true := by
  have isOf := typed.isOf_tables paired
  cases pairing with
  | onlySource source => exact tables_isTyped typed.source source isOf
  | onlyTarget target => exact tables_isTyped typed.target target isOf
  | identical source target => exact tables_isTyped typed.source source isOf.1
  | different source target => exact tables_isTyped typed.source source isOf.1

end Migration

/-! ## Scripts -/

namespace MigrationAction

private theorem result_scriptedTable
    {table : Value}
    (typed : table.isTyped .table = true)
    (script : Value → Script) :
    (scriptedTable table script).result = script table := by
  simp only [scriptedTable, Scripter.guardedObject, Scripting.result_bind, Scripting.result_liftM,
    Value.part_text_of_isTyped typed ObjectClass.table_declares_schema,
    Value.part_text_of_isTyped typed ObjectClass.table_declares_name, Attempt.ok_bind,
    Scripting.result_guarded]

/-- An action is scripted as the deed that it is. -/
theorem result_script_of_deed?
    (scripter : Scripter)
    {action : MigrationAction}
    {deed : Deed}
    (isDeed : action.deed? = some deed)
    (tableTyped : deed.subject.1 = .tables → deed.subject.2.isTyped .table = true) :
    (action.script scripter).result = scripter.scriptDeed action.types deed := by
  cases action with
  | dropForeignKeys rows => cases isDeed
  | addForeignKeys rows => cases isDeed
  | dropTable table =>
      cases isDeed
      exact result_scriptedTable (tableTyped rfl) _
  | createTable table =>
      cases isDeed
      exact result_scriptedTable (tableTyped rfl) _
  | addKeysAndIndexes table =>
      cases isDeed
      exact result_scriptedTable (tableTyped rfl) _
  | addTableForeignKeys table =>
      cases isDeed
      exact result_scriptedTable (tableTyped rfl) _
  | alterTable pairing =>
      cases isDeed
      exact Scripting.result_guarded _ _
  | _ =>
      cases isDeed
      rename_i pairing
      cases pairing <;> exact Scripting.result_guarded _ _

end MigrationAction

/-! ## Plans -/

/--
A plan deploys every difference once: in every phase its actions are the deeds that the pairings ask
for and no others, each scripted as such.  Foreign keys are dropped and added beside them only for
dropped and for altered tables.
-/
structure Migration.DeploysOnce
    (migration : Migration)
    (plan : MigrationPlan) : Prop where
  phases : plan.map (·.1) = Phase.all
  deeds : ∀ entry ∈ plan, ((MigrationSection.actionsOf entry.2).filterMap
    MigrationAction.deed?).Perm (migration.deedsIn entry.1)
  distinct : ∀ phase, (migration.deedsIn phase).Nodup
  scripts : ∀ action ∈ plan.actions, ∀ deed, action.deed? = some deed →
    (action.script migration.scripter).result = migration.scripter.scriptDeed action.types deed
  dropped : ∀ rows, .dropForeignKeys rows ∈ plan.actions → ∀ row ∈ rows,
    (∃ table, .onlyTarget table ∈ migration.comparison.pairings .tables ∧
      row ∈ table.linkedRows) ∨
    ∃ source target changes, .different source target ∈ migration.comparison.pairings .tables ∧
      migration.scripter.foreignKeyChanges source target = .ok changes ∧ row ∈ changes.1
  added : ∀ rows, .addForeignKeys rows ∈ plan.actions → ∀ row ∈ rows,
    ∃ source target changes, .different source target ∈ migration.comparison.pairings .tables ∧
      migration.scripter.foreignKeyChanges source target = .ok changes ∧ row ∈ changes.2

namespace Migration

variable {migration : Migration} {contents : PlanContents}

/-- What the changes of altered tables are about is so for a pairing of tables that differ. -/
private theorem IsTyped.exists_different_of_mem_changedRows
    (typed : migration.IsTyped)
    {side : List Value × List Value → List Value}
    {row : Value}
    (member : row ∈ migration.changedRows side) :
    ∃ source target changes, .different source target ∈ migration.comparison.pairings .tables ∧
      migration.scripter.foreignKeyChanges source target = .ok changes ∧ row ∈ side changes := by
  rcases mem_changedRows member with ⟨pairing, differs, rowMember⟩
  have changesOk := typed.foreignKeyChanges_ok differs
  rcases List.mem_filter.mp differs with ⟨paired, status⟩
  cases pairing with
  | different source target => exact ⟨source, target, _, paired, changesOk, rowMember⟩
  | _ => cases status

private theorem rows_of_dropForeignKeys
    {rows : List Value}
    (member : .dropForeignKeys rows ∈ Phase.all.flatMap (migration.actionsIn contents)) :
    rows = contents.droppedRows ∨ rows = contents.alteredRows := by
  have only : ∀ {others : List Value},
      .dropForeignKeys rows ∈ actionOn .dropForeignKeys others → rows = others :=
    fun held => MigrationAction.dropForeignKeys.inj (eq_of_mem_actionOn held)
  have silent : ∀ {others : List Value},
      MigrationAction.dropForeignKeys rows ∉ actionOn .addForeignKeys others :=
    fun held => by cases eq_of_mem_actionOn held
  simp only [Phase.all, List.flatMap_cons, List.flatMap_nil, actionsIn, List.mem_append,
    List.mem_map, silent, reduceCtorEq, and_false, exists_false, false_or, or_false,
    List.not_mem_nil] at member
  exact member.imp only only

private theorem rows_of_addForeignKeys
    {rows : List Value}
    (member : .addForeignKeys rows ∈ Phase.all.flatMap (migration.actionsIn contents)) :
    rows = contents.addedRows := by
  have silent : ∀ {others : List Value},
      MigrationAction.addForeignKeys rows ∉ actionOn .dropForeignKeys others :=
    fun held => by cases eq_of_mem_actionOn held
  simp only [Phase.all, List.flatMap_cons, List.flatMap_nil, actionsIn, List.mem_append,
    List.mem_map, silent, reduceCtorEq, and_false, exists_false, false_or, or_false,
    List.not_mem_nil] at member
  exact MigrationAction.addForeignKeys.inj (eq_of_mem_actionOn member)

private theorem IsTyped.deploysOnce
    (typed : migration.IsTyped)
    (checked : migration.checkDialects = .ok ())
    (collects : migration.Collects contents)
    (newPerm : contents.newTables.Perm ((migration.sourceOnly .tables).map (·.object)))
    (droppedPerm : contents.droppedTables.Perm ((migration.targetOnly .tables).map (·.object)))
    {plan : MigrationPlan}
    (phases : plan.map (fun entry => (entry.1, MigrationSection.actionsOf entry.2)) =
      Phase.all.map fun phase => (phase, migration.actionsIn contents phase)) :
    migration.DeploysOnce plan := by
  have actions := actions_eq_of_phases phases
  have ofPhase : ∀ entry ∈ plan,
      MigrationSection.actionsOf entry.2 = migration.actionsIn contents entry.1 := by
    intro entry member
    have listed : (entry.1, MigrationSection.actionsOf entry.2) ∈
        Phase.all.map fun phase => (phase, migration.actionsIn contents phase) := by
      rw [← phases]
      exact List.mem_map_of_mem member
    rcases List.mem_map.mp listed with ⟨phase, _, equal⟩
    rcases Prod.mk.inj equal with ⟨rfl, same⟩
    exact same.symm
  constructor
  · have names := congrArg (List.map Prod.fst) phases
    rwa [List.map_map, List.map_map] at names
  · intro entry member
    rw [ofPhase entry member]
    exact deeds_actionsIn_perm newPerm droppedPerm entry.1
  · exact typed.nodup_deedsIn checked
  · intro action member deed isDeed
    rw [actions] at member
    rcases List.mem_flatMap.mp member with ⟨phase, _, inPhase⟩
    have asked := (deeds_actionsIn_perm newPerm droppedPerm phase).subset
      (List.mem_filterMap.mpr ⟨action, inPhase, isDeed⟩)
    rcases exists_pairing_of_mem_deedsIn asked with ⟨pairing, paired, sameObject⟩
    refine MigrationAction.result_script_of_deed? _ isDeed fun isTable => ?_
    rw [isTable] at paired
    exact sameObject ▸ typed.object_isTyped paired
  · intro rows member row rowMember
    rw [actions] at member
    rcases rows_of_dropForeignKeys member with rfl | rfl
    · rw [collects.droppedRows] at rowMember
      rcases List.mem_flatMap.mp ((Keyed.firstByKey_sublist _ _).subset rowMember) with
        ⟨table, tableMember, linked⟩
      rcases List.mem_map.mp (droppedPerm.subset tableMember) with ⟨pairing, isOnly, rfl⟩
      refine Or.inl ⟨pairing.object, ?_, linked⟩
      rw [← eq_onlyTarget_of_mem isOnly]
      exact List.mem_of_mem_filter isOnly
    · have altered := collects.alteredRows
      rw [typed.alteredForeignKeys_ok, Except.ok.injEq] at altered
      rw [← altered] at rowMember
      exact Or.inr (typed.exists_different_of_mem_changedRows (List.mem_of_mem_filter rowMember))
  · intro rows member row rowMember
    rw [actions] at member
    have added := collects.addedRows
    rw [typed.addedForeignKeys_ok, Except.ok.injEq] at added
    rw [rows_of_addForeignKeys member, ← added] at rowMember
    exact typed.exists_different_of_mem_changedRows rowMember

end Migration

namespace Generator

variable {generator : Generator} {script : String}

/--
A script of all phases between databases whose tables the dialect tells apart deploys every difference
once.  The new and the dropped tables are those of the pairings that only one side has, each once.
-/
theorem deploys_differences_once
    (typed : generator.migration.IsTyped)
    (sourceApart : generator.migration.scripter.dialect.TellsTablesApart
      generator.migration.source)
    (targetApart : generator.migration.scripter.dialect.TellsTablesApart
      generator.migration.target)
    (allPhases : ∀ phase, generator.migration.includes phase = true)
    (generated : generator.generate.1.result = .ok script) :
    ∃ plan dropped newTables droppedTables,
      generator.migration.planPhases generator.migration.phases [] = .ok (plan, dropped) ∧
      generator.migration.Writes plan script ∧
      generator.migration.DeploysOnce plan ∧
      generator.migration.newTables = .ok newTables ∧
      newTables.Perm ((generator.migration.sourceOnly .tables).map (·.object)) ∧
      generator.migration.droppedTables = .ok droppedTables ∧
      droppedTables.Perm ((generator.migration.targetOnly .tables).map (·.object)) := by
  have checked := checkDialects_of_generate generated
  rcases exists_plan_of_generate generated with ⟨plan, dropped, planned, writes⟩
  have plannedAll := planned
  rw [Migration.phases_eq_all allPhases] at plannedAll
  rcases typed.exists_contents plannedAll with ⟨contents, collects, phases⟩
  have newPerm := typed.newTables_perm checked sourceApart collects.newTables
  have droppedPerm := typed.droppedTables_perm checked targetApart collects.droppedTables
  exact ⟨plan, dropped, contents.newTables, contents.droppedTables, planned, writes,
    typed.deploysOnce checked collects newPerm droppedPerm phases, collects.newTables, newPerm,
    collects.droppedTables, droppedPerm⟩

/-- One table is new with a foreign key, one is dropped, and one has an identifier of another type. -/
private def exchanging : Generator :=
  betweenTables (linkedTables "bigint" "n") (linkedTables "integer" "o")

/-- The old table is dropped, the new one created and the third altered before the foreign key. -/
theorem deploys_differences_once_exchanged :
    exchanging.migration.IsTyped ∧
      Dialect.postgreSql.TellsTablesApart exchanging.migration.source ∧
      Dialect.postgreSql.TellsTablesApart exchanging.migration.target ∧
      ∃ script plan dropped, exchanging.generate.1.result = .ok script ∧
        exchanging.migration.planPhases exchanging.migration.phases [] = .ok (plan, dropped) ∧
        exchanging.migration.DeploysOnce plan ∧
        (plan.map fun entry =>
          ((MigrationSection.actionsOf entry.2).filterMap MigrationAction.deed?).length) =
          [1, 0, 2, 0, 1, 0] := by
  have typed : exchanging.migration.IsTyped :=
    betweenTables_isTyped (linkedTables_isTyped ..) (linkedTables_isTyped ..) (by decide +kernel)
  have sourceApart : Dialect.postgreSql.TellsTablesApart exchanging.migration.source := by
    decide
  have targetApart : Dialect.postgreSql.TellsTablesApart exchanging.migration.target := by
    decide
  have generates : exchanging.generate.1.result.toOption.isSome = true := by
    decide +kernel
  rcases Attempt.exists_ok_of_isSome generates with ⟨script, generated, _⟩
  rcases deploys_differences_once typed sourceApart targetApart (fun _ => rfl) generated with
    ⟨plan, dropped, newTables, droppedTables, planned, _, deploys, _⟩
  have lengths :
      (exchanging.migration.planPhases exchanging.migration.phases []).toOption.map
          (fun planned => planned.1.map fun entry =>
            ((MigrationSection.actionsOf entry.2).filterMap MigrationAction.deed?).length) =
        some [1, 0, 2, 0, 1, 0] := by
    decide +kernel
  rw [planned] at lengths
  exact ⟨typed, sourceApart, targetApart, script, plan, dropped, generated, planned, deploys,
    Option.some.inj lengths⟩

end Generator

end SchemaDelta
