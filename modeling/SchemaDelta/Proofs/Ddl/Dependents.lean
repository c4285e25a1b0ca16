import SchemaDelta.Proofs.Ddl.Alteration
import SchemaDelta.Proofs.Ddl.Convergence
import SchemaDelta.Proofs.Ddl.InboundForeignKeys

/-!
# What depends on a column

Before a column is dropped or altered, the keys, indexes and foreign keys on it are dropped, and so
are the foreign keys of other tables that reference a key or index that goes.  The statements come in
an order in which nothing is dropped that something else still needs, and nothing is added before
what it needs.
-/

namespace SchemaDelta

open Attempt (bind_eq_ok_iff)

/-- A dialect tells the keys, the indexes and the foreign keys of a table apart. -/
structure Dialect.TellsKeysApart
    (dialect : Dialect)
    (table : Value) : Prop where
  primaryKeys : dialect.TellsApart table.primaryRows
  indexes : dialect.TellsApart table.secondaryRows
  foreignKeys : dialect.TellsApart (table.rows "foreign_keys")

/-- A row is on a column. -/
def Dialect.IsOnColumn
    (dialect : Dialect)
    (column row : Value) : Prop :=
  dialect.foldedPart "column_name" row = dialect.columnKey column

/-! ## Dropped rows -/

namespace TableChanges

/-- The columns of the target that are dropped or altered. -/
def touchedColumns
    (changes : TableChanges) : List Value :=
  changes.droppedColumns ++ changes.alteredColumns.map (·.2)

/-- Whatever depends on what is dropped or altered is dropped, too. -/
structure DropsDependents
    (changes : TableChanges)
    (dialect : Dialect)
    (target : Value) : Prop where
  primaryKeys : ∀ column ∈ changes.touchedColumns, ∀ row ∈ target.primaryRows,
    dialect.IsOnColumn column row → row ∈ changes.dropPrimaryKeys
  indexes : ∀ column ∈ changes.touchedColumns, ∀ row ∈ target.secondaryRows,
    dialect.IsOnColumn column row → row ∈ changes.dropIndexes
  foreignKeys : ∀ column ∈ changes.touchedColumns, ∀ row ∈ target.rows "foreign_keys",
    dialect.IsOnColumn column row → ∃ dropped ∈ changes.dropForeignKeys,
      dialect.foreignKeyOf dropped = dialect.foreignKeyOf (target.onTable row)
  inbound : ∀ row ∈ target.rows "referencing_foreign_keys",
    dialect.ReferencesOneOf (changes.dropPrimaryKeys ++ changes.dropIndexes) row →
      ∃ dropped ∈ changes.dropForeignKeys, dialect.foreignKeyOf dropped = dialect.foreignKeyOf row

variable {dialect : Dialect} {source target : Value} {byPosition scripted : List Value}

/-- A group with a row on a touched column is dropped. -/
private theorem mem_droppedGroups_of_touched
    (kind : ObjectClass)
    (rowKind : kind.isRow = true)
    {rows others : List Value}
    (rowsTyped : ∀ row ∈ rows, row.isTyped kind = true)
    (othersTyped : ∀ row ∈ others, row.isTyped kind = true)
    (apart : dialect.TellsApart rows)
    {touched : List String}
    {row : Value}
    (member : row ∈ rows)
    (isTouched : dialect.foldedPart "column_name" row ∈ touched) :
    row ∈ (dialect.droppedGroups touched others rows).flatten := by
  have grouped := Value.exists_mem_rowGroups member
  have inGroup : row ∈ Value.namedRows rows (row.letters "name") :=
    Value.mem_namedRows.mpr ⟨member, rfl⟩
  have covered : dialect.covers touched (Value.namedRows rows (row.letters "name")) = true :=
    List.any_eq_true.mpr ⟨row, inGroup, List.contains_iff_mem.mpr isTouched⟩
  refine List.mem_flatten.mpr ⟨_, ?_, inGroup⟩
  refine (Dialect.mem_droppedGroups_iff ?_ ?_).mpr
    ⟨_, (Dialect.mem_groupMap_iff apart).mpr grouped, fun _ => covered⟩
  · exact fun other held => Value.isRow_of_isTyped (othersTyped other held) rowKind
  · exact fun other held => Value.isRow_of_isTyped (rowsTyped other held) rowKind

/-- The name of a touched column is among the touched names. -/
private theorem columnKey_mem_touchedNames
    {column : Value}
    (member : column ∈
      (planned dialect source target byPosition scripted).touchedColumns) :
    dialect.columnKey column ∈ touchedNames dialect (dialect.unmatched source byPosition)
      (scripted.filterMap (dialect.alteredBy? target)) := by
  rw [touchedNames, List.map_append, List.map_map, List.mem_append]
  rcases List.mem_append.mp member with dropped | altered
  · exact Or.inl (List.mem_map_of_mem dropped)
  · rcases List.mem_map.mp altered with ⟨pair, pairMember, rfl⟩
    rcases List.mem_filterMap.mp pairMember with ⟨held, _, isAltered⟩
    rcases eq_of_alteredBy?_eq_some dialect isAltered with ⟨rfl, found, _⟩
    rw [(dialect.mem_of_lookup_columnMap found).2]
    exact Or.inr (List.mem_map_of_mem pairMember)

/-- Of rows that are dropped each foreign key is kept. -/
theorem exists_mem_uniqueRows
    {rows : List Value}
    {row : Value}
    (member : row ∈ rows) :
    ∃ dropped ∈ dialect.uniqueRows rows, dialect.foreignKeyOf dropped = dialect.foreignKeyOf row := by
  rcases Keyed.exists_mem_firstByKey dialect.identityOf member with ⟨first, firstMember, same⟩
  exact ⟨first, firstMember, (Dialect.identityOf_eq_iff.mp same).1⟩

theorem planned_dropsDependents
    (sourceTyped : source.isTyped .table = true)
    (targetTyped : target.isTyped .table = true)
    (apart : dialect.TellsKeysApart target) :
    (planned dialect source target byPosition scripted).DropsDependents dialect target where
  primaryKeys := by
    intro column member row rowMember isOn
    exact mem_droppedGroups_of_touched .index (by decide)
      (fun _ held => Value.primaryRow_isTyped targetTyped held)
      (fun _ held => Value.primaryRow_isTyped sourceTyped held) apart.primaryKeys rowMember
      (isOn ▸ columnKey_mem_touchedNames member)
  indexes := by
    intro column member row rowMember isOn
    exact mem_droppedGroups_of_touched .index (by decide)
      (fun _ held => Value.secondaryRow_isTyped targetTyped held)
      (fun _ held => Value.secondaryRow_isTyped sourceTyped held) apart.indexes rowMember
      (isOn ▸ columnKey_mem_touchedNames member)
  foreignKeys := by
    intro column member row rowMember isOn
    have dropped := mem_droppedGroups_of_touched .foreignKey (by decide)
      (fun _ held => Value.foreignKey_isTyped targetTyped held)
      (fun _ held => Value.foreignKey_isTyped sourceTyped held) apart.foreignKeys rowMember
      (isOn ▸ columnKey_mem_touchedNames member)
    exact exists_mem_uniqueRows (List.mem_append_left _ (List.mem_map_of_mem dropped))
  inbound := by
    intro row member references
    exact exists_mem_uniqueRows (List.mem_append_right _
      (mem_inboundRows_iff.mpr ⟨member, row, member, rfl, references⟩))

end TableChanges

/-! ## Order of statements -/

/--
When a step comes in the alteration of a table: foreign keys are dropped before other keys, these
before columns change, and what is added comes behind in the reverse order.
-/
def AlterStep.stage : AlterStep → Nat
  | inheritance => 0
  | dropForeignKeys _ => 1
  | dropIndexes _ => 2
  | dropChecks _ => 2
  | dropPrimaryKeys _ => 2
  | dropColumn _ => 3
  | addColumn _ => 3
  | alterColumn _ _ => 3
  | addPrimaryKeys _ => 4
  | addChecks _ => 4
  | createIndexes _ => 4
  | addForeignKeys _ => 5

namespace TableChanges

/-- All steps of the alteration of a table. -/
def steps
    (changes : TableChanges)
    (inheritance : List AlterStep)
    (includeForeignKeys : Bool) : List AlterStep :=
  inheritance ++ changes.keyDrops includeForeignKeys ++
    (changes.columnSteps ++ changes.keyAdditions includeForeignKeys)

/-- All of some steps are at one stage. -/
private def AreAt
    (stage : Nat)
    (steps : List AlterStep) : Prop :=
  ∀ step ∈ steps, step.stage = stage

private theorem areAt_onRows
    {step : List Value → AlterStep}
    {stage : Nat}
    (atStage : ∀ rows, (step rows).stage = stage)
    (rows : List Value) :
    AreAt stage (AlterStep.onRows step rows) := by
  cases rows with
  | nil => exact fun _ => List.not_mem_nil.elim
  | cons row rows =>
      intro only member
      rw [List.mem_singleton.mp member, atStage]

private theorem areAt_map
    {α : Type}
    (step : α → AlterStep)
    {stage : Nat}
    (atStage : ∀ item, (step item).stage = stage)
    (items : List α) :
    AreAt stage (items.map step) :=
  List.forall_mem_map.mpr fun item _ => atStage item

private theorem areAt_append
    {stage : Nat}
    {steps others : List AlterStep}
    (stepsAt : AreAt stage steps)
    (othersAt : AreAt stage others) :
    AreAt stage (steps ++ others) :=
  List.forall_mem_append.mpr ⟨stepsAt, othersAt⟩

/-- The steps at one stage stand before those of later stages. -/
private theorem pairwise_of_areAt
    {chunks : List (Nat × List AlterStep)}
    (atStages : ∀ chunk ∈ chunks, AreAt chunk.1 chunk.2)
    (ascending : (chunks.map (·.1)).Pairwise (· ≤ ·)) :
    (chunks.flatMap (·.2)).Pairwise fun left right => left.stage ≤ right.stage := by
  refine List.pairwise_flatMap.mpr ⟨fun chunk member => ?_, ?_⟩
  · refine List.pairwise_of_forall_mem_list fun left leftMember right rightMember => ?_
    exact Nat.le_of_eq ((atStages chunk member left leftMember).trans
      (atStages chunk member right rightMember).symm)
  · refine (List.pairwise_map.mp ascending).imp_of_mem ?_
    intro before after beforeMember afterMember atMost left leftMember right rightMember
    rw [atStages before beforeMember left leftMember, atStages after afterMember right rightMember]
    exact atMost

/-- The steps of an alteration in chunks, each under the stage of its steps. -/
private def chunks
    (changes : TableChanges)
    (inheritance : List AlterStep)
    (includeForeignKeys : Bool) : List (Nat × List AlterStep) := [
  (0, inheritance),
  (1, if includeForeignKeys then
    AlterStep.onRows .dropForeignKeys changes.dropForeignKeys else []),
  (2, AlterStep.onRows .dropIndexes changes.dropIndexes ++
    AlterStep.onRows .dropChecks changes.dropChecks ++
    AlterStep.onRows .dropPrimaryKeys changes.dropPrimaryKeys),
  (3, changes.columnSteps),
  (4, AlterStep.onRows .addPrimaryKeys changes.addPrimaryKeys ++
    AlterStep.onRows .addChecks changes.addChecks ++
    AlterStep.onRows .createIndexes changes.addIndexes),
  (5, if includeForeignKeys then
    AlterStep.onRows .addForeignKeys changes.addForeignKeys else [])]

variable (changes : TableChanges) {inheritance : List AlterStep} (includeForeignKeys : Bool)

private theorem steps_eq_flatMap_chunks :
    changes.steps inheritance includeForeignKeys =
      (changes.chunks inheritance includeForeignKeys).flatMap (·.2) := by
  simp [steps, keyDrops, keyAdditions, chunks]

private theorem areAt_of_mem_chunks
    (inheritanceAt : ∀ step ∈ inheritance, step = .inheritance) :
    ∀ chunk ∈ changes.chunks inheritance includeForeignKeys, AreAt chunk.1 chunk.2 := by
  have rowsAt : ∀ {stage : Nat} {step : List Value → AlterStep} (rows : List Value),
      (∀ rows, (step rows).stage = stage) → AreAt stage (AlterStep.onRows step rows) :=
    fun rows atStage => areAt_onRows atStage rows
  simp only [chunks, List.forall_mem_cons]
  refine ⟨?_, ?_, ?_, ?_, ?_, ?_, fun _ => List.not_mem_nil.elim⟩
  · exact fun step member => congrArg AlterStep.stage (inheritanceAt step member)
  · cases includeForeignKeys with
    | false => exact fun _ => List.not_mem_nil.elim
    | true => exact rowsAt _ fun _ => rfl
  · exact areAt_append (areAt_append (rowsAt _ fun _ => rfl) (rowsAt _ fun _ => rfl))
      (rowsAt _ fun _ => rfl)
  · exact areAt_append (areAt_append (areAt_map .dropColumn (fun _ => rfl) _)
      (areAt_map .addColumn (fun _ => rfl) _))
      (areAt_map (fun (left, right) => .alterColumn left right) (fun _ => rfl) _)
  · exact areAt_append (areAt_append (rowsAt _ fun _ => rfl) (rowsAt _ fun _ => rfl))
      (rowsAt _ fun _ => rfl)
  · cases includeForeignKeys with
    | false => exact fun _ => List.not_mem_nil.elim
    | true => exact rowsAt _ fun _ => rfl

/-- The steps of an alteration come in the order of their stages. -/
theorem pairwise_stage_steps
    (inheritanceAt : ∀ step ∈ inheritance, step = .inheritance) :
    (changes.steps inheritance includeForeignKeys).Pairwise fun left right =>
      left.stage ≤ right.stage := by
  rw [steps_eq_flatMap_chunks]
  apply pairwise_of_areAt (areAt_of_mem_chunks changes includeForeignKeys inheritanceAt)
  change [0, 1, 2, 3, 4, 5].Pairwise (· ≤ ·)
  decide

/-- Without foreign keys none is dropped and none added. -/
theorem stage_steps_without_foreignKeys
    (inheritanceAt : ∀ step ∈ inheritance, step = .inheritance) :
    ∀ step ∈ changes.steps inheritance false, step.stage ≠ 1 ∧ step.stage ≠ 5 := by
  intro step member
  rw [steps_eq_flatMap_chunks] at member
  rcases List.mem_flatMap.mp member with ⟨chunk, chunkMember, inChunk⟩
  rw [areAt_of_mem_chunks changes false inheritanceAt chunk chunkMember step inChunk]
  have others : ∀ chunk ∈ changes.chunks inheritance false,
      chunk.2 = [] ∨ chunk.1 ≠ 1 ∧ chunk.1 ≠ 5 := by
    simp [chunks]
  rcases others chunk chunkMember with empty | other
  · rw [empty] at inChunk
    cases inChunk
  · exact other

end TableChanges

namespace Scripter

variable {scripter : Scripter} {source target : Value}

theorem eq_inheritance_of_mem_inheritanceSteps
    {inheritance : List AlterStep}
    (found : inheritanceSteps source target = .ok inheritance) :
    ∀ step ∈ inheritance, step = .inheritance := by
  rcases bind_eq_ok_iff.mp found with ⟨sourceKey, _, targetRun⟩
  rcases bind_eq_ok_iff.mp targetRun with ⟨targetKey, _, equal⟩
  cases equal
  intro step member
  split at member
  · cases member
  · exact List.mem_singleton.mp member

/--
A script is the text of the steps of an alteration in the order of their stages; without foreign keys
none of them drops or adds one.
-/
def StatesInOrder
    (scripter : Scripter)
    (changes : TableChanges)
    (source target : Value)
    (includeForeignKeys : Bool)
    (script : String) : Prop :=
  ∃ inheritance, inheritanceSteps source target = .ok inheritance ∧
    scripter.alterSteps target (changes.steps inheritance includeForeignKeys) = .ok script ∧
    ((changes.steps inheritance includeForeignKeys).Pairwise fun left right =>
      left.stage ≤ right.stage) ∧
    (includeForeignKeys = false →
      ∀ step ∈ changes.steps inheritance includeForeignKeys, step.stage ≠ 1 ∧ step.stage ≠ 5)

theorem statesInOrder_of_scriptTable
    (sourceTyped : source.isTyped .table = true)
    (targetTyped : target.isTyped .table = true)
    {changes : TableChanges}
    (changesOk : scripter.tableChanges source target = .ok changes)
    {includeForeignKeys : Bool}
    {script : String}
    (scripted : (scripter.scriptTable includeForeignKeys source target).result = .ok script) :
    scripter.StatesInOrder changes source target includeForeignKeys script := by
  rw [scripter.result_scriptTable sourceTyped targetTyped] at scripted
  rcases bind_eq_ok_iff.mp scripted with ⟨_, _, inheritanceRun⟩
  rcases bind_eq_ok_iff.mp inheritanceRun with ⟨inheritance, inheritanceOk, _⟩
  have inheritanceAt := eq_inheritance_of_mem_inheritanceSteps inheritanceOk
  rw [scripter.alterTable_eq_alterSteps targetTyped changesOk inheritanceOk] at scripted
  refine ⟨inheritance, inheritanceOk, scripted,
    changes.pairwise_stage_steps includeForeignKeys inheritanceAt, ?_⟩
  rintro rfl
  exact changes.stage_steps_without_foreignKeys inheritanceAt

end Scripter

end SchemaDelta
