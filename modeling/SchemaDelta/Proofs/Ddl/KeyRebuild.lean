import SchemaDelta.Proofs.Ddl.Alteration
import SchemaDelta.Proofs.Ddl.SilentAlteration
import SchemaDelta.Proofs.Ddl.ViewIndexes

/-!
# Keys that are rebuilt

A key or an index that both tables have is dropped and added again where it has a row on a column
that is lost or redefined.  The script has a statement for the columns that the dialect sees are
lost or redefined, and for no others.
-/

namespace SchemaDelta

open Attempt (bind_eq_ok_iff)
open Value (rowGroups groupName)

/-! ## Keys and indexes -/

/-- The groups of index rows of a table are its primary keys and its other indexes. -/
inductive KeyKind where
  | primaryKey
  | index

namespace KeyKind

/-- The rows of a kind in a table. -/
def rows
    (kind : KeyKind)
    (table : Value) : List Value :=
  match kind with
  | primaryKey => table.primaryRows
  | index => table.secondaryRows

/-- The rows of a kind that are dropped. -/
def dropped
    (kind : KeyKind)
    (changes : TableChanges) : List Value :=
  match kind with
  | primaryKey => changes.dropPrimaryKeys
  | index => changes.dropIndexes

/-- The rows of a kind that are added. -/
def added
    (kind : KeyKind)
    (changes : TableChanges) : List Value :=
  match kind with
  | primaryKey => changes.addPrimaryKeys
  | index => changes.addIndexes

/-- The step that drops rows of a kind. -/
def dropStep
    (kind : KeyKind)
    (rows : List Value) : AlterStep :=
  match kind with
  | primaryKey => .dropPrimaryKeys rows
  | index => .dropIndexes rows

/-- The step that adds rows of a kind. -/
def addStep
    (kind : KeyKind)
    (rows : List Value) : AlterStep :=
  match kind with
  | primaryKey => .addPrimaryKeys rows
  | index => .createIndexes rows

end KeyKind

namespace Scripter

/-- A script drops the rows of a group and adds them again. -/
def Rebuilds
    (scripter : Scripter)
    (source target : Value)
    (script : String)
    (kind : KeyKind)
    (group : List Value) : Prop :=
  ∃ changes dropping adding, scripter.tableChanges source target = .ok changes ∧
    group ⊆ kind.dropped changes ∧ group ⊆ kind.added changes ∧
    scripter.alterStep target (kind.dropStep (kind.dropped changes)) = .ok dropping ∧
    IsPartOf dropping script ∧
    scripter.alterStep target (kind.addStep (kind.added changes)) = .ok adding ∧
    IsPartOf adding script

/-- A script has a statement that drops or alters the column under a folded name. -/
def WritesColumn
    (scripter : Scripter)
    (source target : Value)
    (script key : String) : Prop :=
  ∃ step text, scripter.dialect.ColumnStep source target key step ∧
    scripter.alterStep target step = .ok text ∧ text ≠ "" ∧ IsPartOf text script

end Scripter

namespace Dialect

/-- One of the rows of a group is on a column whose folded name has a property. -/
def HasRowOn
    (dialect : Dialect)
    (property : String → Prop)
    (group : List Value) : Prop :=
  ∃ row ∈ group, property (dialect.foldedPart "column_name" row)

/-- Under one folded name both tables have the rows of a group. -/
def SharesGroup
    (dialect : Dialect)
    (source target : Value)
    (kind : KeyKind)
    (group : List Value) : Prop :=
  ∃ key, (key, group) ∈ dialect.groupMap (kind.rows source) ∧
    (key, group) ∈ dialect.groupMap (kind.rows target)

end Dialect

section Keys

variable {dialect : Dialect} {source target : Value} {byPosition scripted : List Value}
variable {kind : KeyKind} {group : List Value}

theorem KeyKind.rows_isRow
    (kind : KeyKind)
    {table : Value}
    (typed : table.isTyped .table = true) :
    ∀ row ∈ kind.rows table, row.IsRow := by
  intro row member
  cases kind with
  | primaryKey => exact Value.isRow_of_index (Value.primaryRow_isTyped typed member)
  | index => exact Value.isRow_of_index (Value.secondaryRow_isTyped typed member)

namespace Dialect

theorem hasRowOn_iff
    {property other : String → Prop}
    (same : ∀ key, property key ↔ other key) :
    dialect.HasRowOn property group ↔ dialect.HasRowOn other group := by
  simp only [HasRowOn, same]

theorem covers_iff_hasRowOn
    {touched : List String} :
    dialect.covers touched group = true ↔ dialect.HasRowOn (· ∈ touched) group := by
  simp [covers, HasRowOn]

/-- A group whose rows are among the rows of groups is one of these. -/
private theorem mem_of_subset_flatten
    {rows : List Value}
    {groups : List (List Value)}
    (areGroups : ∀ other ∈ groups, other ∈ rowGroups rows)
    (grouped : group ∈ rowGroups rows)
    (within : group ⊆ groups.flatten) :
    group ∈ groups := by
  rcases List.exists_mem_of_ne_nil group (Value.ne_nil_of_mem_rowGroups grouped) with
    ⟨row, member⟩
  rcases List.mem_flatten.mp (within member) with ⟨other, otherMember, rowMember⟩
  have sameName : groupName group = groupName other :=
    ((Value.mem_of_mem_rowGroups grouped).mp member).2.symm.trans
      ((Value.mem_of_mem_rowGroups (areGroups other otherMember)).mp rowMember).2
  rw [← Value.namedRows_groupName grouped, sameName,
    Value.namedRows_groupName (areGroups other otherMember)]
  exact otherMember

/-- A group of both sides is dropped and added exactly when it is shared and touched. -/
private theorem subset_dropped_added_iff
    {rows others : List Value}
    {touched : List String}
    (areRows : ∀ row ∈ rows, row.IsRow)
    (otherRows : ∀ row ∈ others, row.IsRow)
    (grouped : group ∈ rowGroups rows)
    (otherGrouped : group ∈ rowGroups others) :
    (group ⊆ (dialect.droppedGroups touched rows others).flatten ∧
        group ⊆ (dialect.addedGroups touched rows others).flatten) ↔
      (∃ key, (key, group) ∈ dialect.groupMap rows ∧ (key, group) ∈ dialect.groupMap others) ∧
        dialect.covers touched group = true := by
  constructor
  · rintro ⟨isDropped, isAdded⟩
    have dropped := mem_of_subset_flatten (fun _ => mem_rowGroups_of_mem_rebuiltGroups)
      otherGrouped isDropped
    have added := mem_of_subset_flatten (fun _ => mem_rowGroups_of_mem_rebuiltGroups)
      grouped isAdded
    rcases (mem_droppedGroups_iff areRows otherRows).mp dropped with ⟨key, held, touches⟩
    rcases (mem_droppedGroups_iff otherRows areRows).mp added with ⟨otherKey, otherHeld, _⟩
    obtain rfl : otherKey = key :=
      (mem_of_mem_groupMap otherHeld).2.trans (mem_of_mem_groupMap held).2.symm
    exact ⟨⟨otherKey, otherHeld, held⟩, touches otherHeld⟩
  · rintro ⟨⟨key, held, otherHeld⟩, touches⟩
    have dropped : group ∈ dialect.droppedGroups touched rows others :=
      (mem_droppedGroups_iff areRows otherRows).mpr ⟨key, otherHeld, fun _ => touches⟩
    have added : group ∈ dialect.addedGroups touched rows others :=
      (mem_droppedGroups_iff otherRows areRows).mpr ⟨key, held, fun _ => touches⟩
    exact ⟨fun _ member => List.mem_flatten.mpr ⟨group, dropped, member⟩,
      fun _ member => List.mem_flatten.mpr ⟨group, added, member⟩⟩

end Dialect

/-- Under planned changes a group of both tables is rebuilt where it is shared and touched. -/
private theorem TableChanges.subset_planned_iff
    (sourceTyped : source.isTyped .table = true)
    (targetTyped : target.isTyped .table = true)
    (byPositionPerm : byPosition.Perm (target.rows "columns"))
    (scriptedPerm : scripted.Perm (source.rows "columns"))
    (inSource : group ∈ rowGroups (kind.rows source))
    (inTarget : group ∈ rowGroups (kind.rows target)) :
    (group ⊆ kind.dropped (planned dialect source target byPosition scripted) ∧
        group ⊆ kind.added (planned dialect source target byPosition scripted)) ↔
      dialect.SharesGroup source target kind group ∧
        dialect.HasRowOn (fun key => ∃ step, dialect.ColumnStep source target key step) group := by
  have iff := @Dialect.subset_dropped_added_iff dialect group (kind.rows source) (kind.rows target)
    (touchedNames dialect (dialect.unmatched source byPosition)
      (scripted.filterMap (dialect.alteredBy? target)))
    (kind.rows_isRow sourceTyped) (kind.rows_isRow targetTyped) inSource inTarget
  rw [Dialect.covers_iff_hasRowOn, Dialect.hasRowOn_iff fun _ =>
    mem_touchedNames_iff sourceTyped targetTyped byPositionPerm scriptedPerm] at iff
  cases kind with
  | primaryKey => exact iff
  | index => exact iff

end Keys

/-! ## The script -/

namespace Scripter

variable {scripter : Scripter} {source target : Value} {script : String}

/-- The text of every step of an alteration stands in the script. -/
theorem isPartOf_of_alterSteps
    {table : Value}
    {steps : List AlterStep}
    (altered : scripter.alterSteps table steps = .ok script)
    {step : AlterStep}
    (member : step ∈ steps) :
    ∃ text, scripter.alterStep table step = .ok text ∧ IsPartOf text script := by
  rcases bind_eq_ok_iff.mp altered with ⟨texts, textsOk, joined⟩
  cases joined
  rcases Attempt.exists_mem_of_mapM textsOk step member with ⟨text, textMember, textOk⟩
  exact ⟨text, textOk, .of_mem textMember⟩

/-- The steps of a script that alters a table. -/
private theorem exists_planned_of_alterTable
    (sourceTyped : source.isTyped .table = true)
    (targetTyped : target.isTyped .table = true)
    {includeForeignKeys : Bool}
    (altered : scripter.alterTable source target includeForeignKeys = .ok script) :
    ∃ byPosition scripted,
      byPosition.Perm (target.rows "columns") ∧ scripted.Perm (source.rows "columns") ∧
      scripter.tableChanges source target =
        .ok (.planned scripter.dialect source target byPosition scripted) ∧
      ∀ step,
        step ∈ (TableChanges.planned scripter.dialect source target byPosition
            scripted).keyDrops includeForeignKeys ∨
          step ∈ (TableChanges.planned scripter.dialect source target byPosition
            scripted).columnSteps ∨
          step ∈ (TableChanges.planned scripter.dialect source target byPosition
            scripted).keyAdditions includeForeignKeys →
        ∃ text, scripter.alterStep target step = .ok text ∧ IsPartOf text script := by
  rcases TableChanges.between_ok scripter.dialect scripter.options sourceTyped targetTyped with
    ⟨byPosition, scripted, byPositionPerm, scriptedPerm, changesOk⟩
  refine ⟨byPosition, scripted, byPositionPerm, scriptedPerm, changesOk, fun step member => ?_⟩
  rcases bind_eq_ok_iff.mp altered with ⟨_, _, run⟩
  rcases bind_eq_ok_iff.mp run with ⟨inheritance, inheritanceOk, _⟩
  rw [scripter.alterTable_eq_alterSteps targetTyped changesOk inheritanceOk] at altered
  refine isPartOf_of_alterSteps altered ?_
  simp only [List.mem_append]
  rcases member with drops | columns | adds
  · exact .inl (.inr drops)
  · exact .inr (.inl columns)
  · exact .inr (.inr adds)

private theorem mem_onRows
    {step : List Value → AlterStep}
    {rows group : List Value}
    (notEmpty : group ≠ [])
    (within : group ⊆ rows) :
    step rows ∈ AlterStep.onRows step rows := by
  cases rows with
  | nil => exact (notEmpty (List.subset_nil.mp within)).elim
  | cons row rows => exact List.mem_singleton.mpr rfl

private theorem dropStep_mem_keyDrops
    {kind : KeyKind}
    {changes : TableChanges}
    {group : List Value}
    (notEmpty : group ≠ [])
    (within : group ⊆ kind.dropped changes)
    (includeForeignKeys : Bool) :
    kind.dropStep (kind.dropped changes) ∈ changes.keyDrops includeForeignKeys := by
  simp only [TableChanges.keyDrops, List.mem_append]
  cases kind with
  | primaryKey => exact .inr (mem_onRows notEmpty within)
  | index => exact .inl (.inl (.inr (mem_onRows notEmpty within)))

private theorem addStep_mem_keyAdditions
    {kind : KeyKind}
    {changes : TableChanges}
    {group : List Value}
    (notEmpty : group ≠ [])
    (within : group ⊆ kind.added changes)
    (includeForeignKeys : Bool) :
    kind.addStep (kind.added changes) ∈ changes.keyAdditions includeForeignKeys := by
  simp only [TableChanges.keyAdditions, List.mem_append]
  cases kind with
  | primaryKey => exact .inl (.inl (.inl (mem_onRows notEmpty within)))
  | index => exact .inl (.inr (mem_onRows notEmpty within))

/-- A group of both tables is rebuilt where it is shared and on a lost or redefined column. -/
theorem rebuilds_iff
    (sourceTyped : source.isTyped .table = true)
    (targetTyped : target.isTyped .table = true)
    {includeForeignKeys : Bool}
    (altered : scripter.alterTable source target includeForeignKeys = .ok script)
    {kind : KeyKind}
    {group : List Value}
    (inSource : group ∈ rowGroups (kind.rows source))
    (inTarget : group ∈ rowGroups (kind.rows target)) :
    scripter.Rebuilds source target script kind group ↔
      scripter.dialect.SharesGroup source target kind group ∧
        scripter.dialect.HasRowOn
          (fun key => ∃ step, scripter.dialect.ColumnStep source target key step) group := by
  rcases exists_planned_of_alterTable sourceTyped targetTyped altered with
    ⟨byPosition, scripted, byPositionPerm, scriptedPerm, changesOk, texts⟩
  have planned_iff := @TableChanges.subset_planned_iff scripter.dialect _ _ _ _ _ _ sourceTyped
    targetTyped byPositionPerm scriptedPerm inSource inTarget
  have notEmpty := Value.ne_nil_of_mem_rowGroups inTarget
  rw [← planned_iff]
  constructor
  · rintro ⟨changes, _, _, isPlan, dropped, added, _⟩
    rw [changesOk, Except.ok.injEq] at isPlan
    rw [isPlan]
    exact ⟨dropped, added⟩
  · rintro ⟨dropped, added⟩
    rcases texts _ (.inl (dropStep_mem_keyDrops notEmpty dropped includeForeignKeys)) with
      ⟨dropping, droppingOk, droppingPart⟩
    rcases texts _ (.inr (.inr (addStep_mem_keyAdditions notEmpty added includeForeignKeys))) with
      ⟨adding, addingOk, addingPart⟩
    exact ⟨_, dropping, adding, changesOk, dropped, added, droppingOk, droppingPart, addingOk,
      addingPart⟩

/-- A script has a statement for the columns that a dialect sees, and for no others. -/
theorem writesColumn_iff
    (sourceTyped : source.isTyped .table = true)
    (targetTyped : target.isTyped .table = true)
    {includeForeignKeys : Bool}
    (altered : scripter.alterTable source target includeForeignKeys = .ok script)
    (key : String) :
    scripter.WritesColumn source target script key ↔
      scripter.dialect.SeesColumn scripter.options source target key := by
  rcases exists_planned_of_alterTable sourceTyped targetTyped altered with
    ⟨byPosition, scripted, byPositionPerm, scriptedPerm, _, texts⟩
  constructor
  · rintro ⟨_, text, loses | redefines, textOk, speaks, _⟩
    · exact .lost loses
    · rcases redefines.typed sourceTyped targetTyped with ⟨leftTyped, rightTyped⟩
      refine .redefined redefines fun unseen => speaks ?_
      have silent := (Dialect.alterColumn_eq_empty_iff targetTyped leftTyped rightTyped).mpr unseen
      exact Except.ok.inj (textOk.symm.trans silent)
  · intro seen
    have taken : ∃ step, scripter.dialect.ColumnStep source target key step ∧
        Attempt.Speaks (scripter.alterStep target step) := by
      rcases seen with loses | ⟨redefines, seen⟩
      · exact ⟨_, .drop loses, Attempt.ensures_bind fun name =>
          scripter.speaks_dropColumn target _ name⟩
      · rcases redefines.typed sourceTyped targetTyped with ⟨leftTyped, rightTyped⟩
        refine ⟨_, .alter redefines, fun text textOk silent => seen ?_⟩
        rw [silent] at textOk
        exact (Dialect.alterColumn_eq_empty_iff targetTyped leftTyped rightTyped).mp textOk
    rcases taken with ⟨step, isStep, speaks⟩
    have member := TableChanges.mem_columnSteps sourceTyped targetTyped byPositionPerm
      scriptedPerm isStep
    rcases texts step (.inr (.inl member)) with ⟨text, textOk, part⟩
    exact ⟨step, text, isStep, textOk, speaks text textOk, part⟩

end Scripter

end SchemaDelta
