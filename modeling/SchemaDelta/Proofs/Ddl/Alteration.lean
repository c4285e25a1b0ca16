import SchemaDelta.Proofs.Ddl.ColumnStep
import SchemaDelta.Proofs.Ddl.Statements

/-!
# Alterations that say nothing

When a table is altered and neither loses nor gets a column, and its groups of rows have the same
names on both sides, the script is empty exactly when the groups agree, nothing that is rebuilt for
the sake of a column is covered, and the statements for altered columns are empty.
-/

namespace SchemaDelta

open Attempt (Speaks)
open Value (rowGroups groupName groupNames)

/-! ## Groups that agree -/

namespace Dialect

/-- The same groups stand under the same folded names. -/
def GroupsAgree
    (dialect : Dialect)
    (source target : List Value) : Prop :=
  ∀ key, (dialect.groupMap source).lookup key = (dialect.groupMap target).lookup key

/-- No group has a row on one of the columns. -/
def CoversNone
    (dialect : Dialect)
    (columns : List String)
    (rows : List Value) : Prop :=
  ∀ entry ∈ dialect.groupMap rows, ∀ row ∈ entry.2,
    dialect.foldedPart "column_name" row ∉ columns

/-- Every row has one with the same name on the other side. -/
def NamesWithin
    (rows others : List Value) : Prop :=
  ∀ row ∈ rows, ∃ other ∈ others, other.letters "name" = row.letters "name"

variable {dialect : Dialect} {source target rows : List Value} {touched : List String}

theorem covers_eq_false_iff
    {group : List Value} :
    dialect.covers touched group = false ↔
      ∀ row ∈ group, dialect.foldedPart "column_name" row ∉ touched := by
  simp [covers]

/-- Under equal names of rows there are groups under equal folded names. -/
private theorem exists_lookup_of_namesWithin
    (within : NamesWithin rows source)
    {key : String}
    {group : List Value}
    (found : (dialect.groupMap rows).lookup key = some group) :
    ∃ other, (dialect.groupMap source).lookup key = some other := by
  rcases mem_of_mem_groupMap (lookup_groupMap_iff.mp found) with ⟨grouped, keyed⟩
  rcases List.exists_mem_of_ne_nil group (Value.ne_nil_of_mem_rowGroups grouped) with
    ⟨row, member⟩
  rcases (Value.mem_of_mem_rowGroups grouped).mp member with ⟨held, named⟩
  rcases within row held with ⟨other, otherMember, sameName⟩
  have sameKey : dialect.foldedPart "name" other = key := by
    rw [foldedPart, sameName, named]
    exact keyed.symm
  rcases dialect.exists_mem_groupMap otherMember with ⟨otherGroup, held⟩
  exact ⟨otherGroup, lookup_groupMap_iff.mpr (sameKey ▸ held)⟩

/-- Between groups that agree nothing is dropped exactly when none covers a touched column. -/
theorem droppedGroups_eq_nil_iff_of_agree
    (sourceRows : ∀ row ∈ source, row.IsRow)
    (targetRows : ∀ row ∈ target, row.IsRow)
    (agree : dialect.GroupsAgree source target) :
    dialect.droppedGroups touched source target = [] ↔ dialect.CoversNone touched target := by
  rw [List.eq_nil_iff_forall_not_mem]
  constructor
  · intro none entry member
    refine covers_eq_false_iff.mp (Bool.eq_false_iff.mpr fun touches => none entry.2 ?_)
    exact (mem_droppedGroups_iff sourceRows targetRows).mpr ⟨entry.1, member, fun _ => touches⟩
  · intro untouched group dropped
    rcases (mem_droppedGroups_iff sourceRows targetRows).mp dropped with ⟨key, member, rebuilt⟩
    have inSource : (key, group) ∈ dialect.groupMap source := by
      rw [← lookup_groupMap_iff, agree key]
      exact lookup_groupMap_iff.mpr member
    have covered := rebuilt inSource
    rw [covers_eq_false_iff.mpr (untouched _ member)] at covered
    cases covered

/-- Nothing is dropped exactly when the groups agree and none of them covers a touched column. -/
theorem droppedGroups_eq_nil_iff
    (sourceRows : ∀ row ∈ source, row.IsRow)
    (targetRows : ∀ row ∈ target, row.IsRow)
    (within : NamesWithin source target) :
    dialect.droppedGroups touched source target = [] ↔
      dialect.GroupsAgree source target ∧ dialect.CoversNone touched target := by
  constructor
  · intro none
    have agree : dialect.GroupsAgree source target := by
      intro key
      cases found : (dialect.groupMap target).lookup key with
      | some group =>
          have member := lookup_groupMap_iff.mp found
          by_contra missing
          have dropped : group ∈ dialect.droppedGroups touched source target :=
            (mem_droppedGroups_iff sourceRows targetRows).mpr
              ⟨key, member, fun inSource => (missing (lookup_groupMap_iff.mpr inSource)).elim⟩
          rw [none] at dropped
          cases dropped
      | none =>
          cases sourceFound : (dialect.groupMap source).lookup key with
          | none => rfl
          | some group =>
              rcases exists_lookup_of_namesWithin within sourceFound with ⟨other, otherFound⟩
              rw [found] at otherFound
              cases otherFound
    exact ⟨agree, (droppedGroups_eq_nil_iff_of_agree sourceRows targetRows agree).mp none⟩
  · rintro ⟨agree, untouched⟩
    exact (droppedGroups_eq_nil_iff_of_agree sourceRows targetRows agree).mpr untouched

/-- Nothing is added either when the groups agree and none of them covers a touched column. -/
theorem addedGroups_eq_nil
    (sourceRows : ∀ row ∈ source, row.IsRow)
    (targetRows : ∀ row ∈ target, row.IsRow)
    (agree : dialect.GroupsAgree source target)
    (untouched : dialect.CoversNone touched target) :
    dialect.addedGroups touched source target = [] := by
  refine (droppedGroups_eq_nil_iff_of_agree targetRows sourceRows fun key => (agree key).symm).mpr
    fun entry member => untouched entry ?_
  rw [← lookup_groupMap_iff, ← agree]
  exact lookup_groupMap_iff.mpr member

end Dialect

/-! ## Steps -/

namespace Scripter

variable (scripter : Scripter) {source target : Value}

theorem alterSteps_eq_empty_iff
    {table : Value}
    {steps : List AlterStep} :
    scripter.alterSteps table steps = .ok "" ↔
      ∀ step ∈ steps, scripter.alterStep table step = .ok "" :=
  join_mapM_eq_empty_iff

/-- A pair of typed tables is scripted as an alteration. -/
theorem result_scriptTable
    (sourceTyped : source.isTyped .table = true)
    (targetTyped : target.isTyped .table = true)
    (includeForeignKeys : Bool) :
    (scripter.scriptTable includeForeignKeys source target).result =
      scripter.alterTable source target includeForeignKeys := by
  rcases Value.isTyped_iff.mp sourceTyped with ⟨_, _, rfl, _, _⟩
  rcases Value.isTyped_iff.mp targetTyped with ⟨_, _, rfl, _, _⟩
  rfl

/-- An alteration is the text of all of its steps. -/
theorem alterTable_eq_alterSteps
    {changes : TableChanges}
    {inheritance : List AlterStep}
    (targetTyped : target.isTyped .table = true)
    (changesOk : scripter.tableChanges source target = .ok changes)
    (inheritanceOk : inheritanceSteps source target = .ok inheritance)
    (includeForeignKeys : Bool) :
    scripter.alterTable source target includeForeignKeys =
      scripter.alterSteps target (inheritance ++ changes.keyDrops includeForeignKeys ++
        (changes.columnSteps ++ changes.keyAdditions includeForeignKeys)) := by
  have named : scripter.objectName target = .ok _ := Dialect.objectName_ok targetTyped
  simp only [alterTable, changesOk, inheritanceOk, named, Attempt.ok_bind, Attempt.discard_ok]
  generalize inheritance ++ changes.keyDrops includeForeignKeys = drops
  generalize changes.columnSteps ++ changes.keyAdditions includeForeignKeys = changing
  rw [alterSteps, alterSteps, alterSteps, List.mapM_append]
  cases drops.mapM (scripter.alterStep target) with
  | error failure => rfl
  | ok dropped =>
      cases changing.mapM (scripter.alterStep target) with
      | error failure => rfl
      | ok changed => exact congrArg Except.ok String.join_append.symm

/-- An alteration under the same parent is empty exactly when all of its steps are. -/
theorem alterTable_eq_empty_iff_forall
    {changes : TableChanges}
    (targetTyped : target.isTyped .table = true)
    (changesOk : scripter.tableChanges source target = .ok changes)
    (sameParent : inheritanceSteps source target = .ok []) :
    scripter.alterTable source target true = .ok "" ↔
      ∀ step ∈ changes.keyDrops true ++ (changes.columnSteps ++ changes.keyAdditions true),
        scripter.alterStep target step = .ok "" := by
  rw [scripter.alterTable_eq_alterSteps targetTyped changesOk sameParent,
    alterSteps_eq_empty_iff, List.nil_append]

/-- A step on rows says nothing exactly when there are no rows. -/
theorem forall_onRows_iff
    {table : Value}
    {make : List Value → AlterStep}
    {rows : List Value}
    (speaks : rows ≠ [] → Speaks (scripter.alterStep table (make rows))) :
    (∀ step ∈ AlterStep.onRows make rows, scripter.alterStep table step = .ok "") ↔
      rows = [] := by
  cases rows with
  | nil => simp [AlterStep.onRows]
  | cons row rows =>
      simp only [AlterStep.onRows, List.isEmpty_cons, Bool.false_eq_true, if_false,
        List.mem_singleton, forall_eq, reduceCtorEq, iff_false]
      exact fun empty => speaks (List.cons_ne_nil row rows) "" empty rfl

/-- The drops of keys say nothing exactly when there are none, with foreign keys or without. -/
theorem forall_keyDrops_iff_of_include
    {changes : TableChanges}
    (includeForeignKeys : Bool)
    (indexRows : ∀ row ∈ changes.dropIndexes, row.IsRow)
    (checkRows : ∀ row ∈ changes.dropChecks, row.IsRow)
    (primaryRows : ∀ row ∈ changes.dropPrimaryKeys, row.IsRow)
    (foreignKeyRows : ∀ row ∈ changes.dropForeignKeys, row.IsRow) :
    (∀ step ∈ changes.keyDrops includeForeignKeys, scripter.alterStep target step = .ok "") ↔
      (includeForeignKeys = true → changes.dropForeignKeys = []) ∧ changes.dropIndexes = [] ∧
        changes.dropChecks = [] ∧ changes.dropPrimaryKeys = [] := by
  have foreignKeys :
      (∀ step ∈ if includeForeignKeys then
            AlterStep.onRows .dropForeignKeys changes.dropForeignKeys
          else [], scripter.alterStep target step = .ok "") ↔
        (includeForeignKeys = true → changes.dropForeignKeys = []) := by
    cases includeForeignKeys with
    | true =>
        rw [if_pos rfl, forall_onRows_iff]
        · exact ⟨fun empty _ => empty, fun empty => empty rfl⟩
        · exact scripter.dialect.speaks_dropForeignKeys scripter.options foreignKeyRows
    | false => exact ⟨fun _ included => Bool.noConfusion included, fun _ _ => List.not_mem_nil.elim⟩
  rw [TableChanges.keyDrops, List.forall_mem_append, List.forall_mem_append,
    List.forall_mem_append, foreignKeys, forall_onRows_iff, forall_onRows_iff, forall_onRows_iff,
    and_assoc, and_assoc]
  · exact scripter.dialect.speaks_dropPrimaryKeys scripter.options primaryRows
  · exact scripter.dialect.speaks_dropChecks scripter.options checkRows
  · exact scripter.dialect.speaks_dropIndexes scripter.options target indexRows

/-- The drops of keys say nothing exactly when there are none. -/
theorem forall_keyDrops_iff
    {changes : TableChanges}
    (indexRows : ∀ row ∈ changes.dropIndexes, row.IsRow)
    (checkRows : ∀ row ∈ changes.dropChecks, row.IsRow)
    (primaryRows : ∀ row ∈ changes.dropPrimaryKeys, row.IsRow)
    (foreignKeyRows : ∀ row ∈ changes.dropForeignKeys, row.IsRow) :
    (∀ step ∈ changes.keyDrops true, scripter.alterStep target step = .ok "") ↔
      changes.dropForeignKeys = [] ∧ changes.dropIndexes = [] ∧ changes.dropChecks = [] ∧
        changes.dropPrimaryKeys = [] := by
  rw [scripter.forall_keyDrops_iff_of_include true indexRows checkRows primaryRows foreignKeyRows]
  exact and_congr_left fun _ => ⟨fun empty => empty rfl, fun empty _ => empty⟩

end Scripter

/-! ## Planned changes -/

/-- No group of a table has a row on a column. -/
structure Dialect.LeavesGroups
    (dialect : Dialect)
    (table column : Value) : Prop where
  indexes : dialect.CoversNone [dialect.columnKey column] table.secondaryRows
  primaryKeys : dialect.CoversNone [dialect.columnKey column] table.primaryRows
  foreignKeys : dialect.CoversNone [dialect.columnKey column] (table.rows "foreign_keys")

namespace Scripter

/-- An altered column of a table has no statement, and no group is rebuilt for its sake. -/
structure AltersSilently
    (scripter : Scripter)
    (target left right : Value) : Prop where
  statement : scripter.statements.alterColumn scripter.options target left right = .ok ""
  leaves : scripter.dialect.LeavesGroups target left

/--
For a scripter two tables are the same: their groups agree, and their columns have the same
definitions as far as these make a difference.
-/
structure FindsNoChange
    (scripter : Scripter)
    (source target : Value) : Prop where
  indexes : scripter.dialect.GroupsAgree source.secondaryRows target.secondaryRows
  primaryKeys : scripter.dialect.GroupsAgree source.primaryRows target.primaryRows
  checks : scripter.dialect.GroupsAgree (source.rows "constraints") (target.rows "constraints")
  foreignKeys :
    scripter.dialect.GroupsAgree (source.rows "foreign_keys") (target.rows "foreign_keys")
  columns : ∀ left ∈ source.rows "columns", ∀ right ∈ target.rows "columns",
    scripter.dialect.columnKey left = scripter.dialect.columnKey right →
      left.definition = right.definition ∨ scripter.AltersSilently target left right

end Scripter

/-- Rows of two lists have the same names. -/
def Dialect.SameNames
    (rows others : List Value) : Prop :=
  NamesWithin rows others ∧ NamesWithin others rows

/-- Two tables have columns and rows of the same names. -/
structure Value.HasNamesOf
    (source target : Value) : Prop where
  columns : Dialect.SameNames (source.rows "columns") (target.rows "columns")
  indexes : Dialect.SameNames source.secondaryRows target.secondaryRows
  primaryKeys : Dialect.SameNames source.primaryRows target.primaryRows
  checks : Dialect.SameNames (source.rows "constraints") (target.rows "constraints")
  foreignKeys : Dialect.SameNames (source.rows "foreign_keys") (target.rows "foreign_keys")

/-- The groups of two tables agree, and none of them covers a touched column. -/
structure Dialect.GroupsRemain
    (dialect : Dialect)
    (touched : List String)
    (source target : Value) : Prop where
  indexes : dialect.GroupsAgree source.secondaryRows target.secondaryRows ∧
    dialect.CoversNone touched target.secondaryRows
  primaryKeys : dialect.GroupsAgree source.primaryRows target.primaryRows ∧
    dialect.CoversNone touched target.primaryRows
  checks : dialect.GroupsAgree (source.rows "constraints") (target.rows "constraints")
  foreignKeys : dialect.GroupsAgree (source.rows "foreign_keys") (target.rows "foreign_keys") ∧
    dialect.CoversNone touched (target.rows "foreign_keys")

namespace TableChanges

variable {dialect : Dialect} {source target : Value} {byPosition scripted : List Value}

/-- What is altered are the columns of one folded name with different definitions. -/
theorem mem_altered_iff
    (sourceTyped : source.isTyped .table = true)
    (targetTyped : target.isTyped .table = true)
    (targetApart : dialect.TellsColumnsApart target)
    (scriptedPerm : scripted.Perm (source.rows "columns"))
    {pair : Value × Value} :
    pair ∈ scripted.filterMap (dialect.alteredBy? target) ↔
      pair.1 ∈ source.rows "columns" ∧ pair.2 ∈ target.rows "columns" ∧
        dialect.columnKey pair.1 = dialect.columnKey pair.2 ∧
          pair.1.definition ≠ pair.2.definition := by
  rcases pair with ⟨left, right⟩
  rw [mem_altered_iff_redefines sourceTyped targetTyped scriptedPerm]
  constructor
  · intro redefines
    rcases dialect.mem_of_lookup_columnMap redefines.found with ⟨rightMember, sameKey⟩
    exact ⟨redefines.member, rightMember, sameKey.symm, redefines.differ⟩
  · rintro ⟨leftMember, rightMember, sameKey, differ⟩
    exact ⟨leftMember, rfl,
      (dialect.lookup_columnMap_iff targetApart).mpr ⟨rightMember, sameKey.symm⟩, differ⟩

/-- No row is rebuilt exactly when no group is. -/
theorem flatten_eq_nil_iff
    {rows : List Value}
    {touched : List String}
    {others : List (String × List Value)} :
    (dialect.rebuiltGroups touched (dialect.groupMap rows) others).flatten = [] ↔
      dialect.rebuiltGroups touched (dialect.groupMap rows) others = [] := by
  rw [List.flatten_eq_nil_iff]
  constructor
  · intro empty
    apply List.eq_nil_iff_forall_not_mem.mpr
    intro group member
    exact Value.ne_nil_of_mem_rowGroups (Dialect.mem_rowGroups_of_mem_rebuiltGroups member)
      (empty group member)
  · intro none group member
    rw [none] at member
    cases member

private theorem coversNone_touched_iff
    {altered : List (Value × Value)}
    {rows : List Value} :
    dialect.CoversNone (touchedNames dialect [] altered) rows ↔
      ∀ pair ∈ altered, dialect.CoversNone [dialect.columnKey pair.1] rows := by
  simp only [Dialect.CoversNone, touchedNames, List.nil_append, List.map_map, List.mem_map,
    Function.comp_apply, List.mem_singleton, not_exists, not_and]
  constructor
  · intro none pair member entry entryMember row rowMember same
    exact none entry entryMember row rowMember pair member same.symm
  · intro none entry entryMember row rowMember pair member same
    exact none pair member entry entryMember row rowMember same.symm

private theorem unmatched_eq_nil
    {table : Value}
    (apart : dialect.TellsColumnsApart table)
    {columns : List Value}
    (within : Dialect.NamesWithin columns (table.rows "columns")) :
    dialect.unmatched table columns = [] := by
  apply List.filter_eq_nil_iff.mpr
  intro column member
  rcases within column member with ⟨other, otherMember, sameName⟩
  have found : (dialect.columnMap table).lookup (dialect.columnKey column) = some other :=
    (dialect.lookup_columnMap_iff apart).mpr
      ⟨otherMember, congrArg dialect.foldedName sameName⟩
  simp [found]

/-- No row is dropped exactly when the groups agree and none of them covers a touched column. -/
private theorem droppedRows_eq_nil_iff
    (dialect : Dialect)
    (kind : ObjectClass)
    (rowKind : kind.isRow = true)
    (touched : List String)
    {rows others : List Value}
    (typed : ∀ row ∈ rows, row.isTyped kind = true)
    (othersTyped : ∀ row ∈ others, row.isTyped kind = true)
    (names : Dialect.SameNames rows others) :
    (dialect.droppedGroups touched rows others).flatten = [] ↔
      dialect.GroupsAgree rows others ∧ dialect.CoversNone touched others :=
  flatten_eq_nil_iff.trans (Dialect.droppedGroups_eq_nil_iff
    (fun row member => Value.isRow_of_isTyped (typed row member) rowKind)
    (fun row member => Value.isRow_of_isTyped (othersTyped row member) rowKind) names.1)

private theorem addedRows_eq_nil
    (kind : ObjectClass)
    (rowKind : kind.isRow = true)
    {touched : List String}
    {rows others : List Value}
    (typed : ∀ row ∈ rows, row.isTyped kind = true)
    (othersTyped : ∀ row ∈ others, row.isTyped kind = true)
    (remain : dialect.GroupsAgree rows others ∧ dialect.CoversNone touched others) :
    (dialect.addedGroups touched rows others).flatten = [] :=
  flatten_eq_nil_iff.mpr (Dialect.addedGroups_eq_nil
    (fun row member => Value.isRow_of_isTyped (typed row member) rowKind)
    (fun row member => Value.isRow_of_isTyped (othersTyped row member) rowKind)
    remain.1 remain.2)

theorem coversNone_nil
    (rows : List Value) :
    dialect.CoversNone [] rows :=
  fun _ _ _ _ => List.not_mem_nil

theorem uniqueRows_eq_nil_iff
    {rows : List Value} :
    dialect.uniqueRows rows = [] ↔ rows = [] := by
  constructor
  · intro none
    apply List.eq_nil_iff_forall_not_mem.mpr
    intro row member
    rcases Keyed.exists_mem_firstByKey dialect.identityOf member with ⟨first, firstMember, _⟩
    rw [Dialect.uniqueRows] at none
    rw [none] at firstMember
    cases firstMember
  · rintro rfl
    rfl

variable (source target) in
/-- What is dropped of planned changes are rows. -/
theorem planned_rows
    (targetTyped : target.isTyped .table = true)
    (byPosition scripted : List Value) :
    let changes := planned dialect source target byPosition scripted
    (∀ row ∈ changes.dropIndexes, row.IsRow) ∧ (∀ row ∈ changes.dropChecks, row.IsRow) ∧
      (∀ row ∈ changes.dropPrimaryKeys, row.IsRow) ∧
        ∀ row ∈ changes.dropForeignKeys, row.IsRow := by
  refine ⟨fun row member => ?_, fun row member => ?_, fun row member => ?_,
    fun row member => ?_⟩
  · exact Value.isRow_of_index
      (Value.secondaryRow_isTyped targetTyped (Dialect.mem_of_mem_droppedGroups member))
  · exact Value.isRow_of_constraint
      (Value.constraint_isTyped targetTyped (Dialect.mem_of_mem_droppedGroups member))
  · exact Value.isRow_of_index
      (Value.primaryRow_isTyped targetTyped (Dialect.mem_of_mem_droppedGroups member))
  · rcases List.mem_append.mp ((Keyed.firstByKey_sublist _ _).subset member) with own | inbound
    · rcases List.mem_map.mp own with ⟨held, heldMember, rfl⟩
      exact Value.isRow_of_foreignKey (Value.isTyped_onTable
        (Value.foreignKey_isTyped targetTyped (Dialect.mem_of_mem_droppedGroups heldMember))
        targetTyped)
    · exact Value.isRow_of_foreignKey (inboundRows_isTyped dialect targetTyped row inbound)

/-- Nothing is dropped exactly when the groups of both tables remain. -/
private theorem planned_drops_eq_nil_iff
    (sourceTyped : source.isTyped .table = true)
    (targetTyped : target.isTyped .table = true)
    (names : source.HasNamesOf target)
    (droppedNone : dialect.unmatched source byPosition = []) :
    ((planned dialect source target byPosition scripted).dropForeignKeys = [] ∧
      (planned dialect source target byPosition scripted).dropIndexes = [] ∧
      (planned dialect source target byPosition scripted).dropChecks = [] ∧
      (planned dialect source target byPosition scripted).dropPrimaryKeys = []) ↔
      dialect.GroupsRemain
        (touchedNames dialect [] (scripted.filterMap (dialect.alteredBy? target)))
        source target := by
  have indexes := droppedRows_eq_nil_iff dialect .index (by decide)
    (touchedNames dialect [] (scripted.filterMap (dialect.alteredBy? target)))
    (fun _ member => Value.secondaryRow_isTyped sourceTyped member)
    (fun _ member => Value.secondaryRow_isTyped targetTyped member) names.indexes
  have primaryKeys := droppedRows_eq_nil_iff dialect .index (by decide)
    (touchedNames dialect [] (scripted.filterMap (dialect.alteredBy? target)))
    (fun _ member => Value.primaryRow_isTyped sourceTyped member)
    (fun _ member => Value.primaryRow_isTyped targetTyped member) names.primaryKeys
  have checks := droppedRows_eq_nil_iff dialect .constraint (by decide)
    [] (fun _ member => Value.constraint_isTyped sourceTyped member)
    (fun _ member => Value.constraint_isTyped targetTyped member) names.checks
  have foreignKeys := droppedRows_eq_nil_iff dialect .foreignKey (by decide)
    (touchedNames dialect [] (scripted.filterMap (dialect.alteredBy? target)))
    (fun _ member => Value.foreignKey_isTyped sourceTyped member)
    (fun _ member => Value.foreignKey_isTyped targetTyped member) names.foreignKeys
  simp only [planned, droppedNone, uniqueRows_eq_nil_iff, List.append_eq_nil_iff,
    List.map_eq_nil_iff, foreignKeys, indexes, checks, primaryKeys]
  constructor
  · rintro ⟨⟨foreignKeysRemain, _⟩, indexesRemain, checksRemain, primaryKeysRemain⟩
    exact ⟨indexesRemain, primaryKeysRemain, checksRemain.1, foreignKeysRemain⟩
  · intro remain
    rw [indexes.mpr remain.indexes, primaryKeys.mpr remain.primaryKeys]
    exact ⟨⟨remain.foreignKeys, inboundRows_nil dialect⟩, remain.indexes,
      ⟨remain.checks, coversNone_nil _⟩, remain.primaryKeys⟩

/-- Nothing is added when the groups of both tables remain. -/
private theorem planned_adds_eq_nil
    (sourceTyped : source.isTyped .table = true)
    (targetTyped : target.isTyped .table = true)
    (droppedNone : dialect.unmatched source byPosition = [])
    (remain : dialect.GroupsRemain
      (touchedNames dialect [] (scripted.filterMap (dialect.alteredBy? target)))
      source target) :
    (planned dialect source target byPosition scripted).addForeignKeys = [] ∧
      (planned dialect source target byPosition scripted).addIndexes = [] ∧
      (planned dialect source target byPosition scripted).addChecks = [] ∧
      (planned dialect source target byPosition scripted).addPrimaryKeys = [] := by
  have indexes := addedRows_eq_nil .index (by decide)
    (fun _ member => Value.secondaryRow_isTyped sourceTyped member)
    (fun _ member => Value.secondaryRow_isTyped targetTyped member)
    remain.indexes
  have primaryKeys := addedRows_eq_nil .index (by decide)
    (fun _ member => Value.primaryRow_isTyped sourceTyped member)
    (fun _ member => Value.primaryRow_isTyped targetTyped member)
    remain.primaryKeys
  have checks := addedRows_eq_nil .constraint (by decide)
    (fun _ member => Value.constraint_isTyped sourceTyped member)
    (fun _ member => Value.constraint_isTyped targetTyped member)
    ⟨remain.checks, coversNone_nil _⟩
  have foreignKeys := addedRows_eq_nil .foreignKey (by decide)
    (fun _ member => Value.foreignKey_isTyped sourceTyped member)
    (fun _ member => Value.foreignKey_isTyped targetTyped member)
    remain.foreignKeys
  simp only [planned, droppedNone, uniqueRows_eq_nil_iff, List.append_eq_nil_iff,
    List.map_eq_nil_iff, foreignKeys, indexes, checks, primaryKeys]
  refine ⟨⟨trivial, ?_⟩, trivial, trivial, trivial⟩
  simp [Dialect.returningRows, Dialect.referencingGroups, Dialect.columnKeys]

/-- Without columns that are dropped or added the columns are only altered. -/
theorem planned_columnSteps
    (droppedNone : dialect.unmatched source byPosition = [])
    (addedNone : dialect.unmatched target scripted = []) :
    (planned dialect source target byPosition scripted).columnSteps =
      (scripted.filterMap (dialect.alteredBy? target)).map fun pair =>
        .alterColumn pair.1 pair.2 := by
  simp only [columnSteps, planned, droppedNone, addedNone, List.map_nil, List.nil_append]

/-- There are no steps for keys when the groups of both tables remain. -/
private theorem planned_keyAdditions
    (sourceTyped : source.isTyped .table = true)
    (targetTyped : target.isTyped .table = true)
    (droppedNone : dialect.unmatched source byPosition = [])
    (remain : dialect.GroupsRemain
      (touchedNames dialect [] (scripted.filterMap (dialect.alteredBy? target)))
      source target) :
    (planned dialect source target byPosition scripted).keyAdditions true = [] := by
  rcases planned_adds_eq_nil sourceTyped targetTyped droppedNone remain with
    ⟨foreignKeysNone, indexesNone, checksNone, primaryKeysNone⟩
  rw [keyAdditions, foreignKeysNone, indexesNone, checksNone, primaryKeysNone]
  rfl

variable (dialect) in
/-- The groups of both tables remain under what is altered exactly when none covers a column. -/
private theorem groupsRemain_touched_iff
    {altered : List (Value × Value)} :
    dialect.GroupsRemain (touchedNames dialect [] altered) source target ↔
      dialect.GroupsAgree source.secondaryRows target.secondaryRows ∧
      dialect.GroupsAgree source.primaryRows target.primaryRows ∧
      dialect.GroupsAgree (source.rows "constraints") (target.rows "constraints") ∧
      dialect.GroupsAgree (source.rows "foreign_keys") (target.rows "foreign_keys") ∧
      ∀ pair ∈ altered, dialect.LeavesGroups target pair.1 := by
  constructor
  · intro remain
    refine ⟨remain.indexes.1, remain.primaryKeys.1, remain.checks, remain.foreignKeys.1, ?_⟩
    intro pair member
    exact ⟨coversNone_touched_iff.mp remain.indexes.2 pair member,
      coversNone_touched_iff.mp remain.primaryKeys.2 pair member,
      coversNone_touched_iff.mp remain.foreignKeys.2 pair member⟩
  · rintro ⟨indexes, primaryKeys, checks, foreignKeys, left⟩
    exact ⟨⟨indexes, coversNone_touched_iff.mpr fun pair member => (left pair member).indexes⟩,
      ⟨primaryKeys,
        coversNone_touched_iff.mpr fun pair member => (left pair member).primaryKeys⟩,
      checks,
      ⟨foreignKeys,
        coversNone_touched_iff.mpr fun pair member => (left pair member).foreignKeys⟩⟩

end TableChanges

namespace Scripter

variable {source target : Value} (scripter : Scripter)

/--
Between tables with the same names under the same parent an alteration is empty exactly when the
scripter finds no change.
-/
theorem alterTable_eq_empty_iff
    (sourceTyped : source.isTyped .table = true)
    (targetTyped : target.isTyped .table = true)
    (sourceApart : scripter.dialect.TellsColumnsApart source)
    (targetApart : scripter.dialect.TellsColumnsApart target)
    (names : source.HasNamesOf target)
    (sameParent : inheritanceSteps source target = .ok []) :
    scripter.alterTable source target true = .ok "" ↔ scripter.FindsNoChange source target := by
  rcases TableChanges.between_ok scripter.dialect scripter.options sourceTyped targetTyped with
    ⟨byPosition, scripted, byPositionPerm, scriptedPerm, changesOk⟩
  rcases TableChanges.planned_rows source target targetTyped byPosition scripted with
    ⟨indexRows, checkRows, primaryRows, foreignKeyRows⟩
  have droppedNone : scripter.dialect.unmatched source byPosition = [] :=
    TableChanges.unmatched_eq_nil sourceApart fun column member =>
      names.columns.2 column (byPositionPerm.subset member)
  have addedNone : scripter.dialect.unmatched target scripted = [] :=
    TableChanges.unmatched_eq_nil targetApart fun column member =>
      names.columns.1 column (scriptedPerm.subset member)
  have altered_iff : ∀ pair : Value × Value,
      pair ∈ scripted.filterMap (scripter.dialect.alteredBy? target) ↔
        pair.1 ∈ source.rows "columns" ∧ pair.2 ∈ target.rows "columns" ∧
          scripter.dialect.columnKey pair.1 = scripter.dialect.columnKey pair.2 ∧
            pair.1.definition ≠ pair.2.definition :=
    fun _ => TableChanges.mem_altered_iff sourceTyped targetTyped targetApart scriptedPerm
  rw [scripter.alterTable_eq_empty_iff_forall targetTyped changesOk sameParent,
    List.forall_mem_append, List.forall_mem_append,
    scripter.forall_keyDrops_iff indexRows checkRows primaryRows foreignKeyRows,
    TableChanges.planned_drops_eq_nil_iff sourceTyped targetTyped names droppedNone,
    TableChanges.planned_columnSteps droppedNone addedNone, List.forall_mem_map]
  constructor
  · rintro ⟨remain, quiet, _⟩
    rcases (TableChanges.groupsRemain_touched_iff scripter.dialect).mp remain with
      ⟨indexes, primaryKeys, checks, foreignKeys, leaves⟩
    refine ⟨indexes, primaryKeys, checks, foreignKeys, ?_⟩
    intro left leftMember right rightMember sameKey
    by_cases equal : left.definition = right.definition
    · exact Or.inl equal
    · have altered := (altered_iff (left, right)).mpr ⟨leftMember, rightMember, sameKey, equal⟩
      exact Or.inr ⟨quiet (left, right) altered, leaves (left, right) altered⟩
  · intro same
    have silent : ∀ pair ∈ scripted.filterMap (scripter.dialect.alteredBy? target),
        scripter.AltersSilently target pair.1 pair.2 := by
      intro pair member
      rcases (altered_iff pair).mp member with ⟨leftMember, rightMember, sameKey, differ⟩
      exact (same.columns pair.1 leftMember pair.2 rightMember sameKey).resolve_left differ
    have remain := (TableChanges.groupsRemain_touched_iff scripter.dialect).mpr
      ⟨same.indexes, same.primaryKeys, same.checks, same.foreignKeys,
        fun pair member => (silent pair member).leaves⟩
    refine ⟨remain, fun pair member => (silent pair member).statement, ?_⟩
    rw [TableChanges.planned_keyAdditions sourceTyped targetTyped droppedNone remain]
    exact fun step => List.not_mem_nil.elim

end Scripter

end SchemaDelta
