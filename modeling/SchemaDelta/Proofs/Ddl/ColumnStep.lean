import SchemaDelta.Ddl.Scripter
import SchemaDelta.Proofs.Ddl.TableChange

/-!
# Columns that are lost or redefined

An alteration drops the columns that the source lacks and alters those that are defined there in
other words.  These are the columns for whose sake keys are rebuilt, whether the dialect sees a
change or not.
-/

namespace SchemaDelta

namespace Dialect

/-- A column of the target under a folded name has no counterpart in the source. -/
structure LosesColumn
    (dialect : Dialect)
    (source target : Value)
    (key : String)
    (column : Value) : Prop where
  member : column ∈ target.rows "columns"
  named : dialect.columnKey column = key
  missing : (dialect.columnMap source).lookup key = none

/-- The columns of both tables under a folded name have different definitions. -/
structure RedefinesColumn
    (dialect : Dialect)
    (source target : Value)
    (key : String)
    (left right : Value) : Prop where
  member : left ∈ source.rows "columns"
  named : dialect.columnKey left = key
  found : (dialect.columnMap target).lookup key = some right
  differ : left.definition ≠ right.definition

/-- A step of an alteration drops or alters the column under a folded name. -/
inductive ColumnStep
    (dialect : Dialect)
    (source target : Value)
    (key : String) : AlterStep → Prop where
  | drop
      {column : Value}
      (loses : dialect.LosesColumn source target key column) :
      ColumnStep dialect source target key (.dropColumn column)
  | alter
      {left right : Value}
      (redefines : dialect.RedefinesColumn source target key left right) :
      ColumnStep dialect source target key (.alterColumn left right)

end Dialect

section Columns

variable {dialect : Dialect} {source target : Value} {key : String}

theorem Dialect.RedefinesColumn.typed
    {left right : Value}
    (redefines : dialect.RedefinesColumn source target key left right)
    (sourceTyped : source.isTyped .table = true)
    (targetTyped : target.isTyped .table = true) :
    left.isTyped .column = true ∧ right.isTyped .column = true :=
  ⟨Value.column_isTyped sourceTyped redefines.member,
    Value.column_isTyped targetTyped (dialect.mem_of_lookup_columnMap redefines.found).1⟩

namespace TableChanges

/-- What is altered are the columns that are redefined. -/
theorem mem_altered_iff_redefines
    (sourceTyped : source.isTyped .table = true)
    (targetTyped : target.isTyped .table = true)
    {scripted : List Value}
    (scriptedPerm : scripted.Perm (source.rows "columns"))
    {left right : Value} :
    (left, right) ∈ scripted.filterMap (dialect.alteredBy? target) ↔
      dialect.RedefinesColumn source target (dialect.columnKey left) left right := by
  rw [List.mem_filterMap]
  constructor
  · rintro ⟨column, member, altered⟩
    rcases eq_of_alteredBy?_eq_some dialect altered with ⟨rfl, found, differs⟩
    refine ⟨scriptedPerm.subset member, rfl, found, fun equal => ?_⟩
    have flat := Value.definition_isFlat
      (Value.column_isTyped targetTyped (dialect.mem_of_lookup_columnMap found).1)
    rw [equal, (Value.beq_iff_eq_of_isFlat flat flat).mpr rfl] at differs
    cases differs
  · intro redefines
    rcases redefines.typed sourceTyped targetTyped with ⟨leftTyped, rightTyped⟩
    have differs : (left.definition == right.definition) = false :=
      Bool.eq_false_iff.mpr fun same => redefines.differ
        ((Value.beq_iff_eq_of_isFlat (Value.definition_isFlat leftTyped)
          (Value.definition_isFlat rightTyped)).mp same)
    refine ⟨left, scriptedPerm.symm.subset redefines.member, ?_⟩
    simp [Dialect.alteredBy?, redefines.found, differs]

/-- What is dropped are the columns that are lost. -/
theorem mem_unmatched_iff_loses
    {byPosition : List Value}
    (byPositionPerm : byPosition.Perm (target.rows "columns"))
    {column : Value} :
    column ∈ dialect.unmatched source byPosition ↔
      dialect.LosesColumn source target (dialect.columnKey column) column := by
  rw [Dialect.unmatched, List.mem_filter, Option.isNone_iff_eq_none, byPositionPerm.mem_iff]
  exact ⟨fun ⟨member, missing⟩ => ⟨member, rfl, missing⟩,
    fun loses => ⟨loses.member, loses.missing⟩⟩

variable {byPosition scripted : List Value}

/-- What is touched are the columns that a step drops or alters. -/
theorem mem_touchedNames_iff
    (sourceTyped : source.isTyped .table = true)
    (targetTyped : target.isTyped .table = true)
    (byPositionPerm : byPosition.Perm (target.rows "columns"))
    (scriptedPerm : scripted.Perm (source.rows "columns")) :
    key ∈ touchedNames dialect (dialect.unmatched source byPosition)
        (scripted.filterMap (dialect.alteredBy? target)) ↔
      ∃ step, dialect.ColumnStep source target key step := by
  rw [touchedNames, List.map_append, List.map_map, List.mem_append, List.mem_map, List.mem_map]
  constructor
  · rintro (⟨column, member, rfl⟩ | ⟨⟨left, right⟩, member, rfl⟩)
    · exact ⟨_, .drop ((mem_unmatched_iff_loses byPositionPerm).mp member)⟩
    · exact ⟨_, .alter ((mem_altered_iff_redefines sourceTyped targetTyped scriptedPerm).mp member)⟩
  · rintro ⟨_, loses | redefines⟩
    · obtain rfl := loses.named
      exact .inl ⟨_, (mem_unmatched_iff_loses byPositionPerm).mpr loses, rfl⟩
    · obtain rfl := redefines.named
      exact .inr ⟨_, (mem_altered_iff_redefines sourceTyped targetTyped scriptedPerm).mpr redefines,
        rfl⟩

/-- Where no column is lost, what is touched are the columns that are redefined. -/
theorem mem_touchedNames_iff_redefines
    (sourceTyped : source.isTyped .table = true)
    (targetTyped : target.isTyped .table = true)
    (byPositionPerm : byPosition.Perm (target.rows "columns"))
    (scriptedPerm : scripted.Perm (source.rows "columns"))
    (noneLost : dialect.unmatched source byPosition = []) :
    key ∈ touchedNames dialect (dialect.unmatched source byPosition)
        (scripted.filterMap (dialect.alteredBy? target)) ↔
      ∃ left right, dialect.RedefinesColumn source target key left right := by
  rw [mem_touchedNames_iff sourceTyped targetTyped byPositionPerm scriptedPerm]
  constructor
  · rintro ⟨_, loses | redefines⟩
    · obtain rfl := loses.named
      have lost := (mem_unmatched_iff_loses byPositionPerm).mpr loses
      rw [noneLost] at lost
      cases lost
    · exact ⟨_, _, redefines⟩
  · rintro ⟨left, right, redefines⟩
    exact ⟨_, .alter redefines⟩

/-- An alteration takes every step that drops or alters a column. -/
theorem mem_columnSteps
    (sourceTyped : source.isTyped .table = true)
    (targetTyped : target.isTyped .table = true)
    (byPositionPerm : byPosition.Perm (target.rows "columns"))
    (scriptedPerm : scripted.Perm (source.rows "columns"))
    {step : AlterStep}
    (taken : dialect.ColumnStep source target key step) :
    step ∈ (planned dialect source target byPosition scripted).columnSteps := by
  rw [columnSteps, List.mem_append, List.mem_append]
  rcases taken with loses | redefines
  · obtain rfl := loses.named
    exact .inl (.inl (List.mem_map_of_mem ((mem_unmatched_iff_loses byPositionPerm).mpr loses)))
  · obtain rfl := redefines.named
    have altered :=
      (mem_altered_iff_redefines sourceTyped targetTyped scriptedPerm).mpr redefines
    exact .inr (List.mem_map.mpr ⟨_, altered, rfl⟩)

end TableChanges

end Columns

end SchemaDelta
