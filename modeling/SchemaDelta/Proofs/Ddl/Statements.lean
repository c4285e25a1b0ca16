import SchemaDelta.Ddl.Scripter
import SchemaDelta.Proofs.Attempt
import SchemaDelta.Proofs.Ddl.Grouping

/-!
# Statements are never empty

A script that drops or adds something has a text: in no dialect is the drop or the addition of a key,
an index, a check constraint or a column the empty text, nor is the drop of a foreign key.
-/

namespace SchemaDelta

/-! ## Scripts with a text -/

/-- If there is a script, it is not the empty text. -/
abbrev Attempt.Speaks
    (script : Script) : Prop :=
  Attempt.Ensures (· ≠ "") script

open Attempt (Speaks ensures_bind ensures_error ensures_pure)

/-! ## Variants -/

/-- A dialect accepts the objects of the class that it scripts, and no others. -/
theorem Dialect.expect_ok_iff
    {dialect : Dialect}
    {expected : ObjectClass}
    {value : Value} :
    dialect.expect expected value = .ok () ↔ value.isA expected = true := by
  cases value with
  | object kind fields =>
      rw [expect, Value.required]
      cases isA : (Value.object kind fields).isA expected with
      | true => exact ⟨fun _ => rfl, fun _ => rfl⟩
      | false =>
          constructor
          · intro impossible
            cases impossible
          · intro impossible
            cases impossible
  | _ =>
      constructor
      · intro impossible
        cases impossible
      · intro impossible
        cases impossible

/-! ## Groups -/

/-- Texts that are all made without failure are empty together exactly when each is. -/
theorem join_mapM_eq_empty_iff
    {α : Type}
    {items : List α}
    {script : α → Script} :
    (do return String.join (← items.mapM script)) = (.ok "" : Script) ↔
      ∀ item ∈ items, script item = .ok "" := by
  induction items with
  | nil => simp
  | cons item items ih =>
      rw [List.mapM_cons, List.forall_mem_cons, ← ih]
      constructor
      · intro empty
        rcases Attempt.bind_eq_ok_iff.mp empty with ⟨texts, made, joined⟩
        rcases Attempt.bind_eq_ok_iff.mp made with ⟨first, firstMade, restMade⟩
        rcases Attempt.bind_eq_ok_iff.mp restMade with ⟨rest, others, equal⟩
        cases equal
        rw [Attempt.pure_eq_ok, Except.ok.injEq, String.join_cons,
          String.append_eq_empty_iff] at joined
        rw [firstMade, others]
        exact ⟨congrArg Except.ok joined.1, congrArg Except.ok joined.2⟩
      · rintro ⟨firstEmpty, restEmpty⟩
        rcases Attempt.bind_eq_ok_iff.mp restEmpty with ⟨rest, others, joined⟩
        rw [Attempt.pure_eq_ok, Except.ok.injEq] at joined
        rw [firstEmpty, others]
        simp [String.join_cons, joined]

/-- The script of groups has a text when the statements of all groups have one. -/
theorem speaks_groupScripts
    {groups : List (List Value)}
    {statement : Value → List Value → Script}
    (notEmpty : groups ≠ [])
    (speaks : ∀ row group, Speaks (statement row group)) :
    Speaks (groupScripts groups statement) := by
  rintro _ made rfl
  rcases List.exists_mem_of_ne_nil groups notEmpty with ⟨group, member⟩
  exact speaks _ _ "" (join_mapM_eq_empty_iff.mp made group member) rfl

private theorem speaks_ofGroups
    {rows : List Value}
    {statement : Value → List Value → Script}
    (areRows : ∀ row ∈ rows, row.IsRow)
    (notEmpty : rows ≠ [])
    (speaks : ∀ row group, Speaks (statement row group)) :
    Speaks (do groupScripts (← (Value.list rows).groups) statement) := by
  rw [Value.groups_ok areRows, Attempt.ok_bind]
  refine speaks_groupScripts ?_ speaks
  rcases List.exists_mem_of_ne_nil rows notEmpty with ⟨row, member⟩
  exact List.ne_nil_of_mem (Value.exists_mem_rowGroups member)

namespace MicrosoftSql

open Value (groupsOf listing sortedOn)

/-- Rows of clustered indexes before all others, the rows of both sorts by schema and name. -/
def clusteredFirst
    (rows : List Value) : List Value :=
  sortedOn listing (rows.filter isClustered) ++
    sortedOn listing (rows.filter fun row => !isClustered row)

theorem mem_clusteredFirst
    {rows : List Value}
    {row : Value} :
    row ∈ clusteredFirst rows ↔ row ∈ rows := by
  rw [clusteredFirst, List.mem_append, Value.mem_sortedOn, Value.mem_sortedOn, List.mem_filter,
    List.mem_filter, ← and_or_left, Bool.not_eq_true']
  exact and_iff_left (Bool.eq_false_or_eq_true _)

/-- Indexes are created by the groups of rows with the clustered ones first. -/
theorem createIndexes_eq_of_isListed
    (options : Options)
    (owner : Value)
    {rows : List Value}
    (areRows : ∀ row ∈ rows, row.IsListed) :
    createIndexes options owner (.list rows) = (do
      rows.forM (dialect.expect .microsoftSqlIndex)
      groupScripts (groupsOf (clusteredFirst rows)) (createIndex options owner)) := by
  have listed : ∀ test : Value → Bool,
      Value.sortedByName (rows.filter test) = .ok (sortedOn listing (rows.filter test)) :=
    fun test => Value.sortedByName_ok fun row member =>
      (areRows row (List.mem_filter.mp member).1).listingKey_ok
  have grouped : groupByName id (clusteredFirst rows) = .ok (groupsOf (clusteredFirst rows)) :=
    Value.groupByName_ok_of_isListed fun row member => areRows row (mem_clusteredFirst.mp member)
  rw [clusteredFirst] at grouped ⊢
  simp only [createIndexes, Value.items, Attempt.ok_bind, listed, grouped]

theorem createIndexes_eq
    (options : Options)
    (owner : Value)
    {rows : List Value}
    (areRows : ∀ row ∈ rows, row.IsRow) :
    createIndexes options owner (.list rows) = (do
      rows.forM (dialect.expect .microsoftSqlIndex)
      groupScripts (groupsOf (clusteredFirst rows)) (createIndex options owner)) :=
  createIndexes_eq_of_isListed options owner fun row member => (areRows row member).isListed

end MicrosoftSql

/-- The statement that creates the index of a group of rows. -/
def Dialect.createIndex
    (dialect : Dialect)
    (options : Options)
    (owner : Value)
    (group : List Value) : Script :=
  match dialect with
  | microsoftSql => MicrosoftSql.createIndex options owner (group.headD .null) group
  | mySql => MySql.createIndex options owner (group.headD .null) group
  | postgreSql => PostgreSql.createIndex options owner (group.headD .null) group

/-! ## Drops -/

namespace Dialect

variable {rows : List Value} (dialect : Dialect) (options : Options)

theorem speaks_dropForeignKeys
    (areRows : ∀ row ∈ rows, row.IsRow)
    (notEmpty : rows ≠ []) :
    Speaks (dialect.statements.dropForeignKeys options (.list rows)) := by
  cases dialect with
  | microsoftSql =>
      apply speaks_ofGroups areRows notEmpty
      intro row group
      exact ensures_bind fun _ => ensures_bind fun _ => ensures_pure (by simp)
  | mySql =>
      apply speaks_ofGroups areRows notEmpty
      intro row group
      exact ensures_bind fun _ => ensures_bind fun _ => ensures_pure (by simp)
  | postgreSql =>
      apply speaks_ofGroups areRows notEmpty
      intro row group
      exact ensures_bind fun _ => ensures_bind fun _ => ensures_pure (by simp)

theorem speaks_dropPrimaryKeys
    (areRows : ∀ row ∈ rows, row.IsRow)
    (notEmpty : rows ≠ []) :
    Speaks (dialect.statements.dropPrimaryKeys options (.list rows)) := by
  cases dialect with
  | microsoftSql => exact speaks_dropForeignKeys .microsoftSql options areRows notEmpty
  | mySql =>
      apply speaks_ofGroups areRows notEmpty
      intro row group
      exact ensures_bind fun _ => ensures_pure (by simp)
  | postgreSql => exact speaks_dropForeignKeys .postgreSql options areRows notEmpty

theorem speaks_dropChecks
    (areRows : ∀ row ∈ rows, row.IsRow)
    (notEmpty : rows ≠ []) :
    Speaks (dialect.statements.dropChecks options (.list rows)) := by
  cases dialect with
  | microsoftSql => exact speaks_dropForeignKeys .microsoftSql options areRows notEmpty
  | mySql =>
      apply speaks_ofGroups areRows notEmpty
      intro row group
      exact ensures_bind fun _ => ensures_bind fun _ => ensures_pure (by simp)
  | postgreSql => exact speaks_dropForeignKeys .postgreSql options areRows notEmpty

theorem speaks_dropIndexes
    (owner : Value)
    (areRows : ∀ row ∈ rows, row.IsRow)
    (notEmpty : rows ≠ []) :
    Speaks (dialect.statements.dropIndexes options owner (.list rows)) := by
  cases dialect with
  | microsoftSql =>
      apply speaks_ofGroups areRows notEmpty
      intro row group
      exact ensures_bind fun _ => ensures_bind fun _ => ensures_pure (by simp)
  | mySql =>
      apply speaks_ofGroups areRows notEmpty
      intro row group
      exact ensures_bind fun _ => ensures_bind fun _ => ensures_pure (by simp)
  | postgreSql =>
      apply speaks_ofGroups areRows notEmpty
      intro row group
      apply ensures_bind
      intro own
      dsimp only
      split
      · exact ensures_bind fun _ => ensures_bind fun _ => ensures_bind fun _ => ensures_pure (by simp)
      · exact ensures_bind fun _ => ensures_bind fun _ => ensures_bind fun _ => ensures_pure (by simp)

/-! ## Additions -/

theorem speaks_addPrimaryKeys
    (table : Value)
    (areRows : ∀ row ∈ rows, row.IsRow)
    (notEmpty : rows ≠ []) :
    Speaks (dialect.statements.addPrimaryKeys options table (.list rows)) := by
  cases dialect with
  | microsoftSql =>
      apply speaks_ofGroups areRows notEmpty
      intro row group
      exact ensures_bind fun _ => ensures_bind fun _ => ensures_bind fun _ => ensures_bind fun _ =>
        ensures_bind fun _ => ensures_pure (by simp)
  | mySql =>
      apply speaks_ofGroups areRows notEmpty
      intro row group
      exact ensures_bind fun _ => ensures_bind fun _ => ensures_pure (by simp)
  | postgreSql =>
      apply speaks_ofGroups areRows notEmpty
      intro row group
      exact ensures_bind fun _ => ensures_bind fun _ => ensures_bind fun _ => ensures_pure (by simp)

theorem speaks_addChecks
    (table : Value)
    (areRows : ∀ row ∈ rows, row.IsRow)
    (notEmpty : rows ≠ []) :
    Speaks (dialect.statements.addChecks options table (.list rows)) := by
  cases dialect with
  | microsoftSql =>
      apply speaks_ofGroups areRows notEmpty
      intro row group
      exact ensures_bind fun _ => ensures_bind fun _ => ensures_bind fun _ => ensures_pure (by simp)
  | mySql =>
      apply speaks_ofGroups areRows notEmpty
      intro row group
      exact ensures_bind fun _ => ensures_bind fun _ => ensures_bind fun _ => ensures_pure (by simp)
  | postgreSql =>
      apply speaks_ofGroups areRows notEmpty
      intro row group
      exact ensures_bind fun _ => ensures_bind fun _ => ensures_bind fun _ => ensures_pure (by simp)

theorem speaks_createIndexes
    (owner : Value)
    (areRows : ∀ row ∈ rows, row.IsRow)
    (notEmpty : rows ≠ []) :
    Speaks (dialect.statements.createIndexes options owner (.list rows)) := by
  cases dialect with
  | microsoftSql =>
      change Speaks (MicrosoftSql.createIndexes options owner (.list rows))
      rw [MicrosoftSql.createIndexes_eq options owner areRows]
      refine ensures_bind fun _ => speaks_groupScripts ?_ fun row group => ?_
      · rcases List.exists_mem_of_ne_nil rows notEmpty with ⟨row, member⟩
        rcases Value.exists_mem_groupsOf (MicrosoftSql.mem_clusteredFirst.mpr member) with
          ⟨group, grouped, _⟩
        exact List.ne_nil_of_mem grouped
      · exact ensures_bind fun _ => ensures_bind fun _ => ensures_bind fun _ => ensures_bind fun _ =>
          ensures_bind fun _ => ensures_bind fun _ => ensures_pure (by simp)
  | mySql =>
      apply speaks_ofGroups areRows notEmpty
      intro row group
      refine ensures_bind fun _ => ensures_bind fun _ => ensures_bind fun _ => ?_
      dsimp only
      split
      · exact ensures_error
      · exact ensures_bind fun _ => ensures_bind fun _ => ensures_bind fun _ => ensures_bind fun _ =>
          ensures_pure (by simp)
  | postgreSql =>
      apply speaks_ofGroups areRows notEmpty
      intro row group
      refine ensures_bind fun _ => ensures_bind fun _ => ensures_bind fun _ => ?_
      split
      · exact ensures_error
      · exact ensures_bind fun _ => ensures_bind fun _ => ensures_bind fun _ => ensures_bind fun _ =>
          ensures_bind fun _ => ensures_pure (by simp)

/-! ## Columns -/

theorem speaks_addColumn
    (table column : Value) :
    Speaks (dialect.statements.addColumn options table column) := by
  cases dialect with
  | microsoftSql => exact ensures_bind fun _ => ensures_bind fun _ => ensures_pure (by simp)
  | mySql => exact ensures_bind fun _ => ensures_bind fun _ => ensures_pure (by simp)
  | postgreSql => exact ensures_bind fun _ => ensures_bind fun _ => ensures_pure (by simp)

end Dialect

namespace Scripter

variable (scripter : Scripter)

theorem speaks_dropColumn
    (table column : Value)
    (tableName : String) :
    Speaks (scripter.dropColumn table column tableName) :=
  ensures_bind fun _ => ensures_bind fun _ => ensures_pure (by simp)

end Scripter

end SchemaDelta
