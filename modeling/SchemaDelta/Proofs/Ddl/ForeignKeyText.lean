import Mathlib.Algebra.GroupWithZero.Nat
import SchemaDelta.Proofs.Ddl.Statements
import SchemaDelta.Proofs.Ddl.Table

/-!
# Texts of foreign keys

The statement that adds a foreign key lists the columns of its rows and the columns they reference.
All else in it comes from the first row and from the table, so a statement about fewer rows is
shorter, and it is shorter by a letter at least for every row that is left out.
-/

namespace SchemaDelta

open Attempt (bind_eq_ok_iff)
open Value (rowGroups)

/-! ## Lists of names -/

/-- Weights of at least one add up to as much more as there are more items. -/
private theorem sum_add_length_le_of_sublist
    {α : Type}
    {weight : α → Nat}
    {items others : List α}
    (weighs : ∀ item, 1 ≤ weight item)
    (within : items.Sublist others) :
    (items.map weight).sum + others.length ≤ (others.map weight).sum + items.length := by
  induction within with
  | slnil => exact Nat.le_refl _
  | cons other _ ih =>
      have heavy := weighs other
      simp only [List.map_cons, List.sum_cons, List.length_cons]
      omega
  | cons_cons other _ ih =>
      simp only [List.map_cons, List.sum_cons, List.length_cons]
      omega

namespace Dialect

variable (dialect : Dialect) {rows others : List Value}

/-- The quoted names in a part of rows. -/
def quotedList
    (name : String)
    (rows : List Value) : String :=
  ",".intercalate (rows.map fun row => dialect.quote (row.letters name))

theorem quotedParts_ok
    {kind : ObjectClass}
    {name : String}
    (typed : ∀ row ∈ rows, row.isTyped kind = true)
    (declared : kind.declares name .text = true) :
    dialect.quotedParts name rows = .ok (dialect.quotedList name rows) := by
  have quoted : (rows.mapM fun row => dialect.quotePart row name) =
      .ok (rows.map fun row => dialect.quote (row.letters name)) :=
    Attempt.mapM_ok fun row member => quotePart_ok (typed row member) declared
  rw [quotedParts, quoted]
  rfl

/-- Every name of a list takes its own letters and one more, but for the last one. -/
private theorem length_quotedList
    (name : String)
    (row : Value)
    (rows : List Value) :
    (dialect.quotedList name (row :: rows)).length + 1 =
      ((row :: rows).map fun row => (dialect.quote (row.letters name)).length + 1).sum := by
  induction rows generalizing row with
  | nil => simp [quotedList]
  | cons next rows ih =>
      have rest := ih next
      simp only [quotedList, List.map_cons, String.intercalate_cons_cons, String.length_append,
        List.sum_cons] at rest ⊢
      have comma : ",".length = 1 := rfl
      omega

/-- A list of names of some rows is shorter than that of more rows. -/
theorem length_quotedList_add_length_le
    (name : String)
    (notEmpty : rows ≠ [])
    (within : rows.Sublist others) :
    (dialect.quotedList name rows).length + others.length ≤
      (dialect.quotedList name others).length + rows.length := by
  have othersNotEmpty : others ≠ [] := by
    rintro rfl
    exact notEmpty (List.sublist_nil.mp within)
  rcases List.exists_cons_of_ne_nil notEmpty with ⟨first, rest, rfl⟩
  rcases List.exists_cons_of_ne_nil othersNotEmpty with ⟨other, otherRest, rfl⟩
  have length := dialect.length_quotedList name first rest
  have otherLength := dialect.length_quotedList name other otherRest
  have weighs : ∀ row : Value, 1 ≤ (dialect.quote (row.letters name)).length + 1 :=
    fun _ => Nat.le_add_left ..
  have sums := sum_add_length_le_of_sublist weighs within
  omega

/-! ## Statements -/

/-- The statement that adds the foreign key of a group of rows, told of by a first row. -/
def addForeignKey
    (options : Options)
    (table first : Value)
    (group : List Value) : Script :=
  match dialect with
  | microsoftSql => do
    MicrosoftSql.addForeignKey options (← dialect.objectName options table) first group
  | mySql => MySql.addForeignKey options table first group
  | postgreSql => PostgreSql.addForeignKey options table first group

variable {options : Options} {table other first : Value} {group : List Value}
variable {written text : String}

/-- Foreign keys are added group by group. -/
theorem addForeignKeys_eq
    (typed : ∀ row ∈ rows, row.isTyped .foreignKey = true)
    (named : dialect.objectName options table = .ok written) :
    dialect.statements.addForeignKeys options table (.list rows) =
      groupScripts (rowGroups rows) (dialect.addForeignKey options table) := by
  have grouped := Value.groups_ok fun row member => Value.isRow_of_foreignKey (typed row member)
  cases dialect with
  | microsoftSql =>
      have sameStatement : microsoftSql.addForeignKey options table =
          MicrosoftSql.addForeignKey options written := by
        funext first group
        rw [addForeignKey, named, Attempt.ok_bind]
      rw [sameStatement]
      simp only [statements, MicrosoftSql.statements, MicrosoftSql.addForeignKeys,
        MicrosoftSql.dialect, named, grouped, Attempt.ok_bind]
  | mySql =>
      simp only [statements, MySql.statements, MySql.addForeignKeys, grouped, Attempt.ok_bind]
      rfl
  | postgreSql =>
      simp only [statements, PostgreSql.statements, PostgreSql.addForeignKeys, grouped,
        Attempt.ok_bind]
      rfl

/-- Of the table nothing but its name is in the statement. -/
theorem addForeignKey_congr
    (sameName : dialect.objectName options table = dialect.objectName options other) :
    dialect.addForeignKey options table = dialect.addForeignKey options other := by
  funext first group
  cases dialect with
  | microsoftSql => rw [addForeignKey, addForeignKey, sameName]
  | mySql =>
      simp only [addForeignKey, MySql.addForeignKey, MySql.alterTable, MySql.dialect, sameName]
  | postgreSql =>
      simp only [addForeignKey, PostgreSql.addForeignKey, PostgreSql.alterTable,
        PostgreSql.dialect, sameName]

/-- Around the two lists of columns the statement is the same for all rows with one first row. -/
theorem exists_frame_of_addForeignKey
    (typed : ∀ row ∈ group, row.isTyped .foreignKey = true)
    (stated : dialect.addForeignKey options table first group = .ok text) :
    ∃ opening between closing, opening ≠ "" ∧ ∀ rows : List Value,
      (∀ row ∈ rows, row.isTyped .foreignKey = true) →
        dialect.addForeignKey options table first rows =
          .ok (opening ++ dialect.quotedList "column_name" rows ++ between ++
            dialect.quotedList "referenced_column_name" rows ++ closing) := by
  have columns : ∀ {rows : List Value}, (∀ row ∈ rows, row.isTyped .foreignKey = true) →
      dialect.quotedParts "column_name" rows = .ok (dialect.quotedList "column_name" rows) :=
    fun typed => dialect.quotedParts_ok typed (by decide)
  have referenced : ∀ {rows : List Value}, (∀ row ∈ rows, row.isTyped .foreignKey = true) →
      dialect.quotedParts "referenced_column_name" rows =
        .ok (dialect.quotedList "referenced_column_name" rows) :=
    fun typed => dialect.quotedParts_ok typed (by decide)
  cases dialect with
  | microsoftSql =>
      simp only [addForeignKey, MicrosoftSql.addForeignKey, MicrosoftSql.dialect, bind_eq_ok_iff,
        columns typed, referenced typed, Attempt.ok_bind] at stated
      rcases stated with ⟨name, nameOk, quoted, quotedOk, target, targetOk, deletion, deletionOk,
        onDelete, onDeleteOk, updating, updatingOk, onUpdate, onUpdateOk, _⟩
      refine ⟨"ALTER TABLE " ++ name ++ " WITH CHECK ADD CONSTRAINT " ++ quoted ++ " FOREIGN KEY(",
        ")\n" ++ "REFERENCES " ++ target ++ " (",
        ")\n" ++ "ON DELETE " ++ onDelete ++ "\n" ++ "ON UPDATE " ++ onUpdate ++ "\n" ++
          MicrosoftSql.batchEnd ++ "\n" ++ "ALTER TABLE " ++ name ++ " CHECK CONSTRAINT " ++
          quoted ++ "\n" ++ MicrosoftSql.batchEnd ++ "\n", by simp, fun rows rowsTyped => ?_⟩
      simp only [addForeignKey, MicrosoftSql.addForeignKey, MicrosoftSql.dialect, nameOk, quotedOk,
        columns rowsTyped, referenced rowsTyped, targetOk, deletionOk, onDeleteOk, updatingOk,
        onUpdateOk, Attempt.ok_bind, Attempt.pure_eq_ok, String.append_assoc]
  | mySql =>
      simp only [addForeignKey, MySql.addForeignKey, MySql.dialect, bind_eq_ok_iff,
        columns typed, referenced typed, Attempt.ok_bind] at stated
      rcases stated with ⟨target, targetOk, altering, alteringOk, quoted, quotedOk, deletion,
        deletionOk, onDelete, onDeleteOk, updating, updatingOk, onUpdate, onUpdateOk, _⟩
      refine ⟨altering ++ "\n" ++ "ADD CONSTRAINT " ++ quoted ++ " FOREIGN KEY (",
        ")\n" ++ "REFERENCES " ++ target ++ " (",
        ")\n" ++ "ON DELETE " ++ onDelete ++ "\n" ++ "ON UPDATE " ++ onUpdate ++ ";\n\n",
        by simp, fun rows rowsTyped => ?_⟩
      simp only [addForeignKey, MySql.addForeignKey, MySql.dialect, alteringOk, quotedOk,
        columns rowsTyped, referenced rowsTyped, targetOk, deletionOk, onDeleteOk, updatingOk,
        onUpdateOk, Attempt.ok_bind, Attempt.pure_eq_ok, String.append_assoc]
  | postgreSql =>
      simp only [addForeignKey, PostgreSql.addForeignKey, PostgreSql.dialect, bind_eq_ok_iff,
        columns typed, referenced typed, Attempt.ok_bind] at stated
      rcases stated with ⟨_, expected, target, targetOk, matched, matchedOk, matching, matchingOk,
        altering, alteringOk, quoted, quotedOk, deletion, deletionOk, onDelete, onDeleteOk,
        updating, updatingOk, onUpdate, onUpdateOk, deferrable, deferrableOk, deferred, deferredOk,
        _⟩
      refine ⟨altering ++ "\n" ++ "ADD CONSTRAINT " ++ quoted ++ " FOREIGN KEY (",
        ")\n" ++ "REFERENCES " ++ target ++ " (",
        ") " ++ matching ++ "\n" ++ "ON DELETE " ++ onDelete ++ "\n" ++ "ON UPDATE " ++ onUpdate ++
          "\n" ++ (if deferrable.isTruthy then "DEFERRABLE\n" else "NOT DEFERRABLE\n") ++
          (if deferred.isTruthy then "INITIALLY DEFERRED;\n" else "INITIALLY IMMEDIATE;\n") ++ "\n",
        by simp, fun rows rowsTyped => ?_⟩
      simp only [addForeignKey, PostgreSql.addForeignKey, PostgreSql.dialect, expected, alteringOk,
        quotedOk, columns rowsTyped, referenced rowsTyped, targetOk, matchedOk, matchingOk,
        deletionOk, onDeleteOk, updatingOk, onUpdateOk, deferrableOk, deferredOk, Attempt.ok_bind,
        Attempt.pure_eq_ok, String.append_assoc]

/-- The statement about some of the rows is shorter by a letter at least for each of the others. -/
theorem exists_addForeignKey_of_sublist
    (typed : ∀ row ∈ group, row.isTyped .foreignKey = true)
    (notEmpty : rows ≠ [])
    (within : rows.Sublist group)
    (stated : dialect.addForeignKey options table first group = .ok text) :
    ∃ part, dialect.addForeignKey options table first rows = .ok part ∧
      part.length + group.length ≤ text.length + rows.length := by
  rcases dialect.exists_frame_of_addForeignKey typed stated with
    ⟨opening, between, closing, _, framed⟩
  have whole := Except.ok.inj (stated.symm.trans (framed group typed))
  refine ⟨_, framed rows fun row member => typed row (within.subset member), ?_⟩
  have columns := dialect.length_quotedList_add_length_le "column_name" notEmpty within
  have referenced :=
    dialect.length_quotedList_add_length_le "referenced_column_name" notEmpty within
  have fewer := within.length_le
  rw [whole]
  simp only [String.length_append]
  omega

/-- No foreign key is added by an empty statement. -/
theorem length_addForeignKey_pos
    (typed : ∀ row ∈ group, row.isTyped .foreignKey = true)
    (stated : dialect.addForeignKey options table first group = .ok text) :
    0 < text.length := by
  rcases dialect.exists_frame_of_addForeignKey typed stated with
    ⟨opening, between, closing, opens, framed⟩
  have whole := Except.ok.inj (stated.symm.trans (framed group typed))
  have positive := Nat.pos_of_ne_zero fun none => opens (String.length_eq_zero_iff.mp none)
  rw [whole]
  simp only [String.length_append]
  omega

end Dialect

end SchemaDelta
