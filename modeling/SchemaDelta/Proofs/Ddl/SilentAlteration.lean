import SchemaDelta.Proofs.Ddl.ColumnRecreation
import SchemaDelta.Proofs.Ddl.ColumnStep

/-!
# Columns that are altered by no statement

Two columns have different definitions as soon as one of their fields differs.  A statement for them
is only written if a part of the definition differs that a dialect compares: how the values come
about, the text of the type, whether there may be nulls, or the default.
-/

namespace SchemaDelta

namespace Dialect

/--
A dialect sees no change between two columns: their values come about alike, one text is the type of
both, and both say the same of nulls and of the default.  MySQL does not compare columns.
-/
structure SeesNoChange
    (dialect : Dialect)
    (options : Options)
    (source target : Value) : Prop where
  compares : dialect ≠ mySql
  generation : dialect.GeneratesAlike source target
  type : ∃ type, dialect.statements.columnType options source = .ok type ∧
    dialect.statements.columnType options target = .ok type
  nullability : source.get "is_nullable" = target.get "is_nullable"
  defaultValue : source.get "column_default" = target.get "column_default"

/-- A dialect sees that the column under a folded name is lost or redefined. -/
inductive SeesColumn
    (dialect : Dialect)
    (options : Options)
    (source target : Value)
    (key : String) : Prop where
  | lost
      {column : Value}
      (loses : dialect.LosesColumn source target key column)
  | redefined
      {left right : Value}
      (redefines : dialect.RedefinesColumn source target key left right)
      (seen : ¬dialect.SeesNoChange options left right)

/-- The column under a folded name is redefined, and the dialect sees no change. -/
def MissesColumn
    (dialect : Dialect)
    (options : Options)
    (source target : Value)
    (key : String) : Prop :=
  ∃ left right, dialect.RedefinesColumn source target key left right ∧
    dialect.SeesNoChange options left right

end Dialect

open Attempt (bind_eq_ok_iff)
open Value (part_of_declaresExact get_agrees_self)

variable {options : Options} {table source target : Value}

namespace MicrosoftSql

private theorem isA_of_columnType
    {column : Value}
    {type : String}
    (typeOk : columnType options column = .ok type) :
    column.isA .microsoftSqlColumn = true := by
  rcases bind_eq_ok_iff.mp typeOk with ⟨_, accepted, _⟩
  exact Dialect.expect_ok_iff.mp accepted

private theorem alterColumn_eq_empty_iff
    (tableTyped : table.isTyped .table = true)
    (sourceTyped : source.isTyped .column = true)
    (targetTyped : target.isTyped .column = true) :
    alterColumn options table source target = .ok "" ↔
      dialect.SeesNoChange options source target := by
  have named : dialect.objectName options table = _ := Dialect.objectName_ok tableTyped
  have quoted : dialect.quotePart target "name" = _ :=
    Dialect.quotePart_ok targetTyped ObjectClass.column_declares_name
  constructor
  · intro silent
    rcases same_of_alterColumn_eq_empty silent with
      ⟨sourceIsA, targetIsA, stays, ⟨type, sourceType, targetType⟩, nullables, defaults⟩
    have sourceTyped := Value.isTyped_of_isA sourceTyped sourceIsA
    have targetTyped := Value.isTyped_of_isA targetTyped targetIsA
    rcases exists_isRecreated sourceTyped targetTyped with ⟨recreated, recreatedOk, alike_iff⟩
    rw [stays, Except.ok.injEq] at recreatedOk
    refine ⟨nofun, alike_iff.mp recreatedOk.symm, ⟨.text type, ?_, ?_⟩,
      nullables.get_eq sourceTyped targetTyped (by decide),
      defaults.get_eq sourceTyped targetTyped (by decide)⟩
    · exact bind_eq_ok_iff.mpr ⟨type, sourceType, rfl⟩
    · exact bind_eq_ok_iff.mpr ⟨type, targetType, rfl⟩
  · rintro ⟨_, alike, ⟨type, sourceTypeOk, targetTypeOk⟩, sameNullable, sameDefault⟩
    rcases bind_eq_ok_iff.mp sourceTypeOk with ⟨letters, sourceType, equal⟩
    rcases bind_eq_ok_iff.mp targetTypeOk with ⟨others, targetType, otherEqual⟩
    cases equal
    cases otherEqual
    have sourceIsA := isA_of_columnType sourceType
    have targetIsA := isA_of_columnType targetType
    have sourceTyped := Value.isTyped_of_isA sourceTyped sourceIsA
    have targetTyped := Value.isTyped_of_isA targetTyped targetIsA
    rcases exists_isRecreated sourceTyped targetTyped with ⟨recreated, recreatedOk, alike_iff⟩
    obtain rfl := alike_iff.mpr alike
    have nullsAgree : (target.get "is_nullable").agrees (target.get "is_nullable") = true :=
      get_agrees_self targetTyped (by decide)
    have defaultsAgree :
        (target.get "column_default").agrees (target.get "column_default") = true :=
      get_agrees_self targetTyped (by decide)
    simp (disch := decide) only [alterColumn, Dialect.expect_ok_iff.mpr sourceIsA,
      Dialect.expect_ok_iff.mpr targetIsA, named, quoted, recreatedOk, sourceType, targetType,
      part_of_declaresExact sourceTyped, part_of_declaresExact targetTyped, Attempt.ok_bind,
      Attempt.pure_eq_ok, sameNullable, sameDefault, alterDefault, nullsAgree, defaultsAgree]
    simp

end MicrosoftSql

namespace PostgreSql

private theorem isA_of_columnType
    {column type : Value}
    (typeOk : columnType options column = .ok type) :
    column.isA .postgreSqlColumn = true := by
  rcases bind_eq_ok_iff.mp typeOk with ⟨_, accepted, _⟩
  exact Dialect.expect_ok_iff.mp accepted

private theorem alterColumn_eq_empty_iff
    (tableTyped : table.isTyped .table = true)
    (sourceTyped : source.isTyped .column = true)
    (targetTyped : target.isTyped .column = true) :
    alterColumn options table source target = .ok "" ↔
      dialect.SeesNoChange options source target := by
  have named : dialect.objectName options table = _ := Dialect.objectName_ok tableTyped
  have quoted : dialect.quotePart target "name" = _ :=
    Dialect.quotePart_ok targetTyped ObjectClass.column_declares_name
  constructor
  · intro silent
    rcases same_of_alterColumn_eq_empty silent with
      ⟨sourceIsA, targetIsA, stays, ⟨type, other, sourceType, targetType, sameType⟩, nullables,
        defaults⟩
    have sourceTyped := Value.isTyped_of_isA sourceTyped sourceIsA
    have targetTyped := Value.isTyped_of_isA targetTyped targetIsA
    obtain rfl : type = other := by
      rcases columnType_isText sourceTyped _ sourceType with ⟨letters, rfl⟩
      rcases columnType_isText targetTyped _ targetType with ⟨others, rfl⟩
      exact congrArg Value.text (beq_iff_eq.mp (Bool.and_eq_true_iff.mp sameType).2)
    rcases exists_isRecreated sourceTyped targetTyped with ⟨recreated, recreatedOk, alike_iff⟩
    rw [stays, Except.ok.injEq] at recreatedOk
    exact ⟨nofun, alike_iff.mp recreatedOk.symm, ⟨type, sourceType, targetType⟩,
      nullables.get_eq sourceTyped targetTyped (by decide),
      defaults.get_eq sourceTyped targetTyped (by decide)⟩
  · rintro ⟨_, alike, ⟨type, sourceType, targetType⟩, sameNullable, sameDefault⟩
    have sourceIsA := isA_of_columnType sourceType
    have targetIsA := isA_of_columnType targetType
    have sourceTyped := Value.isTyped_of_isA sourceTyped sourceIsA
    have targetTyped := Value.isTyped_of_isA targetTyped targetIsA
    rcases exists_isRecreated sourceTyped targetTyped with ⟨recreated, recreatedOk, alike_iff⟩
    obtain rfl := alike_iff.mpr alike
    have typesAgree : type.agrees type = true := by
      rcases columnType_isText sourceTyped _ sourceType with ⟨letters, rfl⟩
      exact beq_self_eq_true letters
    have nullsAgree : (target.get "is_nullable").agrees (target.get "is_nullable") = true :=
      get_agrees_self targetTyped (by decide)
    have defaultsAgree :
        (target.get "column_default").agrees (target.get "column_default") = true :=
      get_agrees_self targetTyped (by decide)
    change columnType options source = .ok type at sourceType
    change columnType options target = .ok type at targetType
    simp (disch := decide) only [alterColumn, alterType, Dialect.expect_ok_iff.mpr sourceIsA,
      Dialect.expect_ok_iff.mpr targetIsA, named, quoted, recreatedOk, sourceType, targetType,
      part_of_declaresExact sourceTyped, part_of_declaresExact targetTyped, Attempt.ok_bind,
      Attempt.pure_eq_ok, sameNullable, sameDefault, alterNullability, alterDefault, typesAgree,
      nullsAgree, defaultsAgree]
    simp

end PostgreSql

namespace Dialect

/-- A column is altered by no statement exactly where a dialect sees no change. -/
theorem alterColumn_eq_empty_iff
    {dialect : Dialect}
    (tableTyped : table.isTyped .table = true)
    (sourceTyped : source.isTyped .column = true)
    (targetTyped : target.isTyped .column = true) :
    dialect.statements.alterColumn options table source target = .ok "" ↔
      dialect.SeesNoChange options source target := by
  cases dialect with
  | microsoftSql => exact MicrosoftSql.alterColumn_eq_empty_iff tableTyped sourceTyped targetTyped
  | mySql =>
      have speaks : Attempt.Speaks (MySql.alterColumn options table source) :=
        Attempt.ensures_bind fun _ => Attempt.ensures_bind fun _ => Attempt.ensures_pure (by simp)
      exact ⟨fun silent => (speaks "" silent rfl).elim, fun same => (same.compares rfl).elim⟩
  | postgreSql => exact PostgreSql.alterColumn_eq_empty_iff tableTyped sourceTyped targetTyped

end Dialect

end SchemaDelta
