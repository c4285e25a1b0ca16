import SchemaDelta.Proofs.Ddl.ColumnDefinition
import SchemaDelta.Proofs.Ddl.Table
import SchemaDelta.Proofs.Value.Filled

/-!
# Columns dropped and created again

A column is altered where it stands, or it is dropped and added again, and its data is lost.  It is
dropped exactly where the catalog tells in other words how the values of the column come about, which
is not the same as another definition of the column in statements.
-/

namespace SchemaDelta

open Attempt (bind_eq_ok_iff)
open Value (part_of_declaresExact get_eq_of_declaresExact get_beq_self get_agrees_self)

/-! ## Values that come about alike -/

namespace MicrosoftSql

/--
Both columns are numbered or neither is, both are computed or neither is, and what the source says of
the numbering and of the computation is said of the target as well.
-/
structure GeneratesAlike
    (source target : Value) : Prop where
  identity : source.get "is_identity" = target.get "is_identity"
  computed : source.get "is_computed" = target.get "is_computed"
  numbering : (source.get "is_identity").isTruthy = true →
    source.get "identity_seed" = target.get "identity_seed" ∧
      source.get "identity_increment" = target.get "identity_increment"
  computation : (source.get "is_computed").isTruthy = true →
    source.get "definition" = target.get "definition" ∧
      source.get "is_persisted" = target.get "is_persisted"

/-- Whether a typed column is recreated is told by how its values come about. -/
theorem exists_isRecreated
    {source target : Value}
    (sourceTyped : source.isTyped .microsoftSqlColumn = true)
    (targetTyped : target.isTyped .microsoftSqlColumn = true) :
    ∃ recreated, isRecreated source target = .ok recreated ∧
      (recreated = false ↔ GeneratesAlike source target) := by
  simp (disch := decide) only [isRecreated, part_of_declaresExact sourceTyped,
    part_of_declaresExact targetTyped, Attempt.ok_bind, Attempt.pure_eq_ok]
  refine ⟨_, rfl, ?_⟩
  simp only [Bool.or_eq_false_iff, Bool.and_eq_false_imp, Bool.not_eq_false', Bool.and_eq_true]
  constructor
  · rintro ⟨⟨⟨sameIdentity, sameComputed⟩, sameNumbering⟩, sameComputation⟩
    constructor
    · exact get_eq_of_declaresExact sourceTyped targetTyped (by decide)
        (Bool.and_eq_true_iff.mp sameIdentity).2
    · exact get_eq_of_declaresExact sourceTyped targetTyped (by decide)
        (Bool.and_eq_true_iff.mp sameComputed).2
    · intro isIdentity
      exact ⟨get_eq_of_declaresExact sourceTyped targetTyped (by decide)
          (sameNumbering isIdentity).1,
        get_eq_of_declaresExact sourceTyped targetTyped (by decide) (sameNumbering isIdentity).2⟩
    · intro isComputed
      exact ⟨get_eq_of_declaresExact sourceTyped targetTyped (by decide)
          (sameComputation isComputed).1,
        get_eq_of_declaresExact sourceTyped targetTyped (by decide)
          (sameComputation isComputed).2⟩
  · rintro ⟨sameIdentity, sameComputed, sameNumbering, sameComputation⟩
    refine ⟨⟨⟨?_, ?_⟩, fun isIdentity => ?_⟩, fun isComputed => ?_⟩
    · rw [sameIdentity]
      exact get_agrees_self targetTyped (by decide)
    · rw [sameComputed]
      exact get_agrees_self targetTyped (by decide)
    · rw [(sameNumbering isIdentity).1, (sameNumbering isIdentity).2]
      exact ⟨get_beq_self targetTyped (by decide), get_beq_self targetTyped (by decide)⟩
    · rw [(sameComputation isComputed).1, (sameComputation isComputed).2]
      exact ⟨get_beq_self targetTyped (by decide), get_beq_self targetTyped (by decide)⟩

end MicrosoftSql

namespace PostgreSql

/-- Both columns name the same kind of identity and the same expression, letter by letter. -/
structure GeneratesAlike
    (source target : Value) : Prop where
  identity : source.get "identity_generation" = target.get "identity_generation"
  expression : source.get "generation_expression" = target.get "generation_expression"

/-- Whether a typed column is recreated is told by how its values come about. -/
theorem exists_isRecreated
    {source target : Value}
    (sourceTyped : source.isTyped .postgreSqlColumn = true)
    (targetTyped : target.isTyped .postgreSqlColumn = true) :
    ∃ recreated, isRecreated source target = .ok recreated ∧
      (recreated = false ↔ GeneratesAlike source target) := by
  simp (disch := decide) only [isRecreated, part_of_declaresExact sourceTyped,
    part_of_declaresExact targetTyped, Attempt.ok_bind, Attempt.pure_eq_ok]
  refine ⟨_, rfl, ?_⟩
  rw [Bool.not_eq_false', Bool.and_eq_true]
  constructor
  · rintro ⟨sameIdentity, sameExpression⟩
    exact ⟨get_eq_of_declaresExact sourceTyped targetTyped (by decide) sameIdentity,
      get_eq_of_declaresExact sourceTyped targetTyped (by decide) sameExpression⟩
  · rintro ⟨sameIdentity, sameExpression⟩
    rw [sameIdentity, sameExpression]
    exact ⟨get_beq_self targetTyped (by decide), get_beq_self targetTyped (by decide)⟩

end PostgreSql

/-! ## Changes in place -/

namespace MicrosoftSql

/-- A statement that changes a column of a table where it stands to what the source says. -/
inductive ChangesInPlace
    (options : Options)
    (tableName quoted : String)
    (source : Value) : String → Prop where
  | type
      {type : String}
      (typeOk : columnType options source = .ok type) :
      ChangesInPlace options tableName quoted source
        ("ALTER TABLE " ++ tableName ++ " ALTER COLUMN " ++ quoted ++ " " ++ type ++ " " ++
          nullability (source.get "is_nullable").isTruthy ++ "\n" ++ batchEnd)
  | newDefault :
      ChangesInPlace options tableName quoted source
        ("ALTER TABLE " ++ tableName ++ " ADD DEFAULT " ++ (source.get "column_default").display ++
          " FOR " ++ quoted ++ "\n" ++ batchEnd)
  | otherDefault :
      ChangesInPlace options tableName quoted source (placeholder "Alter Column Default Script")

end MicrosoftSql

namespace MySql

/-- A statement that gives a column of a table the definition of the source. -/
inductive ChangesInPlace
    (options : Options)
    (tableName : String)
    (source : Value) : String → Prop where
  | definition
      {definition : String}
      (definitionOk : columnDefinition options source = .ok definition) :
      ChangesInPlace options tableName source
        ("ALTER TABLE " ++ tableName ++ " MODIFY COLUMN " ++ definition ++ ";\n")

end MySql

namespace PostgreSql

/-- A statement that changes a column of a table where it stands to what the source says. -/
inductive ChangesInPlace
    (options : Options)
    (tableName quoted : String)
    (source : Value) : String → Prop where
  | type
      {type : Value}
      (typeOk : columnType options source = .ok type) :
      ChangesInPlace options tableName quoted source
        ("ALTER TABLE " ++ tableName ++ " ALTER COLUMN " ++ quoted ++ " TYPE " ++ type.display ++
          ";\n")
  | nulls
      (nullable : (source.get "is_nullable").isTruthy = true) :
      ChangesInPlace options tableName quoted source
        ("ALTER TABLE " ++ tableName ++ " ALTER COLUMN " ++ quoted ++ " DROP NOT NULL;\n")
  | noNulls
      (notNullable : (source.get "is_nullable").isTruthy = false) :
      ChangesInPlace options tableName quoted source
        ("ALTER TABLE " ++ tableName ++ " ALTER COLUMN " ++ quoted ++ " SET NOT NULL;\n")
  | noDefault
      (isNull : (source.get "column_default").isNull = true) :
      ChangesInPlace options tableName quoted source
        ("ALTER TABLE " ++ tableName ++ " ALTER COLUMN " ++ quoted ++ " DROP DEFAULT;\n")
  | newDefault :
      ChangesInPlace options tableName quoted source
        ("ALTER TABLE " ++ tableName ++ " ALTER COLUMN " ++ quoted ++ " SET DEFAULT " ++
          (source.get "column_default").display ++ ";\n")

end PostgreSql

namespace Dialect

/-- The values of two columns come about alike, as far as a dialect can tell them apart. -/
def GeneratesAlike
    (dialect : Dialect)
    (source target : Value) : Prop :=
  match dialect with
  | microsoftSql => MicrosoftSql.GeneratesAlike source target
  | mySql => True
  | postgreSql => PostgreSql.GeneratesAlike source target

/-- A statement that changes a column of a table where it stands to what the source says. -/
def ChangesInPlace
    (dialect : Dialect)
    (options : Options)
    (tableName quoted : String)
    (source : Value)
    (statement : String) : Prop :=
  match dialect with
  | microsoftSql => MicrosoftSql.ChangesInPlace options tableName quoted source statement
  | mySql => MySql.ChangesInPlace options tableName source statement
  | postgreSql => PostgreSql.ChangesInPlace options tableName quoted source statement

/-- The comment in front of a column that is dropped and added again. -/
def recreationWarning
    (tableName quoted : String) : String :=
  "-- WARNING: Column " ++ quoted ++ " of " ++ tableName ++
    " is dropped and recreated, existing data is lost.\n"

/--
The statements that bring a column of a table to the definition of the source: changes in place, or a
warning, the drop of the column and the column added again.
-/
inductive AltersColumn
    (dialect : Dialect)
    (options : Options)
    (table source target : Value) : List String → Prop where
  | inPlace
      {statements : List String}
      (alike : dialect.GeneratesAlike source target)
      (each : ∀ statement ∈ statements, dialect.ChangesInPlace options
        (dialect.tableText options (table.letters "schema") (table.letters "name"))
        (dialect.quote (target.letters "name")) source statement) :
      AltersColumn dialect options table source target statements
  | recreated
      {dropping adding : String}
      (differ : ¬dialect.GeneratesAlike source target)
      (dropped : dialect.statements.dropColumn options table target = .ok dropping)
      (added : dialect.statements.addColumn options table source = .ok adding) :
      AltersColumn dialect options table source target [
        recreationWarning
          (dialect.tableText options (table.letters "schema") (table.letters "name"))
          (dialect.quote (target.letters "name")),
        dropping, adding]

/-- The drop of a column is among statements. -/
def DropsColumn
    (dialect : Dialect)
    (options : Options)
    (table column : Value)
    (statements : List String) : Prop :=
  ∃ statement ∈ statements, dialect.statements.dropColumn options table column = .ok statement

end Dialect

/-! ## Alterations of typed columns -/

/-- A text is made of statements of a form. -/
private def IsMadeOf
    (form : String → Prop)
    (script : String) : Prop :=
  ∃ statements : List String, script = String.join statements ∧
    ∀ statement ∈ statements, form statement

private theorem isMadeOf_empty
    {form : String → Prop} :
    IsMadeOf form "" :=
  ⟨[], rfl, fun _ => List.not_mem_nil.elim⟩

private theorem isMadeOf_single
    {form : String → Prop}
    {statement : String}
    (formed : form statement) :
    IsMadeOf form statement := by
  refine ⟨[statement], ?_, ?_⟩
  · simp [String.join_cons]
  · intro other member
    rw [List.mem_singleton.mp member]
    exact formed

private theorem IsMadeOf.append
    {form : String → Prop}
    {script later : String}
    (made : IsMadeOf form script)
    (laterMade : IsMadeOf form later) :
    IsMadeOf form (script ++ later) := by
  rcases made with ⟨statements, rfl, formed⟩
  rcases laterMade with ⟨laters, rfl, laterFormed⟩
  refine ⟨statements ++ laters, ?_, ?_⟩
  · exact String.join_append.symm
  · intro statement member
    rcases List.mem_append.mp member with earlier | later
    · exact formed statement earlier
    · exact laterFormed statement later

private theorem join_three
    (first second third : String) :
    String.join [first, second, third] = first ++ second ++ third := by
  simp [String.join_cons, String.append_assoc]

section Alterations

variable {options : Options} {table source target : Value} {sourceDefinition : String}

/-- Every column of a typed table can be dropped. -/
private theorem Dialect.exists_dropColumn
    (dialect : Dialect)
    (options : Options)
    (tableTyped : table.isTyped .table = true)
    (targetTyped : target.isTyped .column = true) :
    ∃ dropping, dialect.statements.dropColumn options table target = .ok dropping := by
  have named : dialect.objectName options table = _ := Dialect.objectName_ok tableTyped
  have quoted : dialect.quotePart target "name" = _ :=
    Dialect.quotePart_ok targetTyped ObjectClass.column_declares_name
  cases dialect with
  | microsoftSql =>
      change ∃ dropping, MicrosoftSql.dropColumn options table target = .ok dropping
      rw [MicrosoftSql.dropColumn, MicrosoftSql.alterTable, named, quoted]
      exact ⟨_, rfl⟩
  | mySql =>
      change ∃ dropping, MySql.dropColumn options table target = .ok dropping
      rw [MySql.dropColumn, MySql.alterTable, named, quoted]
      exact ⟨_, rfl⟩
  | postgreSql =>
      change ∃ dropping, PostgreSql.dropColumn options table target = .ok dropping
      rw [PostgreSql.dropColumn, PostgreSql.alterTable, named, quoted]
      exact ⟨_, rfl⟩

/-- Every column with a definition can be added to a typed table. -/
private theorem Dialect.exists_addColumn
    (dialect : Dialect)
    (tableTyped : table.isTyped .table = true)
    (defined : dialect.statements.columnDefinition options source = .ok sourceDefinition) :
    ∃ adding, dialect.statements.addColumn options table source = .ok adding := by
  have named : dialect.objectName options table = _ := Dialect.objectName_ok tableTyped
  cases dialect with
  | microsoftSql =>
      change MicrosoftSql.columnDefinition options source = .ok sourceDefinition at defined
      change ∃ adding, MicrosoftSql.addColumn options table source = .ok adding
      rw [MicrosoftSql.addColumn, MicrosoftSql.alterTable, named, defined]
      exact ⟨_, rfl⟩
  | mySql =>
      change MySql.columnDefinition options source = .ok sourceDefinition at defined
      change ∃ adding, MySql.addColumn options table source = .ok adding
      rw [MySql.addColumn, MySql.alterTable, named, defined]
      exact ⟨_, rfl⟩
  | postgreSql =>
      change PostgreSql.columnDefinition options source = .ok sourceDefinition at defined
      change ∃ adding, PostgreSql.addColumn options table source = .ok adding
      rw [PostgreSql.addColumn, PostgreSql.alterTable, named, defined]
      exact ⟨_, rfl⟩

/-- A column is dropped and added again where its values do not come about alike. -/
private theorem Dialect.exists_recreation
    (dialect : Dialect)
    (tableTyped : table.isTyped .table = true)
    (targetTyped : target.isTyped .column = true)
    (defined : dialect.statements.columnDefinition options source = .ok sourceDefinition)
    (differ : ¬dialect.GeneratesAlike source target) :
    ∃ dropping adding,
      dialect.statements.dropColumn options table target = .ok dropping ∧
        dialect.statements.addColumn options table source = .ok adding ∧
        dialect.AltersColumn options table source target [
          recreationWarning
            (dialect.tableText options (table.letters "schema") (table.letters "name"))
            (dialect.quote (target.letters "name")),
          dropping, adding] := by
  rcases dialect.exists_dropColumn options tableTyped targetTyped with ⟨dropping, dropped⟩
  rcases dialect.exists_addColumn tableTyped defined with ⟨adding, added⟩
  exact ⟨dropping, adding, dropped, added, .recreated differ dropped added⟩

/-- A column with a definition is of the class of the dialect and has a type. -/
private theorem MicrosoftSql.columnType_of_columnDefinition
    (defined : columnDefinition options source = .ok sourceDefinition) :
    source.isA .microsoftSqlColumn = true ∧ ∃ type, columnType options source = .ok type := by
  rcases bind_eq_ok_iff.mp defined with ⟨_, accepted, run⟩
  rcases bind_eq_ok_iff.mp run with ⟨_, _, run⟩
  rcases bind_eq_ok_iff.mp run with ⟨type, typeOk, _⟩
  exact ⟨Dialect.expect_ok_iff.mp accepted, type, typeOk⟩

private theorem PostgreSql.columnType_of_columnDefinition
    (defined : columnDefinition options source = .ok sourceDefinition) :
    source.isA .postgreSqlColumn = true ∧ ∃ type, columnType options source = .ok type := by
  rcases bind_eq_ok_iff.mp defined with ⟨_, accepted, run⟩
  rcases bind_eq_ok_iff.mp run with ⟨_, _, run⟩
  rcases bind_eq_ok_iff.mp run with ⟨type, typeOk, _⟩
  exact ⟨Dialect.expect_ok_iff.mp accepted, type, typeOk⟩

private theorem MicrosoftSql.isMadeOf_alterDefault
    (tableName quoted : String)
    (held : Value) :
    IsMadeOf (ChangesInPlace options tableName quoted source)
      (alterDefault tableName quoted (source.get "column_default") held) := by
  rw [alterDefault]
  split
  · exact isMadeOf_empty
  · split
    · exact isMadeOf_single .newDefault
    · exact isMadeOf_single .otherDefault

private theorem PostgreSql.isMadeOf_alterDefault
    (tableName quoted : String)
    (held : Value) :
    IsMadeOf (ChangesInPlace options tableName quoted source)
      (alterDefault ("ALTER TABLE " ++ tableName ++ " ALTER COLUMN " ++ quoted)
        (source.get "column_default") held) := by
  rw [alterDefault]
  split
  · exact isMadeOf_empty
  · split
    · rename_i isNull
      exact isMadeOf_single (.noDefault isNull)
    · exact isMadeOf_single .newDefault

private theorem PostgreSql.isMadeOf_alterNullability
    (tableName quoted : String)
    (held : Value) :
    IsMadeOf (ChangesInPlace options tableName quoted source)
      (alterNullability ("ALTER TABLE " ++ tableName ++ " ALTER COLUMN " ++ quoted)
        (source.get "is_nullable") held) := by
  rw [alterNullability]
  split
  · exact isMadeOf_empty
  · cases nullable : (source.get "is_nullable").isTruthy with
    | true => exact isMadeOf_single (.nulls nullable)
    | false => exact isMadeOf_single (.noNulls nullable)

/-- A column that is recreated is dropped and added again after a warning. -/
private theorem MicrosoftSql.exists_altersColumn_of_isRecreated
    (tableTyped : table.isTyped .table = true)
    (targetTyped : target.isTyped .column = true)
    (sourceIsA : source.isA .microsoftSqlColumn = true)
    (targetIsA : target.isA .microsoftSqlColumn = true)
    (sourceDefined : columnDefinition options source = .ok sourceDefinition)
    (recreated : isRecreated source target = .ok true)
    (differ : ¬dialect.GeneratesAlike source target) :
    ∃ statements, alterColumn options table source target = .ok (String.join statements) ∧
      dialect.AltersColumn options table source target statements := by
  have named : dialect.objectName options table = _ := Dialect.objectName_ok tableTyped
  have quoted : dialect.quotePart target "name" = _ :=
    Dialect.quotePart_ok targetTyped ObjectClass.column_declares_name
  rcases dialect.exists_recreation tableTyped targetTyped sourceDefined differ with
    ⟨dropping, adding, dropped, added, alters⟩
  refine ⟨_, ?_, alters⟩
  change dropColumn options table target = .ok dropping at dropped
  change addColumn options table source = .ok adding at added
  simp only [alterColumn, Dialect.expect_ok_iff.mpr sourceIsA,
    Dialect.expect_ok_iff.mpr targetIsA, named, quoted, recreated, dropped, added,
    Attempt.ok_bind, Attempt.pure_eq_ok]
  rw [if_pos trivial]
  exact congrArg Except.ok (join_three _ dropping adding).symm

private theorem MicrosoftSql.exists_altersColumn
    {targetDefinition : String}
    (tableTyped : table.isTyped .table = true)
    (sourceTyped : source.isTyped .column = true)
    (targetTyped : target.isTyped .column = true)
    (sourceDefined : columnDefinition options source = .ok sourceDefinition)
    (targetDefined : columnDefinition options target = .ok targetDefinition) :
    ∃ statements, alterColumn options table source target = .ok (String.join statements) ∧
      dialect.AltersColumn options table source target statements := by
  have named : dialect.objectName options table = _ := Dialect.objectName_ok tableTyped
  have quoted : dialect.quotePart target "name" = _ :=
    Dialect.quotePart_ok targetTyped ObjectClass.column_declares_name
  rcases columnType_of_columnDefinition sourceDefined with ⟨sourceIsA, sourceType, sourceTypeOk⟩
  rcases columnType_of_columnDefinition targetDefined with ⟨targetIsA, targetType, targetTypeOk⟩
  have sourceTyped := Value.isTyped_of_isA sourceTyped sourceIsA
  have columnTyped := targetTyped
  have targetTyped := Value.isTyped_of_isA targetTyped targetIsA
  rcases exists_isRecreated sourceTyped targetTyped with ⟨recreated, recreatedOk, alike_iff⟩
  cases recreated with
  | true =>
      exact exists_altersColumn_of_isRecreated tableTyped columnTyped sourceIsA targetIsA
        sourceDefined recreatedOk fun alike => Bool.noConfusion (alike_iff.mpr alike)
  | false =>
      have changed : IsMadeOf
          (ChangesInPlace options
            (dialect.tableText options (table.letters "schema") (table.letters "name"))
            (dialect.quote (target.letters "name")) source)
          (if sourceType != targetType ||
              !(source.get "is_nullable").agrees (target.get "is_nullable") then
            "ALTER TABLE " ++
              dialect.tableText options (table.letters "schema") (table.letters "name") ++
              " ALTER COLUMN " ++ dialect.quote (target.letters "name") ++ " " ++ sourceType ++
              " " ++ nullability (source.get "is_nullable").isTruthy ++ "\n" ++ batchEnd
          else "") := by
        split
        · exact isMadeOf_single (.type sourceTypeOk)
        · exact isMadeOf_empty
      rcases changed.append (isMadeOf_alterDefault _ _ (target.get "column_default")) with
        ⟨statements, joined, inPlace⟩
      refine ⟨statements, ?_, .inPlace (alike_iff.mp rfl) inPlace⟩
      rw [← joined]
      simp (disch := decide) only [alterColumn, Dialect.expect_ok_iff.mpr sourceIsA,
        Dialect.expect_ok_iff.mpr targetIsA, named, quoted, recreatedOk, sourceTypeOk,
        targetTypeOk, part_of_declaresExact sourceTyped, part_of_declaresExact targetTyped,
        Attempt.ok_bind, Attempt.pure_eq_ok]
      rfl

/-- A column that is recreated is dropped and added again after a warning. -/
private theorem PostgreSql.exists_altersColumn_of_isRecreated
    (tableTyped : table.isTyped .table = true)
    (targetTyped : target.isTyped .column = true)
    (sourceIsA : source.isA .postgreSqlColumn = true)
    (targetIsA : target.isA .postgreSqlColumn = true)
    (sourceDefined : columnDefinition options source = .ok sourceDefinition)
    (recreated : isRecreated source target = .ok true)
    (differ : ¬dialect.GeneratesAlike source target) :
    ∃ statements, alterColumn options table source target = .ok (String.join statements) ∧
      dialect.AltersColumn options table source target statements := by
  have named : dialect.objectName options table = _ := Dialect.objectName_ok tableTyped
  have quoted : dialect.quotePart target "name" = _ :=
    Dialect.quotePart_ok targetTyped ObjectClass.column_declares_name
  rcases dialect.exists_recreation tableTyped targetTyped sourceDefined differ with
    ⟨dropping, adding, dropped, added, alters⟩
  refine ⟨_, ?_, alters⟩
  change dropColumn options table target = .ok dropping at dropped
  change addColumn options table source = .ok adding at added
  simp only [alterColumn, Dialect.expect_ok_iff.mpr sourceIsA,
    Dialect.expect_ok_iff.mpr targetIsA, named, quoted, recreated, dropped, added,
    Attempt.ok_bind, Attempt.pure_eq_ok]
  rw [if_pos trivial]
  exact congrArg Except.ok (join_three _ dropping adding).symm

private theorem PostgreSql.exists_altersColumn
    {targetDefinition : String}
    (tableTyped : table.isTyped .table = true)
    (sourceTyped : source.isTyped .column = true)
    (targetTyped : target.isTyped .column = true)
    (sourceDefined : columnDefinition options source = .ok sourceDefinition)
    (targetDefined : columnDefinition options target = .ok targetDefinition) :
    ∃ statements, alterColumn options table source target = .ok (String.join statements) ∧
      dialect.AltersColumn options table source target statements := by
  have named : dialect.objectName options table = _ := Dialect.objectName_ok tableTyped
  have quoted : dialect.quotePart target "name" = _ :=
    Dialect.quotePart_ok targetTyped ObjectClass.column_declares_name
  rcases columnType_of_columnDefinition sourceDefined with ⟨sourceIsA, sourceType, sourceTypeOk⟩
  rcases columnType_of_columnDefinition targetDefined with ⟨targetIsA, targetType, targetTypeOk⟩
  have sourceTyped := Value.isTyped_of_isA sourceTyped sourceIsA
  have columnTyped := targetTyped
  have targetTyped := Value.isTyped_of_isA targetTyped targetIsA
  rcases exists_isRecreated sourceTyped targetTyped with ⟨recreated, recreatedOk, alike_iff⟩
  cases recreated with
  | true =>
      exact exists_altersColumn_of_isRecreated tableTyped columnTyped sourceIsA targetIsA
        sourceDefined recreatedOk fun alike => Bool.noConfusion (alike_iff.mpr alike)
  | false =>
      have typed : IsMadeOf
          (ChangesInPlace options
            (dialect.tableText options (table.letters "schema") (table.letters "name"))
            (dialect.quote (target.letters "name")) source)
          (if sourceType.agrees targetType then ""
          else
            "ALTER TABLE " ++
              dialect.tableText options (table.letters "schema") (table.letters "name") ++
              " ALTER COLUMN " ++ dialect.quote (target.letters "name") ++ " TYPE " ++
              sourceType.display ++ ";\n") := by
        split
        · exact isMadeOf_empty
        · exact isMadeOf_single (.type sourceTypeOk)
      rcases (typed.append (isMadeOf_alterNullability _ _ (target.get "is_nullable"))).append
          (isMadeOf_alterDefault _ _ (target.get "column_default")) with
        ⟨statements, joined, inPlace⟩
      refine ⟨statements, ?_, .inPlace (alike_iff.mp rfl) inPlace⟩
      rw [← joined]
      simp (disch := decide) only [alterColumn, alterType, Dialect.expect_ok_iff.mpr sourceIsA,
        Dialect.expect_ok_iff.mpr targetIsA, named, quoted, recreatedOk, sourceTypeOk,
        targetTypeOk, part_of_declaresExact sourceTyped, part_of_declaresExact targetTyped,
        Attempt.ok_bind, Attempt.pure_eq_ok]
      rfl

private theorem MySql.exists_altersColumn
    (tableTyped : table.isTyped .table = true)
    (sourceDefined : columnDefinition options source = .ok sourceDefinition) :
    ∃ statements, alterColumn options table source = .ok (String.join statements) ∧
      dialect.AltersColumn options table source target statements := by
  have named : dialect.objectName options table = _ := Dialect.objectName_ok tableTyped
  refine ⟨["ALTER TABLE " ++
      dialect.tableText options (table.letters "schema") (table.letters "name") ++
      " MODIFY COLUMN " ++ sourceDefinition ++ ";\n"], ?_, .inPlace trivial ?_⟩
  · rw [alterColumn, alterTable, named, sourceDefined]
    simp [String.join_cons]
  · intro statement member
    rw [List.mem_singleton.mp member]
    exact .definition sourceDefined

/-- Every alteration of a typed column is made of changes in place, or it is a recreation. -/
private theorem Dialect.exists_altersColumn
    {dialect : Dialect}
    {targetDefinition : String}
    (tableTyped : table.isTyped .table = true)
    (sourceTyped : source.isTyped .column = true)
    (targetTyped : target.isTyped .column = true)
    (sourceDefined :
      dialect.statements.columnDefinition options source = .ok sourceDefinition)
    (targetDefined :
      dialect.statements.columnDefinition options target = .ok targetDefinition) :
    ∃ statements,
      dialect.statements.alterColumn options table source target = .ok (String.join statements) ∧
        dialect.AltersColumn options table source target statements := by
  cases dialect with
  | microsoftSql =>
      exact MicrosoftSql.exists_altersColumn tableTyped sourceTyped targetTyped sourceDefined
        targetDefined
  | mySql => exact MySql.exists_altersColumn tableTyped sourceDefined
  | postgreSql =>
      exact PostgreSql.exists_altersColumn tableTyped sourceTyped targetTyped sourceDefined
        targetDefined

/-! ## Drops among the statements -/

/-- Texts that do not start alike stay different whatever stands behind them. -/
private theorem append_ne_append
    {left right : String}
    (apart : ¬left.toList <+: right.toList ∧ ¬right.toList <+: left.toList)
    (leftRest rightRest : String) :
    left ++ leftRest ≠ right ++ rightRest := by
  intro same
  have letters : left.toList ++ leftRest.toList = right.toList ++ rightRest.toList := by
    rw [← String.toList_append, same, String.toList_append]
  rcases List.prefix_or_prefix_of_prefix (List.prefix_append left.toList leftRest.toList)
      (letters ▸ List.prefix_append right.toList rightRest.toList) with starts | starts
  · exact apart.1 starts
  · exact apart.2 starts

/-- A change in place is no drop of the column. -/
private theorem Dialect.dropColumn_ne_of_changesInPlace
    {dialect : Dialect}
    {statement : String}
    (tableTyped : table.isTyped .table = true)
    (targetTyped : target.isTyped .column = true)
    (inPlace : dialect.ChangesInPlace options
      (dialect.tableText options (table.letters "schema") (table.letters "name"))
      (dialect.quote (target.letters "name")) source statement) :
    dialect.statements.dropColumn options table target ≠ .ok statement := by
  have named : dialect.objectName options table = _ := Dialect.objectName_ok tableTyped
  have quoted : dialect.quotePart target "name" = _ :=
    Dialect.quotePart_ok targetTyped ObjectClass.column_declares_name
  intro dropped
  cases dialect with
  | microsoftSql =>
      change MicrosoftSql.dropColumn options table target = .ok statement at dropped
      simp only [MicrosoftSql.dropColumn, MicrosoftSql.alterTable, named, quoted,
        Attempt.ok_bind, Attempt.pure_eq_ok, Except.ok.injEq, String.append_assoc] at dropped
      rcases inPlace with typeOk | _ | _
      · simp only [String.append_assoc, String.append_right_inj] at dropped
        exact append_ne_append (by decide) _ _ dropped
      · simp only [String.append_assoc, String.append_right_inj] at dropped
        exact append_ne_append (by decide) _ _ dropped
      · exact append_ne_append (by decide) _ _ dropped
  | mySql =>
      change MySql.dropColumn options table target = .ok statement at dropped
      simp only [MySql.dropColumn, MySql.alterTable, named, quoted,
        Attempt.ok_bind, Attempt.pure_eq_ok, Except.ok.injEq, String.append_assoc] at dropped
      rcases inPlace with ⟨definitionOk⟩
      simp only [String.append_assoc, String.append_right_inj] at dropped
      exact append_ne_append (by decide) _ _ dropped
  | postgreSql =>
      change PostgreSql.dropColumn options table target = .ok statement at dropped
      simp only [PostgreSql.dropColumn, PostgreSql.alterTable, named, quoted,
        Attempt.ok_bind, Attempt.pure_eq_ok, Except.ok.injEq, String.append_assoc] at dropped
      rcases inPlace with typeOk | _ | _ | _ | _ <;>
        simp only [String.append_assoc, String.append_right_inj] at dropped <;>
        exact append_ne_append (by decide) _ _ dropped

end Alterations

namespace Dialect

/--
A column with a definition is altered by changes in place, or it is dropped and added again if its
values come about in other words, and never by nothing if its definition changes.  So a column with
the same definition on both sides keeps its data exactly where its values come about alike.
-/
theorem alterColumn_keepsColumn_iff
    {dialect : Dialect}
    {options : Options}
    {table source target : Value}
    {sourceDefinition targetDefinition : String}
    (tableTyped : table.isTyped .table = true)
    (sourceTyped : source.isTyped .column = true)
    (targetTyped : target.isTyped .column = true)
    (sameName : source.letters "name" = target.letters "name")
    (sourceDefined :
      dialect.statements.columnDefinition options source = .ok sourceDefinition)
    (targetDefined :
      dialect.statements.columnDefinition options target = .ok targetDefinition) :
    ∃ statements,
      dialect.statements.alterColumn options table source target = .ok (String.join statements) ∧
        dialect.AltersColumn options table source target statements ∧
        (sourceDefinition ≠ targetDefinition → String.join statements ≠ "") ∧
        ((sourceDefinition = targetDefinition →
            ¬dialect.DropsColumn options table target statements) ↔
          (sourceDefinition = targetDefinition → dialect.GeneratesAlike source target)) := by
  rcases exists_altersColumn tableTyped sourceTyped targetTyped sourceDefined targetDefined with
    ⟨statements, altered, alters⟩
  refine ⟨statements, altered, alters, ?_, imp_congr_right fun _ => ?_⟩
  · intro differ silent
    rw [silent] at altered
    have same := columnDefinition_eq_of_alterColumn_eq_empty sourceTyped targetTyped sameName altered
    rw [sourceDefined, targetDefined, Except.ok.injEq] at same
    exact differ same
  · cases alters with
    | inPlace alike each =>
        constructor
        · exact fun _ => alike
        · rintro _ ⟨statement, member, dropped⟩
          exact dropColumn_ne_of_changesInPlace tableTyped targetTyped (each statement member)
            dropped
    | @recreated dropping adding differ dropped added =>
        constructor
        · intro keeps
          exact (keeps ⟨dropping, by simp, dropped⟩).elim
        · exact fun alike => (differ alike).elim

/-- A column of times with a precision, or none where the usual one is meant. -/
private def timeColumn
    (precision : Value) : Value :=
  .filled .postgreSqlColumn [
    ("name", .text "at"), ("data_type", .text "timestamp without time zone"),
    ("datetime_precision", precision)]

/-- The usual precision may be told on one side only, and the column is not dropped. -/
theorem alterColumn_keepsColumn_of_usualPrecision :
    ∃ statements,
      PostgreSql.alterColumn {} (.plainTable "t" [] [] [] []) (timeColumn (.int 6))
          (timeColumn .null) = .ok (String.join statements) ∧
        ¬postgreSql.DropsColumn {} (.plainTable "t" [] [] [] []) (timeColumn .null) statements := by
  have tableTyped : (Value.plainTable "t" [] [] [] []).isTyped .table = true := by rfl
  have sourceTyped : (timeColumn (.int 6)).isTyped .column = true := Value.isTyped_filled rfl rfl
  have targetTyped : (timeColumn .null).isTyped .column = true := Value.isTyped_filled rfl rfl
  have sourceDefined : postgreSql.statements.columnDefinition {} (timeColumn (.int 6)) =
      .ok "\"at\" timestamp without time zone NULL" := by rfl
  have targetDefined : postgreSql.statements.columnDefinition {} (timeColumn .null) =
      .ok "\"at\" timestamp without time zone NULL" := by rfl
  rcases alterColumn_keepsColumn_iff tableTyped sourceTyped targetTyped rfl sourceDefined
      targetDefined with ⟨statements, altered, _, _, keeps_iff⟩
  exact ⟨statements, altered, keeps_iff.mpr (fun _ => ⟨rfl, rfl⟩) rfl⟩

/-- A numbered column with the word for how its numbers are given. -/
private def numberedColumn
    (generation : String) : Value :=
  .filled .postgreSqlColumn [
    ("name", .text "id"), ("data_type", .text "bigint"), ("is_nullable", .bool false),
    ("identity_generation", .text generation)]

/--
A word in other letters leaves the definition of a numbered column as it is, and the column is dropped
all the same.
-/
theorem alterColumn_of_lowerGeneration :
    (∀ word ∈ ["ALWAYS", "always"],
        (numberedColumn word).isTyped .column = true ∧
          PostgreSql.columnDefinition {} (numberedColumn word) =
            .ok "\"id\" bigint NOT NULL GENERATED ALWAYS AS IDENTITY") ∧
      PostgreSql.dropColumn {} (.plainTable "t" [] [] [] []) (numberedColumn "always") =
        .ok "ALTER TABLE \"public\".\"t\" DROP COLUMN \"id\";\n" ∧
      PostgreSql.alterColumn {} (.plainTable "t" [] [] [] []) (numberedColumn "ALWAYS")
          (numberedColumn "always") =
        .ok (String.join [
          recreationWarning "\"public\".\"t\"" "\"id\"",
          "ALTER TABLE \"public\".\"t\" DROP COLUMN \"id\";\n",
          "ALTER TABLE \"public\".\"t\" ADD COLUMN " ++
            "\"id\" bigint NOT NULL GENERATED ALWAYS AS IDENTITY;\n"]) := by
  have typed : ∀ word, (numberedColumn word).isTyped .column = true :=
    fun word => Value.isTyped_filled rfl rfl
  refine ⟨?_, by rfl, by rfl⟩
  rw [List.forall_mem_cons, List.forall_mem_singleton]
  exact ⟨⟨typed _, by rfl⟩, typed _, by rfl⟩

end Dialect

end SchemaDelta
