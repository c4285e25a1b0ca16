import SchemaDelta.Proofs.Ddl.Statements
import SchemaDelta.Proofs.Ddl.TableChange

/-!
# Definitions of columns

What a table says of a column depends on everything but its position.  A column that is altered by no
statement says the same on both sides: in every dialect each part of the definition is among those
that an alteration looks at.
-/

namespace SchemaDelta

open Attempt (bind_eq_ok_iff ensures_bind ensures_error ensures_ite ensures_pure)

/-! ## Columns that read alike -/

/-- Two values are of one class and have the same parts, except for their positions. -/
structure Value.ReadsAs
    (left right : Value) : Prop where
  isNull : left.isNull = right.isNull
  isA : ∀ kind, left.isA kind = right.isA kind
  kind : left.kind = right.kind
  part : ∀ name, name ≠ "ordinal_position" → left.part name = right.part name

/-- Columns with the same definition and the same name read alike. -/
theorem Value.readsAs_of_definition_eq
    {left right : Value}
    (leftTyped : left.isTyped .column = true)
    (rightTyped : right.isTyped .column = true)
    (sameDefinition : left.definition = right.definition)
    (sameName : left.letters "name" = right.letters "name") :
    left.ReadsAs right := by
  have sameParts : ∀ name, name ≠ "ordinal_position" → left.part name = right.part name := by
    intro name notPosition
    by_cases isName : name = "name"
    · rw [isName, part_text_of_isTyped leftTyped ObjectClass.column_declares_name,
        part_text_of_isTyped rightTyped ObjectClass.column_declares_name, sameName]
    · have kept : List.lookup name [("name", text ""), ("ordinal_position", int 0)] = none := by
        simp [List.lookup_eq_none_iff, isName, notPosition]
      have sameRead : left.definition.part name = right.definition.part name := by
        rw [sameDefinition]
      rwa [definition, definition, part_withParts kept, part_withParts kept] at sameRead
  rcases isTyped_iff.mp leftTyped with ⟨kind, lefts, rfl, _, _⟩
  rcases isTyped_iff.mp rightTyped with ⟨kind', rights, rfl, _, _⟩
  rw [definition, definition, withParts, withParts, object.injEq] at sameDefinition
  rcases sameDefinition with ⟨rfl, _⟩
  exact ⟨rfl, fun _ => rfl, rfl, sameParts⟩

namespace Dialect

variable {options : Options} {left right : Value}

private theorem expect_eq
    (alike : left.ReadsAs right)
    (dialect : Dialect)
    (kind : ObjectClass) :
    dialect.expect kind left = dialect.expect kind right := by
  rw [expect, expect, Value.required, Value.required, alike.isNull, alike.isA, alike.kind]

private theorem quotePart_eq
    (alike : left.ReadsAs right)
    (dialect : Dialect) :
    dialect.quotePart left "name" = dialect.quotePart right "name" := by
  rw [quotePart, quotePart, alike.part "name" (by decide)]

private theorem collateClause_eq
    (alike : left.ReadsAs right)
    (dialect : Dialect) :
    dialect.collateClause options left = dialect.collateClause options right := by
  rw [collateClause, collateClause, alike.part "collation_name" (by decide)]

private theorem microsoftSql_columnType_eq
    (alike : left.ReadsAs right) :
    MicrosoftSql.columnType options left = MicrosoftSql.columnType options right := by
  have systemType : MicrosoftSql.systemType options left = MicrosoftSql.systemType options right := by
    rw [MicrosoftSql.systemType, MicrosoftSql.systemType, alike.part "data_type" (by decide),
      alike.part "numeric_precision" (by decide), alike.part "numeric_scale" (by decide),
      alike.part "datetime_precision" (by decide), alike.part "character_max_length" (by decide),
      collateClause_eq alike]
  rw [MicrosoftSql.columnType, MicrosoftSql.columnType, expect_eq alike,
    alike.part "is_computed" (by decide), alike.part "definition" (by decide),
    alike.part "is_user_defined_type" (by decide), alike.part "user_type_schema" (by decide),
    alike.part "data_type" (by decide), systemType]

private theorem mySql_columnType_eq
    (alike : left.ReadsAs right) :
    MySql.columnType options left = MySql.columnType options right := by
  have generation : MySql.generation left = MySql.generation right := by
    rw [MySql.generation, MySql.generation, Value.partText, Value.partText,
      alike.part "extra" (by decide)]
  have generatedType : MySql.generatedType left = MySql.generatedType right := by
    funext keeping
    rw [MySql.generatedType, MySql.generatedType, alike.part "column_type" (by decide),
      alike.part "generation_expression" (by decide)]
  have characterClauses :
      MySql.characterClauses options left = MySql.characterClauses options right := by
    rw [MySql.characterClauses, MySql.characterClauses, MySql.characterSetClause,
      MySql.characterSetClause, alike.part "character_set_name" (by decide), collateClause_eq alike]
  have plainType : MySql.plainType options left = MySql.plainType options right := by
    rw [MySql.plainType, MySql.plainType, alike.part "data_type" (by decide),
      alike.part "column_type" (by decide), alike.part "character_max_length" (by decide),
      characterClauses]
  rw [MySql.columnType, MySql.columnType, expect_eq alike, generation, generatedType, plainType]

private theorem postgreSql_columnType_eq
    (alike : left.ReadsAs right) :
    PostgreSql.columnType options left = PostgreSql.columnType options right := by
  have lengthClause : PostgreSql.lengthClause left = PostgreSql.lengthClause right := by
    rw [PostgreSql.lengthClause, PostgreSql.lengthClause,
      alike.part "character_max_length" (by decide)]
  have precisionClause : PostgreSql.precisionClause left = PostgreSql.precisionClause right := by
    rw [PostgreSql.precisionClause, PostgreSql.precisionClause,
      alike.part "datetime_precision" (by decide)]
  have catalogName : PostgreSql.catalogName left = PostgreSql.catalogName right := by
    funext type
    rw [PostgreSql.catalogName, PostgreSql.catalogName, alike.part "udt_name" (by decide)]
  have namedType : PostgreSql.namedType options left = PostgreSql.namedType options right := by
    funext name
    rw [PostgreSql.namedType, PostgreSql.namedType, alike.part "numeric_precision" (by decide),
      alike.part "numeric_scale" (by decide), alike.part "interval_type" (by decide),
      lengthClause, precisionClause, catalogName, collateClause_eq alike]
  rw [PostgreSql.columnType, PostgreSql.columnType, expect_eq alike,
    alike.part "data_type" (by decide), namedType]

/-- Columns that read alike have the same definition in statements. -/
theorem columnDefinition_eq_of_readsAs
    (dialect : Dialect)
    (alike : left.ReadsAs right) :
    dialect.statements.columnDefinition options left =
      dialect.statements.columnDefinition options right := by
  cases dialect with
  | microsoftSql =>
      change MicrosoftSql.columnDefinition options left = MicrosoftSql.columnDefinition options right
      rw [MicrosoftSql.columnDefinition, MicrosoftSql.columnDefinition, expect_eq alike,
        quotePart_eq alike, microsoftSql_columnType_eq alike, alike.part "is_computed" (by decide),
        alike.part "is_persisted" (by decide), alike.part "column_default" (by decide),
        alike.part "is_nullable" (by decide), MicrosoftSql.identityClause,
        MicrosoftSql.identityClause, alike.part "is_identity" (by decide),
        alike.part "identity_seed" (by decide), alike.part "identity_increment" (by decide)]
  | mySql =>
      change MySql.columnDefinition options left = MySql.columnDefinition options right
      rw [MySql.columnDefinition, MySql.columnDefinition, expect_eq alike, quotePart_eq alike,
        mySql_columnType_eq alike, MySql.generation, MySql.generation, Value.partText,
        Value.partText, alike.part "extra" (by decide), alike.part "is_nullable" (by decide),
        alike.part "column_default" (by decide)]
  | postgreSql =>
      change PostgreSql.columnDefinition options left = PostgreSql.columnDefinition options right
      rw [PostgreSql.columnDefinition, PostgreSql.columnDefinition, expect_eq alike,
        quotePart_eq alike, postgreSql_columnType_eq alike, alike.part "is_nullable" (by decide),
        alike.part "column_default" (by decide), PostgreSql.generationClause,
        PostgreSql.generationClause, alike.part "identity_generation" (by decide),
        alike.part "generation_expression" (by decide)]

end Dialect

/-! ## Columns altered without a statement -/

/-- A typed object of a more special class is a typed object of that class. -/
theorem Value.isTyped_of_isA
    {value : Value}
    {kind special : ObjectClass}
    (typed : value.isTyped kind = true)
    (isA : value.isA special = true) :
    value.isTyped special = true := by
  rcases isTyped_iff.mp typed with ⟨own, fields, rfl, _, conform⟩
  exact isTyped_iff.mpr ⟨own, fields, rfl, isA, conform⟩

/-- A text that is left out on a condition is empty only on this condition. -/
private theorem of_ite_eq_empty
    {condition : Prop}
    [Decidable condition]
    {text : String}
    (silent : (if condition then "" else text) = "")
    (speaks : text ≠ "") :
    condition := by
  by_contra otherwise
  rw [if_neg otherwise] at silent
  exact speaks silent

/-- A part can be read from two values, and what is read agrees. -/
def PartsAgree
    (name : String)
    (left right : Value) : Prop :=
  ∃ held other, left.part name = .ok held ∧ right.part name = .ok other ∧
    held.agrees other = true

section ExactFields

open Value (part_of_declaresExact get_eq_of_declaresExact)

variable {kind : ObjectClass} {name : String} {left right : Value}

/-- In an exact field values that agree are the same. -/
private theorem get_eq_of_agrees
    (leftTyped : left.isTyped kind = true)
    (rightTyped : right.isTyped kind = true)
    (declared : kind.declaresExact name = true)
    (agree : (left.get name).agrees (right.get name) = true) :
    left.get name = right.get name :=
  get_eq_of_declaresExact leftTyped rightTyped declared (Bool.and_eq_true_iff.mp agree).2

theorem PartsAgree.get_eq
    (agree : PartsAgree name left right)
    (leftTyped : left.isTyped kind = true)
    (rightTyped : right.isTyped kind = true)
    (declared : kind.declaresExact name = true) :
    left.get name = right.get name := by
  rcases agree with ⟨held, other, leftRead, rightRead, same⟩
  rw [part_of_declaresExact leftTyped declared, Except.ok.injEq] at leftRead
  rw [part_of_declaresExact rightTyped declared, Except.ok.injEq] at rightRead
  rw [← leftRead, ← rightRead] at same
  exact get_eq_of_agrees leftTyped rightTyped declared same

/-- Columns with the same name are quoted alike. -/
private theorem quotePart_name_eq
    (leftTyped : left.isTyped .column = true)
    (rightTyped : right.isTyped .column = true)
    (sameName : left.letters "name" = right.letters "name")
    (dialect : Dialect) :
    dialect.quotePart left "name" = dialect.quotePart right "name" := by
  rw [Dialect.quotePart, Dialect.quotePart,
    Value.part_text_of_isTyped leftTyped ObjectClass.column_declares_name,
    Value.part_text_of_isTyped rightTyped ObjectClass.column_declares_name, sameName]

end ExactFields

namespace MicrosoftSql

open Value (part_of_declaresExact get_eq_of_declaresExact)

variable {options : Options} {table source target : Value}

/-- A column that is not recreated is numbered and computed as before. -/
private theorem same_of_isRecreated_eq_false
    (sourceTyped : source.isTyped .microsoftSqlColumn = true)
    (targetTyped : target.isTyped .microsoftSqlColumn = true)
    (stays : isRecreated source target = .ok false) :
    source.get "is_identity" = target.get "is_identity" ∧
      source.get "is_computed" = target.get "is_computed" ∧
      ((source.get "is_identity").isTruthy = true →
        source.get "identity_seed" = target.get "identity_seed" ∧
          source.get "identity_increment" = target.get "identity_increment") ∧
      ((source.get "is_computed").isTruthy = true →
        source.get "is_persisted" = target.get "is_persisted") := by
  simp (disch := decide) only [isRecreated, part_of_declaresExact sourceTyped,
    part_of_declaresExact targetTyped, Attempt.ok_bind, Attempt.pure_eq_ok, Except.ok.injEq,
    Bool.or_eq_false_iff, Bool.and_eq_false_imp, Bool.not_eq_false', Bool.and_eq_true] at stays
  rcases stays with ⟨⟨⟨sameIdentity, sameComputed⟩, sameNumbering⟩, sameComputation⟩
  refine ⟨get_eq_of_agrees sourceTyped targetTyped (by decide) sameIdentity,
    get_eq_of_agrees sourceTyped targetTyped (by decide) sameComputed, fun isIdentity => ?_,
    fun isComputed => ?_⟩
  · exact ⟨get_eq_of_declaresExact sourceTyped targetTyped (by decide) (sameNumbering isIdentity).1,
      get_eq_of_declaresExact sourceTyped targetTyped (by decide) (sameNumbering isIdentity).2⟩
  · exact get_eq_of_declaresExact sourceTyped targetTyped (by decide)
      (sameComputation isComputed).2

/-- What a column that is altered by no statement has in common with the column of the target. -/
theorem same_of_alterColumn_eq_empty
    (silent : alterColumn options table source target = .ok "") :
    source.isA .microsoftSqlColumn = true ∧ target.isA .microsoftSqlColumn = true ∧
      isRecreated source target = .ok false ∧
      (∃ type, columnType options source = .ok type ∧ columnType options target = .ok type) ∧
      PartsAgree "is_nullable" source target ∧ PartsAgree "column_default" source target := by
  rcases bind_eq_ok_iff.mp silent with ⟨_, sourceAccepted, run⟩
  rcases bind_eq_ok_iff.mp run with ⟨_, targetAccepted, run⟩
  rcases bind_eq_ok_iff.mp run with ⟨tableName, _, run⟩
  rcases bind_eq_ok_iff.mp run with ⟨quoted, _, run⟩
  rcases bind_eq_ok_iff.mp run with ⟨recreated, recreatedOk, run⟩
  refine ⟨Dialect.expect_ok_iff.mp sourceAccepted, Dialect.expect_ok_iff.mp targetAccepted, ?_⟩
  cases recreated with
  | true =>
      rcases bind_eq_ok_iff.mp run with ⟨dropping, _, run⟩
      rcases bind_eq_ok_iff.mp run with ⟨adding, _, run⟩
      simp at run
  | false =>
      rcases bind_eq_ok_iff.mp run with ⟨sourceType, sourceTypeOk, run⟩
      rcases bind_eq_ok_iff.mp run with ⟨targetType, targetTypeOk, run⟩
      rcases bind_eq_ok_iff.mp run with ⟨nullable, nullableOk, run⟩
      rcases bind_eq_ok_iff.mp run with ⟨targetNullable, targetNullableOk, run⟩
      rcases bind_eq_ok_iff.mp run with ⟨default, defaultOk, run⟩
      rcases bind_eq_ok_iff.mp run with ⟨targetDefault, targetDefaultOk, run⟩
      rw [Attempt.pure_eq_ok, Except.ok.injEq, String.append_eq_empty_iff] at run
      rcases run with ⟨unchanged, silentDefault⟩
      have sameDefault : default.agrees targetDefault = true :=
        of_ite_eq_empty silentDefault (by split <;> simp [placeholder])
      split at unchanged
      · simp at unchanged
      · rename_i same
        simp only [Bool.or_eq_true, bne_iff_ne, Bool.not_eq_true', not_or, not_not,
          Bool.not_eq_false] at same
        rcases same with ⟨rfl, sameNullable⟩
        exact ⟨recreatedOk, ⟨sourceType, sourceTypeOk, targetTypeOk⟩,
          ⟨nullable, targetNullable, nullableOk, targetNullableOk, sameNullable⟩,
          ⟨default, targetDefault, defaultOk, targetDefaultOk, sameDefault⟩⟩

/-- A column that is altered by no statement has the same definition on both sides. -/
private theorem columnDefinition_eq_of_alterColumn_eq_empty
    (sourceTyped : source.isTyped .column = true)
    (targetTyped : target.isTyped .column = true)
    (sameName : source.letters "name" = target.letters "name")
    (silent : alterColumn options table source target = .ok "") :
    columnDefinition options source = columnDefinition options target := by
  have named := quotePart_name_eq sourceTyped targetTyped sameName dialect
  rcases same_of_alterColumn_eq_empty silent with
    ⟨sourceIsA, targetIsA, stays, ⟨type, sourceType, targetType⟩, nullables, defaults⟩
  have sourceTyped := Value.isTyped_of_isA sourceTyped sourceIsA
  have targetTyped := Value.isTyped_of_isA targetTyped targetIsA
  rcases same_of_isRecreated_eq_false sourceTyped targetTyped stays with
    ⟨sameIdentity, sameComputed, sameNumbering, samePersisted⟩
  have sameNullable := nullables.get_eq sourceTyped targetTyped (by decide)
  have sameDefault := defaults.get_eq sourceTyped targetTyped (by decide)
  have sameClause : identityClause source = identityClause target := by
    simp (disch := decide) only [identityClause, part_of_declaresExact sourceTyped,
      part_of_declaresExact targetTyped, Attempt.ok_bind, sameIdentity]
    cases isIdentity : (target.get "is_identity").isTruthy with
    | false => rfl
    | true =>
        rcases sameNumbering (sameIdentity ▸ isIdentity) with ⟨sameSeed, sameIncrement⟩
        rw [sameSeed, sameIncrement]
  simp (disch := decide) only [columnDefinition, Dialect.expect_ok_iff.mpr sourceIsA,
    Dialect.expect_ok_iff.mpr targetIsA, named, sourceType, targetType,
    part_of_declaresExact sourceTyped, part_of_declaresExact targetTyped, Attempt.ok_bind,
    sameComputed, sameDefault, sameNullable, sameClause]
  cases isComputed : (target.get "is_computed").isTruthy with
  | false => rfl
  | true => rw [samePersisted (sameComputed ▸ isComputed)]

end MicrosoftSql

namespace PostgreSql

open Value (part_of_declaresExact get_eq_of_declaresExact)

variable {options : Options} {table source target column : Value}

/-- The value is a text. -/
def IsText
    (value : Value) : Prop :=
  ∃ letters, value = .text letters

private theorem ensures_text
    {letters : String} :
    Attempt.Ensures IsText (pure (.text letters)) :=
  ensures_pure ⟨letters, rfl⟩

private theorem catalogName_isText
    (typed : column.isTyped .postgreSqlColumn = true)
    (type : Value) :
    Attempt.Ensures IsText (catalogName column type) := by
  have declared : ObjectClass.postgreSqlColumn.declares "udt_name"
      { item := .text, isOptional := true } = true := by
    decide
  rcases Value.part_of_isTyped typed declared with ⟨read, conform⟩
  rw [catalogName, read, Attempt.ok_bind]
  cases held : column.get "udt_name" with
  | null => exact ensures_error
  | text letters =>
      dsimp only
      split
      · exact ensures_error
      · exact ensures_text
  | _ => simp [held, Value.conforms, ItemType.admits] at conform

/-- The type part of a typed column is a text. -/
theorem columnType_isText
    (typed : column.isTyped .postgreSqlColumn = true) :
    Attempt.Ensures IsText (columnType options column) := by
  refine ensures_bind fun _ => ensures_bind fun _ => ensures_bind fun given => ?_
  cases given with
  | text name =>
      dsimp only
      unfold namedType
      refine ensures_ite ensures_text (ensures_ite ?_ (ensures_ite ?_ (ensures_ite ?_ ?_)))
      · exact ensures_bind fun _ => ensures_ite ensures_text (ensures_bind fun _ => ensures_text)
      · exact ensures_bind fun _ => ensures_bind fun _ => ensures_text
      · exact ensures_bind fun _ => ensures_text
      · split
        · exact ensures_bind fun _ => ensures_text
        · refine ensures_ite ?_ (ensures_ite ?_ (ensures_ite ?_ (ensures_ite ?_ ensures_error)))
          · exact ensures_bind fun _ => ensures_ite ensures_text (ensures_bind fun _ => ensures_text)
          · exact ensures_bind fun _ => ensures_text
          · exact catalogName_isText typed _
          · exact ensures_bind fun _ => ensures_bind fun _ => ensures_text
  | _ => exact ensures_error

/-- What a column that is altered by no statement has in common with the column of the target. -/
theorem same_of_alterColumn_eq_empty
    (silent : alterColumn options table source target = .ok "") :
    source.isA .postgreSqlColumn = true ∧ target.isA .postgreSqlColumn = true ∧
      isRecreated source target = .ok false ∧
      (∃ type other, columnType options source = .ok type ∧ columnType options target = .ok other ∧
        type.agrees other = true) ∧
      PartsAgree "is_nullable" source target ∧ PartsAgree "column_default" source target := by
  rcases bind_eq_ok_iff.mp silent with ⟨_, sourceAccepted, run⟩
  rcases bind_eq_ok_iff.mp run with ⟨_, targetAccepted, run⟩
  rcases bind_eq_ok_iff.mp run with ⟨tableName, _, run⟩
  rcases bind_eq_ok_iff.mp run with ⟨quoted, _, run⟩
  rcases bind_eq_ok_iff.mp run with ⟨recreated, recreatedOk, run⟩
  refine ⟨Dialect.expect_ok_iff.mp sourceAccepted, Dialect.expect_ok_iff.mp targetAccepted, ?_⟩
  cases recreated with
  | true =>
      rcases bind_eq_ok_iff.mp run with ⟨dropping, _, run⟩
      rcases bind_eq_ok_iff.mp run with ⟨adding, _, run⟩
      simp at run
  | false =>
      rcases bind_eq_ok_iff.mp run with ⟨typeChange, typeRun, run⟩
      rcases bind_eq_ok_iff.mp run with ⟨nullable, nullableOk, run⟩
      rcases bind_eq_ok_iff.mp run with ⟨targetNullable, targetNullableOk, run⟩
      rcases bind_eq_ok_iff.mp run with ⟨default, defaultOk, run⟩
      rcases bind_eq_ok_iff.mp run with ⟨targetDefault, targetDefaultOk, run⟩
      rw [Attempt.pure_eq_ok, Except.ok.injEq, String.append_eq_empty_iff,
        String.append_eq_empty_iff] at run
      rcases run with ⟨⟨rfl, silentNullable⟩, silentDefault⟩
      rcases bind_eq_ok_iff.mp typeRun with ⟨sourceType, sourceTypeOk, typeRun⟩
      rcases bind_eq_ok_iff.mp typeRun with ⟨targetType, targetTypeOk, typeRun⟩
      rw [Attempt.pure_eq_ok, Except.ok.injEq] at typeRun
      refine ⟨recreatedOk, ⟨sourceType, targetType, sourceTypeOk, targetTypeOk, ?_⟩,
        ⟨nullable, targetNullable, nullableOk, targetNullableOk, ?_⟩,
        ⟨default, targetDefault, defaultOk, targetDefaultOk, ?_⟩⟩
      · exact of_ite_eq_empty typeRun (by simp)
      · exact of_ite_eq_empty silentNullable (by split <;> simp)
      · exact of_ite_eq_empty silentDefault (by split <;> simp)

/-- A column that is altered by no statement has the same definition on both sides. -/
private theorem columnDefinition_eq_of_alterColumn_eq_empty
    (sourceTyped : source.isTyped .column = true)
    (targetTyped : target.isTyped .column = true)
    (sameName : source.letters "name" = target.letters "name")
    (silent : alterColumn options table source target = .ok "") :
    columnDefinition options source = columnDefinition options target := by
  have named := quotePart_name_eq sourceTyped targetTyped sameName dialect
  rcases same_of_alterColumn_eq_empty silent with
    ⟨sourceIsA, targetIsA, stays, ⟨type, other, sourceType, targetType, sameType⟩, nullables,
      defaults⟩
  have sourceTyped := Value.isTyped_of_isA sourceTyped sourceIsA
  have targetTyped := Value.isTyped_of_isA targetTyped targetIsA
  obtain rfl : type = other := by
    rcases columnType_isText sourceTyped _ sourceType with ⟨letters, rfl⟩
    rcases columnType_isText targetTyped _ targetType with ⟨others, rfl⟩
    exact congrArg Value.text (beq_iff_eq.mp (Bool.and_eq_true_iff.mp sameType).2)
  have sameNullable := nullables.get_eq sourceTyped targetTyped (by decide)
  have sameDefault := defaults.get_eq sourceTyped targetTyped (by decide)
  have sameClause : generationClause source = generationClause target := by
    simp (disch := decide) only [isRecreated, part_of_declaresExact sourceTyped,
      part_of_declaresExact targetTyped, Attempt.ok_bind, Attempt.pure_eq_ok, Except.ok.injEq,
      Bool.not_eq_false', Bool.and_eq_true] at stays
    simp (disch := decide) only [generationClause, part_of_declaresExact sourceTyped,
      part_of_declaresExact targetTyped, Attempt.ok_bind,
      get_eq_of_declaresExact sourceTyped targetTyped (by decide) stays.1,
      get_eq_of_declaresExact sourceTyped targetTyped (by decide) stays.2]
  simp (disch := decide) only [columnDefinition, Dialect.expect_ok_iff.mpr sourceIsA,
    Dialect.expect_ok_iff.mpr targetIsA, named, sourceType, targetType,
    part_of_declaresExact sourceTyped, part_of_declaresExact targetTyped, Attempt.ok_bind,
    sameDefault, sameNullable, sameClause]

end PostgreSql

namespace Dialect

variable {dialect : Dialect} {options : Options} {table source target : Value}

/--
A column that is altered by no statement has the same definition in statements on both sides.  In
MySQL there is always a statement.
-/
theorem columnDefinition_eq_of_alterColumn_eq_empty
    (sourceTyped : source.isTyped .column = true)
    (targetTyped : target.isTyped .column = true)
    (sameName : source.letters "name" = target.letters "name")
    (silent : dialect.statements.alterColumn options table source target = .ok "") :
    dialect.statements.columnDefinition options source =
      dialect.statements.columnDefinition options target := by
  cases dialect with
  | microsoftSql =>
      exact MicrosoftSql.columnDefinition_eq_of_alterColumn_eq_empty sourceTyped targetTyped
        sameName silent
  | mySql =>
      have speaks : Attempt.Speaks (MySql.alterColumn options table source) :=
        ensures_bind fun _ => ensures_bind fun _ => ensures_pure (by simp)
      exact (speaks "" silent rfl).elim
  | postgreSql =>
      exact PostgreSql.columnDefinition_eq_of_alterColumn_eq_empty sourceTyped targetTyped sameName
        silent

end Dialect

end SchemaDelta
