import SchemaDelta.Proofs.Ddl.Lineage
import SchemaDelta.Proofs.Ddl.ScriptingFailure

/-!
# Failures of statements

A statement about a typed object fails only by a failure of scripting.  The functions of PostgreSQL
are the exception: their arguments are read from lists that may be too short, and their costs may be
too large to be written.
-/

namespace SchemaDelta

open Attempt

variable {value object column table owner row : Value} {kind : ObjectClass} {name : String}
  {options : Options}

/-! ## Parts of statements -/

private theorem failsByScripting_columnLines
    {definition : Value → Script}
    {columns : List Value}
    (fails : ∀ column ∈ columns, FailsByScripting (definition column)) :
    FailsByScripting (columnLines definition (.list columns)) :=
  (failsByScripting_mapM fails).map

/-- The condition of an index is a text or none. -/
private theorem failsByScripting_indexCondition?
    (typed : row.isTyped .index = true) :
    FailsByScripting (indexCondition? row) := by
  rcases Value.part_eq_null_or_text "filter_definition" typed (by decide) with
    read | ⟨letters, read⟩
  · rw [indexCondition?, read]
    exact failsByScripting_pure _
  · rw [indexCondition?, read]
    exact failsByScripting_ite (failsByScripting_pure _)
      (failsByScripting_ite (failsByScripting_pure _) (failsByScripting_pure _))

private theorem failsByScripting_sequenceLines
    (typed : object.isTyped .sequence = true) :
    FailsByScripting (sequenceLines object) :=
  (failsByScripting_part typed (by decide)).andThen fun _ =>
    (failsByScripting_part typed (by decide)).andThen fun _ =>
      (failsByScripting_part typed (by decide)).andThen fun _ =>
        (failsByScripting_part typed (by decide)).andThen fun _ =>
          (failsByScripting_part typed (by decide)).andThen fun _ =>
            (failsByScripting_part typed (by decide)).map

/-! ## Statements of Microsoft SQL -/

namespace MicrosoftSql

private theorem failsByScripting_systemType
    (typed : column.isTyped .microsoftSqlColumn = true) :
    FailsByScripting (systemType options column) := by
  have collation := dialect.failsByScripting_collateClause options
    (Value.isTyped_of_isWithin typed (by decide))
  rw [systemType, Value.part_text_of_isTyped typed (by decide), Attempt.ok_bind]
  change FailsByScripting (ite _ _ _)
  refine failsByScripting_ite (failsByScripting_pure _) (failsByScripting_ite ?_
    (failsByScripting_ite ?_ (failsByScripting_ite ?_ ?_)))
  · exact (failsByScripting_part typed (by decide)).andThen fun _ =>
      (failsByScripting_part typed (by decide)).map
  · exact (failsByScripting_part typed (by decide)).andThen fun _ =>
      failsByScripting_ite (failsByScripting_pure _) (failsByScripting_pure _)
  · exact (failsByScripting_part typed (by decide)).map
  · refine (failsByScripting_part typed (by decide)).andThen fun _ => ?_
    exact failsByScripting_ite collation.map (failsByScripting_ite collation.map
      (failsByScripting_ite collation.map (failsByScripting_ite (failsByScripting_pure _)
        (failsByScripting_ite (failsByScripting_pure _) (failsByScripting_error rfl)))))

private theorem failsByScripting_columnType
    (options : Options)
    (typed : column.isTyped .column = true) :
    FailsByScripting (columnType options column) := by
  refine dialect.failsByScripting_expected typed fun typed => ?_
  refine (failsByScripting_part typed (by decide)).andThen fun _ =>
    failsByScripting_ite (failsByScripting_part typed (by decide)).map ?_
  refine (failsByScripting_part typed (by decide)).andThen fun _ => failsByScripting_ite ?_
    (failsByScripting_systemType typed)
  have declared : ObjectClass.microsoftSqlColumn.declares "user_type_schema"
      { item := .text, isOptional := true } = true := by
    decide
  rcases Value.part_of_isTyped typed declared with ⟨read, conform⟩
  rw [read, Attempt.ok_bind, Value.part_text_of_isTyped typed (by decide), Attempt.ok_bind]
  exact dialect.failsByScripting_qualifiedName conform _

private theorem failsByScripting_columnDefinition
    (typed : column.isTyped .column = true) :
    FailsByScripting (columnDefinition options column) := by
  have typeFails := failsByScripting_columnType options typed
  refine dialect.failsByScripting_expected typed fun typed => ?_
  refine (dialect.failsByScripting_quotePart typed (by decide)).andThen fun _ =>
    typeFails.andThen fun _ => (failsByScripting_part typed (by decide)).andThen fun _ =>
      failsByScripting_ite (failsByScripting_part typed (by decide)).map ?_
  refine (failsByScripting_part typed (by decide)).andThen fun _ => FailsByScripting.andThen ?_
    fun _ => (failsByScripting_part typed (by decide)).map
  refine (failsByScripting_part typed (by decide)).andThen fun _ =>
    failsByScripting_ite (failsByScripting_pure _) ?_
  exact (failsByScripting_part typed (by decide)).andThen fun _ =>
    (failsByScripting_part typed (by decide)).map

private theorem failsByScripting_createTable
    (typed : table.isTyped .table = true)
    {columns : List Value}
    (columnsTyped : ∀ column ∈ columns, column.isTyped .column = true) :
    FailsByScripting (createTable options table (.list columns)) := by
  have named := dialect.failsByScripting_objectName options
    (Value.isTyped_of_isWithin typed (by decide))
  exact (failsByScripting_columnLines fun column member =>
    failsByScripting_columnDefinition (columnsTyped column member)).andThen fun _ => named.map

private theorem failsByScripting_addPrimaryKeys
    {rows : List Value}
    (typed : table.isTyped .table = true)
    (rowsTyped : ∀ row ∈ rows, row.isTyped .index = true) :
    FailsByScripting (addPrimaryKeys options table (.list rows)) := by
  have named := dialect.failsByScripting_objectName options
    (Value.isTyped_of_isWithin typed (by decide))
  refine failsByScripting_ofGroups rowsTyped (by decide) fun key group keyTyped groupTyped => ?_
  refine dialect.failsByScripting_expected keyTyped fun special => ?_
  exact (failsByScripting_part special (by decide)).andThen fun _ => named.map.andThen fun _ =>
    (dialect.failsByScripting_quotePart keyTyped (by decide)).andThen fun _ =>
      (dialect.failsByScripting_indexColumns groupTyped).map

private theorem failsByScripting_addChecks
    {rows : List Value}
    (typed : table.isTyped .table = true)
    (rowsTyped : ∀ row ∈ rows, row.isTyped .constraint = true) :
    FailsByScripting (addChecks options table (.list rows)) := by
  have named := dialect.failsByScripting_objectName options
    (Value.isTyped_of_isWithin typed (by decide))
  refine failsByScripting_ofGroups rowsTyped (by decide) fun check group checkTyped _ => ?_
  exact named.map.andThen fun _ =>
    (dialect.failsByScripting_quotePart checkTyped (by decide)).andThen fun _ =>
      (failsByScripting_part checkTyped (by decide)).map

private theorem failsByScripting_addForeignKeys
    {rows : List Value}
    (typed : table.isTyped .table = true)
    (rowsTyped : ∀ row ∈ rows, row.isTyped .foreignKey = true) :
    FailsByScripting (addForeignKeys options table (.list rows)) := by
  have named := dialect.failsByScripting_objectName options
    (Value.isTyped_of_isWithin typed (by decide))
  refine named.andThen fun _ => ?_
  refine failsByScripting_ofGroups rowsTyped (by decide) fun key group keyTyped groupTyped => ?_
  refine (dialect.failsByScripting_quotePart keyTyped (by decide)).andThen fun _ =>
    (dialect.failsByScripting_quotedParts groupTyped (by decide)).andThen fun _ =>
      (dialect.failsByScripting_quotedParts groupTyped (by decide)).andThen fun _ =>
        (dialect.failsByScripting_qualifiedParts keyTyped (by decide) (by decide)).andThen
          fun _ => ?_
  exact (failsByScripting_part keyTyped (by decide)).andThen fun _ =>
    (dialect.failsByScripting_referentialAction _).andThen fun _ =>
      (failsByScripting_part keyTyped (by decide)).andThen fun _ =>
        (dialect.failsByScripting_referentialAction _).map

private theorem failsByScripting_createIndexes
    {rows : List Value}
    (typed : owner.isTyped .schemaObject = true)
    (rowsTyped : ∀ row ∈ rows, row.isTyped .index = true) :
    FailsByScripting (createIndexes options owner (.list rows)) := by
  have named := dialect.failsByScripting_objectName options typed
  rw [createIndexes_eq options owner fun row member => Value.isRow_of_index (rowsTyped row member)]
  refine (failsByScripting_forM fun row _ =>
    dialect.failsByScripting_expect .microsoftSqlIndex row).bind fun _ expected => ?_
  have special : ∀ row ∈ clusteredFirst rows, row.isTyped .microsoftSqlIndex = true := by
    intro row member
    have held := mem_clusteredFirst.mp member
    exact Value.isTyped_of_isA (rowsTyped row held)
      (Dialect.expect_ok_iff.mp (ok_of_forM expected row held))
  refine failsByScripting_groupScripts special fun row group rowTyped groupTyped => ?_
  have rowIsIndex : row.isTyped .index = true :=
    Value.isTyped_of_isWithin rowTyped (by decide)
  have words : ∀ kind, FailsByScripting (indexWords row kind) := by
    intro kind
    unfold indexWords indexWords.uniqueWord
    have unique : FailsByScripting (row.part "is_unique") :=
      failsByScripting_part rowTyped (by decide)
    split
    · exact unique.map.map
    · exact unique.map
    · exact failsByScripting_pure _
    · exact failsByScripting_pure _
    · exact failsByScripting_error rfl
  refine (failsByScripting_part rowTyped (by decide)).andThen fun kind =>
    (words kind).andThen fun _ => ?_
  refine (dialect.failsByScripting_quotePart rowTyped (by decide)).andThen fun _ =>
    named.andThen fun _ => FailsByScripting.andThen ?_ fun _ =>
      (failsByScripting_indexCondition? rowIsIndex).andThen fun _ => failsByScripting_pure _
  exact dialect.failsByScripting_indexColumns fun member held =>
    Value.isTyped_of_isWithin (groupTyped member held) (by decide)

private theorem failsByScripting_createModule
    {part : String}
    (typed : object.isTyped kind = true)
    (declared : kind.declares part .text = true) :
    FailsByScripting (createModule part object) :=
  (failsByScripting_partText typed declared).map

private theorem failsByScripting_createSequence
    (typed : object.isTyped .sequence = true) :
    FailsByScripting (createSequence options object) :=
  (dialect.failsByScripting_objectName options
    (Value.isTyped_of_isWithin typed (by decide))).andThen fun _ =>
      (failsByScripting_sequenceLines typed).map

private theorem failsByScripting_aliasSuffix
    (typed : object.isTyped .microsoftSqlDataType = true) :
    FailsByScripting (aliasSuffix object) := by
  refine (failsByScripting_part typed (by decide)).andThen fun name => ?_
  split
  · exact failsByScripting_pure _
  · refine failsByScripting_ite (failsByScripting_part typed (by decide)).map
      (failsByScripting_ite (failsByScripting_part typed (by decide)).map
        (failsByScripting_ite ?_ (failsByScripting_pure _)))
    exact (failsByScripting_part typed (by decide)).andThen fun _ =>
      (failsByScripting_part typed (by decide)).map

private theorem failsByScripting_createType
    (typed : object.isTyped .dataType = true) :
    FailsByScripting (createType options object) := by
  refine dialect.failsByScripting_expected typed fun special => ?_
  exact (dialect.failsByScripting_objectName options
    (Value.isTyped_of_isWithin typed (by decide))).andThen fun _ =>
      (failsByScripting_part special (by decide)).andThen fun _ =>
        (failsByScripting_aliasSuffix special).andThen fun _ =>
          (failsByScripting_part special (by decide)).map

end MicrosoftSql

/-! ## Statements of MySQL -/

namespace MySql

private theorem failsByScripting_plainType
    (typed : column.isTyped .mySqlColumn = true) :
    FailsByScripting (plainType options column) := by
  have clauses : FailsByScripting (characterClauses options column) :=
    (failsByScripting_part typed (by decide)).map.andThen fun _ =>
      (dialect.failsByScripting_collateClause options
        (Value.isTyped_of_isWithin typed (by decide))).map
  rw [plainType, Value.part_text_of_isTyped typed (by decide), Attempt.ok_bind]
  refine FailsByScripting.andThen (failsByScripting_ok _) fun _ =>
    (failsByScripting_part typed (by decide)).andThen fun _ => ?_
  refine failsByScripting_ite (failsByScripting_pure _) (failsByScripting_ite ?_
    (failsByScripting_ite clauses.map (failsByScripting_error rfl)))
  exact (failsByScripting_part typed (by decide)).andThen fun _ => clauses.map

private theorem failsByScripting_generation
    (typed : column.isTyped .mySqlColumn = true) :
    FailsByScripting (generation column) :=
  (failsByScripting_partText typed (by decide)).andThen fun _ =>
    failsByScripting_ite (failsByScripting_pure _)
      (failsByScripting_ite (failsByScripting_pure _) (failsByScripting_pure _))

private theorem failsByScripting_columnType
    (options : Options)
    (typed : column.isTyped .column = true) :
    FailsByScripting (columnType options column) := by
  refine dialect.failsByScripting_expected typed fun typed => ?_
  have generated : ∀ keeping, FailsByScripting (generatedType column keeping) := fun keeping =>
    (failsByScripting_part typed (by decide)).andThen fun _ =>
      (failsByScripting_part typed (by decide)).map
  refine (failsByScripting_generation typed).andThen fun way => ?_
  cases way with
  | computed => exact (generated _).map
  | stored => exact (generated _).map
  | given => exact failsByScripting_plainType typed

private theorem failsByScripting_columnDefinition
    (typed : column.isTyped .column = true) :
    FailsByScripting (columnDefinition options column) := by
  have typeFails := failsByScripting_columnType options typed
  refine dialect.failsByScripting_expected typed fun typed => ?_
  refine (dialect.failsByScripting_quotePart typed (by decide)).andThen fun _ =>
    typeFails.andThen fun _ => (failsByScripting_generation typed).andThen fun _ =>
      failsByScripting_ite (failsByScripting_pure _) ?_
  exact (failsByScripting_part typed (by decide)).andThen fun _ =>
    (failsByScripting_part typed (by decide)).andThen fun _ =>
      (failsByScripting_partText typed (by decide)).map

private theorem failsByScripting_createTable
    (typed : table.isTyped .table = true)
    {columns : List Value}
    (columnsTyped : ∀ column ∈ columns, column.isTyped .column = true) :
    FailsByScripting (createTable options table (.list columns)) := by
  have named := dialect.failsByScripting_objectName options
    (Value.isTyped_of_isWithin typed (by decide))
  exact (failsByScripting_columnLines fun column member =>
    failsByScripting_columnDefinition (columnsTyped column member)).andThen fun _ => named.map

private theorem failsByScripting_addPrimaryKeys
    {rows : List Value}
    (typed : table.isTyped .table = true)
    (rowsTyped : ∀ row ∈ rows, row.isTyped .index = true) :
    FailsByScripting (addPrimaryKeys options table (.list rows)) := by
  have named := dialect.failsByScripting_objectName options
    (Value.isTyped_of_isWithin typed (by decide))
  refine failsByScripting_ofGroups rowsTyped (by decide) fun _ group _ groupTyped => ?_
  exact named.map.andThen fun _ => (dialect.failsByScripting_indexColumns groupTyped).map

private theorem failsByScripting_addChecks
    {rows : List Value}
    (typed : table.isTyped .table = true)
    (rowsTyped : ∀ row ∈ rows, row.isTyped .constraint = true) :
    FailsByScripting (addChecks options table (.list rows)) := by
  have named := dialect.failsByScripting_objectName options
    (Value.isTyped_of_isWithin typed (by decide))
  refine failsByScripting_ofGroups rowsTyped (by decide) fun check group checkTyped _ => ?_
  exact named.map.andThen fun _ =>
    (dialect.failsByScripting_quotePart checkTyped (by decide)).andThen fun _ =>
      (failsByScripting_part checkTyped (by decide)).map

private theorem failsByScripting_addForeignKeys
    {rows : List Value}
    (typed : table.isTyped .table = true)
    (rowsTyped : ∀ row ∈ rows, row.isTyped .foreignKey = true) :
    FailsByScripting (addForeignKeys options table (.list rows)) := by
  have named := dialect.failsByScripting_objectName options
    (Value.isTyped_of_isWithin typed (by decide))
  refine failsByScripting_ofGroups rowsTyped (by decide) fun key group keyTyped groupTyped => ?_
  refine (dialect.failsByScripting_quotedParts groupTyped (by decide)).andThen fun _ =>
    (dialect.failsByScripting_quotedParts groupTyped (by decide)).andThen fun _ =>
      (dialect.failsByScripting_qualifiedParts keyTyped (by decide) (by decide)).andThen
        fun _ => named.map.andThen fun _ => ?_
  exact (dialect.failsByScripting_quotePart keyTyped (by decide)).andThen fun _ =>
    (failsByScripting_part keyTyped (by decide)).andThen fun _ =>
      (dialect.failsByScripting_referentialAction _).andThen fun _ =>
        (failsByScripting_part keyTyped (by decide)).andThen fun _ =>
          (dialect.failsByScripting_referentialAction _).map

private theorem failsByScripting_createIndexes
    {rows : List Value}
    (typed : owner.isTyped .schemaObject = true)
    (rowsTyped : ∀ row ∈ rows, row.isTyped .index = true) :
    FailsByScripting (createIndexes options owner (.list rows)) := by
  have named := dialect.failsByScripting_objectName options typed
  refine failsByScripting_ofGroups rowsTyped (by decide) fun row group rowTyped groupTyped => ?_
  refine dialect.failsByScripting_expected rowTyped fun special => ?_
  rw [Value.part_text_of_isTyped special (by decide), Attempt.ok_bind]
  refine FailsByScripting.andThen (failsByScripting_ok _) fun letters => ?_
  dsimp only
  split
  · exact failsByScripting_error rfl
  · exact (failsByScripting_part special (by decide)).andThen fun _ =>
      (dialect.failsByScripting_quotePart rowTyped (by decide)).andThen fun _ =>
        named.andThen fun _ => (dialect.failsByScripting_indexColumns groupTyped).map

private theorem failsByScripting_createModule
    (typed : object.isTyped kind = true)
    (declared : kind.declares "definition" .text = true) :
    FailsByScripting (createModule object) :=
  (failsByScripting_partText typed declared).map

private theorem failsByScripting_viewStatement
    (typed : object.isTyped .view = true)
    (word : String) :
    FailsByScripting (viewStatement word options object) :=
  (dialect.failsByScripting_objectName options
    (Value.isTyped_of_isWithin typed (by decide))).andThen fun _ =>
      (failsByScripting_partText typed (by decide)).map

end MySql

/-! ## Statements of PostgreSQL -/

namespace PostgreSql

/-- A text that is missing or given in a field. -/
private theorem failsByScripting_namedType
    (typed : column.isTyped .postgreSqlColumn = true)
    (name : String) :
    FailsByScripting (namedType options column name) := by
  have collation := dialect.failsByScripting_collateClause options
    (Value.isTyped_of_isWithin typed (by decide))
  have length : FailsByScripting (lengthClause column) :=
    (failsByScripting_part typed (by decide)).map
  have precision : FailsByScripting (precisionClause column) :=
    (failsByScripting_part typed (by decide)).andThen fun _ =>
      failsByScripting_ite (failsByScripting_pure _) (failsByScripting_pure _)
  have catalog : ∀ type, FailsByScripting (catalogName column type) := fun type =>
    (failsByScripting_part typed (by decide)).andThen fun _ =>
      failsByScripting_ite (failsByScripting_error rfl) (failsByScripting_pure _)
  unfold namedType
  refine failsByScripting_ite (failsByScripting_pure _) (failsByScripting_ite ?_
    (failsByScripting_ite ?_ (failsByScripting_ite ?_ ?_)))
  · exact (failsByScripting_part typed (by decide)).andThen fun _ =>
      failsByScripting_ite (failsByScripting_pure _)
        (failsByScripting_part typed (by decide)).map
  · exact length.andThen fun _ => collation.map
  · exact collation.map
  · split
    · exact precision.map
    · refine failsByScripting_ite ?_ (failsByScripting_ite ?_ (failsByScripting_ite ?_
        (failsByScripting_ite ?_ (failsByScripting_error rfl))))
      · exact (failsByScripting_part typed (by decide)).andThen fun _ =>
          failsByScripting_ite (failsByScripting_pure _) precision.map
      · exact length.map
      · exact catalog _
      · rw [catalogName]
        rcases Value.part_eq_null_or_text "udt_name" typed (by decide) with
          read | ⟨letters, read⟩
        · rw [read]
          exact failsByScripting_error rfl
        · rw [read, Attempt.ok_bind]
          split
          · exact failsByScripting_error rfl
          · exact failsByScripting_pure _

private theorem failsByScripting_columnType
    (options : Options)
    (typed : column.isTyped .column = true) :
    FailsByScripting (columnType options column) := by
  refine dialect.failsByScripting_expected typed fun typed => ?_
  rw [Value.part_text_of_isTyped typed (by decide), Attempt.ok_bind]
  exact failsByScripting_namedType typed _

private theorem failsByScripting_generationClause
    (typed : column.isTyped .postgreSqlColumn = true) :
    FailsByScripting (generationClause column) := by
  have expression : ∀ usual : String, FailsByScripting (do
      let expression ← column.part "generation_expression"
      if expression.isTruthy then
        return " GENERATED ALWAYS AS (" ++ expression.display ++ ") STORED"
      return usual) := fun _ =>
    (failsByScripting_part typed (by decide)).andThen fun _ =>
      failsByScripting_ite (failsByScripting_pure _) (failsByScripting_pure _)
  rcases Value.part_eq_null_or_text "identity_generation" typed (by decide) with
    read | ⟨letters, read⟩
  · rw [generationClause, read]
    exact expression ""
  · rw [generationClause, read, Attempt.ok_bind]
    exact failsByScripting_ite (failsByScripting_pure _) (expression "")

private theorem failsByScripting_columnDefinition
    (typed : column.isTyped .column = true) :
    FailsByScripting (columnDefinition options column) := by
  have typeFails := failsByScripting_columnType options typed
  refine dialect.failsByScripting_expected typed fun typed => ?_
  exact (dialect.failsByScripting_quotePart typed (by decide)).andThen fun _ =>
    typeFails.andThen fun _ => (failsByScripting_part typed (by decide)).andThen fun _ =>
      (failsByScripting_part typed (by decide)).andThen fun _ =>
        (failsByScripting_generationClause typed).map

private theorem failsByScripting_inheritsClause
    (typed : table.isTyped .postgreSqlTable = true) :
    FailsByScripting (inheritsClause options table) := by
  have parentRead := Value.parentKey_ok (Value.isTyped_of_isWithin typed (by decide))
  have schemaDeclared : ObjectClass.postgreSqlTable.declares "inherited_table_schema"
      { item := .text, isOptional := true } = true := by
    decide
  rcases Value.part_of_isTyped typed schemaDeclared with ⟨schemaRead, schemaConforms⟩
  rcases Value.part_eq_null_or_text "inherited_table_name" typed (by decide) with
    read | ⟨letters, read⟩
  · have orphan : table.parentKey = .ok .null := by
      rcases Value.isTyped_iff.mp typed with ⟨special, fields, rfl, special_isA, _⟩
      cases special with
      | postgreSqlTable =>
          rw [Value.parentKey, read]
          rfl
      | _ => exact absurd special_isA (by decide)
    rw [inheritsClause, orphan]
    exact failsByScripting_pure _
  · rw [inheritsClause, parentRead, Attempt.ok_bind, schemaRead, read]
    exact failsByScripting_ite (failsByScripting_pure _)
      (dialect.failsByScripting_qualifiedName schemaConforms letters).map

private theorem failsByScripting_createTable
    (typed : table.isTyped .table = true)
    {columns : List Value}
    (columnsTyped : ∀ column ∈ columns, column.isTyped .column = true) :
    FailsByScripting (createTable options table (.list columns)) := by
  have named := dialect.failsByScripting_objectName options
    (Value.isTyped_of_isWithin typed (by decide))
  refine dialect.failsByScripting_expected typed fun special => ?_
  exact (failsByScripting_columnLines fun column member =>
    failsByScripting_columnDefinition (columnsTyped column member)).andThen fun _ =>
      named.andThen fun _ => (failsByScripting_inheritsClause special).map

private theorem failsByScripting_addPrimaryKeys
    {rows : List Value}
    (typed : table.isTyped .table = true)
    (rowsTyped : ∀ row ∈ rows, row.isTyped .index = true) :
    FailsByScripting (addPrimaryKeys options table (.list rows)) := by
  have named := dialect.failsByScripting_objectName options
    (Value.isTyped_of_isWithin typed (by decide))
  refine failsByScripting_ofGroups rowsTyped (by decide) fun key group keyTyped groupTyped => ?_
  exact named.map.andThen fun _ =>
    (dialect.failsByScripting_quotePart keyTyped (by decide)).andThen fun _ =>
      (dialect.failsByScripting_indexColumns groupTyped).map

private theorem failsByScripting_addChecks
    {rows : List Value}
    (typed : table.isTyped .table = true)
    (rowsTyped : ∀ row ∈ rows, row.isTyped .constraint = true) :
    FailsByScripting (addChecks options table (.list rows)) := by
  have named := dialect.failsByScripting_objectName options
    (Value.isTyped_of_isWithin typed (by decide))
  refine failsByScripting_ofGroups rowsTyped (by decide) fun check group checkTyped _ => ?_
  exact named.map.andThen fun _ =>
    (dialect.failsByScripting_quotePart checkTyped (by decide)).andThen fun _ =>
      (failsByScripting_part checkTyped (by decide)).map

private theorem failsByScripting_matchOption
    (letters : String) :
    FailsByScripting (matchOption (.text letters)) := by
  unfold matchOption Value.orElse
  split
  all_goals
    rw [show ∀ held : String, (Value.text held).asText = .ok held from fun _ => rfl,
      Attempt.ok_bind]
    split
    · exact failsByScripting_error rfl
    · exact failsByScripting_pure _

private theorem failsByScripting_addForeignKeys
    {rows : List Value}
    (typed : table.isTyped .table = true)
    (rowsTyped : ∀ row ∈ rows, row.isTyped .foreignKey = true) :
    FailsByScripting (addForeignKeys options table (.list rows)) := by
  have named := dialect.failsByScripting_objectName options
    (Value.isTyped_of_isWithin typed (by decide))
  refine failsByScripting_ofGroups rowsTyped (by decide) fun key group keyTyped groupTyped => ?_
  refine dialect.failsByScripting_expected keyTyped fun special => ?_
  refine (dialect.failsByScripting_quotedParts groupTyped (by decide)).andThen fun _ =>
    (dialect.failsByScripting_quotedParts groupTyped (by decide)).andThen fun _ =>
      (dialect.failsByScripting_qualifiedParts keyTyped (by decide) (by decide)).andThen
        fun _ => ?_
  rw [Value.part_text_of_isTyped special (by decide), Attempt.ok_bind]
  refine (failsByScripting_matchOption _).andThen fun _ => named.map.andThen fun _ =>
    (dialect.failsByScripting_quotePart keyTyped (by decide)).andThen fun _ =>
      (failsByScripting_part keyTyped (by decide)).andThen fun _ =>
        (dialect.failsByScripting_referentialAction _).andThen fun _ => ?_
  exact (failsByScripting_part keyTyped (by decide)).andThen fun _ =>
    (dialect.failsByScripting_referentialAction _).andThen fun _ =>
      (failsByScripting_part special (by decide)).andThen fun _ =>
        (failsByScripting_part special (by decide)).map

private theorem failsByScripting_createIndexes
    {rows : List Value}
    (typed : owner.isTyped .schemaObject = true)
    (rowsTyped : ∀ row ∈ rows, row.isTyped .index = true) :
    FailsByScripting (createIndexes options owner (.list rows)) := by
  have named := dialect.failsByScripting_objectName options typed
  refine failsByScripting_ofGroups rowsTyped (by decide) fun row group rowTyped groupTyped => ?_
  refine dialect.failsByScripting_expected rowTyped fun special => ?_
  rw [Value.part_text_of_isTyped special (by decide), Attempt.ok_bind]
  refine FailsByScripting.andThen (failsByScripting_ok _) fun found => ?_
  split
  · exact failsByScripting_error rfl
  · exact (failsByScripting_part special (by decide)).andThen fun _ =>
      (dialect.failsByScripting_quotePart rowTyped (by decide)).andThen fun _ =>
        named.andThen fun _ => (dialect.failsByScripting_indexColumns groupTyped).andThen fun _ =>
          (failsByScripting_indexCondition? rowTyped).andThen fun _ => failsByScripting_pure _

private theorem failsByScripting_createView
    (typed : object.isTyped .view = true) :
    FailsByScripting (createView options object) := by
  refine dialect.failsByScripting_expected typed fun special => ?_
  exact (dialect.failsByScripting_objectName options
    (Value.isTyped_of_isWithin typed (by decide))).andThen fun _ =>
      (failsByScripting_part special (by decide)).andThen fun _ =>
        (failsByScripting_part typed (by decide)).map

private theorem failsByScripting_createTrigger
    (typed : object.isTyped .trigger = true) :
    FailsByScripting (createTrigger object) :=
  (failsByScripting_partText typed (by decide)).map

private theorem failsByScripting_createSequence
    (typed : object.isTyped .sequence = true) :
    FailsByScripting (createSequence options object) := by
  refine dialect.failsByScripting_expected typed fun special => ?_
  exact (dialect.failsByScripting_objectName options
    (Value.isTyped_of_isWithin typed (by decide))).andThen fun _ =>
      (failsByScripting_sequenceLines typed).andThen fun _ =>
        (failsByScripting_part special (by decide)).map

section Types

variable {types : List Value} (typesTyped : ∀ type ∈ types, type.isTyped .dataType = true)

include typesTyped

/-- A type that is found by its id is a typed one of PostgreSQL. -/
private theorem isTyped_of_findType?
    {typeId type : Value}
    (found : findType? (.list types) typeId = .ok (some type)) :
    type.isTyped .postgreSqlDataType = true := by
  have first : (types.find? fun type => type.isA .postgreSqlDataType &&
      (type.field? "type_id").any fun other => other.agrees typeId) = some type :=
    Except.ok.inj found
  have passes := List.find?_some first
  rw [Bool.and_eq_true] at passes
  exact Value.isTyped_of_isA (typesTyped type (List.mem_of_find?_eq_some first)) passes.1

private theorem failsByScripting_typeName
    (typeId : Value) :
    FailsByScripting (typeName (.list types) typeId) := by
  have spelled : ∀ letters, FailsByScripting (typeSpellingOf (.text letters)) := by
    intro letters
    refine FailsByScripting.andThen (failsByScripting_ok _) fun _ => ?_
    split
    · exact failsByScripting_pure _
    · exact failsByScripting_pure _
  refine FailsByScripting.bind (failsByScripting_ok _) fun found foundOk => ?_
  cases found with
  | none => exact failsByScripting_error rfl
  | some type =>
      have typed := isTyped_of_findType? typesTyped foundOk
      have elements : FailsByScripting (elementType? (.list types) type) :=
        (failsByScripting_part typed (by decide)).andThen fun _ =>
          failsByScripting_ite (failsByScripting_pure _)
            ((failsByScripting_part typed (by decide)).andThen fun _ =>
              failsByScripting_ite (failsByScripting_pure _) (failsByScripting_ok _))
      refine elements.bind fun element elementOk => ?_
      cases element with
      | none =>
          dsimp only
          rw [Value.part_text_of_isTyped typed (by decide)]
          exact spelled _
      | some element =>
          rcases bind_eq_ok_iff.mp elementOk with ⟨_, _, arrayRun⟩
          have elementTyped : element.isTyped .postgreSqlDataType = true := by
            split at arrayRun
            · cases arrayRun
            · rcases bind_eq_ok_iff.mp arrayRun with ⟨elementId, _, elementFound⟩
              split at elementFound
              · cases elementFound
              · exact isTyped_of_findType? typesTyped elementFound
          dsimp only
          rw [Value.part_text_of_isTyped elementTyped (by decide)]
          exact (spelled _).map

private theorem failsByScripting_attributeLines
    (typed : object.isTyped .postgreSqlDataTypeComposite = true) :
    FailsByScripting (attributeLines (.list types) object) := by
  refine (failsByScripting_partItems .text typed (by decide)).andThen fun _ =>
    (failsByScripting_partItems .int typed (by decide)).andThen fun _ => ?_
  exact (failsByScripting_mapM fun entry _ =>
    (failsByScripting_typeName typesTyped entry.2).map).map

private theorem failsByScripting_rangeLines
    (typed : object.isTyped .postgreSqlDataTypeRange = true) :
    FailsByScripting (rangeLines (.list types) object) :=
  (failsByScripting_part typed (by decide)).andThen fun _ =>
    (failsByScripting_typeName typesTyped _).andThen fun _ =>
      (failsByScripting_part typed (by decide)).andThen fun _ =>
        (failsByScripting_part typed (by decide)).map

omit typesTyped in
private theorem failsByScripting_domainConstraint
    (typed : object.isTyped .postgreSqlDataTypeDomain = true) :
    FailsByScripting (domainConstraint object) := by
  have rest : ∀ named : String, FailsByScripting (do
      let definition ← object.part "constraint_definition"
      let notNull ← object.part "not_null"
      return named ++ indent ++
        if definition.isTruthy then definition.display else nullability (!notNull.isTruthy)) :=
    fun _ => (failsByScripting_part typed (by decide)).andThen fun _ =>
      (failsByScripting_part typed (by decide)).map
  rcases Value.part_eq_null_or_text "constraint_name" typed (by decide) with
    read | ⟨letters, read⟩
  · rw [domainConstraint, read]
    exact rest ""
  · rw [domainConstraint, read, Attempt.ok_bind]
    split
    · exact rest _
    · exact rest _

private theorem failsByScripting_createType
    (typed : object.isTyped .dataType = true) :
    FailsByScripting (createType options (.list types) object) := by
  refine (dialect.failsByScripting_objectName options
    (Value.isTyped_of_isWithin typed (by decide))).andThen fun _ => ?_
  rcases Value.isTyped_iff.mp typed with ⟨special, fields, rfl, _, conform⟩
  have own : (Value.object special fields).isTyped special = true :=
    Value.isTyped_iff.mpr ⟨special, fields, rfl, by cases special <;> decide, conform⟩
  cases special with
  | postgreSqlDataTypeEnumerated =>
      exact (failsByScripting_partItems .text own (by decide)).map.map
  | postgreSqlDataTypeComposite => exact (failsByScripting_attributeLines typesTyped own).map
  | postgreSqlDataTypeRange => exact (failsByScripting_rangeLines typesTyped own).map
  | postgreSqlDataTypeDomain =>
      exact (failsByScripting_part own (by decide)).andThen fun _ =>
        (failsByScripting_typeName typesTyped _).andThen fun _ =>
          (failsByScripting_domainConstraint own).map
  | _ => exact failsByScripting_error rfl

end Types

end PostgreSql

/-! ## Statements of all dialects -/

namespace Dialect

variable (dialect : Dialect) (options : Options)

theorem failsByScripting_createTable
    (typed : table.isTyped .table = true)
    {columns : List Value}
    (columnsTyped : ∀ column ∈ columns, column.isTyped .column = true) :
    FailsByScripting (dialect.statements.createTable options table (.list columns)) := by
  cases dialect with
  | microsoftSql => exact MicrosoftSql.failsByScripting_createTable typed columnsTyped
  | mySql => exact MySql.failsByScripting_createTable typed columnsTyped
  | postgreSql => exact PostgreSql.failsByScripting_createTable typed columnsTyped

theorem failsByScripting_addPrimaryKeys
    {rows : List Value}
    (typed : table.isTyped .table = true)
    (rowsTyped : ∀ row ∈ rows, row.isTyped .index = true) :
    FailsByScripting (dialect.statements.addPrimaryKeys options table (.list rows)) := by
  cases dialect with
  | microsoftSql => exact MicrosoftSql.failsByScripting_addPrimaryKeys typed rowsTyped
  | mySql => exact MySql.failsByScripting_addPrimaryKeys typed rowsTyped
  | postgreSql => exact PostgreSql.failsByScripting_addPrimaryKeys typed rowsTyped

theorem failsByScripting_addChecks
    {rows : List Value}
    (typed : table.isTyped .table = true)
    (rowsTyped : ∀ row ∈ rows, row.isTyped .constraint = true) :
    FailsByScripting (dialect.statements.addChecks options table (.list rows)) := by
  cases dialect with
  | microsoftSql => exact MicrosoftSql.failsByScripting_addChecks typed rowsTyped
  | mySql => exact MySql.failsByScripting_addChecks typed rowsTyped
  | postgreSql => exact PostgreSql.failsByScripting_addChecks typed rowsTyped

theorem failsByScripting_addForeignKeys
    {rows : List Value}
    (typed : table.isTyped .table = true)
    (rowsTyped : ∀ row ∈ rows, row.isTyped .foreignKey = true) :
    FailsByScripting (dialect.statements.addForeignKeys options table (.list rows)) := by
  cases dialect with
  | microsoftSql => exact MicrosoftSql.failsByScripting_addForeignKeys typed rowsTyped
  | mySql => exact MySql.failsByScripting_addForeignKeys typed rowsTyped
  | postgreSql => exact PostgreSql.failsByScripting_addForeignKeys typed rowsTyped

theorem failsByScripting_createIndexes
    {rows : List Value}
    (typed : owner.isTyped .schemaObject = true)
    (rowsTyped : ∀ row ∈ rows, row.isTyped .index = true) :
    FailsByScripting (dialect.statements.createIndexes options owner (.list rows)) := by
  cases dialect with
  | microsoftSql => exact MicrosoftSql.failsByScripting_createIndexes typed rowsTyped
  | mySql => exact MySql.failsByScripting_createIndexes typed rowsTyped
  | postgreSql => exact PostgreSql.failsByScripting_createIndexes typed rowsTyped

theorem failsByScripting_createView
    (typed : object.isTyped .view = true) :
    FailsByScripting (dialect.statements.createView options object) := by
  cases dialect with
  | microsoftSql => exact MicrosoftSql.failsByScripting_createModule typed (by decide)
  | mySql => exact MySql.failsByScripting_viewStatement typed "CREATE"
  | postgreSql => exact PostgreSql.failsByScripting_createView typed

theorem failsByScripting_createProcedure
    (typed : object.isTyped .storedProcedure = true) :
    FailsByScripting (dialect.statements.createProcedure options object) := by
  cases dialect with
  | microsoftSql => exact MicrosoftSql.failsByScripting_createModule typed (by decide)
  | mySql => exact MySql.failsByScripting_createModule typed (by decide)
  | postgreSql => exact failsByScripting_error rfl

theorem failsByScripting_createTrigger
    (typed : object.isTyped .trigger = true) :
    FailsByScripting (dialect.statements.createTrigger options object) := by
  cases dialect with
  | microsoftSql => exact MicrosoftSql.failsByScripting_createModule typed (by decide)
  | mySql => exact MySql.failsByScripting_createModule typed (by decide)
  | postgreSql => exact PostgreSql.failsByScripting_createTrigger typed

theorem failsByScripting_createSequence
    (typed : object.isTyped .sequence = true) :
    FailsByScripting (dialect.statements.createSequence options object) := by
  cases dialect with
  | microsoftSql => exact MicrosoftSql.failsByScripting_createSequence typed
  | mySql => exact failsByScripting_error rfl
  | postgreSql => exact PostgreSql.failsByScripting_createSequence typed

theorem failsByScripting_createType
    {types : List Value}
    (typesTyped : ∀ type ∈ types, type.isTyped .dataType = true)
    (typed : object.isTyped .dataType = true) :
    FailsByScripting (dialect.statements.createType options (.list types) object) := by
  cases dialect with
  | microsoftSql => exact MicrosoftSql.failsByScripting_createType typed
  | mySql => exact failsByScripting_error rfl
  | postgreSql => exact PostgreSql.failsByScripting_createType typesTyped typed

/-- Functions that are stored with their definition are written as it says. -/
theorem failsByScripting_createFunction
    (stored : dialect ≠ .postgreSql)
    (types : Value)
    (typed : object.isTyped .function = true) :
    FailsByScripting (dialect.statements.createFunction options types object) := by
  cases dialect with
  | microsoftSql => exact MicrosoftSql.failsByScripting_createModule typed (by decide)
  | mySql => exact MySql.failsByScripting_createModule typed (by decide)
  | postgreSql => exact absurd rfl stored

end Dialect

end SchemaDelta
