import SchemaDelta.Ddl.Scripter
import SchemaDelta.Proofs.Ddl.Scripting

/-!
# Independence of scripts

Only the order of tables can fail for a dependency that is not resolved.  All other attempts of
PostgreSQL, to read values and to write statements, may fail in many ways, but never in this one,
whatever values they are given.
-/

namespace SchemaDelta

namespace Attempt

variable {α β : Type}

/-- If there is no result, the reason is not a dependency. -/
def IsIndependent
    (attempt : Attempt α) : Prop :=
  ∀ failure, attempt = .error failure → failure.family ≠ .unresolvedDependency

@[simp]
theorem isIndependent_ok
    (value : α) :
    IsIndependent (.ok value) :=
  fun _ impossible => nomatch impossible

@[simp]
theorem isIndependent_error_iff
    {failure : ScriptFailure} :
    IsIndependent (.error failure : Attempt α) ↔ failure.family ≠ .unresolvedDependency :=
  ⟨fun independent => independent failure rfl, by rintro family _ ⟨⟩; exact family⟩

@[simp]
theorem isIndependent_throw_iff
    {failure : ScriptFailure} :
    IsIndependent (throw failure : Attempt α) ↔ failure.family ≠ .unresolvedDependency :=
  isIndependent_error_iff

@[simp]
theorem isIndependent_bind_iff
    {first : Attempt α}
    {next : α → Attempt β} :
    IsIndependent (first >>= next) ↔
      IsIndependent first ∧ ∀ value, first = .ok value → IsIndependent (next value) := by
  cases first with
  | error failure =>
      change IsIndependent (.error failure) ↔ _
      simp
  | ok value => simp

@[simp]
theorem isIndependent_map_iff
    {first : Attempt α}
    {result : α → β} :
    IsIndependent (result <$> first) ↔ IsIndependent first := by
  cases first with
  | error failure =>
      change IsIndependent (.error failure) ↔ _
      simp
  | ok value => exact iff_of_true (isIndependent_ok _) (isIndependent_ok _)

@[simp]
theorem isIndependent_discard_iff
    {attempt : Attempt α} :
    IsIndependent (discard attempt) ↔ IsIndependent attempt :=
  isIndependent_map_iff

@[simp]
theorem isIndependent_ite_iff
    {condition : Prop}
    [Decidable condition]
    {first second : Attempt α} :
    IsIndependent (if condition then first else second) ↔
      (condition → IsIndependent first) ∧ (¬ condition → IsIndependent second) := by
  split <;> simp_all

/-- A traversal in an independent way is independent. -/
@[simp]
theorem isIndependent_mapM
    {attempt : α → Attempt β}
    (independent : ∀ item, IsIndependent (attempt item))
    (items : List α) :
    IsIndependent (items.mapM attempt) := by
  induction items with
  | nil => exact isIndependent_ok []
  | cons item items ih =>
      simp [List.mapM_cons, independent item, ih]

@[simp]
theorem isIndependent_filterM
    {passes : α → Attempt Bool}
    (independent : ∀ item, IsIndependent (passes item))
    (items : List α) :
    IsIndependent (items.filterM passes) := by
  have collects : ∀ kept, IsIndependent (items.filterAuxM passes kept) := by
    induction items with
    | nil => exact fun kept => isIndependent_ok kept
    | cons item items ih => simp [List.filterAuxM, independent item, ih]
  simp [List.filterM, collects]

@[simp]
theorem isIndependent_anyM
    {passes : α → Attempt Bool}
    (independent : ∀ item, IsIndependent (passes item))
    (items : List α) :
    IsIndependent (items.anyM passes) := by
  induction items with
  | nil => exact isIndependent_ok false
  | cons item items ih =>
      rw [List.anyM, isIndependent_bind_iff]
      refine ⟨independent item, fun passes _ => ?_⟩
      cases passes with
      | true => exact isIndependent_ok true
      | false => exact ih

end Attempt

open Attempt

/-! ## Reading of values -/

namespace Value

variable (value : Value)

@[simp]
theorem isIndependent_part
    (name : String) :
    IsIndependent (value.part name) := by
  unfold part
  split
  · split <;> simp [ScriptFailure.family]
  · simp [ScriptFailure.family]
  · simp [ScriptFailure.family]

@[simp]
theorem isIndependent_required
    (argument : String) :
    IsIndependent (value.required argument) := by
  simp [required, ScriptFailure.family]

@[simp]
theorem isIndependent_asText :
    IsIndependent value.asText := by
  unfold asText
  split <;> simp [ScriptFailure.family]

@[simp]
theorem isIndependent_partText
    (name : String) :
    IsIndependent (value.partText name) := by
  simp [partText]

@[simp]
theorem isIndependent_items :
    IsIndependent value.items := by
  unfold items
  split <;> simp [ScriptFailure.family]

@[simp]
theorem isIndependent_partItems
    (name : String) :
    IsIndependent (value.partItems name) := by
  simp [partItems]

@[simp]
theorem isIndependent_itemAt
    (place : Nat) :
    IsIndependent (value.itemAt place) := by
  unfold itemAt
  split
  · simp [ScriptFailure.family]
  · refine isIndependent_bind_iff.mpr ⟨value.isIndependent_items, fun items _ => ?_⟩
    split <;> simp [ScriptFailure.family]

@[simp]
theorem isIndependent_asKey :
    IsIndependent value.asKey := by
  simp [asKey, ScriptFailure.family]

@[simp]
theorem isIndependent_replaceParts
    (parts : List (String × Value)) :
    IsIndependent (value.replaceParts parts) := by
  unfold replaceParts
  split <;> simp [ScriptFailure.family]

@[simp]
theorem isIndependent_append
    (other : Value) :
    IsIndependent (value.append other) := by
  unfold append
  split
  · simp
  · split <;> simp [ScriptFailure.family]

@[simp]
theorem isIndependent_joinTexts
    (separator : String)
    (values : List Value) :
    IsIndependent (joinTexts separator values) := by
  refine isIndependent_bind_iff.mpr ⟨isIndependent_mapM (fun value => ?_) values, by simp⟩
  split <;> simp [ScriptFailure.family]

@[simp]
theorem isIndependent_sortedBy
    {α : Type}
    {key : α → Attempt Value}
    (independent : ∀ item, IsIndependent (key item))
    (items : List α) :
    IsIndependent (sortedBy key items) := by
  simp [sortedBy, independent, ScriptFailure.family]

@[simp]
theorem isIndependent_indexRows
    (isWanted : Bool → Bool) :
    IsIndependent (value.indexRows isWanted) := by
  simp [indexRows, ScriptFailure.family]

@[simp]
theorem isIndependent_parentKey :
    IsIndependent value.parentKey := by
  unfold parentKey
  split <;> simp [ScriptFailure.family]

@[simp]
theorem isIndependent_listingKey :
    IsIndependent value.listingKey := by
  simp [listingKey]

@[simp]
theorem isIndependent_groups :
    IsIndependent value.groups := by
  simp [groups, sortAndGroup, groupByName]

end Value

/-! ## Names and groups -/

namespace Dialect

variable (dialect : Dialect) (options : Options) (value : Value)

@[simp]
theorem isIndependent_quoteValue :
    IsIndependent (dialect.quoteValue value) := by
  simp [quoteValue]

@[simp]
theorem isIndependent_quotePart
    (name : String) :
    IsIndependent (dialect.quotePart value name) := by
  simp [quotePart]

@[simp]
theorem isIndependent_qualifiedName
    (schema name : Value) :
    IsIndependent (dialect.qualifiedName options schema name) := by
  simp [qualifiedName]

@[simp]
theorem isIndependent_objectName :
    IsIndependent (dialect.objectName options value) := by
  simp [objectName]

@[simp]
theorem isIndependent_tableName :
    IsIndependent (dialect.tableName options value) := by
  simp [tableName]

@[simp]
theorem isIndependent_referencedTable :
    IsIndependent (dialect.referencedTable options value) := by
  simp [referencedTable]

@[simp]
theorem isIndependent_collateClause :
    IsIndependent (dialect.collateClause options value) := by
  cases dialect <;> simp [collateClause]

@[simp]
theorem isIndependent_referentialAction :
    IsIndependent (dialect.referentialAction value) := by
  unfold referentialAction
  split
  · simp [ScriptFailure.family]
  · split <;> simp [ScriptFailure.family]

@[simp]
theorem isIndependent_expect
    (expected : ObjectClass) :
    IsIndependent (dialect.expect expected value) := by
  simp [expect, ScriptFailure.family]

@[simp]
theorem isIndependent_quotedParts
    (name : String)
    (rows : List Value) :
    IsIndependent (dialect.quotedParts name rows) := by
  simp [quotedParts]

@[simp]
theorem isIndependent_indexColumns
    (rows : List Value) :
    IsIndependent (dialect.indexColumns rows) := by
  simp [indexColumns]

@[simp]
theorem isIndependent_partKey
    (part : String) :
    IsIndependent (dialect.partKey part value) := by
  simp [partKey, keyOf, nameKey]

end Dialect

@[simp]
theorem isIndependent_groupScripts
    {statement : Value → List Value → Script}
    (independent : ∀ row group, IsIndependent (statement row group))
    (groups : List (List Value)) :
    IsIndependent (groupScripts groups statement) := by
  simp [groupScripts, independent]

@[simp]
theorem isIndependent_recreate
    {dropping creating : Script}
    (dropIndependent : IsIndependent dropping)
    (createIndependent : IsIndependent creating) :
    IsIndependent (recreate dropping creating) := by
  simp [recreate, dropIndependent, createIndependent]

/-! ## Columns and changes of tables -/

@[simp]
theorem isIndependent_takeColumn?
    (wanted : String)
    (columns : List Value) :
    IsIndependent (takeColumn? wanted columns) := by
  induction columns with
  | nil => exact isIndependent_ok none
  | cons column columns ih =>
      simp only [takeColumn?, isIndependent_bind_iff, isIndependent_ite_iff]
      refine ⟨by simp [Value.alignmentName], fun _ _ => ⟨fun _ => isIndependent_ok _, fun _ =>
        ⟨ih, fun found _ => ?_⟩⟩⟩
      split <;> simp

@[simp]
theorem isIndependent_alignColumns
    (references columns : List Value) :
    IsIndependent (alignColumns references columns) := by
  induction references generalizing columns with
  | nil => exact isIndependent_ok columns
  | cons reference references ih =>
      simp only [alignColumns, isIndependent_bind_iff]
      refine ⟨by simp [Value.alignmentName], fun _ _ =>
        ⟨isIndependent_takeColumn? _ columns, fun found _ => ?_⟩⟩
      split <;> simp [ih]

@[simp]
theorem Options.isIndependent_scriptedColumns
    (options : Options)
    (table reference : Value) :
    IsIndependent (options.scriptedColumns table reference) := by
  simp [scriptedColumns, orderedColumns]

section Changes

variable (dialect : Dialect) (source target : Value) (rows : List Value)

@[simp]
theorem Dialect.isIndependent_identified :
    IsIndependent (dialect.identified rows) := by
  simp [identified, foreignKeyIdentity, nameKey]

@[simp]
theorem Dialect.isIndependent_touches
    (touched : List Value) :
    IsIndependent (dialect.touches touched rows) := by
  simp [touches, keyOf, nameKey]

@[simp]
theorem Dialect.isIndependent_changedGroups
    (touched : List Value) :
    IsIndependent (dialect.changedGroups touched source target) := by
  simp [changedGroups, keyedGroups, rebuiltRows, isKept]

@[simp]
theorem Dialect.isIndependent_referencing
    (columns : List Value) :
    IsIndependent (dialect.referencing columns source) := by
  simp [referencing]

namespace TableChanges

@[simp]
theorem isIndependent_keyedColumns :
    IsIndependent (keyedColumns dialect source) := by
  simp [keyedColumns, Dialect.keyedBy]

@[simp]
theorem isIndependent_columnsOnlyIn
    (others : KeyedValues) :
    IsIndependent (columnsOnlyIn dialect others rows) := by
  simp [columnsOnlyIn]

@[simp]
theorem isIndependent_columnsAltered
    (others : KeyedValues) :
    IsIndependent (columnsAltered dialect others rows) := by
  refine isIndependent_bind_iff.mpr ⟨isIndependent_mapM (fun column => ?_) rows, by simp⟩
  refine isIndependent_bind_iff.mpr ⟨dialect.isIndependent_partKey column _, fun _ _ => ?_⟩
  split <;> simp [Value.sameDefinition]

@[simp]
theorem isIndependent_inboundForeignKeys
    (dropped added : List Value) :
    IsIndependent (inboundForeignKeys dialect source target dropped added) := by
  simp [inboundForeignKeys]

@[simp]
theorem isIndependent_between
    (options : Options) :
    IsIndependent (between dialect options source target) := by
  simp [between, Value.secondaryIndexes, Value.primaryKeys, Value.definedOn,
    Dialect.uniqueForeignKeys]

end TableChanges

end Changes

/-! ## Statements of PostgreSQL -/

namespace PostgreSql

variable (options : Options) (types table source target : Value)

@[simp]
theorem isIndependent_typeSpellingOf :
    IsIndependent (typeSpellingOf source) := by
  refine isIndependent_bind_iff.mpr ⟨source.isIndependent_asKey, fun _ _ => ?_⟩
  split <;> simp

@[simp]
theorem isIndependent_findType? :
    IsIndependent (findType? types source) := by
  simp [findType?]

@[simp]
theorem isIndependent_typeName :
    IsIndependent (typeName types source) := by
  refine isIndependent_bind_iff.mpr ⟨isIndependent_findType? types source, fun found _ => ?_⟩
  split
  · simp [ScriptFailure.family]
  · refine isIndependent_bind_iff.mpr ⟨by simp [elementType?], fun element _ => ?_⟩
    split <;> simp

@[simp]
theorem isIndependent_namedType
    (name : String) :
    IsIndependent (namedType options source name) := by
  unfold namedType
  simp only [isIndependent_ite_iff]
  refine ⟨by simp, fun _ => ⟨by simp, fun _ => ⟨by simp [lengthClause], fun _ =>
    ⟨by simp, fun _ => ?_⟩⟩⟩⟩
  split
  · simp [precisionClause]
  · simp [lengthClause, precisionClause, catalogName, ScriptFailure.family]

@[simp]
theorem isIndependent_columnType :
    IsIndependent (columnType options source) := by
  simp only [columnType, isIndependent_bind_iff]
  refine ⟨by simp, fun _ _ => ⟨by simp, fun _ _ => ⟨by simp, fun given _ => ?_⟩⟩⟩
  split <;> simp [ScriptFailure.family]

@[simp]
theorem isIndependent_columnDefinition :
    IsIndependent (columnDefinition options source) := by
  simp [columnDefinition, generationClause]

@[simp]
theorem isIndependent_createTable
    (columns : Value) :
    IsIndependent (createTable options table columns) := by
  simp [createTable, columnLines, inheritsClause]

@[simp]
theorem isIndependent_addPrimaryKeys :
    IsIndependent (addPrimaryKeys options table source) := by
  simp [addPrimaryKeys, alterTable]

@[simp]
theorem isIndependent_dropConstraints :
    IsIndependent (dropConstraints options source) := by
  simp [dropConstraints]

@[simp]
theorem isIndependent_addChecks :
    IsIndependent (addChecks options table source) := by
  simp [addChecks, alterTable]

@[simp]
theorem isIndependent_matchOption :
    IsIndependent (matchOption source) := by
  refine isIndependent_bind_iff.mpr ⟨by simp, fun _ _ => ?_⟩
  split <;> simp [ScriptFailure.family]

@[simp]
theorem isIndependent_addForeignKeys :
    IsIndependent (addForeignKeys options table source) := by
  simp [addForeignKeys, addForeignKey, alterTable]

@[simp]
theorem isIndependent_entryUnder?
    (entries : List (String × String)) :
    IsIndependent (entryUnder? entries source) := by
  simp [entryUnder?]

@[simp]
theorem isIndependent_createIndexes :
    IsIndependent (createIndexes options table source) := by
  refine isIndependent_bind_iff.mpr ⟨by simp, fun _ _ => isIndependent_groupScripts ?_ _⟩
  intro row group
  simp only [createIndex, isIndependent_bind_iff]
  refine ⟨by simp, fun _ _ => ⟨by simp, fun method _ => ⟨by simp, fun words _ => ?_⟩⟩⟩
  split <;> simp [indexCondition?, ScriptFailure.family]

@[simp]
theorem isIndependent_dropIndexes :
    IsIndependent (dropIndexes options table source) := by
  simp [dropIndexes, dropIndex]

@[simp]
theorem isIndependent_alterColumn :
    IsIndependent (alterColumn options table source target) := by
  simp [alterColumn, isRecreated, dropColumn, addColumn, alterTable, alterType]

@[simp]
theorem isIndependent_createView :
    IsIndependent (createView options source) := by
  simp [createView]

@[simp]
theorem isIndependent_argument
    (typeId mode name : Value) :
    IsIndependent (argument typeId mode name types) := by
  refine isIndependent_bind_iff.mpr ⟨by simp, fun keyword _ => ?_⟩
  split <;> simp [ScriptFailure.family]

@[simp]
theorem isIndependent_argumentsFrom
    (place : Nat)
    (typeIds : List Value) :
    IsIndependent (argumentsFrom types source place typeIds) := by
  induction typeIds generalizing place with
  | nil => exact isIndependent_ok []
  | cons typeId typeIds ih => simp [argumentsFrom, itemOr, ih]

@[simp]
theorem isIndependent_functionAttributes :
    IsIndependent (functionAttributes source) := by
  refine isIndependent_bind_iff.mpr ⟨by simp, fun volatility _ =>
    isIndependent_bind_iff.mpr ⟨by simp, fun keyword _ => ?_⟩⟩
  split <;> simp [ScriptFailure.family]

@[simp]
theorem isIndependent_estimate :
    IsIndependent (estimate source) := by
  refine isIndependent_bind_iff.mpr ⟨?_, by simp⟩
  unfold estimateNumber
  split
  · simp
  · split <;> simp [ScriptFailure.family]

@[simp]
theorem isIndependent_rowsLine :
    IsIndependent (rowsLine source) := by
  unfold rowsLine
  split <;> simp [ScriptFailure.family]

@[simp]
theorem isIndependent_createFunction :
    IsIndependent (createFunction options types source) := by
  simp [createFunction, createArguments]

@[simp]
theorem isIndependent_dropFunction :
    IsIndependent (dropFunction options types source) := by
  simp [dropFunction, inputTypes]

@[simp]
theorem isIndependent_createTrigger :
    IsIndependent (createTrigger source) := by
  simp [createTrigger]

@[simp]
theorem isIndependent_dropTrigger :
    IsIndependent (dropTrigger options source) := by
  simp [dropTrigger]

@[simp]
theorem isIndependent_createSequence :
    IsIndependent (createSequence options source) := by
  simp [createSequence, sequenceLines]

@[simp]
theorem isIndependent_createType :
    IsIndependent (createType options types source) := by
  refine isIndependent_bind_iff.mpr ⟨by simp, fun _ _ => ?_⟩
  split <;>
    simp [labelLines, attributeLines, rangeLines, domainConstraint, ScriptFailure.family]

@[simp]
theorem isIndependent_dropObject
    (word : String) :
    IsIndependent (dropObject word options source) := by
  simp [dropObject]

@[simp]
theorem isIndependent_dropType :
    IsIndependent (dropType options source) := by
  unfold dropType
  split <;> simp [ScriptFailure.family]

end PostgreSql

/-! ## Scripts of single objects -/

@[simp]
theorem isIndependent_scriptPair
    {create drop : Value → Scripting String}
    {alter : Value → Value → Scripting String}
    (createIndependent : ∀ object, IsIndependent (create object).result)
    (dropIndependent : ∀ object, IsIndependent (drop object).result)
    (alterIndependent : ∀ source target, IsIndependent (alter source target).result)
    (source target : Value) :
    IsIndependent (scriptPair create drop alter source target).result := by
  unfold scriptPair
  split
  · simp [Scripting.fail, ScriptFailure.family]
  · exact createIndependent source
  · exact dropIndependent target
  · exact alterIndependent source target

namespace Scripter

variable (options : Options) (types table source target : Value)

@[simp]
theorem statements_postgreSql :
    statements ⟨.postgreSql, options⟩ = PostgreSql.statements :=
  rfl

@[simp]
theorem isIndependent_objectName :
    IsIndependent (objectName ⟨.postgreSql, options⟩ source) := by
  simp [objectName]

@[simp]
theorem isIndependent_dropForeignKeys :
    IsIndependent (dropForeignKeys ⟨.postgreSql, options⟩ source) := by
  simp [dropForeignKeys, PostgreSql.statements]

@[simp]
theorem isIndependent_addForeignKeys :
    IsIndependent (addForeignKeys ⟨.postgreSql, options⟩ source) := by
  simp [addForeignKeys, ownerGroups, owner, PostgreSql.statements]

@[simp]
theorem isIndependent_tableDefinition
    (reference : Value) :
    IsIndependent (tableDefinition ⟨.postgreSql, options⟩ table reference) := by
  simp [tableDefinition, PostgreSql.statements]

@[simp]
theorem isIndependent_tableKeysAndIndexes :
    IsIndependent (tableKeysAndIndexes ⟨.postgreSql, options⟩ table) := by
  simp [tableKeysAndIndexes, PostgreSql.statements, Value.primaryKeys, Value.secondaryIndexes]

@[simp]
theorem isIndependent_tableForeignKeys :
    IsIndependent (tableForeignKeys ⟨.postgreSql, options⟩ table) := by
  simp [tableForeignKeys, PostgreSql.statements]

@[simp]
theorem isIndependent_hasKeys :
    IsIndependent (hasKeys table) := by
  simp [hasKeys]

@[simp]
theorem isIndependent_createTable
    (reference : Value) :
    IsIndependent (createTable ⟨.postgreSql, options⟩ table reference) := by
  simp [createTable, triggerSection, Value.sortedByName, PostgreSql.statements]

@[simp]
theorem isIndependent_dropTable
    (dropReferencing : Bool) :
    IsIndependent (dropTable ⟨.postgreSql, options⟩ table dropReferencing) := by
  simp [dropTable, PostgreSql.statements]

@[simp]
theorem isIndependent_alterStep
    (step : AlterStep) :
    IsIndependent (alterStep ⟨.postgreSql, options⟩ table step) := by
  cases step <;>
    simp [alterStep, dropColumn, PostgreSql.dropColumn, PostgreSql.addColumn, PostgreSql.alterTable,
      PostgreSql.statements]

@[simp]
theorem isIndependent_scriptTable
    (includeForeignKeys : Bool) :
    IsIndependent
      (scriptTable ⟨.postgreSql, options⟩ includeForeignKeys source target).result := by
  refine isIndependent_scriptPair (by simp) (by simp) (fun _ _ => ?_) source target
  simp [alterTable, alterSteps, tableChanges, inheritanceSteps]

@[simp]
theorem isIndependent_foreignKeyChanges :
    IsIndependent (foreignKeyChanges ⟨.postgreSql, options⟩ source target) := by
  simp [foreignKeyChanges, tableChanges]

@[simp]
theorem isIndependent_scriptView :
    IsIndependent (scriptView ⟨.postgreSql, options⟩ source target).result := by
  refine isIndependent_scriptPair ?_ ?_ ?_ source target <;>
    simp [createView, dropView, PostgreSql.statements, Scripting.ofResult]

@[simp]
theorem isIndependent_scriptFunction :
    IsIndependent (scriptFunction ⟨.postgreSql, options⟩ types source target).result := by
  refine isIndependent_scriptPair ?_ ?_ ?_ source target <;>
    simp [createFunction, dropFunction, PostgreSql.statements, Scripting.ofResult]

@[simp]
theorem isIndependent_scriptProcedure :
    IsIndependent (scriptProcedure ⟨.postgreSql, options⟩ source target).result := by
  refine isIndependent_scriptPair ?_ ?_ ?_ source target <;>
    simp [createProcedure, dropProcedure, PostgreSql.statements, Scripting.fail,
      ScriptFailure.family]

@[simp]
theorem isIndependent_scriptTrigger :
    IsIndependent (scriptTrigger ⟨.postgreSql, options⟩ source target).result := by
  refine isIndependent_scriptPair ?_ ?_ ?_ source target <;>
    simp [createTrigger, dropTrigger, PostgreSql.statements, Scripting.ofResult]

@[simp]
theorem isIndependent_scriptSequence :
    IsIndependent (scriptSequence ⟨.postgreSql, options⟩ source target).result := by
  refine isIndependent_scriptPair ?_ ?_ ?_ source target <;>
    simp [createSequence, dropSequence, alterSequence, PostgreSql.statements]

@[simp]
theorem isIndependent_scriptType :
    IsIndependent (scriptType ⟨.postgreSql, options⟩ types source target).result := by
  refine isIndependent_scriptPair ?_ ?_ ?_ source target <;>
    simp [createType, dropType, alterType, PostgreSql.statements]

end Scripter

end SchemaDelta
