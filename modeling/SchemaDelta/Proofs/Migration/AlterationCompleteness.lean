import SchemaDelta.Proofs.Ddl.Alteration
import SchemaDelta.Proofs.Ddl.ColumnDefinition
import SchemaDelta.Proofs.Ddl.Dependents
import SchemaDelta.Proofs.Ddl.GroupOrder
import SchemaDelta.Proofs.Ddl.Lineage
import SchemaDelta.Proofs.Migration.ForeignKeyStatement

/-!
# Completeness of alterations

An alteration that says nothing leaves nothing out: the two tables have the same column definitions,
inherit from the same table, and their keys, constraints, indexes and foreign keys are scripted by
the same text.  Every change that shows in the scripts of new tables has a statement.
-/

namespace SchemaDelta

open Attempt (bind_eq_ok_iff ensures_bind ensures_pure)
open Value (SameGroups rowGroups)

/-! ## Changes that say nothing -/

namespace TableChanges

/-- Nothing is dropped and nothing is added; columns may be altered. -/
structure OnlyAlters
    (changes : TableChanges) : Prop where
  droppedColumns : changes.droppedColumns = []
  addedColumns : changes.addedColumns = []
  dropPrimaryKeys : changes.dropPrimaryKeys = []
  addPrimaryKeys : changes.addPrimaryKeys = []
  dropIndexes : changes.dropIndexes = []
  addIndexes : changes.addIndexes = []
  dropChecks : changes.dropChecks = []
  addChecks : changes.addChecks = []
  dropForeignKeys : changes.dropForeignKeys = []
  addForeignKeys : changes.addForeignKeys = []

variable {dialect : Dialect} {source target : Value}

variable (source target) in
/-- What planned changes add are rows. -/
private theorem planned_addedRows
    (sourceTyped : source.isTyped .table = true)
    (targetTyped : target.isTyped .table = true)
    (byPosition scripted : List Value) :
    let changes := planned dialect source target byPosition scripted
    (∀ row ∈ changes.addIndexes, row.IsRow) ∧ (∀ row ∈ changes.addChecks, row.IsRow) ∧
      (∀ row ∈ changes.addPrimaryKeys, row.IsRow) ∧
        ∀ row ∈ changes.addForeignKeys, row.isTyped .foreignKey = true := by
  refine ⟨fun row member => ?_, fun row member => ?_, fun row member => ?_,
    fun row member => ?_⟩
  · exact Value.isRow_of_index
      (Value.secondaryRow_isTyped sourceTyped (Dialect.mem_of_mem_addedGroups member))
  · exact Value.isRow_of_constraint
      (Value.constraint_isTyped sourceTyped (Dialect.mem_of_mem_addedGroups member))
  · exact Value.isRow_of_index
      (Value.primaryRow_isTyped sourceTyped (Dialect.mem_of_mem_addedGroups member))
  · rcases List.mem_append.mp ((Keyed.firstByKey_sublist _ _).subset member) with own | returning
    · rcases List.mem_map.mp own with ⟨held, heldMember, rfl⟩
      exact Value.isTyped_onTable
        (Value.foreignKey_isTyped sourceTyped (Dialect.mem_of_mem_addedGroups heldMember))
        targetTyped
    · exact returningRows_isTyped dialect sourceTyped row returning

end TableChanges

namespace Scripter

variable {scripter : Scripter} {source target : Value}

/-- The additions of keys say nothing exactly when there are none. -/
private theorem forall_keyAdditions_iff
    {changes : TableChanges}
    (indexRows : ∀ row ∈ changes.addIndexes, row.IsRow)
    (checkRows : ∀ row ∈ changes.addChecks, row.IsRow)
    (primaryRows : ∀ row ∈ changes.addPrimaryKeys, row.IsRow)
    (foreignKeyRows : ∀ row ∈ changes.addForeignKeys, row.isTyped .foreignKey = true) :
    (∀ step ∈ changes.keyAdditions true, scripter.alterStep target step = .ok "") ↔
      changes.addPrimaryKeys = [] ∧ changes.addChecks = [] ∧ changes.addIndexes = [] ∧
        changes.addForeignKeys = [] := by
  rw [TableChanges.keyAdditions, if_pos rfl, List.forall_mem_append, List.forall_mem_append,
    List.forall_mem_append, forall_onRows_iff, forall_onRows_iff, forall_onRows_iff,
    forall_onRows_iff, and_assoc, and_assoc]
  · exact speaks_addForeignKeys foreignKeyRows
  · exact scripter.dialect.speaks_createIndexes scripter.options target indexRows
  · exact scripter.dialect.speaks_addChecks scripter.options target checkRows
  · exact scripter.dialect.speaks_addPrimaryKeys scripter.options target primaryRows

/-- Changes of columns say nothing only when columns are altered without a statement. -/
private theorem of_forall_columnSteps
    {changes : TableChanges}
    (silent : ∀ step ∈ changes.columnSteps, scripter.alterStep target step = .ok "") :
    changes.droppedColumns = [] ∧ changes.addedColumns = [] ∧
      ∀ pair ∈ changes.alteredColumns,
        scripter.statements.alterColumn scripter.options target pair.1 pair.2 = .ok "" := by
  rw [TableChanges.columnSteps, List.forall_mem_append, List.forall_mem_append,
    List.forall_mem_map, List.forall_mem_map, List.forall_mem_map] at silent
  rcases silent with ⟨⟨dropped, added⟩, altered⟩
  refine ⟨?_, ?_, altered⟩
  · refine List.eq_nil_iff_forall_not_mem.mpr fun column member => ?_
    have speaks : Attempt.Speaks (scripter.alterStep target (.dropColumn column)) :=
      ensures_bind fun name => scripter.speaks_dropColumn target column name
    exact speaks "" (dropped column member) rfl
  · refine List.eq_nil_iff_forall_not_mem.mpr fun column member => ?_
    exact scripter.dialect.speaks_addColumn scripter.options target column ""
      (added column member) rfl

/-- An empty alteration keeps the parent, drops and adds nothing and alters columns silently. -/
theorem exists_of_alterTable_eq_empty
    (sourceTyped : source.isTyped .table = true)
    (targetTyped : target.isTyped .table = true)
    (silent : scripter.alterTable source target true = .ok "") :
    ∃ byPosition scripted,
      byPosition.Perm (target.rows "columns") ∧ scripted.Perm (source.rows "columns") ∧
      inheritanceSteps source target = .ok [] ∧
      (TableChanges.planned scripter.dialect source target byPosition scripted).OnlyAlters ∧
      ∀ pair ∈ scripted.filterMap (scripter.dialect.alteredBy? target),
        scripter.statements.alterColumn scripter.options target pair.1 pair.2 = .ok "" := by
  rcases TableChanges.between_ok scripter.dialect scripter.options sourceTyped targetTyped with
    ⟨byPosition, scripted, byPositionPerm, scriptedPerm, changesOk⟩
  refine ⟨byPosition, scripted, byPositionPerm, scriptedPerm, ?_⟩
  rcases bind_eq_ok_iff.mp silent with ⟨_, _, inheritanceRun⟩
  rcases bind_eq_ok_iff.mp inheritanceRun with ⟨inheritance, inheritanceOk, _⟩
  rw [scripter.alterTable_eq_alterSteps targetTyped changesOk inheritanceOk,
    alterSteps_eq_empty_iff, List.forall_mem_append, List.forall_mem_append,
    List.forall_mem_append] at silent
  rcases silent with ⟨⟨inheritanceSilent, dropsSilent⟩, columnsSilent, additionsSilent⟩
  rcases TableChanges.planned_rows source target targetTyped byPosition scripted with
    ⟨indexRows, checkRows, primaryRows, foreignKeyRows⟩
  rcases (scripter.forall_keyDrops_iff indexRows checkRows primaryRows foreignKeyRows).mp
    dropsSilent with ⟨dropForeignKeys, dropIndexes, dropChecks, dropPrimaryKeys⟩
  rcases of_forall_columnSteps columnsSilent with ⟨droppedColumns, addedColumns, altered⟩
  rcases TableChanges.planned_addedRows source target sourceTyped targetTyped byPosition scripted
    with ⟨addedIndexRows, addedCheckRows, addedPrimaryRows, addedForeignKeyRows⟩
  rcases (forall_keyAdditions_iff addedIndexRows addedCheckRows addedPrimaryRows
    addedForeignKeyRows).mp additionsSilent with
    ⟨addPrimaryKeys, addChecks, addIndexes, addForeignKeys⟩
  have noInheritance : inheritance = [] := by
    refine List.eq_nil_iff_forall_not_mem.mpr fun step member => ?_
    have placeholderSilent := inheritanceSilent step member
    rw [eq_inheritance_of_mem_inheritanceSteps inheritanceOk step member] at placeholderSilent
    simp [alterStep, placeholder] at placeholderSilent
  exact ⟨noInheritance ▸ inheritanceOk,
    ⟨droppedColumns, addedColumns, dropPrimaryKeys, addPrimaryKeys, dropIndexes, addIndexes,
      dropChecks, addChecks, dropForeignKeys, addForeignKeys⟩, altered⟩

end Scripter

/-! ## Groups that are neither dropped nor added -/

namespace Dialect

variable {dialect : Dialect} {touched : List String} {rows others : List Value}

/-- All groups of a side from which none is rebuilt are groups of the other side. -/
private theorem rowGroups_subset_of_droppedGroups_eq_nil
    (rowsApart : dialect.TellsApart rows)
    (othersApart : dialect.TellsApart others)
    (areRows : ∀ row ∈ rows, row.IsRow)
    (areOtherRows : ∀ row ∈ others, row.IsRow)
    (none : dialect.droppedGroups touched others rows = []) :
    rowGroups rows ⊆ rowGroups others := by
  intro group member
  have held := (mem_groupMap_iff rowsApart).mpr member
  rw [← mem_groupMap_iff othersApart]
  by_contra absent
  have dropped : group ∈ dialect.droppedGroups touched others rows :=
    (mem_droppedGroups_iff areOtherRows areRows).mpr
      ⟨dialect.groupKey group, held, fun there => (absent there).elim⟩
  rw [none] at dropped
  cases dropped

/-- Sides between which nothing is dropped and nothing is added have the same groups. -/
theorem sameGroups_of_unchanged
    (kind : ObjectClass)
    (rowKind : kind.isRow = true)
    (rowsTyped : ∀ row ∈ rows, row.isTyped kind = true)
    (othersTyped : ∀ row ∈ others, row.isTyped kind = true)
    (rowsApart : dialect.TellsApart rows)
    (othersApart : dialect.TellsApart others)
    (droppedNone : (dialect.droppedGroups touched rows others).flatten = [])
    (addedNone : (dialect.addedGroups touched rows others).flatten = []) :
    SameGroups rows others := by
  have areRows : ∀ row ∈ rows, row.IsRow :=
    fun row member => Value.isRow_of_isTyped (rowsTyped row member) rowKind
  have areOtherRows : ∀ row ∈ others, row.IsRow :=
    fun row member => Value.isRow_of_isTyped (othersTyped row member) rowKind
  rw [droppedGroups, TableChanges.flatten_eq_nil_iff] at droppedNone
  rw [addedGroups, TableChanges.flatten_eq_nil_iff] at addedNone
  exact Value.sameGroups_of_subset
    (rowGroups_subset_of_droppedGroups_eq_nil rowsApart othersApart areRows areOtherRows addedNone)
    (rowGroups_subset_of_droppedGroups_eq_nil othersApart rowsApart areOtherRows areRows
      droppedNone)

end Dialect

/-! ## Columns that are neither dropped nor added -/

/-- Columns of two tables that a dialect takes to have the same name have it in the same letters. -/
def Dialect.SpellsAlike
    (dialect : Dialect)
    (source target : Value) : Prop :=
  ∀ left ∈ source.rows "columns", ∀ right ∈ target.rows "columns",
    dialect.columnKey left = dialect.columnKey right →
      left.letters "name" = right.letters "name"

instance
    (dialect : Dialect)
    (source target : Value) : Decidable (dialect.SpellsAlike source target) :=
  inferInstanceAs (Decidable (∀ left ∈ source.rows "columns", ∀ right ∈ target.rows "columns",
    _ → _))

namespace Scripter

variable {scripter : Scripter} {source target : Value} {byPosition scripted : List Value}

/-- The definition of a column in a table. -/
def columnDefinition
    (scripter : Scripter)
    (column : Value) : Script :=
  scripter.statements.columnDefinition scripter.options column

/-- A column has the definition of its counterpart when it is kept or altered by no statement. -/
private theorem columnDefinition_eq_of_sameKey
    (sourceTyped : source.isTyped .table = true)
    (targetTyped : target.isTyped .table = true)
    (targetApart : scripter.dialect.TellsColumnsApart target)
    (spelled : scripter.dialect.SpellsAlike source target)
    (scriptedPerm : scripted.Perm (source.rows "columns"))
    (silent : ∀ pair ∈ scripted.filterMap (scripter.dialect.alteredBy? target),
      scripter.statements.alterColumn scripter.options target pair.1 pair.2 = .ok "")
    {left right : Value}
    (leftMember : left ∈ source.rows "columns")
    (rightMember : right ∈ target.rows "columns")
    (sameKey : scripter.dialect.columnKey left = scripter.dialect.columnKey right) :
    scripter.columnDefinition left = scripter.columnDefinition right := by
  have leftTyped := Value.column_isTyped sourceTyped leftMember
  have rightTyped := Value.column_isTyped targetTyped rightMember
  have sameName := spelled left leftMember right rightMember sameKey
  by_cases kept : left.definition = right.definition
  · exact scripter.dialect.columnDefinition_eq_of_readsAs
      (Value.readsAs_of_definition_eq leftTyped rightTyped kept sameName)
  · have altered : (left, right) ∈ scripted.filterMap (scripter.dialect.alteredBy? target) :=
      (TableChanges.mem_altered_iff sourceTyped targetTyped targetApart scriptedPerm).mpr
        ⟨leftMember, rightMember, sameKey, kept⟩
    exact Dialect.columnDefinition_eq_of_alterColumn_eq_empty leftTyped rightTyped sameName
      (silent (left, right) altered)

private theorem exists_of_unmatched_eq_nil
    {dialect : Dialect}
    {table column : Value}
    {columns : List Value}
    (none : dialect.unmatched table columns = [])
    (member : column ∈ columns) :
    ∃ other ∈ table.rows "columns", dialect.columnKey other = dialect.columnKey column := by
  have matched := List.filter_eq_nil_iff.mp none column member
  rw [Bool.not_eq_true, Option.isNone_eq_false_iff, Option.isSome_iff_exists] at matched
  rcases matched with ⟨other, found⟩
  exact ⟨other, dialect.mem_of_lookup_columnMap found⟩

/-- The columns of both tables have the same definitions. -/
private theorem columnDefinitions_perm
    (sourceTyped : source.isTyped .table = true)
    (targetTyped : target.isTyped .table = true)
    (sourceApart : scripter.dialect.TellsColumnsApart source)
    (targetApart : scripter.dialect.TellsColumnsApart target)
    (spelled : scripter.dialect.SpellsAlike source target)
    (byPositionPerm : byPosition.Perm (target.rows "columns"))
    (scriptedPerm : scripted.Perm (source.rows "columns"))
    (droppedNone : scripter.dialect.unmatched source byPosition = [])
    (addedNone : scripter.dialect.unmatched target scripted = [])
    (silent : ∀ pair ∈ scripted.filterMap (scripter.dialect.alteredBy? target),
      scripter.statements.alterColumn scripter.options target pair.1 pair.2 = .ok "") :
    ((source.rows "columns").map scripter.columnDefinition).Perm
      ((target.rows "columns").map scripter.columnDefinition) := by
  let entry (column : Value) : String × Script :=
    (scripter.dialect.columnKey column, scripter.columnDefinition column)
  have sameEntry : ∀ left ∈ source.rows "columns", ∀ right ∈ target.rows "columns",
      scripter.dialect.columnKey left = scripter.dialect.columnKey right →
        entry left = entry right :=
    fun left leftMember right rightMember sameKey => Prod.ext sameKey
      (columnDefinition_eq_of_sameKey sourceTyped targetTyped targetApart spelled scriptedPerm
        silent leftMember rightMember sameKey)
  have nodupEntries : ∀ table : Value, scripter.dialect.TellsColumnsApart table →
      ((table.rows "columns").map entry).Nodup := by
    intro table apart
    apply List.Nodup.of_map Prod.fst
    rw [List.map_map]
    exact apart
  have entries : ((source.rows "columns").map entry).Perm ((target.rows "columns").map entry) := by
    refine (List.perm_ext_iff_of_nodup (nodupEntries source sourceApart)
      (nodupEntries target targetApart)).mpr fun held => ?_
    rw [List.mem_map, List.mem_map]
    constructor
    · rintro ⟨left, leftMember, rfl⟩
      rcases exists_of_unmatched_eq_nil addedNone (scriptedPerm.symm.subset leftMember) with
        ⟨right, rightMember, sameKey⟩
      exact ⟨right, rightMember, (sameEntry left leftMember right rightMember sameKey.symm).symm⟩
    · rintro ⟨right, rightMember, rfl⟩
      rcases exists_of_unmatched_eq_nil droppedNone (byPositionPerm.symm.subset rightMember) with
        ⟨left, leftMember, sameKey⟩
      exact ⟨left, leftMember, sameEntry left leftMember right rightMember sameKey⟩
  have definitions := entries.map Prod.snd
  rw [List.map_map, List.map_map] at definitions
  exact definitions

end Scripter

/-! ## Parents -/

namespace PostgreSql

variable {table source target : Value}

/-- What a table says of the table from which it inherits. -/
def inheritsText
    (options : Options)
    (parent : Option (String × String)) : String :=
  match parent with
  | none => ""
  | some name => "\nINHERITS (" ++ dialect.tableText options name.1 name.2 ++ ")"

/-- A schema that may be missing is written like one that is empty then. -/
private theorem qualifiedName_ok
    (options : Options)
    {schema : Value}
    {letters : String}
    (name : String)
    (given : schema.orElse (.text "") = .text letters) :
    dialect.qualifiedName options schema (.text name) =
      .ok (dialect.tableText options letters name) := by
  cases truthy : schema.isTruthy with
  | true =>
      rw [Value.orElse, truthy, if_pos rfl] at given
      rw [given, Dialect.qualifiedName_text]
  | false =>
      rw [Value.orElse, truthy, if_neg Bool.false_ne_true, Value.text.injEq] at given
      rw [← given, Dialect.qualifiedName, truthy, Dialect.tableText, Bool.and_false]
      simp
      rfl

/-- What a typed table says of its parent is scripted without failure. -/
theorem inheritsClause_ok
    (options : Options)
    (typed : table.isTyped .table = true) :
    inheritsClause options table = .ok (inheritsText options table.parentName?) := by
  rw [inheritsClause, Value.parentKey_ok typed, Attempt.ok_bind]
  rcases Value.isTyped_iff.mp typed with ⟨special, fields, rfl, special_isA, conform⟩
  cases special with
  | table => rfl
  | postgreSqlTable =>
      have inherits : (Value.object .postgreSqlTable fields).isTyped .postgreSqlTable = true :=
        Value.isTyped_iff.mpr ⟨.postgreSqlTable, fields, rfl, by decide, conform⟩
      rcases Value.part_optionalText inherits "inherited_table_schema" (by decide) with
        ⟨schema, schemaRead, schemaText, _⟩
      rcases Value.part_optionalText inherits "inherited_table_name" (by decide) with
        ⟨name, nameRead, _, nameKept⟩
      rw [schemaRead, nameRead, Value.parentName?]
      split
      · rfl
      · rename_i given
        obtain rfl := nameKept.resolve_right fun absent => given (by rw [absent]; rfl)
        simp only [Attempt.ok_bind, qualifiedName_ok options _ schemaText]
        rfl
  | _ => exact absurd special_isA (by decide)

/-- Tables whose parents an alteration keeps say the same of them. -/
theorem inheritsClause_eq_of_inheritanceSteps
    (options : Options)
    (sourceTyped : source.isTyped .table = true)
    (targetTyped : target.isTyped .table = true)
    (sameParent : Scripter.inheritanceSteps source target = .ok []) :
    inheritsClause options source = inheritsClause options target := by
  rw [Scripter.inheritanceSteps, Value.parentKey_ok sourceTyped,
    Value.parentKey_ok targetTyped, Attempt.ok_bind, Attempt.ok_bind, Attempt.pure_eq_ok,
    Except.ok.injEq] at sameParent
  have agree : ((source.parentName?.map Value.nameKey).getD .null ==
      (target.parentName?.map Value.nameKey).getD .null) = true := by
    split at sameParent
    · rename_i agrees
      exact (Bool.and_eq_true_iff.mp agrees).2
    · cases sameParent
  have sameName : source.parentName? = target.parentName? := by
    cases sourceName : source.parentName? with
    | none =>
        cases targetName : target.parentName? with
        | none => rfl
        | some name =>
            rw [sourceName, targetName] at agree
            cases agree
    | some name =>
        cases targetName : target.parentName? with
        | none =>
            rw [sourceName, targetName] at agree
            cases agree
        | some other =>
            rw [sourceName, targetName] at agree
            exact congrArg some (beq_iff_eq.mp ((Value.nameKey_beq name other).symm.trans agree))
  rw [inheritsClause_ok options sourceTyped, inheritsClause_ok options targetTyped, sameName]

end PostgreSql

/-! ## Tables -/

/-- A dialect tells the columns of a table apart, and the groups of all of its sorts of rows. -/
structure Dialect.SeparatesAll
    (dialect : Dialect)
    (table : Value) : Prop extends dialect.Separates table where
  foreignKeys : dialect.TellsApart (table.rows "foreign_keys")

/-- The indexes of a table are of the class that a dialect scripts. -/
def Dialect.OwnsIndexes
    (dialect : Dialect)
    (table : Value) : Prop :=
  ∀ row ∈ table.rows "indexes", row.isA dialect.indexClass = true

instance
    (dialect : Dialect)
    (table : Value) : Decidable (dialect.OwnsIndexes table) :=
  inferInstanceAs (Decidable (∀ row ∈ table.rows "indexes", _))

namespace Scripter

variable {scripter : Scripter} {source target : Value}

/--
Two tables are scripted alike, up to the order of their columns.  A failure of one of the scripts is
the same on both sides.
-/
structure ScriptsAlike
    (scripter : Scripter)
    (source target : Value) : Prop where
  columns : ((source.rows "columns").map scripter.columnDefinition).Perm
    ((target.rows "columns").map scripter.columnDefinition)
  inheritance : PostgreSql.inheritsClause scripter.options source =
    PostgreSql.inheritsClause scripter.options target
  keysAndIndexes : scripter.tableKeysAndIndexes source = scripter.tableKeysAndIndexes target
  foreignKeys : scripter.tableForeignKeys source = scripter.tableForeignKeys target

private theorem sameRows_of_onlyAlters
    {dialect : Dialect}
    {byPosition scripted : List Value}
    (sourceTyped : source.isTyped .table = true)
    (targetTyped : target.isTyped .table = true)
    (sourceSeparated : dialect.SeparatesAll source)
    (targetSeparated : dialect.SeparatesAll target)
    (onlyAlters :
      (TableChanges.planned dialect source target byPosition scripted).OnlyAlters) :
    Value.SameRows source target where
  primaryKeys := Dialect.sameGroups_of_unchanged .index (by decide)
    (fun _ member => Value.primaryRow_isTyped sourceTyped member)
    (fun _ member => Value.primaryRow_isTyped targetTyped member)
    sourceSeparated.primaryKeys targetSeparated.primaryKeys
    onlyAlters.dropPrimaryKeys onlyAlters.addPrimaryKeys
  indexes := Dialect.sameGroups_of_unchanged .index (by decide)
    (fun _ member => Value.secondaryRow_isTyped sourceTyped member)
    (fun _ member => Value.secondaryRow_isTyped targetTyped member)
    sourceSeparated.indexes targetSeparated.indexes onlyAlters.dropIndexes onlyAlters.addIndexes
  checks := Dialect.sameGroups_of_unchanged .constraint (by decide)
    (fun _ member => Value.constraint_isTyped sourceTyped member)
    (fun _ member => Value.constraint_isTyped targetTyped member)
    sourceSeparated.checks targetSeparated.checks onlyAlters.dropChecks onlyAlters.addChecks
  foreignKeys := by
    have dropped := TableChanges.uniqueRows_eq_nil_iff.mp onlyAlters.dropForeignKeys
    have added := TableChanges.uniqueRows_eq_nil_iff.mp onlyAlters.addForeignKeys
    exact Dialect.sameGroups_of_unchanged .foreignKey (by decide)
      (fun _ member => Value.foreignKey_isTyped sourceTyped member)
      (fun _ member => Value.foreignKey_isTyped targetTyped member)
      sourceSeparated.foreignKeys targetSeparated.foreignKeys
      (List.map_eq_nil_iff.mp (List.append_eq_nil_iff.mp dropped).1)
      (List.map_eq_nil_iff.mp (List.append_eq_nil_iff.mp added).1)

/--
Two tables of one name between which an alteration says nothing are scripted alike.  Names have to be
told apart in each table, and columns of one name have to be spelled alike; index rows of another
class than the one that is scripted are refused before anything is compared.
-/
theorem scriptsAlike_of_empty_alteration
    (sourceTyped : source.isTyped .table = true)
    (targetTyped : target.isTyped .table = true)
    (sameSchema : source.letters "schema" = target.letters "schema")
    (sameName : source.letters "name" = target.letters "name")
    (sourceSeparated : scripter.dialect.SeparatesAll source)
    (targetSeparated : scripter.dialect.SeparatesAll target)
    (spelled : scripter.dialect.SpellsAlike source target)
    (ownsIndexes : scripter.dialect.OwnsIndexes source)
    (silent : (scripter.scriptTable true source target).result = .ok "") :
    scripter.ScriptsAlike source target := by
  rw [scripter.result_scriptTable sourceTyped targetTyped] at silent
  rcases exists_of_alterTable_eq_empty sourceTyped targetTyped silent with
    ⟨byPosition, scripted, byPositionPerm, scriptedPerm, sameParent, onlyAlters, altered⟩
  have sameRows :=
    sameRows_of_onlyAlters sourceTyped targetTyped sourceSeparated targetSeparated onlyAlters
  have sameObject : scripter.objectName source = scripter.objectName target := by
    rw [objectName, objectName, Dialect.objectName_ok sourceTyped,
      Dialect.objectName_ok targetTyped, sameSchema, sameName]
  have ofClass : scripter.dialect = .microsoftSql →
      ∀ row ∈ source.secondaryRows, row.isA .microsoftSqlIndex = true := by
    intro onMicrosoftSql row member
    have owned := ownsIndexes row (List.mem_filter.mp member).1
    rwa [onMicrosoftSql] at owned
  exact ⟨columnDefinitions_perm sourceTyped targetTyped sourceSeparated.columns
      targetSeparated.columns spelled byPositionPerm scriptedPerm onlyAlters.droppedColumns
      onlyAlters.addedColumns altered,
    PostgreSql.inheritsClause_eq_of_inheritanceSteps scripter.options sourceTyped targetTyped
      sameParent,
    tableKeysAndIndexes_eq sourceTyped targetTyped sameObject sameRows ofClass,
    tableForeignKeys_eq sourceTyped targetTyped sameObject sameRows⟩

/-- A table whose number column carries a precision that its type does not show. -/
def preciseTable : Value :=
  .plainTable "t"
    [.filled .postgreSqlColumn [
      ("name", .text "id"), ("data_type", .text "integer"), ("ordinal_position", .int 1),
      ("numeric_precision", .int 32)], .plainColumn "note" "text" 2]
    [.plainIndex "t" "pk_t" "note" true] [] []

/-- The table without the precision and with its columns the other way round. -/
def reorderedTable : Value :=
  .plainTable "t" [.plainColumn "note" "text" 1, .plainColumn "id" "integer" 2]
    [.plainIndex "t" "pk_t" "note" true] [] []

/-- A precision that does not show is altered by no statement, and the two tables script alike. -/
theorem scriptsAlike_of_unseen_precision :
    preciseTable.isTyped .table = true ∧ reorderedTable.isTyped .table = true ∧
      ((Scripter.mk .postgreSql {}).scriptTable true preciseTable reorderedTable).result = .ok "" ∧
      (Scripter.mk .postgreSql {}).ScriptsAlike preciseTable reorderedTable := by
  have silent :
      ((Scripter.mk .postgreSql {}).scriptTable true preciseTable reorderedTable).result =
        .ok "" := by
    rfl
  have preciseTyped : preciseTable.isTyped .table = true := by decide
  have reorderedTyped : reorderedTable.isTyped .table = true := by decide
  refine ⟨preciseTyped, reorderedTyped, silent, ?_⟩
  exact scriptsAlike_of_empty_alteration preciseTyped reorderedTyped rfl rfl
    ⟨⟨by decide, by decide, by decide, by decide⟩, by decide⟩
    ⟨⟨by decide, by decide, by decide, by decide⟩, by decide⟩ (by decide) (by decide) silent

end Scripter

end SchemaDelta
