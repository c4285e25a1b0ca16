import SchemaDelta.LineDiff.Objects
import SchemaDelta.Proofs.Ddl.ColumnSpelling
import SchemaDelta.Proofs.LineDiff.Alignment

/-!
# Column order in the side by side view

The scripts of two tables that differ only in the order of their columns have the same lines when
the columns of the source are aligned to the target.  Alignment takes names in lower case to be the
same, so that columns whose names differ in case alone keep the order of the source.
-/

namespace SchemaDelta

open Attempt (bind_eq_ok_iff)
open LineDiff (sideBySide sideBySide_all_same_iff)
open Text (withinLines)

/-! ## Values that are alike but for some fields -/

namespace Value

/-- A value with nothing in some of its fields. -/
def without
    (value : Value)
    (names : List String) : Value :=
  value.withParts (names.map fun name => (name, null))

variable {value left right : Value} {kind : ObjectClass} {names : List String} {name : String}

private theorem lookup_nothing
    (kept : name ∉ names) :
    (names.map fun name => (name, null)).lookup name = none := by
  rw [List.lookup_eq_none_iff]
  rintro part member
  rcases List.mem_map.mp member with ⟨other, among, rfl⟩
  exact bne_iff_ne.mpr fun same => kept (same ▸ among)

theorem letters_without
    (kept : name ∉ names) :
    (value.without names).letters name = value.letters name := by
  rw [letters, letters, get, get, without, field?_withParts (lookup_nothing kept)]

theorem rows_without
    (kept : name ∉ names) :
    (value.without names).rows name = value.rows name := by
  rw [rows, rows, get, get, without, field?_withParts (lookup_nothing kept)]

theorem part_without
    (kept : name ∉ names) :
    (value.without names).part name = value.part name :=
  part_withParts (lookup_nothing kept)

/-- Objects that are alike but for some fields are of one class. -/
theorem isA_eq_of_without_eq
    (leftTyped : left.isTyped kind = true)
    (rightTyped : right.isTyped kind = true)
    (same : left.without names = right.without names)
    (special : ObjectClass) :
    left.isA special = right.isA special := by
  rcases isTyped_iff.mp leftTyped with ⟨kind, lefts, rfl, _, _⟩
  rcases isTyped_iff.mp rightTyped with ⟨other, rights, rfl, _, _⟩
  obtain rfl : kind = other := (object.inj same).1
  rfl

/-- Columns that are alike but for their positions read alike. -/
theorem readsAs_of_without_eq
    (leftTyped : left.isTyped .column = true)
    (rightTyped : right.isTyped .column = true)
    (same : left.without ["ordinal_position"] = right.without ["ordinal_position"]) :
    left.ReadsAs right := by
  have sameParts : ∀ name, name ≠ "ordinal_position" → left.part name = right.part name := by
    intro name notPosition
    have kept : name ∉ ["ordinal_position"] := by simpa using notPosition
    rw [← part_without kept, same, part_without kept]
  rcases isTyped_iff.mp leftTyped with ⟨kind, lefts, rfl, _, _⟩
  rcases isTyped_iff.mp rightTyped with ⟨other, rights, rfl, _, _⟩
  obtain rfl : kind = other := (object.inj same).1
  exact ⟨rfl, fun _ => rfl, rfl, sameParts⟩

/-- Two tables that differ only in the order and in the positions of their columns. -/
structure ReordersColumns
    (source target : Value) : Prop where
  around : source.without ["columns"] = target.without ["columns"]
  columns : ((source.rows "columns").map (·.without ["ordinal_position"])).Perm
    ((target.rows "columns").map (·.without ["ordinal_position"]))

end Value

/-! ## Tables around their columns -/

variable {source target table reference : Value}

namespace Scripter

variable {scripter : Scripter} {text : String}

/-- What is scripted of a table behind its statement. -/
def scriptBelow
    (scripter : Scripter)
    (table : Value) : Script := do
  let triggers ← table.part "triggers"
  let triggerScript ← if triggers.isTruthy then scripter.triggerSection triggers else pure ""
  let withKeys ← hasKeys table
  let keyScript ← if withKeys then do
      let script ← scripter.tableKeysAndIndexes table
      pure ((if triggers.isTruthy then "\n" else "\n\n") ++
        bannerComment "Constraints and Indexes" ++ "\n" ++ script)
    else pure ""
  let foreignKeyScript ← if (← table.part "foreign_keys").isTruthy then do
      let script ← scripter.tableForeignKeys table
      pure ((if withKeys then "\n" else "\n\n") ++ bannerComment "Foreign Keys" ++ "\n" ++ script)
    else pure ""
  return triggerScript ++ keyScript ++ foreignKeyScript

theorem createTable_eq :
    scripter.createTable table reference = (do
      let definition ← scripter.tableDefinition table reference
      let below ← scripter.scriptBelow table
      return definition ++ below) := by
  have branch : ∀ (condition : Bool) (first second : Script) (next : String → Script),
      ((if condition then first else second) >>= next) =
        if condition then first >>= next else second >>= next := by
    intro condition first second next
    cases condition <;> rfl
  simp only [createTable, scriptBelow, bind_assoc, pure_bind, branch, String.append_assoc]

section Around

variable (sourceTyped : source.isTyped .table = true) (targetTyped : target.isTyped .table = true)
  (around : source.without ["columns"] = target.without ["columns"])

include around

private theorem part_eq_of_around
    (name : String)
    (kept : name ∉ ["columns"]) :
    source.part name = target.part name := by
  rw [← Value.part_without kept, around, Value.part_without kept]

private theorem letters_eq_of_around
    (name : String)
    (kept : name ∉ ["columns"]) :
    source.letters name = target.letters name := by
  rw [← Value.letters_without kept, around, Value.letters_without kept]

private theorem rows_eq_of_around
    (name : String)
    (kept : name ∉ ["columns"]) :
    source.rows name = target.rows name := by
  rw [← Value.rows_without kept, around, Value.rows_without kept]

include sourceTyped targetTyped

private theorem objectName_eq_of_around :
    scripter.objectName source = scripter.objectName target := by
  rw [objectName, objectName, Dialect.objectName_ok sourceTyped, Dialect.objectName_ok targetTyped,
    letters_eq_of_around around _ (by decide), letters_eq_of_around around _ (by decide)]

private theorem tableKeysAndIndexes_eq_of_around :
    scripter.tableKeysAndIndexes source = scripter.tableKeysAndIndexes target := by
  have named : scripter.objectName source = scripter.objectName target :=
    objectName_eq_of_around sourceTyped targetTyped around
  have sameIndexes : source.rows "indexes" = target.rows "indexes" :=
    rows_eq_of_around around _ (by decide)
  have samePrimary : source.primaryRows = target.primaryRows := by
    rw [Value.primaryRows, sameIndexes, Value.primaryRows]
  have sameSecondary : source.secondaryRows = target.secondaryRows := by
    rw [Value.secondaryRows, sameIndexes, Value.secondaryRows]
  have primaryRows : ∀ row ∈ target.primaryRows, row.IsRow := fun _ member =>
    Value.isRow_of_index (Value.primaryRow_isTyped targetTyped member)
  have checkRows : ∀ row ∈ target.rows "constraints", row.IsRow := fun _ member =>
    Value.isRow_of_constraint (Value.constraint_isTyped targetTyped member)
  have keys := Dialect.addPrimaryKeys_eq_of_sameGroups named primaryRows primaryRows fun _ => rfl
  have checks := Dialect.addChecks_eq_of_sameGroups named checkRows checkRows fun _ => rfl
  have indexes := Dialect.createIndexes_eq_of_sameName named
  simp only [tableKeysAndIndexes, statements, Value.primaryKeys_ok sourceTyped,
    Value.primaryKeys_ok targetTyped, Value.secondaryIndexes_ok sourceTyped,
    Value.secondaryIndexes_ok targetTyped, samePrimary, sameSecondary,
    part_eq_of_around around "constraints" (by decide),
    Value.part_rows_of_isTyped targetTyped ObjectClass.table_declares_constraints,
    Attempt.ok_bind, keys, checks, indexes]

private theorem tableForeignKeys_eq_of_around :
    scripter.tableForeignKeys source = scripter.tableForeignKeys target := by
  have named : scripter.objectName source = scripter.objectName target :=
    objectName_eq_of_around sourceTyped targetTyped around
  have keyRows : ∀ row ∈ target.rows "foreign_keys", row.IsRow := fun _ member =>
    Value.isRow_of_foreignKey (Value.foreignKey_isTyped targetTyped member)
  rw [tableForeignKeys, tableForeignKeys,
    part_eq_of_around around "foreign_keys" (by decide),
    Value.part_rows_of_isTyped targetTyped ObjectClass.table_declares_foreign_keys,
    Attempt.ok_bind, Attempt.ok_bind]
  exact Dialect.addForeignKeys_eq_of_sameGroups named keyRows keyRows fun _ => rfl

/-- Tables that are alike but for their columns have the same script behind the statement. -/
theorem scriptBelow_eq_of_around :
    scripter.scriptBelow source = scripter.scriptBelow target := by
  have sameKeys : hasKeys source = hasKeys target := by
    rw [hasKeys, hasKeys, part_eq_of_around around _ (by decide),
      part_eq_of_around around "constraints" (by decide)]
  simp only [scriptBelow, part_eq_of_around around "triggers" (by decide), sameKeys,
    part_eq_of_around around "foreign_keys" (by decide),
    tableKeysAndIndexes_eq_of_around sourceTyped targetTyped around,
    tableForeignKeys_eq_of_around sourceTyped targetTyped around]

/-- Tables that are alike but for their columns have the same statement around the columns. -/
theorem tableStatement_eq_of_around
    (definitions : List String) :
    scripter.tableStatement source definitions = scripter.tableStatement target definitions := by
  have sameSchema : source.letters "schema" = target.letters "schema" :=
    letters_eq_of_around around _ (by decide)
  have sameName : source.letters "name" = target.letters "name" :=
    letters_eq_of_around around _ (by decide)
  have sameParent : source.parentName? = target.parentName? := by
    have parentName := letters_eq_of_around around "inherited_table_name" (by decide)
    have parentSchema := letters_eq_of_around around "inherited_table_schema" (by decide)
    rcases Value.isTyped_iff.mp sourceTyped with ⟨kind, fields, rfl, _, _⟩
    rcases Value.isTyped_iff.mp targetTyped with ⟨other, others, rfl, _, _⟩
    obtain rfl : kind = other := (Value.object.inj around).1
    cases kind with
    | postgreSqlTable => simp only [Value.parentName?, parentName, parentSchema]
    | _ => rfl
  simp only [tableStatement, tableClosing, sameSchema, sameName, sameParent]

private theorem acceptsTable_of_around
    (accepts : scripter.AcceptsTable target) :
    scripter.AcceptsTable source := by
  intro onPostgreSql
  rw [Value.isA_eq_of_without_eq sourceTyped targetTyped around]
  exact accepts onPostgreSql

end Around

end Scripter

/-! ## Columns of reordered tables -/

/-- Columns whose names differ only in case come in the same order in two tables. -/
def Options.OrdersSpellingsAlike
    (options : Options)
    (source target : Value) : Prop :=
  ∀ name, ((options.primaryColumns source).filter (Value.isCalled name)).map (·.letters "name") =
    ((options.primaryColumns target).filter (Value.isCalled name)).map (·.letters "name")

namespace Scripter

variable {scripter : Scripter} {text : String} {columns others : List Value}

/-- The definition of a column, empty if the column cannot be scripted. -/
def definitionText
    (scripter : Scripter)
    (column : Value) : String :=
  match scripter.columnDefinition column with
  | .ok text => text
  | .error _ => ""

theorem eq_map_definitionText
    {definitions : List String}
    (made : columns.mapM scripter.columnDefinition = .ok definitions) :
    definitions = columns.map scripter.definitionText := by
  have held := Attempt.forall₂_of_mapM made
  clear made
  induction held with
  | nil => rfl
  | cons first _ ih => rw [List.map_cons, ← ih, definitionText, first]

/-- Of spellings of one name that differ in lower case there is one at most. -/
private theorem eq_of_perm_of_lower_eq
    {spellings otherSpellings : List String}
    {name : String}
    (perm : otherSpellings.Perm spellings)
    (apart : (spellings.map Text.lower).Nodup)
    (sameName : ∀ spelling ∈ spellings, Text.lower spelling = name) :
    otherSpellings = spellings := by
  match spellings with
  | [] => exact List.perm_nil.mp perm
  | [spelling] => exact List.perm_singleton.mp perm
  | first :: second :: rest =>
      have same : Text.lower first = Text.lower second :=
        (sameName first (by simp)).trans (sameName second (by simp)).symm
      simp [same] at apart

section Reordered

variable (sourceTyped : source.isTyped .table = true) (targetTyped : target.isTyped .table = true)
  (reordered : source.ReordersColumns target)

include reordered

private theorem map_name_perm :
    ((source.rows "columns").map (·.letters "name")).Perm
      ((target.rows "columns").map (·.letters "name")) := by
  have spelled : ∀ columns : List Value,
      (columns.map (·.without ["ordinal_position"])).map (·.letters "name") =
        columns.map (·.letters "name") := by
    intro columns
    rw [List.map_map]
    exact List.map_congr_left fun column _ => Value.letters_without (by decide)
  have named := reordered.columns.map (·.letters "name")
  rwa [spelled, spelled] at named

private theorem map_lowerName_perm :
    ((source.rows "columns").map Value.lowerName).Perm
      ((target.rows "columns").map Value.lowerName) := by
  have named := (map_name_perm reordered).map Text.lower
  rwa [List.map_map, List.map_map] at named

/-- Columns in the order of their names come in the same order on both sides. -/
private theorem ordersSpellingsAlike_of_alphabetical
    {options : Options}
    (alphabetical : options.alphabeticalColumns = true) :
    options.OrdersSpellingsAlike source target := by
  have byName : options.columnKey = fun column => .text (column.letters "name") := by
    funext column
    rw [Options.columnKey, if_pos alphabetical]
  have sameNames : (options.primaryColumns source).map (·.letters "name") =
      (options.primaryColumns target).map (·.letters "name") := by
    rw [Options.primaryColumns, Options.primaryColumns, byName]
    exact (Value.text_ranksBy _).map_rank_sortedOn_of_perm (map_name_perm reordered)
  intro name
  rw [map_name_filter_isCalled, sameNames, map_name_filter_isCalled]

/-- Where names in lower case tell the columns apart, there is one column of a name at most. -/
private theorem ordersSpellingsAlike_of_nodup
    (options : Options)
    (apart : ((target.rows "columns").map Value.lowerName).Nodup) :
    options.OrdersSpellingsAlike source target := by
  intro name
  have perm : ((options.primaryColumns source).map (·.letters "name")).Perm
      ((options.primaryColumns target).map (·.letters "name")) :=
    (Options.primaryColumns_perm.map _).trans
      ((map_name_perm reordered).trans (Options.primaryColumns_perm.symm.map _))
  have distinct : (((options.primaryColumns target).map (·.letters "name")).map
      Text.lower).Nodup := by
    rw [List.map_map]
    exact (Options.primaryColumns_perm.map Value.lowerName).nodup_iff.mpr apart
  rw [map_name_filter_isCalled, map_name_filter_isCalled]
  exact eq_of_perm_of_lower_eq (perm.filter _) (distinct.sublist (List.filter_sublist.map _))
    fun _ member => beq_iff_eq.mp (List.mem_filter.mp member).2

include sourceTyped targetTyped

/-- A column of the source has the definition of the column of the target with its name. -/
private theorem columnDefinition_eq_of_sameName
    (apart : scripter.dialect.TellsColumnsApart target)
    {left right : Value}
    (leftMember : left ∈ source.rows "columns")
    (rightMember : right ∈ target.rows "columns")
    (sameName : left.letters "name" = right.letters "name") :
    scripter.columnDefinition left = scripter.columnDefinition right := by
  have held : left.without ["ordinal_position"] ∈
      (target.rows "columns").map (·.without ["ordinal_position"]) :=
    reordered.columns.subset (List.mem_map_of_mem leftMember)
  rcases List.mem_map.mp held with ⟨other, otherMember, alike⟩
  have otherName : other.letters "name" = right.letters "name" := by
    have kept : "name" ∉ ["ordinal_position"] := by decide
    rw [← sameName, ← Value.letters_without kept, alike, Value.letters_without kept]
  have sameKey : scripter.dialect.columnKey other = scripter.dialect.columnKey right := by
    rw [Dialect.columnKey, Dialect.columnKey, Dialect.foldedPart, Dialect.foldedPart, otherName]
  obtain rfl : other = right := List.inj_on_of_nodup_map apart otherMember rightMember sameKey
  exact scripter.dialect.columnDefinition_eq_of_readsAs (Value.readsAs_of_without_eq
    (Value.column_isTyped sourceTyped leftMember) (Value.column_isTyped targetTyped otherMember)
    alike.symm)

private theorem map_definitionText_eq
    (apart : scripter.dialect.TellsColumnsApart target)
    (among : columns ⊆ source.rows "columns")
    (amongTarget : others ⊆ target.rows "columns")
    (sameNames : columns.map (·.letters "name") = others.map (·.letters "name")) :
    columns.map scripter.definitionText = others.map scripter.definitionText := by
  induction columns generalizing others with
  | nil => rw [List.map_eq_nil_iff.mp sameNames.symm]
  | cons column columns ih =>
      cases others with
      | nil => cases sameNames
      | cons other others =>
          rcases List.cons.inj sameNames with ⟨sameName, sameRest⟩
          have sameDefinition := columnDefinition_eq_of_sameName sourceTyped targetTyped reordered
            apart (among List.mem_cons_self) (amongTarget List.mem_cons_self) sameName
          rw [List.map_cons, List.map_cons, definitionText, sameDefinition, ← definitionText,
            ih (List.subset_of_cons_subset among) (List.subset_of_cons_subset amongTarget) sameRest]

/-- With the target every column on either side can be scripted. -/
private theorem exists_definition
    (apart : scripter.dialect.TellsColumnsApart target)
    (scripted : scripter.createTable target .null = .ok text)
    {column : Value}
    (member : column ∈ source.rows "columns" ++ target.rows "columns") :
    ∃ result, scripter.columnDefinition column = .ok result := by
  rw [createTable_eq] at scripted
  rcases bind_eq_ok_iff.mp scripted with ⟨definition, definitionOk, _⟩
  rcases (tableDefinition_ok_iff targetTyped (Or.inl rfl)).mp definitionOk with
    ⟨_, definitions, made, _⟩
  have ofTarget : ∀ column ∈ target.rows "columns",
      ∃ result, scripter.columnDefinition column = .ok result := fun column member =>
    Attempt.exists_ok_of_mapM made column (Options.columnsBeside_perm.symm.subset member)
  rcases List.mem_append.mp member with ofSource | held
  · rcases List.mem_map.mp ((map_name_perm reordered).subset (List.mem_map_of_mem ofSource)) with
      ⟨other, otherMember, sameName⟩
    rw [columnDefinition_eq_of_sameName sourceTyped targetTyped reordered apart ofSource
      otherMember sameName.symm]
    exact ofTarget other otherMember
  · exact ofTarget column held

/-- Both scripts of reordered tables are one statement with the definitions in two orders. -/
private theorem exists_scripts
    (apart : scripter.dialect.TellsColumnsApart target)
    (scripted : scripter.createTable target .null = .ok text) :
    ∃ below,
      scripter.createTable source target = .ok (scripter.tableStatement target
        ((scripter.options.columnsBeside source target).map scripter.definitionText) ++ below) ∧
      text = scripter.tableStatement target
        ((scripter.options.primaryColumns target).map scripter.definitionText) ++ below := by
  have defined : ∀ column ∈ scripter.options.columnsBeside source target,
      ∃ result, scripter.columnDefinition column = .ok result ∧ True := by
    intro column member
    rcases exists_definition sourceTyped targetTyped reordered apart scripted
      (List.mem_append_left _ (Options.columnsBeside_perm.subset member)) with ⟨result, resultOk⟩
    exact ⟨result, resultOk, trivial⟩
  rw [createTable_eq] at scripted
  rcases bind_eq_ok_iff.mp scripted with ⟨definition, definitionOk, run⟩
  rcases bind_eq_ok_iff.mp run with ⟨below, belowOk, whole⟩
  rw [Attempt.pure_eq_ok, Except.ok.injEq] at whole
  rcases (tableDefinition_ok_iff targetTyped (Or.inl rfl)).mp definitionOk with
    ⟨accepts, definitions, made, rfl⟩
  rcases Attempt.exists_mapM_ok defined with ⟨sourceDefinitions, sourceMade, _⟩
  have sourceOk : scripter.tableDefinition source target =
      .ok (scripter.tableStatement source sourceDefinitions) :=
    (tableDefinition_ok_iff sourceTyped (Or.inr targetTyped)).mpr
      ⟨acceptsTable_of_around sourceTyped targetTyped reordered.around accepts, sourceDefinitions,
        sourceMade, rfl⟩
  refine ⟨below, ?_, by rw [← whole, eq_map_definitionText made]; rfl⟩
  rw [createTable_eq, sourceOk, Attempt.ok_bind,
    scriptBelow_eq_of_around sourceTyped targetTyped reordered.around, belowOk,
    tableStatement_eq_of_around sourceTyped targetTyped reordered.around,
    eq_map_definitionText sourceMade]
  rfl

private theorem objectDiff_eq
    (apart : scripter.dialect.TellsColumnsApart target)
    (scripted : scripter.createTable target .null = .ok text) :
    ∃ below, scripter.objectDiff "tables" source target = .ok (sideBySide
      (scripter.tableStatement target
        ((scripter.options.columnsBeside source target).map scripter.definitionText) ++ below)
      (scripter.tableStatement target
        ((scripter.options.primaryColumns target).map scripter.definitionText) ++ below)) := by
  rcases exists_scripts sourceTyped targetTyped reordered apart scripted with
    ⟨below, sourceOk, whole⟩
  refine ⟨below, ?_⟩
  rw [objectDiff, createSource, Value.isNull_of_isTyped sourceTyped, if_pos (by decide), sourceOk,
    Attempt.ok_bind, createObject, Value.isNull_of_isTyped targetTyped, ← whole]
  change (scripter.createTable target .null >>= _) = _
  rw [scripted]
  rfl

/-- The two scripts have the same lines when the columns are spelled alike, and only then. -/
private theorem lines_eq_iff
    (apart : scripter.dialect.TellsColumnsApart target)
    (scripted : scripter.createTable target .null = .ok text)
    (below : String)
    (among : columns ⊆ source.rows "columns")
    (amongTarget : others ⊆ target.rows "columns")
    (sameLower : columns.map Value.lowerName = others.map Value.lowerName) :
    Text.lines (scripter.tableStatement target (columns.map scripter.definitionText) ++ below) =
        Text.lines (scripter.tableStatement target (others.map scripter.definitionText) ++ below) ↔
      columns.map (·.letters "name") = others.map (·.letters "name") := by
  constructor
  · intro sameLines
    have within := Text.withinLines_eq_of_lines_eq sameLines
    simp only [tableStatement, String.toList_append, Text.withinLines_append, List.append_assoc,
      List.append_cancel_left_eq] at within
    have spells : ∀ column ∈ columns ++ others,
        scripter.dialect.Spells (column.letters "name") (scripter.definitionText column) := by
      intro column member
      have held : column ∈ source.rows "columns" ++ target.rows "columns" := by
        rcases List.mem_append.mp member with ofSource | ofTarget
        · exact List.mem_append_left _ (among ofSource)
        · exact List.mem_append_right _ (amongTarget ofTarget)
      have typed : column.isTyped .column = true := by
        rcases List.mem_append.mp held with ofSource | ofTarget
        · exact Value.column_isTyped sourceTyped ofSource
        · exact Value.column_isTyped targetTyped ofTarget
      rcases exists_definition sourceTyped targetTyped reordered apart scripted held with
        ⟨definition, defined⟩
      rw [definitionText, defined]
      exact Dialect.columnDefinition_spells typed definition defined
    refine map_name_eq_of_withinLines_eq spells ?told sameLower (List.append_cancel_right within)
    case told =>
      intro left leftMember right rightMember sameName
      rw [definitionText, definitionText, columnDefinition_eq_of_sameName sourceTyped targetTyped
        reordered apart (among leftMember) (amongTarget rightMember) sameName]
  · intro sameNames
    rw [map_definitionText_eq sourceTyped targetTyped reordered apart among amongTarget sameNames]

end Reordered

/-- Folded names that tell the columns apart do so in lower case. -/
private theorem nodup_lowerName_of_microsoftSql
    {dialect : Dialect}
    (onMicrosoftSql : dialect = .microsoftSql)
    (apart : dialect.TellsColumnsApart table) :
    ((table.rows "columns").map Value.lowerName).Nodup := by
  apply List.Nodup.of_map Text.fold
  have folded : ∀ column : Value, dialect.columnKey column = Text.fold column.lowerName := by
    intro column
    rw [Value.lowerName, Text.fold_lower, onMicrosoftSql]
    rfl
  rw [List.map_map, ← show dialect.columnKey = Text.fold ∘ Value.lowerName from funext folded]
  exact apart

variable {scripter : Scripter} {text : String}

/--
An order of columns that comparisons ignore does not show in the side by side view when the columns
whose names differ only in case come in the same order on both sides, and only then.
-/
theorem objectDiff_all_same_iff
    (sourceTyped : source.isTyped .table = true)
    (targetTyped : target.isTyped .table = true)
    (reordered : source.ReordersColumns target)
    (apart : scripter.dialect.TellsColumnsApart target)
    (aligning : scripter.options.ignoreReferenceOrder = false)
    (scripted : scripter.createTable target .null = .ok text) :
    ∃ rows, scripter.objectDiff "tables" source target = .ok rows ∧
      ((∀ row ∈ rows, row.tag = .same) ↔ scripter.options.OrdersSpellingsAlike source target) ∧
      (scripter.dialect = .microsoftSql ∨ scripter.options.alphabeticalColumns = true ∨
          ((target.rows "columns").map Value.lowerName).Nodup →
        ∀ row ∈ rows, row.tag = .same) := by
  have besideTarget : scripter.options.columnsBeside source target =
      alignedTo ((scripter.options.primaryColumns target).map Value.lowerName)
        (scripter.options.primaryColumns source) := by
    rw [Options.columnsBeside, Value.isNull_of_isTyped targetTyped, aligning, Bool.or_false,
      if_neg Bool.false_ne_true]
  have lowerPerm : ((scripter.options.primaryColumns target).map Value.lowerName).Perm
      ((scripter.options.primaryColumns source).map Value.lowerName) :=
    ((Options.primaryColumns_perm.map _).trans (map_lowerName_perm reordered).symm).trans
      (Options.primaryColumns_perm.symm.map _)
  rcases objectDiff_eq sourceTyped targetTyped reordered apart scripted with ⟨below, shown⟩
  have allSame_iff := (sideBySide_all_same_iff _ _).trans
    ((lines_eq_iff sourceTyped targetTyped reordered apart scripted below
      Options.columnsBeside_perm.subset Options.primaryColumns_perm.subset
      (besideTarget ▸ map_lowerName_alignedTo lowerPerm)).trans
      (besideTarget ▸ map_name_alignedTo_eq_iff lowerPerm))
  refine ⟨_, shown, allSame_iff, fun reasons => allSame_iff.mpr ?_⟩
  rcases reasons with onMicrosoftSql | alphabetical | lowerApart
  · exact ordersSpellingsAlike_of_nodup reordered _
      (nodup_lowerName_of_microsoftSql onMicrosoftSql apart)
  · exact ordersSpellingsAlike_of_alphabetical reordered alphabetical
  · exact ordersSpellingsAlike_of_nodup reordered _ lowerApart

end Scripter

/-! ## Columns whose names differ in case -/

/-- A table of three columns, two of them with names that differ in case. -/
private def spelledTable
    (first second third : String) : Value :=
  .plainTable "t"
    [.plainColumn first "integer" 1, .plainColumn second "integer" 2,
      .plainColumn third "integer" 3]
    [] [] []

private theorem isTyped_spelledTable
    (first second third : String) :
    (spelledTable first second third).isTyped .table = true := by
  refine Value.isTyped_plainTable "t" ?_ (by simp) (by simp) (by simp)
  simp [Value.isTyped_plainColumn]

/-- A column that moves does not show while the two other ones keep their order. -/
theorem objectDiff_of_kept_spellings :
    (spelledTable "a" "id" "A").ReordersColumns (spelledTable "id" "a" "A") ∧
      Dialect.postgreSql.TellsColumnsApart (spelledTable "id" "a" "A") ∧
      ∃ rows, (Scripter.mk .postgreSql {}).objectDiff "tables" (spelledTable "a" "id" "A")
          (spelledTable "id" "a" "A") = .ok rows ∧
        ∀ row ∈ rows, row.tag = .same := by
  have reordered : (spelledTable "a" "id" "A").ReordersColumns (spelledTable "id" "a" "A") :=
    ⟨rfl, List.Perm.swap _ _ _⟩
  have apart : Dialect.postgreSql.TellsColumnsApart (spelledTable "id" "a" "A") := by
    decide
  have alike : Options.OrdersSpellingsAlike {} (spelledTable "a" "id" "A")
      (spelledTable "id" "a" "A") := by
    intro name
    rw [map_name_filter_isCalled, map_name_filter_isCalled]
    change (["a", "id", "A"].filter fun letters => Text.lower letters == name) =
      ["id", "a", "A"].filter fun letters => Text.lower letters == name
    have lowered : Text.lower "a" = "a" ∧ Text.lower "id" = "id" ∧ Text.lower "A" = "a" := by
      decide
    simp only [List.filter_cons, List.filter_nil, lowered]
    by_cases isLetter : "a" = name
    · rw [← isLetter]
      rfl
    · simp [isLetter]
  have aligning : (Scripter.mk .postgreSql {}).options.ignoreReferenceOrder = false := rfl
  rcases Scripter.objectDiff_all_same_iff (isTyped_spelledTable "a" "id" "A")
      (isTyped_spelledTable "id" "a" "A") reordered apart aligning rfl with
    ⟨rows, shown, allSame_iff, _⟩
  exact ⟨reordered, apart, rows, shown, allSame_iff.mpr alike⟩

/-- Two columns whose names differ in case show when they change places. -/
theorem objectDiff_of_swapped_spellings :
    (spelledTable "a" "id" "A").isTyped .table = true ∧
      (spelledTable "A" "id" "a").isTyped .table = true ∧
      (spelledTable "a" "id" "A").ReordersColumns (spelledTable "A" "id" "a") ∧
      Dialect.postgreSql.TellsColumnsApart (spelledTable "a" "id" "A") ∧
      Dialect.postgreSql.TellsColumnsApart (spelledTable "A" "id" "a") ∧
      ∃ rows, (Scripter.mk .postgreSql {}).objectDiff "tables" (spelledTable "a" "id" "A")
          (spelledTable "A" "id" "a") = .ok rows ∧
        ¬∀ row ∈ rows, row.tag = .same := by
  refine ⟨isTyped_spelledTable _ _ _, isTyped_spelledTable _ _ _, ⟨rfl, ?_⟩, by decide, by decide,
    _, rfl, ?_⟩
  · exact (List.reverse_perm _).symm
  · intro allSame
    exact absurd ((sideBySide_all_same_iff _ _).mp allSame) (by decide +kernel)

end SchemaDelta
