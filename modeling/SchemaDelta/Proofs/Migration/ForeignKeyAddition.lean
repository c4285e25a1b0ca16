import Mathlib.Algebra.GroupWithZero.Nat
import Mathlib.Algebra.Order.BigOperators.Group.List
import SchemaDelta.Proofs.Comparison.Symmetry
import SchemaDelta.Proofs.Ddl.DistinctRows
import SchemaDelta.Proofs.Ddl.ForeignKeyText
import SchemaDelta.Proofs.Ddl.Lineage
import SchemaDelta.Proofs.Migration.ForeignKeyStatement

/-!
# Foreign keys added by an alteration

A table that is the target but for its foreign keys is altered by adding them.  An alteration adds
only the rows that a dialect tells apart, while a table is created with all of its rows.  The two
scripts are the same as long as no row is lost.  If one is, the script of the alteration is shorter,
because every row that it leaves out takes letters with it.
-/

namespace SchemaDelta

open Value (rowGroups groupName)

/-! ## A table without its foreign keys -/

namespace Value

variable {value table : Value} {kind : ObjectClass} {parts : List (String × Value)}

/-- Parts replaced by what they hold leave a typed object as it is. -/
theorem withParts_eq_self
    (typed : value.isTyped kind = true)
    (held : ∀ part ∈ parts, value.get part.1 = part.2) :
    value.withParts parts = value := by
  rcases isTyped_iff.mp typed with ⟨special, fields, rfl, _, conform⟩
  have distinct : (fields.map (·.1)).Nodup := by
    rw [names_of_fieldsConform conform]
    exact (List.nodup_cons.mp (nodup_stored_names special)).2
  have unchanged : ∀ field ∈ fields, (field.1, (parts.lookup field.1).getD field.2) = field := by
    intro field member
    cases replaced : parts.lookup field.1 with
    | none => rfl
    | some given =>
        have atName : fields.lookup field.1 = some field.2 :=
          (Keyed.lookup_eq_some_iff_mem distinct).mpr member
        have holds : (object special fields).get field.1 = given :=
          held _ (mem_of_lookup_eq_some replaced)
        rw [get, field?, atName, Option.getD_some] at holds
        rw [Option.getD_some, ← holds]
  rw [withParts]
  exact congrArg (object special) ((List.map_congr_left unchanged).trans (List.map_id _))

/-- A declared text is what a typed object holds. -/
private theorem get_eq_text
    {name : String}
    (typed : value.isTyped kind = true)
    (declared : kind.declares name .text = true) :
    value.get name = .text (value.letters name) :=
  Except.ok.inj ((part_of_isTyped typed declared).1.symm.trans
    (part_text_of_isTyped typed declared))

/-- A row that belongs to a table stays as it is when it is put on the table. -/
theorem onTable_eq_self
    {row : Value}
    (typed : row.isTyped .foreignKey = true)
    (tableTyped : table.isTyped .table = true)
    (owned : row.ownerName = table.fullName) :
    table.onTable row = row := by
  rcases Prod.mk.inj owned with ⟨sameSchema, sameName⟩
  unfold onTable
  split
  · refine withParts_eq_self typed fun part member => ?_
    rcases List.mem_cons.mp member with rfl | member
    · rw [get_eq_text typed ObjectClass.foreignKey_declares_table_schema,
        get_eq_text tableTyped ObjectClass.table_declares_schema, sameSchema]
    · obtain rfl := List.mem_singleton.mp member
      rw [get_eq_text typed ObjectClass.foreignKey_declares_table_name,
        get_eq_text tableTyped ObjectClass.table_declares_name, sameName]
  · rfl

/-- A table as it is but for its foreign keys, of which it has none. -/
def withoutForeignKeys
    (table : Value) : Value :=
  table.withParts [("foreign_keys", .list [])]

private theorem noForeignKeys_fit :
    PartsFit [("foreign_keys", .list [])] .table := by
  intro part member
  obtain rfl := List.mem_singleton.mp member
  exact ⟨.objects .foreignKey, ObjectClass.table_declares_foreign_keys, rfl⟩

theorem isTyped_withoutForeignKeys
    (typed : table.isTyped .table = true) :
    table.withoutForeignKeys.isTyped .table = true :=
  isTyped_withParts typed noForeignKeys_fit

/-- All other fields of the table hold what they held. -/
theorem get_withoutForeignKeys
    {name : String}
    {type : FieldType}
    (typed : table.isTyped .table = true)
    (declared : ObjectClass.table.declares name type = true)
    (other : name ≠ "foreign_keys") :
    table.withoutForeignKeys.get name = table.get name := by
  rw [withoutForeignKeys, get_withParts typed declared,
    List.lookup_cons, beq_false_of_ne other]
  rfl

theorem rows_withoutForeignKeys
    {name : String}
    {type : FieldType}
    (typed : table.isTyped .table = true)
    (declared : ObjectClass.table.declares name type = true)
    (other : name ≠ "foreign_keys") :
    table.withoutForeignKeys.rows name = table.rows name := by
  rw [rows, rows, get_withoutForeignKeys typed declared other]

theorem foreignKeys_withoutForeignKeys
    (typed : table.isTyped .table = true) :
    table.withoutForeignKeys.rows "foreign_keys" = [] := by
  rw [rows, withoutForeignKeys, get_withParts typed ObjectClass.table_declares_foreign_keys]
  rfl

theorem fullName_withoutForeignKeys
    (typed : table.isTyped .table = true) :
    table.withoutForeignKeys.fullName = table.fullName := by
  rw [fullName, fullName, letters, letters, letters, letters,
    get_withoutForeignKeys typed ObjectClass.table_declares_schema (by decide),
    get_withoutForeignKeys typed ObjectClass.table_declares_name (by decide)]

theorem parentKey_withoutForeignKeys
    (table : Value) :
    table.withoutForeignKeys.parentKey = table.parentKey := by
  have same : ∀ name, name ≠ "foreign_keys" →
      table.withoutForeignKeys.part name = table.part name := by
    intro name other
    refine part_withParts ?_
    rw [List.lookup_cons, beq_false_of_ne other]
    rfl
  cases table with
  | object special fields =>
      cases special with
      | postgreSqlTable =>
          have schema := same "inherited_table_schema" (by decide)
          have name := same "inherited_table_name" (by decide)
          rw [withoutForeignKeys, withParts] at schema name ⊢
          rw [parentKey, parentKey, schema, name]
      | _ => rfl
  | _ => rfl

end Value

/-! ## The changes -/

namespace Dialect

/-- Columns that a dialect takes to have one name have one definition. -/
def DefinesColumnsOnce
    (dialect : Dialect)
    (table : Value) : Prop :=
  ∀ left ∈ table.rows "columns", ∀ right ∈ table.rows "columns",
    dialect.columnKey left = dialect.columnKey right → left.definition = right.definition

variable {dialect : Dialect} {table : Value} {rows : List Value}

/-- Columns that are told apart have one definition each. -/
theorem definesColumnsOnce_of_tellsColumnsApart
    (apart : dialect.TellsColumnsApart table) :
    dialect.DefinesColumnsOnce table := by
  intro left leftMember right rightMember sameKey
  rw [List.inj_on_of_nodup_map apart leftMember rightMember sameKey]

/-- Groups do not change against themselves. -/
theorem droppedGroups_self
    (areRows : ∀ row ∈ rows, row.IsRow) :
    dialect.droppedGroups [] rows rows = [] := by
  rw [List.eq_nil_iff_forall_not_mem]
  intro group dropped
  rcases (mem_droppedGroups_iff areRows areRows).mp dropped with ⟨key, member, covered⟩
  have untouched := covered member
  simp [covers] at untouched

private theorem changedRows_self
    (areRows : ∀ row ∈ rows, row.IsRow) :
    (dialect.droppedGroups [] rows rows).flatten = [] ∧
      (dialect.addedGroups [] rows rows).flatten = [] :=
  ⟨congrArg List.flatten (droppedGroups_self areRows),
    congrArg List.flatten (droppedGroups_self areRows)⟩

/-- Every column has a counterpart in its own table. -/
theorem unmatched_self
    {columns : List Value}
    (among : ∀ column ∈ columns, column ∈ table.rows "columns") :
    dialect.unmatched table columns = [] := by
  refine List.filter_eq_nil_iff.mpr fun column member => ?_
  have listed : (dialect.columnKey column, column) ∈
      (table.rows "columns").map fun column => (dialect.columnKey column, column) :=
    List.mem_map_of_mem (among column member)
  rcases Keyed.exists_mem_ofList listed with ⟨other, found⟩
  rw [columnMap, (Keyed.lookup_eq_some_iff_mem (Keyed.nodup_keys_ofList _)).mpr found]
  simp

/-- Where columns of one name have one definition, none is altered against its own table. -/
theorem alteredBy?_self
    (typed : table.isTyped .table = true)
    (once : dialect.DefinesColumnsOnce table)
    {column : Value}
    (member : column ∈ table.rows "columns") :
    dialect.alteredBy? table column = none := by
  rw [alteredBy?]
  cases found : (dialect.columnMap table).lookup (dialect.columnKey column) with
  | none => rfl
  | some other =>
      rcases dialect.mem_of_lookup_columnMap found with ⟨otherMember, sameKey⟩
      have flat : ∀ column ∈ table.rows "columns", column.definition.IsFlat :=
        fun column member => Value.definition_isFlat (Value.column_isTyped typed member)
      have same : (column.definition == other.definition) = true :=
        (Value.beq_iff_eq_of_isFlat (flat column member) (flat other otherMember)).mpr
          (once column member other otherMember sameKey.symm)
      exact if_pos same

end Dialect

/-- Of a table that is the target but for its foreign keys nothing is missing there but these. -/
theorem TableChanges.between_withoutForeignKeys
    {dialect : Dialect}
    (options : Options)
    {source : Value}
    (typed : source.isTyped .table = true)
    (once : dialect.DefinesColumnsOnce source) :
    between dialect options source source.withoutForeignKeys = .ok {
      droppedColumns := [], addedColumns := [], alteredColumns := [], dropPrimaryKeys := []
      addPrimaryKeys := [], dropIndexes := [], addIndexes := [], dropChecks := [], addChecks := []
      dropForeignKeys := []
      addForeignKeys := dialect.uniqueRows
        ((dialect.distinctGroups (source.rows "foreign_keys")).flatten.map
          source.withoutForeignKeys.onTable) } := by
  have targetTyped := Value.isTyped_withoutForeignKeys typed
  rcases between_ok dialect options typed targetTyped with
    ⟨byPosition, scripted, byPositionPerm, scriptedPerm, plannedOk⟩
  have columns : source.withoutForeignKeys.rows "columns" = source.rows "columns" :=
    Value.rows_withoutForeignKeys typed ObjectClass.table_declares_columns (by decide)
  have indexes : source.withoutForeignKeys.rows "indexes" = source.rows "indexes" :=
    Value.rows_withoutForeignKeys typed ObjectClass.table_declares_indexes (by decide)
  have checks : source.withoutForeignKeys.rows "constraints" = source.rows "constraints" :=
    Value.rows_withoutForeignKeys typed ObjectClass.table_declares_constraints (by decide)
  have primary : source.withoutForeignKeys.primaryRows = source.primaryRows := by
    rw [Value.primaryRows, Value.primaryRows, indexes]
  have secondary : source.withoutForeignKeys.secondaryRows = source.secondaryRows := by
    rw [Value.secondaryRows, Value.secondaryRows, indexes]
  have sameMap : dialect.columnMap source.withoutForeignKeys = dialect.columnMap source := by
    rw [Dialect.columnMap, Dialect.columnMap, columns]
  have dropped : dialect.unmatched source byPosition = [] :=
    Dialect.unmatched_self fun column member => columns ▸ byPositionPerm.subset member
  have added : dialect.unmatched source.withoutForeignKeys scripted = [] :=
    Dialect.unmatched_self fun column member => columns.symm ▸ scriptedPerm.subset member
  have altered : scripted.filterMap (dialect.alteredBy? source.withoutForeignKeys) = [] := by
    refine List.filterMap_eq_nil_iff.mpr fun column member => ?_
    rw [Dialect.alteredBy?, sameMap]
    exact Dialect.alteredBy?_self typed once (scriptedPerm.subset member)
  have primaryStays := dialect.changedRows_self fun row member =>
    Value.isRow_of_index (Value.primaryRow_isTyped typed member)
  have secondaryStays := dialect.changedRows_self fun row member =>
    Value.isRow_of_index (Value.secondaryRow_isTyped typed member)
  have checksStay := dialect.changedRows_self fun row member =>
    Value.isRow_of_constraint (Value.constraint_isTyped typed member)
  have allAdded : dialect.addedGroups [] (source.rows "foreign_keys") [] =
      dialect.distinctGroups (source.rows "foreign_keys") := by
    refine congrArg (List.map _) (List.filter_eq_self.mpr fun entry _ => ?_)
    rfl
  have noneDropped : dialect.droppedGroups [] (source.rows "foreign_keys") [] = [] := rfl
  have noneReturns : dialect.returningRows source [] [] = [] := by
    simp [Dialect.returningRows]
  rw [plannedOk, planned]
  simp only [dropped, added, altered, primary, secondary, checks,
    Value.foreignKeys_withoutForeignKeys typed]
  have untouched : touchedNames dialect [] [] = [] := rfl
  simp only [untouched, primaryStays, secondaryStays, checksStay, allAdded, noneDropped,
    List.append_nil, inboundRows_nil, noneReturns]
  rfl

/-! ## The script -/

namespace Scripter

variable {scripter : Scripter} {source : Value} {rows : List Value}

private theorem join_mapM_singleton
    {α : Type}
    (script : α → Script)
    (item : α) :
    (do return String.join (← [item].mapM script) : Script) = script item := by
  rw [List.mapM_cons, List.mapM_nil]
  cases script item with
  | error failure => rfl
  | ok text => exact congrArg Except.ok (by simp [String.join_cons])

/-- Rows of one table are added to it, group by group. -/
theorem addForeignKeys_of_owner
    {table : Value}
    (tableTyped : table.isTyped .table = true)
    (typed : ∀ row ∈ rows, row.isTyped .foreignKey = true)
    (owned : ∀ row ∈ rows, row.ownerName = table.fullName)
    (notEmpty : rows ≠ []) :
    scripter.addForeignKeys (.list rows) =
      groupScripts (rowGroups rows)
        (scripter.dialect.addForeignKey scripter.options table) := by
  have owners : Value.ownerNames rows = [table.fullName] := by
    rw [← List.perm_singleton, List.perm_ext_iff_of_nodup (Value.nodup_ownerNames rows)
      (List.nodup_singleton _)]
    intro owner
    rw [Value.mem_ownerNames, List.mem_singleton]
    constructor
    · rintro ⟨row, member, rfl⟩
      exact owned row member
    · rintro rfl
      rcases List.exists_mem_of_ne_nil rows notEmpty with ⟨row, member⟩
      exact ⟨row, member, owned row member⟩
  have all : Value.rowsOwnedBy rows table.fullName = rows :=
    List.filter_eq_self.mpr fun row member => beq_iff_eq.mpr (owned row member)
  have named : scripter.dialect.objectName scripter.options
      (namedTable (.text table.fullName.1) (.text table.fullName.2)) =
        scripter.dialect.objectName scripter.options table :=
    (scripter.dialect.qualifiedName_text scripter.options _ _).trans
      (Dialect.objectName_ok tableTyped).symm
  have scripted := scripter.dialect.addForeignKeys_eq typed
    (named.trans (Dialect.objectName_ok tableTyped))
  rw [scripter.dialect.addForeignKey_congr named] at scripted
  rw [addForeignKeys, Value.items, Attempt.ok_bind, ownerGroups_ok typed, owners, Attempt.ok_bind,
    List.map_singleton, all, ← scripted]
  exact (join_mapM_singleton _ _).trans rfl

/-- A table is altered into one with foreign keys group by group of the rows that are added. -/
theorem alterTable_withoutForeignKeys
    (typed : source.isTyped .table = true)
    (once : scripter.dialect.DefinesColumnsOnce source)
    (owned : ∀ row ∈ source.rows "foreign_keys", row.ownerName = source.fullName) :
    scripter.alterTable source source.withoutForeignKeys true =
      groupScripts (rowGroups (scripter.dialect.distinctRows (source.rows "foreign_keys")))
        (scripter.dialect.addForeignKey scripter.options source) := by
  have targetTyped := Value.isTyped_withoutForeignKeys typed
  have rowsTyped : ∀ row ∈ source.rows "foreign_keys", row.isTyped .foreignKey = true :=
    fun _ member => Value.foreignKey_isTyped typed member
  have onTable : (scripter.dialect.distinctGroups (source.rows "foreign_keys")).flatten.map
      source.withoutForeignKeys.onTable =
        (scripter.dialect.distinctGroups (source.rows "foreign_keys")).flatten := by
    refine (List.map_congr_left fun row member => ?_).trans (List.map_id _)
    have held := Dialect.mem_of_mem_distinctGroups member
    exact Value.onTable_eq_self (rowsTyped row held) targetTyped
      ((owned row held).trans (Value.fullName_withoutForeignKeys typed).symm)
  have changes := TableChanges.between_withoutForeignKeys scripter.options typed once
  rw [onTable] at changes
  have sameParent : inheritanceSteps source source.withoutForeignKeys = .ok [] := by
    have same : ((source.parentName?.map Value.nameKey).getD .null).agrees
        ((source.parentName?.map Value.nameKey).getD .null) = true := by
      cases source.parentName? with
      | none => rfl
      | some parent => exact (Value.nameKey_beq parent parent).trans (beq_self_eq_true parent)
    rw [inheritanceSteps, Value.parentKey_withoutForeignKeys, Value.parentKey_ok typed,
      Attempt.ok_bind, Attempt.ok_bind, same]
    rfl
  rw [scripter.alterTable_eq_alterSteps targetTyped changes sameParent]
  rw [← Dialect.distinctRows]
  cases added : scripter.dialect.distinctRows (source.rows "foreign_keys") with
  | nil => rfl
  | cons row rows =>
      have held : ∀ added ∈ row :: rows, added ∈ source.rows "foreign_keys" := by
        rw [← added]
        exact fun _ => Dialect.mem_of_mem_distinctRows
      rw [← scripter.addForeignKeys_of_owner typed
        (fun added member => rowsTyped added (held added member))
        (fun added member => owned added (held added member)) (List.cons_ne_nil row rows)]
      exact join_mapM_singleton _ (AlterStep.addForeignKeys (row :: rows))

/-- A table is created with its foreign keys group by group of all rows. -/
theorem tableForeignKeys_eq_groupScripts
    (typed : source.isTyped .table = true) :
    scripter.tableForeignKeys source =
      groupScripts (rowGroups (source.rows "foreign_keys"))
        (scripter.dialect.addForeignKey scripter.options source) := by
  rw [tableForeignKeys, Value.part_rows_of_isTyped typed ObjectClass.table_declares_foreign_keys,
    Attempt.ok_bind]
  exact scripter.dialect.addForeignKeys_eq
    (fun _ member => Value.foreignKey_isTyped typed member) (Dialect.objectName_ok typed)

/-- The length of the statement about a group, if there is one. -/
private def statementLength
    (statement : Value → List Value → Script)
    (group : List Value) : Nat :=
  match statement (group.headD .null) group with
  | .ok text => text.length
  | .error _ => 0

private theorem length_of_groupScripts
    {groups : List (List Value)}
    {statement : Value → List Value → Script}
    {text : String}
    (scripted : groupScripts groups statement = .ok text) :
    text.length = (groups.map (statementLength statement)).sum ∧
      ∀ group ∈ groups, ∃ part, statement (group.headD .null) group = .ok part := by
  rcases Attempt.bind_eq_ok_iff.mp scripted with ⟨texts, textsOk, joined⟩
  cases joined
  have each := Attempt.forall₂_of_mapM textsOk
  clear scripted textsOk
  induction each with
  | nil => exact ⟨rfl, fun _ => List.not_mem_nil.elim⟩
  | cons partOk _ ih =>
      rw [String.join_cons, String.length_append, ih.1, List.map_cons, List.sum_cons,
        List.forall_mem_cons, statementLength, partOk]
      exact ⟨rfl, ⟨_, rfl⟩, ih.2⟩

/-- What is at most something else for every item, and as much in all, is the same for each. -/
private theorem eq_of_sum_le
    {α : Type}
    {items : List α}
    {less more : α → Nat}
    (below : ∀ item ∈ items, less item ≤ more item)
    (above : (items.map more).sum ≤ (items.map less).sum) :
    ∀ item ∈ items, less item = more item := by
  induction items with
  | nil => exact fun _ => List.not_mem_nil.elim
  | cons item items ih =>
      rw [List.forall_mem_cons] at below ⊢
      have rest := List.sum_le_sum below.2
      simp only [List.map_cons, List.sum_cons] at above
      exact ⟨by omega, ih below.2 (by omega)⟩

/-- If less of some items is as much as more of these and others, there are no others. -/
private theorem eq_nil_and_eq_of_sum_eq
    {α : Type}
    {items lost : List α}
    {less more : α → Nat}
    (below : ∀ item ∈ items, less item ≤ more item)
    (positive : ∀ item ∈ lost, 0 < more item)
    (same : (items.map less).sum = (items.map more).sum + (lost.map more).sum) :
    lost = [] ∧ ∀ item ∈ items, less item = more item := by
  have belowSum := List.sum_le_sum below
  refine ⟨?_, eq_of_sum_le below (by omega)⟩
  cases lost with
  | nil => rfl
  | cons item lost =>
      have speaks := positive item List.mem_cons_self
      rw [List.map_cons, List.sum_cons] at same
      omega

/-- Every row that is lost from a group makes its statement shorter. -/
private theorem statementLength_uniqueRows_le
    {dialect : Dialect}
    {options : Options}
    {table : Value}
    {group : List Value}
    (typed : ∀ row ∈ group, row.isTyped .foreignKey = true)
    (notEmpty : group ≠ [])
    {text : String}
    (stated : dialect.addForeignKey options table (group.headD .null) group = .ok text) :
    statementLength (dialect.addForeignKey options table) (dialect.uniqueRows group) +
        group.length ≤
      statementLength (dialect.addForeignKey options table) group +
        (dialect.uniqueRows group).length := by
  have within : (dialect.uniqueRows group).Sublist group := Keyed.firstByKey_sublist _ _
  have sameFirst : (dialect.uniqueRows group).headD .null = group.headD .null ∧
      dialect.uniqueRows group ≠ [] := by
    rcases List.exists_cons_of_ne_nil notEmpty with ⟨first, others, rfl⟩
    rw [Dialect.uniqueRows, Keyed.firstByKey_cons]
    exact ⟨rfl, List.cons_ne_nil _ _⟩
  rcases dialect.exists_addForeignKey_of_sublist typed sameFirst.2 within stated with
    ⟨part, partOk, shorter⟩
  rw [statementLength, statementLength, sameFirst.1, partOk, stated]
  exact shorter

/-- Where every group and row that is lost takes some length with it, an equal length loses none. -/
private theorem keepsForeignKeys_of_sum_eq
    {dialect : Dialect}
    {owner : String × String}
    {length : List Value → Nat}
    (owned : ∀ row ∈ rows, row.ownerName = owner)
    (positive : ∀ group ∈ rowGroups rows, 0 < length group)
    (shorter : ∀ group ∈ dialect.distinctGroups rows,
      length (dialect.uniqueRows group) + group.length ≤
        length group + (dialect.uniqueRows group).length)
    (same : ((rowGroups (dialect.distinctRows rows)).map length).sum =
      ((rowGroups rows).map length).sum) :
    dialect.KeepsForeignKeys rows := by
  have fewer : ∀ group, (dialect.uniqueRows group).length ≤ group.length :=
    fun group => (Keyed.firstByKey_sublist _ _).length_le
  have included : (dialect.distinctGroups rows).Subperm (rowGroups rows) :=
    List.subperm_of_subset (Dialect.nodup_groupKeys_distinctGroups dialect rows).of_map
      fun _ => Dialect.mem_rowGroups_of_mem_distinctGroups
  rcases included with ⟨part, reordered, sublist⟩
  rcases sublist.exists_perm_append with ⟨lost, split⟩
  rw [((Dialect.rowGroups_distinctRows_perm owned).map _).sum_eq, List.map_map,
    (split.map _).sum_eq, List.map_append, List.sum_append, (reordered.map _).sum_eq] at same
  have below : ∀ group ∈ dialect.distinctGroups rows,
      (length ∘ dialect.uniqueRows) group ≤ length group := by
    intro group distinct
    have bounded := shorter group distinct
    have atMost := fewer group
    rw [Function.comp_apply]
    omega
  rcases eq_nil_and_eq_of_sum_eq below
    (fun group member => positive group (split.symm.subset (List.mem_append_right part member)))
    same with ⟨rfl, noneShorter⟩
  refine (Dialect.keepsForeignKeys_iff owned).mpr ⟨?_, fun group distinct => ?_⟩
  · rw [List.append_nil] at split
    exact (split.trans reordered).symm
  · have sameLength := noneShorter group distinct
    have bounded := shorter group distinct
    rw [Function.comp_apply] at sameLength
    have asMany : group.length ≤ (dialect.uniqueRows group).length := by
      omega
    exact (Keyed.firstByKey_sublist _ _).eq_of_length (le_antisymm (fewer group) asMany)

/-- A script about fewer rows is another script. -/
private theorem keepsForeignKeys_of_groupScripts
    {dialect : Dialect}
    {options : Options}
    {table : Value}
    {owner : String × String}
    {text : String}
    (typed : ∀ row ∈ rows, row.isTyped .foreignKey = true)
    (owned : ∀ row ∈ rows, row.ownerName = owner)
    (created : groupScripts (rowGroups rows) (dialect.addForeignKey options table) = .ok text)
    (altered : groupScripts (rowGroups (dialect.distinctRows rows))
      (dialect.addForeignKey options table) = .ok text) :
    dialect.KeepsForeignKeys rows := by
  rcases length_of_groupScripts created with ⟨whole, stated⟩
  rcases length_of_groupScripts altered with ⟨kept, _⟩
  have groupTyped : ∀ group ∈ rowGroups rows, ∀ row ∈ group, row.isTyped .foreignKey = true :=
    fun group grouped row member => typed row ((Value.mem_of_mem_rowGroups grouped).mp member).1
  have positive : ∀ group ∈ rowGroups rows,
      0 < statementLength (dialect.addForeignKey options table) group := by
    intro group grouped
    rcases stated group grouped with ⟨text, textOk⟩
    rw [statementLength, textOk]
    exact dialect.length_addForeignKey_pos (groupTyped group grouped) textOk
  have shorter : ∀ group ∈ dialect.distinctGroups rows,
      statementLength (dialect.addForeignKey options table) (dialect.uniqueRows group) +
          group.length ≤
        statementLength (dialect.addForeignKey options table) group +
          (dialect.uniqueRows group).length := by
    intro group distinct
    have grouped := Dialect.mem_rowGroups_of_mem_distinctGroups distinct
    rcases stated group grouped with ⟨text, textOk⟩
    exact statementLength_uniqueRows_le (groupTyped group grouped)
      (Value.ne_nil_of_mem_rowGroups grouped) textOk
  exact keepsForeignKeys_of_sum_eq owned positive shorter (kept.symm.trans whole)

/--
Let a target be the source without its foreign keys.  The script that alters it into the source adds
the foreign keys like the script that creates them, and fails like it, if no row is lost: if no two
rows of a foreign key have one position, and no two foreign keys have names that the dialect takes
to be the same.  If the foreign keys can be created, that is the only case.
-/
theorem scriptTable_addsForeignKeys_iff
    (scripter : Scripter)
    (typed : source.isTyped .table = true)
    (once : scripter.dialect.DefinesColumnsOnce source)
    (owned : ∀ row ∈ source.rows "foreign_keys", row.ownerName = source.fullName) :
    (scripter.dialect.KeepsForeignKeys (source.rows "foreign_keys") →
      (scripter.scriptTable true source source.withoutForeignKeys).result =
        scripter.tableForeignKeys source) ∧
    ∀ script, scripter.tableForeignKeys source = .ok script →
      ((scripter.scriptTable true source source.withoutForeignKeys).result = .ok script ↔
        scripter.dialect.KeepsForeignKeys (source.rows "foreign_keys")) := by
  have rowsTyped : ∀ row ∈ source.rows "foreign_keys", row.isTyped .foreignKey = true :=
    fun _ member => Value.foreignKey_isTyped typed member
  rw [scripter.result_scriptTable typed (Value.isTyped_withoutForeignKeys typed),
    alterTable_withoutForeignKeys typed once owned, tableForeignKeys_eq_groupScripts typed]
  have kept : scripter.dialect.KeepsForeignKeys (source.rows "foreign_keys") →
      rowGroups (scripter.dialect.distinctRows (source.rows "foreign_keys")) =
        rowGroups (source.rows "foreign_keys") := by
    intro keeps
    rcases (Dialect.keepsForeignKeys_iff owned).mp keeps with ⟨allGroups, wholeGroups⟩
    exact (Dialect.sameGroups_distinctRows owned allGroups wholeGroups).rowGroups_eq
  refine ⟨fun keeps => by rw [kept keeps], fun script created => ?_⟩
  constructor
  · exact keepsForeignKeys_of_groupScripts rowsTyped owned created
  · intro keeps
    rw [kept keeps, created]

/-- A row of the foreign key of orders on two columns. -/
private def orderRow
    (column referencedColumn : String)
    (position : Int) : Value :=
  .filled .postgreSqlForeignKey [
    ("name", .text "fk"), ("schema", .text "public"), ("table_schema", .text "public"),
    ("table_name", .text "o"), ("column_name", .text column), ("ordinal_position", .int position),
    ("referenced_table_schema", .text "public"), ("referenced_table_name", .text "t"),
    ("referenced_column_name", .text referencedColumn)]

/-- Orders that reference two columns, with the positions of the two in the foreign key. -/
private def orders
    (first second : Int) : Value :=
  .plainTable "o" [.plainColumn "a" "integer" 1, .plainColumn "b" "integer" 2] []
    [orderRow "a" "x" first, orderRow "b" "y" second] []

private theorem orders_isTyped
    (first second : Int) :
    (orders first second).isTyped .table = true := by
  have columnsTyped : ∀ column ∈ [Value.plainColumn "a" "integer" 1, .plainColumn "b" "integer" 2],
      column.isTyped .column = true := by
    rw [List.forall_mem_cons, List.forall_mem_singleton]
    exact ⟨Value.isTyped_plainColumn .., Value.isTyped_plainColumn ..⟩
  have rowsTyped : ∀ row ∈ [orderRow "a" "x" first, orderRow "b" "y" second],
      row.isTyped .foreignKey = true := by
    rw [List.forall_mem_cons, List.forall_mem_singleton]
    exact ⟨Value.isTyped_filled rfl rfl, Value.isTyped_filled rfl rfl⟩
  exact Value.isTyped_plainTable "o" columnsTyped (fun _ => List.not_mem_nil.elim) rowsTyped
    (fun _ => List.not_mem_nil.elim)

private theorem orders_owned
    (first second : Int) :
    ∀ row ∈ (orders first second).rows "foreign_keys",
      row.ownerName = (orders first second).fullName := by
  change ∀ row ∈ [orderRow "a" "x" first, orderRow "b" "y" second], row.ownerName = ("public", "o")
  rw [List.forall_mem_cons, List.forall_mem_singleton]
  exact ⟨rfl, rfl⟩

/-- The statement that adds the foreign key with its columns. -/
private def ordersText
    (columns referencedColumns : String) : String :=
  "ALTER TABLE \"public\".\"o\"\nADD CONSTRAINT \"fk\" FOREIGN KEY (" ++ columns ++
    ")\nREFERENCES \"public\".\"t\" (" ++ referencedColumns ++ ") MATCH SIMPLE\n" ++
    "ON DELETE NO ACTION\nON UPDATE NO ACTION\nNOT DEFERRABLE\nINITIALLY IMMEDIATE;\n\n"

/-- A foreign key on two columns at two positions is added with both. -/
theorem scriptTable_addsForeignKeys_of_twoPositions :
    (orders 1 2).isTyped .table = true ∧
      Dialect.postgreSql.DefinesColumnsOnce (orders 1 2) ∧
      Dialect.postgreSql.KeepsForeignKeys ((orders 1 2).rows "foreign_keys") ∧
      Scripter.tableForeignKeys { dialect := .postgreSql } (orders 1 2) =
        .ok (ordersText "\"a\",\"b\"" "\"x\",\"y\"") ∧
      (Scripter.scriptTable { dialect := .postgreSql } true (orders 1 2)
          (orders 1 2).withoutForeignKeys).result =
        .ok (ordersText "\"a\",\"b\"" "\"x\",\"y\"") := by
  have once : Dialect.postgreSql.DefinesColumnsOnce (orders 1 2) :=
    Dialect.definesColumnsOnce_of_tellsColumnsApart (by decide +kernel)
  have keeps : Dialect.postgreSql.KeepsForeignKeys ((orders 1 2).rows "foreign_keys") :=
    ⟨by decide +kernel, by decide +kernel⟩
  have created : Scripter.tableForeignKeys { dialect := .postgreSql } (orders 1 2) =
      .ok (ordersText "\"a\",\"b\"" "\"x\",\"y\"") := by
    decide +kernel
  refine ⟨orders_isTyped 1 2, once, keeps, created, ?_⟩
  exact ((scriptTable_addsForeignKeys_iff { dialect := .postgreSql } (orders_isTyped 1 2) once
    (orders_owned 1 2)).1 keeps).trans created

/-- A foreign key on two columns at one position is added with the first of them only. -/
theorem scriptTable_of_onePosition :
    (orders 0 0).isTyped .table = true ∧
      (∀ row ∈ (orders 0 0).rows "foreign_keys", row.ownerName = (orders 0 0).fullName) ∧
      Dialect.postgreSql.DefinesColumnsOnce (orders 0 0) ∧
      Scripter.tableForeignKeys { dialect := .postgreSql } (orders 0 0) =
        .ok (ordersText "\"a\",\"b\"" "\"x\",\"y\"") ∧
      (Scripter.scriptTable { dialect := .postgreSql } true (orders 0 0)
          (orders 0 0).withoutForeignKeys).result = .ok (ordersText "\"a\"" "\"x\"") ∧
      (Scripter.scriptTable { dialect := .postgreSql } true (orders 0 0)
          (orders 0 0).withoutForeignKeys).result ≠
        Scripter.tableForeignKeys { dialect := .postgreSql } (orders 0 0) := by
  refine ⟨orders_isTyped 0 0, orders_owned 0 0,
    Dialect.definesColumnsOnce_of_tellsColumnsApart (by decide +kernel), by decide +kernel,
    by decide +kernel, by decide +kernel⟩

end Scripter

end SchemaDelta
