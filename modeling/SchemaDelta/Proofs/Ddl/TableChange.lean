import SchemaDelta.Proofs.Ddl.ColumnOrder
import SchemaDelta.Proofs.Ddl.ForeignKey
import SchemaDelta.Proofs.Ddl.GroupChange

/-!
# Changes of typed tables

The changes between two typed tables are found without failure.  They are given here as a function of
the two tables and of the order in which the columns of each are visited.
-/

namespace SchemaDelta

/-! ## Columns -/

/-- A column as definitions are compared: without a name and a position. -/
def Value.definition
    (column : Value) : Value :=
  column.withParts [("name", .text ""), ("ordinal_position", .int 0)]

namespace Dialect

/-- The folded name of a column. -/
def columnKey
    (dialect : Dialect)
    (column : Value) : String :=
  dialect.foldedPart "name" column

/-- The columns of a table under their folded names; of several under one name the last counts. -/
def columnMap
    (dialect : Dialect)
    (table : Value) : List (String × Value) :=
  Keyed.ofList ((table.rows "columns").map fun column => (dialect.columnKey column, column))

/-- A dialect tells the columns of a table apart. -/
def TellsColumnsApart
    (dialect : Dialect)
    (table : Value) : Prop :=
  ((table.rows "columns").map dialect.columnKey).Nodup

instance
    (dialect : Dialect)
    (table : Value) : Decidable (dialect.TellsColumnsApart table) :=
  inferInstanceAs (Decidable (List.Nodup _))

/-- The columns without a counterpart in a table. -/
def unmatched
    (dialect : Dialect)
    (table : Value)
    (columns : List Value) : List Value :=
  columns.filter fun column => ((dialect.columnMap table).lookup (dialect.columnKey column)).isNone

/-- The counterpart of a column in a table, if the two have different definitions. -/
def alteredBy?
    (dialect : Dialect)
    (table column : Value) : Option (Value × Value) :=
  match (dialect.columnMap table).lookup (dialect.columnKey column) with
  | none => none
  | some other => if column.definition == other.definition then none else some (column, other)

end Dialect

namespace ObjectClass

theorem column_declares_name :
    column.declares "name" .text = true := by
  decide

theorem column_declares_ordinal_position :
    column.declares "ordinal_position" .int = true := by
  decide

end ObjectClass

section Columns

variable (dialect : Dialect) {table column other : Value} {columns : List Value}

theorem Value.definition_fits :
    PartsFit [("name", .text ""), ("ordinal_position", .int 0)] .column := by
  intro part member
  rcases List.mem_cons.mp member with rfl | member
  · exact ⟨.text, ObjectClass.column_declares_name, rfl⟩
  · obtain rfl := List.mem_singleton.mp member
    exact ⟨.int, ObjectClass.column_declares_ordinal_position, rfl⟩

theorem Value.sameDefinition_ok
    (typed : column.isTyped .column = true)
    (otherTyped : other.isTyped .column = true) :
    column.sameDefinition other = .ok (column.definition == other.definition) := by
  simp only [sameDefinition, definition, replaceParts_ok typed definition_fits,
    replaceParts_ok otherTyped definition_fits, Attempt.ok_bind]
  rfl

theorem Dialect.columnKey_ok
    (typed : column.isTyped .column = true) :
    dialect.partKey "name" column = .ok (.text (dialect.columnKey column)) :=
  dialect.partKey_ok (Value.part_text_of_isTyped typed ObjectClass.column_declares_name)

theorem Dialect.mem_of_lookup_columnMap
    {key : String}
    (found : (dialect.columnMap table).lookup key = some column) :
    column ∈ table.rows "columns" ∧ dialect.columnKey column = key := by
  have member := (Keyed.lookup_eq_some_iff_mem (Keyed.nodup_keys_ofList _)).mp found
  rcases List.mem_map.mp (Keyed.mem_of_mem_ofList member) with ⟨held, heldMember, equal⟩
  cases equal
  exact ⟨heldMember, rfl⟩

/-- Where columns are told apart, each of them stands under its folded name. -/
theorem Dialect.lookup_columnMap_iff
    (apart : dialect.TellsColumnsApart table)
    {key : String} :
    (dialect.columnMap table).lookup key = some column ↔
      column ∈ table.rows "columns" ∧ dialect.columnKey column = key := by
  constructor
  · exact dialect.mem_of_lookup_columnMap
  · rintro ⟨member, rfl⟩
    have distinct :
        (((table.rows "columns").map fun column => (dialect.columnKey column, column)).map
          (·.1)).Nodup := by
      rw [List.map_map]
      exact apart
    rw [Dialect.columnMap, Keyed.ofList_of_nodup distinct,
      Keyed.lookup_eq_some_iff_mem distinct]
    exact List.mem_map.mpr ⟨column, member, rfl⟩

theorem Value.definition_isFlat
    (typed : column.isTyped .column = true) :
    column.definition.IsFlat :=
  isFlat_of_isTyped (isTyped_withParts typed definition_fits) (by decide)

namespace TableChanges

theorem keyedColumns_ok
    (typed : table.isTyped .table = true) :
    keyedColumns dialect table = .ok (textKeyed (dialect.columnMap table)) := by
  have keyed :
      dialect.keyedBy "name" (table.rows "columns") =
        .ok (textKeyed ((table.rows "columns").map fun column =>
          (dialect.columnKey column, column))) := by
    rw [textKeyed, List.map_map]
    apply Attempt.mapM_ok
    intro column member
    rw [dialect.columnKey_ok (Value.column_isTyped typed member)]
    rfl
  rw [keyedColumns, Value.partItems_of_isTyped typed ObjectClass.table_declares_columns,
    Attempt.ok_bind, keyed, Attempt.ok_bind, ofList_textKeyed]
  rfl

theorem columnsOnlyIn_ok
    (typed : ∀ column ∈ columns, column.isTyped .column = true) :
    columnsOnlyIn dialect (textKeyed (dialect.columnMap table)) columns =
      .ok (dialect.unmatched table columns) := by
  apply Attempt.filterM_ok
  intro column member
  rw [dialect.columnKey_ok (typed column member), Attempt.ok_bind, lookup_textKeyed]
  rfl

theorem columnsAltered_ok
    (tableTyped : table.isTyped .table = true)
    (typed : ∀ column ∈ columns, column.isTyped .column = true) :
    columnsAltered dialect (textKeyed (dialect.columnMap table)) columns =
      .ok (columns.filterMap (dialect.alteredBy? table)) := by
  have altered :
      (columns.mapM fun column => do
          match (textKeyed (dialect.columnMap table)).lookup
            (← dialect.partKey "name" column) with
          | none => return none
          | some other =>
            return if ← column.sameDefinition other then none else some (column, other)) =
        .ok (columns.map (dialect.alteredBy? table)) := by
    apply Attempt.mapM_ok
    intro column member
    rw [dialect.columnKey_ok (typed column member), Attempt.ok_bind, lookup_textKeyed,
      Dialect.alteredBy?]
    cases found : (dialect.columnMap table).lookup (dialect.columnKey column) with
    | none => rfl
    | some other =>
        have otherTyped := Value.column_isTyped tableTyped
          (dialect.mem_of_lookup_columnMap found).1
        simp only [Value.sameDefinition_ok (typed column member) otherTyped, Attempt.ok_bind]
        rfl
  refine Attempt.bind_eq_ok_iff.mpr ⟨_, altered, ?_⟩
  rw [List.filterMap_map]
  rfl

/-- The columns of a typed table are listed by position. -/
theorem columnsByPosition_ok
    (typed : table.isTyped .table = true) :
    ∃ byPosition, byPosition.Perm (table.rows "columns") ∧
      Value.sortedBy (fun column => column.part "ordinal_position") (table.rows "columns") =
        .ok byPosition :=
  ⟨_, Value.sortedOn_perm _ _, Value.sortedBy_part_int fun _ member =>
    Value.part_int_of_isTyped (Value.column_isTyped typed member)
      ObjectClass.column_declares_ordinal_position⟩

end TableChanges

end Columns

/-! ## Foreign keys that reference a table -/

namespace Dialect

/-- The folded names of the columns of rows. -/
def columnKeys
    (dialect : Dialect)
    (rows : List Value) : List String :=
  rows.map (dialect.foldedPart "column_name")

/-- The rows of the foreign keys of the target that reference a column of rows that are dropped. -/
def inboundRows
    (dialect : Dialect)
    (target : Value)
    (dropped : List Value) : List Value :=
  (dialect.referencingGroups (dialect.columnKeys dropped)
    (target.rows "referencing_foreign_keys")).flatten

/--
The rows of the foreign keys of the source that reference a column of rows that are added, among
those with the name of a row that is out of the way.
-/
def returningRows
    (dialect : Dialect)
    (source : Value)
    (inbound added : List Value) : List Value :=
  (dialect.referencingGroups (dialect.columnKeys added)
    (source.rows "referencing_foreign_keys")).flatten.filter fun row =>
      (inbound.map (dialect.foldedPart "name")).contains (dialect.foldedPart "name" row)

end Dialect

namespace TableChanges

variable (dialect : Dialect) {source target : Value}

private theorem typed_of_mem_referencingGroups
    {rows : List Value}
    (typed : ∀ row ∈ rows, row.isTyped .foreignKey = true)
    {columns : List String}
    {row : Value}
    (member : row ∈ (dialect.referencingGroups columns rows).flatten) :
    row.isTyped .foreignKey = true := by
  rcases List.mem_flatten.mp member with ⟨group, grouped, rowMember⟩
  exact typed row
    ((Value.mem_of_mem_rowGroups (List.mem_filter.mp grouped).1).mp rowMember).1

private theorem columnKeys_ok
    {rows : List Value}
    (typed : ∀ row ∈ rows, row.isTyped .index = true) :
    rows.mapM (dialect.partKey "column_name") = .ok ((dialect.columnKeys rows).map .text) := by
  rw [Dialect.columnKeys, List.map_map]
  exact Attempt.mapM_ok fun row member =>
    dialect.partKey_ok (Value.part_text_of_isTyped (typed row member) (by decide))

private theorem foreignKeyNames_ok
    {rows : List Value}
    (typed : ∀ row ∈ rows, row.isTyped .foreignKey = true) :
    rows.mapM (dialect.partKey "name") =
      .ok ((rows.map (dialect.foldedPart "name")).map .text) := by
  rw [List.map_map]
  exact Attempt.mapM_ok fun row member =>
    dialect.partKey_ok
      (Value.part_text_of_isTyped (typed row member) ObjectClass.foreignKey_declares_name)

/-- Nothing is in the way of no rows. -/
theorem inboundRows_nil :
    dialect.inboundRows target [] = [] := by
  simp [Dialect.inboundRows, Dialect.referencingGroups, Dialect.columnKeys]

theorem inboundRows_isTyped
    (targetTyped : target.isTyped .table = true)
    {dropped : List Value} :
    ∀ row ∈ dialect.inboundRows target dropped, row.isTyped .foreignKey = true :=
  fun _ member => typed_of_mem_referencingGroups dialect
    (fun _ held => Value.referencingForeignKey_isTyped targetTyped held) member

theorem returningRows_isTyped
    (sourceTyped : source.isTyped .table = true)
    {inbound added : List Value} :
    ∀ row ∈ dialect.returningRows source inbound added, row.isTyped .foreignKey = true :=
  fun _ member => typed_of_mem_referencingGroups dialect
    (fun _ held => Value.referencingForeignKey_isTyped sourceTyped held)
    (List.mem_filter.mp member).1

/-- The foreign keys in the way and those that return are found without failure. -/
theorem inboundForeignKeys_ok
    (sourceTyped : source.isTyped .table = true)
    (targetTyped : target.isTyped .table = true)
    {dropped added : List Value}
    (droppedTyped : ∀ row ∈ dropped, row.isTyped .index = true)
    (addedTyped : ∀ row ∈ added, row.isTyped .index = true) :
    inboundForeignKeys dialect source target dropped added =
      .ok (dialect.inboundRows target dropped,
        dialect.returningRows source (dialect.inboundRows target dropped) added) := by
  have targetRows :
      ∀ row ∈ target.rows "referencing_foreign_keys", row.isTyped .foreignKey = true :=
    fun row member => Value.referencingForeignKey_isTyped targetTyped member
  have sourceRows :
      ∀ row ∈ source.rows "referencing_foreign_keys", row.isTyped .foreignKey = true :=
    fun row member => Value.referencingForeignKey_isTyped sourceTyped member
  rw [inboundForeignKeys, columnKeys_ok dialect droppedTyped, Attempt.ok_bind]
  cases dropped with
  | nil =>
      rw [inboundRows_nil]
      simp [Dialect.columnKeys, Dialect.returningRows]
  | cons first others =>
      have inboundTyped :
          ∀ row ∈ dialect.inboundRows target (first :: others), row.isTyped .foreignKey = true :=
        inboundRows_isTyped dialect targetTyped
      have returning :
          ((dialect.referencingGroups (dialect.columnKeys added)
              (source.rows "referencing_foreign_keys")).flatten.filterM fun row => do
            return (((dialect.inboundRows target (first :: others)).map
              (dialect.foldedPart "name")).map Value.text).contains
                (← dialect.partKey "name" row)) =
            .ok (dialect.returningRows source
              (dialect.inboundRows target (first :: others)) added) := by
        apply Attempt.filterM_ok
        intro row member
        have rowTyped := typed_of_mem_referencingGroups dialect sourceRows member
        rw [dialect.partKey_ok
          (Value.part_text_of_isTyped rowTyped ObjectClass.foreignKey_declares_name),
          Attempt.ok_bind, Dialect.contains_map_text]
        rfl
      have notEmpty :
          ((dialect.columnKeys (first :: others)).map Value.text).isEmpty = false := rfl
      have inbound :
          dialect.referencing ((dialect.columnKeys (first :: others)).map .text)
              (.list (target.rows "referencing_foreign_keys")) =
            .ok (dialect.inboundRows target (first :: others)) :=
        dialect.referencing_ok _ targetRows
      simp only [notEmpty, Bool.false_eq_true, if_false,
        Value.part_rows_of_isTyped targetTyped
          ObjectClass.table_declares_referencing_foreign_keys,
        Value.part_rows_of_isTyped sourceTyped
          ObjectClass.table_declares_referencing_foreign_keys,
        Attempt.ok_bind, inbound, foreignKeyNames_ok dialect inboundTyped,
        columnKeys_ok dialect addedTyped, dialect.referencing_ok _ sourceRows, returning]
      rfl

/-! ## All changes -/

/-- The folded names of the columns that are dropped or altered. -/
def touchedNames
    (dialect : Dialect)
    (dropped : List Value)
    (altered : List (Value × Value)) : List String :=
  (dropped ++ altered.map (·.1)).map dialect.columnKey

/--
The changes between two tables, given the columns of the target by position and those of the source
in the order in which they are scripted.
-/
def planned
    (dialect : Dialect)
    (source target : Value)
    (byPosition scripted : List Value) : TableChanges :=
  let droppedColumns := dialect.unmatched source byPosition
  let alteredColumns := scripted.filterMap (dialect.alteredBy? target)
  let touched := touchedNames dialect droppedColumns alteredColumns
  let dropPrimaryKeys :=
    (dialect.droppedGroups touched source.primaryRows target.primaryRows).flatten
  let addPrimaryKeys :=
    (dialect.addedGroups touched source.primaryRows target.primaryRows).flatten
  let dropIndexes :=
    (dialect.droppedGroups touched source.secondaryRows target.secondaryRows).flatten
  let addIndexes :=
    (dialect.addedGroups touched source.secondaryRows target.secondaryRows).flatten
  let ownDropped :=
    (dialect.droppedGroups touched (source.rows "foreign_keys")
      (target.rows "foreign_keys")).flatten
  let ownAdded :=
    (dialect.addedGroups touched (source.rows "foreign_keys")
      (target.rows "foreign_keys")).flatten
  let inbound := dialect.inboundRows target (dropPrimaryKeys ++ dropIndexes)
  { droppedColumns, alteredColumns, dropPrimaryKeys, addPrimaryKeys, dropIndexes, addIndexes
    addedColumns := dialect.unmatched target scripted
    dropChecks :=
      (dialect.droppedGroups [] (source.rows "constraints") (target.rows "constraints")).flatten
    addChecks :=
      (dialect.addedGroups [] (source.rows "constraints") (target.rows "constraints")).flatten
    dropForeignKeys := dialect.uniqueRows (ownDropped.map target.onTable ++ inbound)
    addForeignKeys := dialect.uniqueRows (ownAdded.map target.onTable ++
      dialect.returningRows source inbound (addPrimaryKeys ++ addIndexes)) }

theorem touchedNames_ok
    {dropped : List Value}
    {altered : List (Value × Value)}
    (droppedTyped : ∀ column ∈ dropped, column.isTyped .column = true)
    (alteredTyped : ∀ pair ∈ altered, pair.1.isTyped .column = true) :
    (dropped ++ altered.map (·.1)).mapM (dialect.partKey "name") =
      .ok ((touchedNames dialect dropped altered).map .text) := by
  rw [touchedNames, List.map_map]
  refine Attempt.mapM_ok fun column member => dialect.columnKey_ok ?_
  rcases List.mem_append.mp member with isDropped | isAltered
  · exact droppedTyped column isDropped
  · rcases List.mem_map.mp isAltered with ⟨pair, pairMember, rfl⟩
    exact alteredTyped pair pairMember

/-- What is altered is a column with a counterpart under the same folded name. -/
theorem eq_of_alteredBy?_eq_some
    {table column : Value}
    {pair : Value × Value}
    (altered : dialect.alteredBy? table column = some pair) :
    pair.1 = column ∧
      (dialect.columnMap table).lookup (dialect.columnKey column) = some pair.2 ∧
      (column.definition == pair.2.definition) = false := by
  unfold Dialect.alteredBy? at altered
  split at altered
  · cases altered
  · rename_i other found
    cases same : column.definition == other.definition with
    | true => simp [same] at altered
    | false =>
        rw [same] at altered
        cases altered
        exact ⟨rfl, found, same⟩

private theorem alteredColumns_isTyped
    (table : Value)
    {columns : List Value}
    (typed : ∀ column ∈ columns, column.isTyped .column = true) :
    ∀ pair ∈ columns.filterMap (dialect.alteredBy? table), pair.1.isTyped .column = true := by
  intro pair member
  rcases List.mem_filterMap.mp member with ⟨column, columnMember, altered⟩
  rw [(eq_of_alteredBy?_eq_some dialect altered).1]
  exact typed column columnMember

private theorem definedOn_ok
    {rows : List Value}
    (targetTyped : target.isTyped .table = true)
    (typed : ∀ row ∈ rows, row.isTyped .foreignKey = true) :
    rows.mapM (·.definedOn target) = .ok (rows.map target.onTable) :=
  Attempt.mapM_ok fun row member => Value.definedOn_ok (typed row member) targetTyped

private theorem changedRows_ok
    {kind : ObjectClass}
    (rowKind : kind.isRow = true)
    (touched : List String)
    {sourceRows targetRows : List Value}
    (sourceTyped : ∀ row ∈ sourceRows, row.isTyped kind = true)
    (targetTyped : ∀ row ∈ targetRows, row.isTyped kind = true) :
    dialect.changedGroups (touched.map .text) (.list sourceRows) (.list targetRows) =
      .ok ((dialect.droppedGroups touched sourceRows targetRows).flatten,
        (dialect.addedGroups touched sourceRows targetRows).flatten) :=
  dialect.changedGroups_ok touched
    (fun row member => Value.isRow_of_isTyped (sourceTyped row member) rowKind)
    (fun row member => Value.isRow_of_isTyped (targetTyped row member) rowKind)

private theorem typed_onTable_append
    (targetTyped : target.isTyped .table = true)
    {own others : List Value}
    (ownTyped : ∀ row ∈ own, row.isTyped .foreignKey = true)
    (othersTyped : ∀ row ∈ others, row.isTyped .foreignKey = true) :
    ∀ row ∈ own.map target.onTable ++ others, row.isTyped .foreignKey = true := by
  intro row member
  rcases List.mem_append.mp member with isOwn | isOther
  · rcases List.mem_map.mp isOwn with ⟨held, heldMember, rfl⟩
    exact Value.isTyped_onTable (ownTyped held heldMember) targetTyped
  · exact othersTyped row isOther

private theorem keyRows_isTyped
    {table : Value}
    (typed : table.isTyped .table = true)
    {primary secondary : List Value}
    (ofPrimary : ∀ row ∈ primary, row ∈ table.primaryRows)
    (ofSecondary : ∀ row ∈ secondary, row ∈ table.secondaryRows) :
    ∀ row ∈ primary ++ secondary, row.isTyped .index = true := by
  intro row member
  rcases List.mem_append.mp member with isPrimary | isSecondary
  · exact Value.primaryRow_isTyped typed (ofPrimary row isPrimary)
  · exact Value.secondaryRow_isTyped typed (ofSecondary row isSecondary)

/-- The changes between two typed tables follow from the order of the columns of each. -/
private theorem between_eq_planned
    {options : Options}
    (sourceTyped : source.isTyped .table = true)
    (targetTyped : target.isTyped .table = true)
    {byPosition scripted : List Value}
    (byPositionPerm : byPosition.Perm (target.rows "columns"))
    (scriptedPerm : scripted.Perm (source.rows "columns"))
    (sorted : Value.sortedBy (fun column => column.part "ordinal_position")
      (target.rows "columns") = .ok byPosition)
    (scriptedOk : options.scriptedColumns source target = .ok scripted) :
    between dialect options source target =
      .ok (planned dialect source target byPosition scripted) := by
  have byPositionTyped : ∀ column ∈ byPosition, column.isTyped .column = true :=
    fun column member => Value.column_isTyped targetTyped (byPositionPerm.subset member)
  have scriptedTyped : ∀ column ∈ scripted, column.isTyped .column = true :=
    fun column member => Value.column_isTyped sourceTyped (scriptedPerm.subset member)
  have droppedTyped :
      ∀ column ∈ dialect.unmatched source byPosition, column.isTyped .column = true :=
    fun column member => byPositionTyped column (List.mem_filter.mp member).1
  have touched := touchedNames_ok dialect droppedTyped
    (alteredColumns_isTyped dialect target scriptedTyped)
  generalize touchedEq :
    touchedNames dialect (dialect.unmatched source byPosition)
      (scripted.filterMap (dialect.alteredBy? target)) = touchedColumns at touched
  have indexes :=
    changedRows_ok dialect (show ObjectClass.index.isRow = true by decide) touchedColumns
      (fun _ member => Value.secondaryRow_isTyped sourceTyped member)
      (fun _ member => Value.secondaryRow_isTyped targetTyped member)
  have primaryKeys :=
    changedRows_ok dialect (show ObjectClass.index.isRow = true by decide) touchedColumns
      (fun _ member => Value.primaryRow_isTyped sourceTyped member)
      (fun _ member => Value.primaryRow_isTyped targetTyped member)
  have checks :=
    changedRows_ok dialect (show ObjectClass.constraint.isRow = true by decide) []
      (fun _ member => Value.constraint_isTyped sourceTyped member)
      (fun _ member => Value.constraint_isTyped targetTyped member)
  have foreignKeys :=
    changedRows_ok dialect (show ObjectClass.foreignKey.isRow = true by decide) touchedColumns
      (fun _ member => Value.foreignKey_isTyped sourceTyped member)
      (fun _ member => Value.foreignKey_isTyped targetTyped member)
  rw [List.map_nil] at checks
  have ownDroppedTyped :
      ∀ row ∈ (dialect.droppedGroups touchedColumns (source.rows "foreign_keys")
        (target.rows "foreign_keys")).flatten, row.isTyped .foreignKey = true :=
    fun _ member => Value.foreignKey_isTyped targetTyped (Dialect.mem_of_mem_droppedGroups member)
  have ownAddedTyped :
      ∀ row ∈ (dialect.addedGroups touchedColumns (source.rows "foreign_keys")
        (target.rows "foreign_keys")).flatten, row.isTyped .foreignKey = true :=
    fun _ member => Value.foreignKey_isTyped sourceTyped (Dialect.mem_of_mem_addedGroups member)
  -- Each step of the function in turn, with the order of the columns as it was given.
  simp only [between, keyedColumns_ok dialect sourceTyped, keyedColumns_ok dialect targetTyped,
    Value.partItems_of_isTyped targetTyped ObjectClass.table_declares_columns, sorted, scriptedOk,
    columnsOnlyIn_ok dialect byPositionTyped,
    columnsOnlyIn_ok dialect scriptedTyped, columnsAltered_ok dialect targetTyped scriptedTyped,
    touched, Attempt.ok_bind,
    Value.secondaryIndexes_ok sourceTyped, Value.secondaryIndexes_ok targetTyped, indexes,
    Value.primaryKeys_ok sourceTyped, Value.primaryKeys_ok targetTyped, primaryKeys,
    Value.part_rows_of_isTyped sourceTyped ObjectClass.table_declares_constraints,
    Value.part_rows_of_isTyped targetTyped ObjectClass.table_declares_constraints, checks,
    Value.part_rows_of_isTyped sourceTyped ObjectClass.table_declares_foreign_keys,
    Value.part_rows_of_isTyped targetTyped ObjectClass.table_declares_foreign_keys, foreignKeys,
    definedOn_ok targetTyped ownDroppedTyped, definedOn_ok targetTyped ownAddedTyped,
    inboundForeignKeys_ok dialect sourceTyped targetTyped
      (keyRows_isTyped targetTyped (fun _ => Dialect.mem_of_mem_droppedGroups)
        (fun _ => Dialect.mem_of_mem_droppedGroups))
      (keyRows_isTyped sourceTyped (fun _ => Dialect.mem_of_mem_addedGroups)
        (fun _ => Dialect.mem_of_mem_addedGroups))]
  rw [dialect.uniqueForeignKeys_ok (typed_onTable_append targetTyped ownDroppedTyped
      (inboundRows_isTyped dialect targetTyped)), Attempt.ok_bind,
    dialect.uniqueForeignKeys_ok (typed_onTable_append targetTyped ownAddedTyped
      (returningRows_isTyped dialect sourceTyped)), Attempt.ok_bind, ← touchedEq]
  rfl

/-- The changes between two typed tables are found without failure. -/
theorem between_ok
    (options : Options)
    (sourceTyped : source.isTyped .table = true)
    (targetTyped : target.isTyped .table = true) :
    ∃ byPosition scripted,
      byPosition.Perm (target.rows "columns") ∧ scripted.Perm (source.rows "columns") ∧
        between dialect options source target =
          .ok (planned dialect source target byPosition scripted) := by
  rcases options.scriptedColumns_ok sourceTyped targetTyped with
    ⟨scripted, scriptedOk, scriptedPerm⟩
  rcases columnsByPosition_ok targetTyped with ⟨byPosition, byPositionPerm, sorted⟩
  exact ⟨byPosition, scripted, byPositionPerm, scriptedPerm,
    between_eq_planned dialect sourceTyped targetTyped byPositionPerm scriptedPerm sorted
      scriptedOk⟩

end TableChanges

end SchemaDelta
