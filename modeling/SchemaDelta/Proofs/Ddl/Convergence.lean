import SchemaDelta.Proofs.Ddl.TableChange
import SchemaDelta.Proofs.Value.Filled

/-!
# Convergence of changes

The changes between two tables lead from the target to the source.  Where a dialect tells the columns
of each table apart, dropping, replacing and adding columns gives the columns of the source; where it
tells the groups apart, dropping and adding groups gives the groups of the source.
-/

namespace SchemaDelta

open Value (rowGroups groupName groupNames)

/-! ## Groups -/

namespace Dialect

/-- Rows that a dialect takes to have the same name have the same name. -/
def TellsApart
    (dialect : Dialect)
    (rows : List Value) : Prop :=
  ∀ left ∈ rows, ∀ right ∈ rows,
    dialect.foldedPart "name" left = dialect.foldedPart "name" right →
      left.letters "name" = right.letters "name"

instance
    (dialect : Dialect)
    (rows : List Value) : Decidable (dialect.TellsApart rows) :=
  inferInstanceAs (Decidable (∀ left ∈ rows, ∀ right ∈ rows, _ → _))

/--
Dropped rows are whole groups of the target and added rows whole groups of the source.  The groups
left in the target after the drops have other names than those that are added, and together with them
they are the groups of the source.
-/
def GroupsConverge
    (dialect : Dialect)
    (source target dropped added : List Value) : Prop :=
  ∃ droppedGroups addedGroups left,
    dropped = droppedGroups.flatten ∧ added = addedGroups.flatten ∧
      (rowGroups target).Perm (droppedGroups ++ left) ∧
      (left ++ addedGroups).Perm (rowGroups source) ∧
      ∀ group ∈ addedGroups, dialect.groupKey group ∉ left.map dialect.groupKey

variable {dialect : Dialect} {rows source target group : List Value} {touched : List String}

theorem nodup_groupKeys
    (apart : dialect.TellsApart rows) :
    ((rowGroups rows).map dialect.groupKey).Nodup := by
  have folded : (rowGroups rows).map dialect.groupKey =
      (groupNames rows).map dialect.foldedName := by
    rw [← Value.map_groupName_rowGroups, List.map_map]
    rfl
  rw [folded]
  refine List.Nodup.map_on ?_ (Value.nodup_groupNames rows)
  intro left leftMember right rightMember same
  rcases Value.mem_groupNames.mp leftMember with ⟨leftRow, leftHeld, rfl⟩
  rcases Value.mem_groupNames.mp rightMember with ⟨rightRow, rightHeld, rfl⟩
  exact apart leftRow leftHeld rightRow rightHeld same

/-- Under distinct names all groups count. -/
theorem groupMap_eq
    (apart : dialect.TellsApart rows) :
    dialect.groupMap rows = (rowGroups rows).map fun group => (dialect.groupKey group, group) := by
  apply Keyed.ofList_of_nodup
  rw [List.map_map]
  exact nodup_groupKeys apart

theorem mem_groupMap_iff
    (apart : dialect.TellsApart rows) :
    (dialect.groupKey group, group) ∈ dialect.groupMap rows ↔ group ∈ rowGroups rows := by
  rw [groupMap_eq apart]
  constructor
  · intro member
    rcases List.mem_map.mp member with ⟨held, heldMember, equal⟩
    rw [Prod.mk.injEq] at equal
    exact equal.2 ▸ heldMember
  · exact fun member => List.mem_map.mpr ⟨group, member, rfl⟩

/-- A group of one side stays when it is a group of the other side and nothing touches it. -/
private theorem stays_iff
    (rowsApart : dialect.TellsApart rows)
    {others : List Value}
    (othersApart : dialect.TellsApart others)
    (areRows : ∀ row ∈ rows, row.IsRow)
    (otherRows : ∀ row ∈ others, row.IsRow)
    (member : group ∈ rowGroups rows) :
    dialect.keeps touched group
        ((dialect.groupMap others).lookup (dialect.groupKey group)) = true ↔
      group ∈ rowGroups others ∧ dialect.covers touched group = false := by
  rw [keeps_iff areRows otherRows ((mem_groupMap_iff rowsApart).mpr member),
    mem_groupMap_iff othersApart]

private theorem rebuiltGroups_eq_filter
    (apart : dialect.TellsApart rows)
    (others : List (String × List Value)) :
    dialect.rebuiltGroups touched (dialect.groupMap rows) others =
      (rowGroups rows).filter fun group =>
        !dialect.keeps touched group (others.lookup (dialect.groupKey group)) := by
  rw [rebuiltGroups, groupMap_eq apart, List.filter_map, List.map_map]
  exact List.map_id _

/-- Whatever is touched, dropping and adding groups leads from the target to the source. -/
theorem groupsConverge_of_tellsApart
    (sourceApart : dialect.TellsApart source)
    (targetApart : dialect.TellsApart target)
    (sourceRows : ∀ row ∈ source, row.IsRow)
    (targetRows : ∀ row ∈ target, row.IsRow)
    (touched : List String) :
    dialect.GroupsConverge source target
      (dialect.droppedGroups touched source target).flatten
      (dialect.addedGroups touched source target).flatten := by
  let keptIn (others : List Value) (group : List Value) : Bool :=
    dialect.keeps touched group ((dialect.groupMap others).lookup (dialect.groupKey group))
  have dropped :
      dialect.droppedGroups touched source target =
        (rowGroups target).filter fun group => !keptIn source group :=
    rebuiltGroups_eq_filter targetApart _
  have added :
      dialect.addedGroups touched source target =
        (rowGroups source).filter fun group => !keptIn target group :=
    rebuiltGroups_eq_filter sourceApart _
  have kept :
      ((rowGroups target).filter (keptIn source)).Perm
        ((rowGroups source).filter (keptIn target)) := by
    refine (List.perm_ext_iff_of_nodup ?_ ?_).mpr fun group => ?_
    · exact ((nodup_groupKeys targetApart).of_map _).filter _
    · exact ((nodup_groupKeys sourceApart).of_map _).filter _
    · rw [List.mem_filter, List.mem_filter]
      constructor
      · rintro ⟨inTarget, stays⟩
        rcases (stays_iff targetApart sourceApart targetRows sourceRows inTarget).mp stays with
          ⟨inSource, untouched⟩
        exact ⟨inSource, (stays_iff sourceApart targetApart sourceRows targetRows inSource).mpr
          ⟨inTarget, untouched⟩⟩
      · rintro ⟨inSource, stays⟩
        rcases (stays_iff sourceApart targetApart sourceRows targetRows inSource).mp stays with
          ⟨inTarget, untouched⟩
        exact ⟨inTarget, (stays_iff targetApart sourceApart targetRows sourceRows inTarget).mpr
          ⟨inSource, untouched⟩⟩
  refine ⟨_, _, (rowGroups target).filter (keptIn source), rfl, rfl, ?_, ?_, ?_⟩
  · rw [dropped]
    exact ((List.perm_append_comm).trans (List.filter_append_perm _ _)).symm
  · rw [added]
    exact (kept.append_right _).trans (List.filter_append_perm _ _)
  · rw [added]
    intro group groupAdded clash
    rcases List.mem_map.mp clash with ⟨other, otherLeft, sameKey⟩
    rcases List.mem_filter.mp groupAdded with ⟨inSource, isRebuilt⟩
    rcases List.mem_filter.mp (kept.subset otherLeft) with ⟨otherSource, otherKept⟩
    obtain rfl : other = group :=
      List.inj_on_of_nodup_map (nodup_groupKeys sourceApart) otherSource inSource sameKey
    simp [otherKept] at isRebuilt

end Dialect

/-! ## Columns -/

namespace Dialect

/-- What counts of a column: its folded name and its definition. -/
def columnEntry
    (dialect : Dialect)
    (column : Value) : String × Value :=
  (dialect.columnKey column, column.definition)

end Dialect

namespace TableChanges

/-- A column of the target, or the column of the source that replaces it. -/
def replacement
    (changes : TableChanges)
    (dialect : Dialect)
    (column : Value) : Value :=
  ((changes.alteredColumns.find? fun pair =>
    dialect.columnKey pair.2 == dialect.columnKey column).map (·.1)).getD column

/--
The columns of a target after those that are dropped are removed, those that are altered replaced and
those that are new added.
-/
def columnsAfter
    (changes : TableChanges)
    (dialect : Dialect)
    (columns : List Value) : List Value :=
  (columns.filter fun column =>
    !(changes.droppedColumns.map dialect.columnKey).contains (dialect.columnKey column)).map
      (changes.replacement dialect) ++ changes.addedColumns

variable {dialect : Dialect} {source target table column : Value}

/-- Columns of two tables under one folded name are counterparts. -/
private theorem lookup_of_sameKey
    (apart : dialect.TellsColumnsApart table)
    {other : Value}
    (member : other ∈ table.rows "columns")
    (sameKey : dialect.columnKey other = dialect.columnKey column) :
    (dialect.columnMap table).lookup (dialect.columnKey column) = some other :=
  (dialect.lookup_columnMap_iff apart).mpr ⟨member, sameKey⟩

variable {byPosition scripted : List Value}

/-- A column that has a counterpart in the source becomes the counterpart, as far as it counts. -/
theorem columnEntry_replacement
    (sourceTyped : source.isTyped .table = true)
    (targetTyped : target.isTyped .table = true)
    (sourceApart : dialect.TellsColumnsApart source)
    (targetApart : dialect.TellsColumnsApart target)
    (scriptedPerm : scripted.Perm (source.rows "columns"))
    {other : Value}
    (member : column ∈ target.rows "columns")
    (otherMember : other ∈ source.rows "columns")
    (sameKey : dialect.columnKey other = dialect.columnKey column) :
    dialect.columnEntry
        ((planned dialect source target byPosition scripted).replacement dialect column) =
      dialect.columnEntry other := by
  have counterpart :
      (dialect.columnMap target).lookup (dialect.columnKey other) = some column :=
    lookup_of_sameKey targetApart member sameKey.symm
  -- An altered pair under the name of the column is that column with its counterpart.
  have pair_eq : ∀ pair ∈ scripted.filterMap (dialect.alteredBy? target),
      dialect.columnKey pair.2 = dialect.columnKey column →
        pair = (other, column) ∧ (other.definition == column.definition) = false := by
    intro pair pairMember pairKey
    rcases List.mem_filterMap.mp pairMember with ⟨held, heldMember, altered⟩
    rcases eq_of_alteredBy?_eq_some dialect altered with ⟨first, found, differs⟩
    have heldKey : dialect.columnKey held = dialect.columnKey other := by
      rw [sameKey, ← pairKey, (dialect.mem_of_lookup_columnMap found).2]
    have heldOther : held = other :=
      List.inj_on_of_nodup_map sourceApart (scriptedPerm.subset heldMember) otherMember heldKey
    rw [heldKey, counterpart, Option.some.injEq] at found
    rw [← found, heldOther] at differs
    exact ⟨Prod.ext (first.trans heldOther) found.symm, differs⟩
  unfold replacement
  cases found : (planned dialect source target byPosition scripted).alteredColumns.find? fun pair =>
      dialect.columnKey pair.2 == dialect.columnKey column with
  | some pair =>
      have pairKey := List.find?_some found
      rcases pair_eq pair (List.mem_of_find?_eq_some found) (beq_iff_eq.mp pairKey) with ⟨rfl, _⟩
      rfl
  | none =>
      have same : (other.definition == column.definition) = true := by
        rw [← Bool.not_eq_false]
        intro differs
        have altered : dialect.alteredBy? target other = some (other, column) := by
          simp [Dialect.alteredBy?, counterpart, differs]
        have pairMember : (other, column) ∈ scripted.filterMap (dialect.alteredBy? target) :=
          List.mem_filterMap.mpr ⟨other, scriptedPerm.symm.subset otherMember, altered⟩
        exact List.find?_eq_none.mp found _ pairMember (beq_self_eq_true _)
      have equal : other.definition = column.definition :=
        (Value.beq_iff_eq_of_isFlat
          (Value.definition_isFlat (Value.column_isTyped sourceTyped otherMember))
          (Value.definition_isFlat (Value.column_isTyped targetTyped member))).mp same
      simp [Dialect.columnEntry, sameKey, equal]

private theorem isSome_lookup_iff
    (apart : dialect.TellsColumnsApart table) :
    ((dialect.columnMap table).lookup (dialect.columnKey column)).isSome = true ↔
      ∃ other ∈ table.rows "columns", dialect.columnKey other = dialect.columnKey column := by
  rw [Option.isSome_iff_exists]
  exact exists_congr fun other => dialect.lookup_columnMap_iff apart

private theorem kept_eq_matched
    (byPositionPerm : byPosition.Perm (target.rows "columns")) :
    ((target.rows "columns").filter fun column =>
      !((planned dialect source target byPosition scripted).droppedColumns.map
        dialect.columnKey).contains (dialect.columnKey column)) =
      (target.rows "columns").filter fun column =>
        ((dialect.columnMap source).lookup (dialect.columnKey column)).isSome := by
  apply List.filter_congr
  intro column member
  have dropped :
      ((planned dialect source target byPosition scripted).droppedColumns.map
          dialect.columnKey).contains (dialect.columnKey column) =
        ((dialect.columnMap source).lookup (dialect.columnKey column)).isNone := by
    rw [Bool.eq_iff_iff, List.contains_iff_mem]
    constructor
    · intro keyMember
      rcases List.mem_map.mp keyMember with ⟨other, otherDropped, sameKey⟩
      rw [← sameKey]
      exact (List.mem_filter.mp otherDropped).2
    · intro absent
      exact List.mem_map_of_mem
        (List.mem_filter.mpr ⟨byPositionPerm.symm.subset member, absent⟩)
  rw [dropped, Option.not_isNone]

private theorem nodup_entries
    {columns : List Value}
    (distinct : (columns.map dialect.columnKey).Nodup)
    (convert : Value → Value)
    (sameKeys : ∀ column ∈ columns,
      dialect.columnKey (convert column) = dialect.columnKey column) :
    ((columns.map convert).map dialect.columnEntry).Nodup := by
  apply List.Nodup.of_map Prod.fst
  have keys :
      ((columns.map convert).map dialect.columnEntry).map Prod.fst =
        columns.map dialect.columnKey := by
    rw [List.map_map, List.map_map]
    exact List.map_congr_left sameKeys
  rwa [keys]

/-- The columns with a counterpart become those of the source that have one in the target. -/
private theorem matched_perm
    (byPosition : List Value)
    (sourceTyped : source.isTyped .table = true)
    (targetTyped : target.isTyped .table = true)
    (sourceApart : dialect.TellsColumnsApart source)
    (targetApart : dialect.TellsColumnsApart target)
    (scriptedPerm : scripted.Perm (source.rows "columns")) :
    ((((target.rows "columns").filter fun column =>
        ((dialect.columnMap source).lookup (dialect.columnKey column)).isSome).map
      ((planned dialect source target byPosition scripted).replacement dialect)).map
        dialect.columnEntry).Perm
      ((scripted.filter fun column =>
        ((dialect.columnMap target).lookup (dialect.columnKey column)).isSome).map
          dialect.columnEntry) := by
  have becomes : ∀ {column other : Value}, column ∈ target.rows "columns" →
      other ∈ source.rows "columns" → dialect.columnKey other = dialect.columnKey column →
        dialect.columnEntry
            ((planned dialect source target byPosition scripted).replacement dialect column) =
          dialect.columnEntry other :=
    columnEntry_replacement sourceTyped targetTyped sourceApart targetApart scriptedPerm
  refine (List.perm_ext_iff_of_nodup ?_ ?_).mpr fun entry => ?_
  · apply nodup_entries (targetApart.sublist (List.filter_sublist.map _)) _
    intro column member
    rcases List.mem_filter.mp member with ⟨held, hasCounterpart⟩
    rcases (isSome_lookup_iff sourceApart).mp hasCounterpart with ⟨other, otherMember, sameKey⟩
    exact (congrArg Prod.fst (becomes held otherMember sameKey)).trans sameKey
  · have distinct : (scripted.map dialect.columnKey).Nodup :=
      (scriptedPerm.map _).nodup_iff.mpr sourceApart
    rw [← List.map_id (List.filter _ scripted)]
    exact nodup_entries (distinct.sublist (List.filter_sublist.map _)) id fun _ _ => rfl
  · simp only [List.mem_map, List.mem_filter, exists_exists_and_eq_and]
    constructor
    · rintro ⟨column, ⟨member, hasCounterpart⟩, rfl⟩
      rcases (isSome_lookup_iff sourceApart).mp hasCounterpart with ⟨other, otherMember, sameKey⟩
      exact ⟨other, ⟨scriptedPerm.symm.subset otherMember,
        (isSome_lookup_iff targetApart).mpr ⟨column, member, sameKey.symm⟩⟩,
        (becomes member otherMember sameKey).symm⟩
    · rintro ⟨other, ⟨member, hasCounterpart⟩, rfl⟩
      rcases (isSome_lookup_iff targetApart).mp hasCounterpart with
        ⟨column, columnMember, sameKey⟩
      have otherMember := scriptedPerm.subset member
      exact ⟨column, ⟨columnMember,
        (isSome_lookup_iff sourceApart).mpr ⟨other, otherMember, sameKey.symm⟩⟩,
        becomes columnMember otherMember sameKey.symm⟩

/-- The columns of the target, dropped, replaced and added, are those of the source. -/
theorem columnsAfter_perm
    (sourceTyped : source.isTyped .table = true)
    (targetTyped : target.isTyped .table = true)
    (sourceApart : dialect.TellsColumnsApart source)
    (targetApart : dialect.TellsColumnsApart target)
    (byPositionPerm : byPosition.Perm (target.rows "columns"))
    (scriptedPerm : scripted.Perm (source.rows "columns")) :
    (((planned dialect source target byPosition scripted).columnsAfter dialect
        (target.rows "columns")).map dialect.columnEntry).Perm
      ((source.rows "columns").map dialect.columnEntry) := by
  have partition :
      ((scripted.filter fun column =>
          ((dialect.columnMap target).lookup (dialect.columnKey column)).isSome) ++
        dialect.unmatched target scripted).Perm scripted := by
    have split := List.filter_append_perm
      (fun column => ((dialect.columnMap target).lookup (dialect.columnKey column)).isSome)
      scripted
    simp only [Option.not_isSome] at split
    exact split
  have matched :=
    matched_perm byPosition sourceTyped targetTyped sourceApart targetApart scriptedPerm
  rw [columnsAfter, kept_eq_matched byPositionPerm, List.map_append]
  apply (matched.append_right _).trans
  rw [← List.map_append]
  exact (partition.trans scriptedPerm).map _

end TableChanges

/-! ## Tables -/

/-- A dialect tells the columns of a table apart, and the groups of each of its sorts of rows. -/
structure Dialect.Separates
    (dialect : Dialect)
    (table : Value) : Prop where
  columns : dialect.TellsColumnsApart table
  primaryKeys : dialect.TellsApart table.primaryRows
  indexes : dialect.TellsApart table.secondaryRows
  checks : dialect.TellsApart (table.rows "constraints")

/-- Changes lead from a target to a source: its columns, keys, indexes and check constraints. -/
structure TableChanges.Converge
    (changes : TableChanges)
    (dialect : Dialect)
    (source target : Value) : Prop where
  columns :
    ((changes.columnsAfter dialect (target.rows "columns")).map dialect.columnEntry).Perm
      ((source.rows "columns").map dialect.columnEntry)
  primaryKeys :
    dialect.GroupsConverge source.primaryRows target.primaryRows
      changes.dropPrimaryKeys changes.addPrimaryKeys
  indexes :
    dialect.GroupsConverge source.secondaryRows target.secondaryRows
      changes.dropIndexes changes.addIndexes
  checks :
    dialect.GroupsConverge (source.rows "constraints") (target.rows "constraints")
      changes.dropChecks changes.addChecks

namespace TableChanges

/-- Between typed tables whose names a dialect tells apart there are changes, and they converge. -/
theorem between_converge
    (dialect : Dialect)
    (options : Options)
    {source target : Value}
    (sourceTyped : source.isTyped .table = true)
    (targetTyped : target.isTyped .table = true)
    (sourceSeparated : dialect.Separates source)
    (targetSeparated : dialect.Separates target) :
    ∃ changes, between dialect options source target = .ok changes ∧
      changes.Converge dialect source target := by
  rcases between_ok dialect options sourceTyped targetTyped with
    ⟨byPosition, scripted, byPositionPerm, scriptedPerm, planned_ok⟩
  refine ⟨_, planned_ok, ?_, ?_, ?_, ?_⟩
  · exact columnsAfter_perm sourceTyped targetTyped sourceSeparated.columns
      targetSeparated.columns byPositionPerm scriptedPerm
  · exact Dialect.groupsConverge_of_tellsApart sourceSeparated.primaryKeys
      targetSeparated.primaryKeys
      (fun _ member => Value.isRow_of_index (Value.primaryRow_isTyped sourceTyped member))
      (fun _ member => Value.isRow_of_index (Value.primaryRow_isTyped targetTyped member)) _
  · exact Dialect.groupsConverge_of_tellsApart sourceSeparated.indexes targetSeparated.indexes
      (fun _ member => Value.isRow_of_index (Value.secondaryRow_isTyped sourceTyped member))
      (fun _ member => Value.isRow_of_index (Value.secondaryRow_isTyped targetTyped member)) _
  · exact Dialect.groupsConverge_of_tellsApart sourceSeparated.checks targetSeparated.checks
      (fun _ member => Value.isRow_of_constraint (Value.constraint_isTyped sourceTyped member))
      (fun _ member => Value.isRow_of_constraint (Value.constraint_isTyped targetTyped member)) _

/-- A table that loses a column and an index, gets others and has one column of another type. -/
def narrowTable : Value :=
  .plainTable "t"
    [.plainColumn "id" "integer" 1, .plainColumn "name" "text" 2, .plainColumn "old" "text" 3]
    [.plainIndex "t" "pk_t" "id" true, .plainIndex "t" "ix_old" "old" false] [] []

/-- The table that it is changed into. -/
def wideTable : Value :=
  .plainTable "t"
    [.plainColumn "id" "bigint" 1, .plainColumn "note" "text" 2, .plainColumn "name" "text" 3]
    [.plainIndex "t" "pk_t" "id" true, .plainIndex "t" "ix_name" "name" false] [] []

/-- The changes from the one table to the other converge. -/
theorem between_converge_wideTable :
    wideTable.isTyped .table = true ∧ narrowTable.isTyped .table = true ∧
      Dialect.postgreSql.Separates wideTable ∧ Dialect.postgreSql.Separates narrowTable ∧
      ∃ changes, between .postgreSql {} wideTable narrowTable = .ok changes ∧
        changes.Converge .postgreSql wideTable narrowTable := by
  have wideTyped : wideTable.isTyped .table = true := by decide
  have narrowTyped : narrowTable.isTyped .table = true := by decide
  have wideSeparated : Dialect.postgreSql.Separates wideTable :=
    ⟨by decide, by decide, by decide, by decide⟩
  have narrowSeparated : Dialect.postgreSql.Separates narrowTable :=
    ⟨by decide, by decide, by decide, by decide⟩
  exact ⟨wideTyped, narrowTyped, wideSeparated, narrowSeparated,
    between_converge .postgreSql {} wideTyped narrowTyped wideSeparated narrowSeparated⟩

end TableChanges

end SchemaDelta
