import SchemaDelta.Ddl.Grouping
import SchemaDelta.Proofs.Keyed
import SchemaDelta.Proofs.Value.Reading
import SchemaDelta.Proofs.Value.Sorting

/-!
# Groups of rows

Rows of indexes, constraints and foreign keys fall into groups by their names.  Every row is in the
one group of its name, no group is empty, and no two groups have one name.
-/

namespace SchemaDelta

open Attempt (bind_eq_ok_iff)

/-! ## Rows -/

/--
What grouping needs of a row: texts as its schema and name, an integer as its position and a text as
its column, where the last two may be missing.
-/
structure Value.IsRow
    (row : Value) : Prop where
  schema : row.part "schema" = .ok (.text (row.letters "schema"))
  name : row.part "name" = .ok (.text (row.letters "name"))
  position : row.positionInGroup = .int (row.number "ordinal_position")
  column :
    row.part "column_name" = .ok (.text (row.letters "column_name")) ∨
      (∃ failure, row.part "column_name" = .error failure) ∧ row.letters "column_name" = ""
  flat : row.IsFlat

/-- What listing reads of a row: texts as its schema and name, an integer as its position. -/
structure Value.IsListed
    (row : Value) : Prop where
  schema : row.part "schema" = .ok (.text (row.letters "schema"))
  name : row.part "name" = .ok (.text (row.letters "name"))
  position : row.positionInGroup = .int (row.number "ordinal_position")

/-- What grouping reads of a row: a text as its name, an integer as its position. -/
structure Value.IsNamed
    (row : Value) : Prop where
  name : row.part "name" = .ok (.text (row.letters "name"))
  position : row.positionInGroup = .int (row.number "ordinal_position")

theorem Value.IsListed.isNamed
    {row : Value}
    (isListed : row.IsListed) :
    row.IsNamed :=
  ⟨isListed.name, isListed.position⟩

theorem Value.IsRow.isListed
    {row : Value}
    (isRow : row.IsRow) :
    row.IsListed :=
  ⟨isRow.schema, isRow.name, isRow.position⟩

/-- The typed objects of a class are rows. -/
def ObjectClass.isRow
    (kind : ObjectClass) : Bool :=
  kind.declares "schema" .text && kind.declares "name" .text &&
    (kind.declares "ordinal_position" .int || kind.lacks "ordinal_position") &&
    (kind.declares "column_name" .text || kind.lacks "column_name") && kind.areFlat

namespace Value

theorem isRow_of_isTyped
    {row : Value}
    {kind : ObjectClass}
    (typed : row.isTyped kind = true)
    (rowKind : kind.isRow = true) :
    row.IsRow := by
  simp only [ObjectClass.isRow, Bool.and_eq_true, Bool.or_eq_true] at rowKind
  rcases rowKind with ⟨⟨⟨⟨schema, name⟩, position⟩, column⟩, flat⟩
  refine ⟨part_text_of_isTyped typed schema, part_text_of_isTyped typed name, ?_, ?_,
    isFlat_of_isTyped typed flat⟩
  · unfold positionInGroup
    rcases position with declared | lacking
    · rw [part_int_of_isTyped typed declared]
    · rcases part_of_lacks typed lacking with ⟨⟨failure, fails⟩, absent⟩
      rw [fails]
      simp [number, absent, asInt?]
  · rcases column with declared | lacking
    · exact Or.inl (part_text_of_isTyped typed declared)
    · rcases part_of_lacks typed lacking with ⟨fails, absent⟩
      exact Or.inr ⟨fails, by simp [letters, absent, asText?]⟩

theorem isRow_of_index
    {row : Value}
    (typed : row.isTyped .index = true) :
    row.IsRow :=
  isRow_of_isTyped typed (by decide)

theorem isRow_of_constraint
    {row : Value}
    (typed : row.isTyped .constraint = true) :
    row.IsRow :=
  isRow_of_isTyped typed (by decide)

theorem isRow_of_foreignKey
    {row : Value}
    (typed : row.isTyped .foreignKey = true) :
    row.IsRow :=
  isRow_of_isTyped typed (by decide)

/-! ## Groups -/

/-- What a row is listed by: the schema, then the name. -/
def listing
    (row : Value) : Value :=
  .list [.text (row.letters "schema"), .text (row.letters "name")]

/-- The rows with a name, by position. -/
def namedRows
    (rows : List Value)
    (name : String) : List Value :=
  sortedOn (fun row => .int (row.number "ordinal_position"))
    ((sortedOn listing rows).filter fun row => row.letters "name" == name)

/-- The names of rows in the order in which the listed rows have them. -/
def groupNames
    (rows : List Value) : List String :=
  Keyed.firstByKey id ((sortedOn listing rows).map fun row => row.letters "name")

/-- One group a name. -/
def rowGroups
    (rows : List Value) : List (List Value) :=
  (groupNames rows).map (namedRows rows)

/-- One group a name of items that stand for rows, in which the names first come in their order. -/
def groupsBy
    {α : Type}
    (rowOf : α → Value)
    (items : List α) : List (List α) :=
  (Keyed.firstByKey id (items.map fun item => (rowOf item).letters "name")).map fun name =>
    sortedOn (fun item => .int ((rowOf item).number "ordinal_position"))
      (items.filter fun item => (rowOf item).letters "name" == name)

/-- One group a name of rows in any order, in which the names first come in that order. -/
def groupsOf
    (listed : List Value) : List (List Value) :=
  (Keyed.firstByKey id (listed.map fun row => row.letters "name")).map fun name =>
    sortedOn (fun row => .int (row.number "ordinal_position"))
      (listed.filter fun row => row.letters "name" == name)

/-- The name of the rows of a group. -/
def groupName
    (group : List Value) : String :=
  (group.headD .null).letters "name"

variable {rows group : List Value} {row : Value} {name : String}

/-- Objects whose schemas and names are texts are listed without failure. -/
theorem sortedByName_ok
    {objects : List Value}
    (reads : ∀ object ∈ objects, object.listingKey = .ok (listing object)) :
    sortedByName objects = .ok (sortedOn listing objects) :=
  sortedBy_ok _ reads (fun left _ right _ => by simp [listing])

/-- Every row is in a group. -/
theorem exists_mem_groupsOf
    {listed : List Value}
    (member : row ∈ listed) :
    ∃ group ∈ groupsOf listed, row ∈ group := by
  have named : row.letters "name" ∈ listed.map fun row => row.letters "name" :=
    List.mem_map_of_mem member
  rcases Keyed.exists_mem_firstByKey id named with ⟨name, first, same⟩
  refine ⟨_, List.mem_map_of_mem first, ?_⟩
  rw [mem_sortedOn, List.mem_filter]
  exact ⟨member, beq_iff_eq.mpr same.symm⟩

/-- Rows are listed by their schemas and names. -/
theorem IsListed.listingKey_ok
    (isListed : row.IsListed) :
    row.listingKey = .ok (listing row) := by
  rw [listingKey, isListed.schema, Attempt.ok_bind, isListed.name]
  rfl

/-- Items that stand for rows, in any order, are put into groups without failure. -/
theorem groupByName_ok
    {α : Type}
    {rowOf : α → Value}
    {items : List α}
    (areNamed : ∀ item ∈ items, (rowOf item).IsNamed) :
    groupByName rowOf items = .ok (groupsBy rowOf items) := by
  have named :
      (items.mapM fun item => do return (← (← (rowOf item).part "name").asKey, item)) =
        .ok (items.map fun item => (text ((rowOf item).letters "name"), item)) := by
    apply Attempt.mapM_ok
    intro item member
    rw [(areNamed item member).name]
    rfl
  have names :
      Keyed.firstByKey id
          ((items.map fun item => (text ((rowOf item).letters "name"), item)).map (·.1)) =
        (Keyed.firstByKey id (items.map fun item => (rowOf item).letters "name")).map text := by
    have sameNames :
        Keyed.firstByKey id (items.map fun item => (rowOf item).letters "name") =
          Keyed.firstByKey (fun name => id (text name))
            (items.map fun item => (rowOf item).letters "name") :=
      Keyed.firstByKey_congr id (fun name => id (text name)) (fun _ _ => rfl) _
    rw [sameNames, ← Keyed.firstByKey_map id text, List.map_map, List.map_map]
    rfl
  have positioned : ∀ name : String,
      sortedBy (fun item => (.ok (rowOf item).positionInGroup : Attempt Value))
          (((items.map fun item => (text ((rowOf item).letters "name"), item)).filter
            fun entry => entry.1 == text name).map (·.2)) =
        .ok (sortedOn (fun item => .int ((rowOf item).number "ordinal_position"))
          (items.filter fun item => (rowOf item).letters "name" == name)) := by
    intro name
    rw [List.filter_map, List.map_map]
    refine (congrArg _ (List.map_id _)).trans (sortedBy_ok _ ?_ (fun left _ right _ => by simp))
    intro item member
    rw [(areNamed item (List.mem_filter.mp member).1).position]
  rw [groupByName, named, Attempt.ok_bind, names, List.mapM_map]
  exact Attempt.mapM_ok fun name _ => positioned name

/-- Rows in any order are put into groups without failure. -/
theorem groupByName_ok_of_isListed
    {listed : List Value}
    (areRows : ∀ row ∈ listed, row.IsListed) :
    groupByName id listed = .ok (groupsOf listed) :=
  groupByName_ok fun row member => (areRows row member).isNamed

/-- Groups of items in an order: each holds an item that is before all items of the later groups. -/
theorem groupsBy_pairwise
    {α : Type}
    {rowOf : α → Value}
    {items : List α}
    {before : α → α → Prop}
    (ordered : items.Pairwise before) :
    (groupsBy rowOf items).Pairwise fun left right =>
      ∃ item ∈ left, ∀ other ∈ right, before item other := by
  have kept : (Keyed.firstByKey (fun item => (rowOf item).letters "name") items).Pairwise
      fun first later => ∀ item ∈ items,
        (rowOf item).letters "name" = (rowOf later).letters "name" → before first item :=
    Keyed.firstByKey_pairwise ordered
  rw [groupsBy, Keyed.firstByKey_map id, List.pairwise_map, List.pairwise_map]
  refine kept.imp_of_mem ?_
  intro first later firstKept _ isBefore
  have firstMember : first ∈ items := (Keyed.firstByKey_sublist _ items).subset firstKept
  refine ⟨first, mem_sortedOn.mpr (List.mem_filter.mpr ⟨firstMember, beq_self_eq_true _⟩), ?_⟩
  intro other member
  rcases List.mem_filter.mp (mem_sortedOn.mp member) with ⟨otherMember, named⟩
  exact isBefore other otherMember (beq_iff_eq.mp named)

/-- Rows are grouped without failure. -/
theorem groups_ok_of_isListed
    (areRows : ∀ row ∈ rows, row.IsListed) :
    (Value.list rows).groups = .ok (rowGroups rows) := by
  have listed : sortedBy (fun row => row.listingKey) rows = .ok (sortedOn listing rows) :=
    sortedByName_ok fun row member => (areRows row member).listingKey_ok
  rw [groups, items, Attempt.ok_bind, sortAndGroup]
  simp only [id_eq]
  rw [listed, Attempt.ok_bind]
  exact groupByName_ok_of_isListed fun row member => areRows row (mem_sortedOn.mp member)

theorem groups_ok
    (areRows : ∀ row ∈ rows, row.IsRow) :
    (Value.list rows).groups = .ok (rowGroups rows) :=
  groups_ok_of_isListed fun row member => (areRows row member).isListed

/-- Rows that can be grouped are in some group. -/
theorem ne_nil_of_groups
    {groups : List (List Value)}
    (grouped : (list rows).groups = .ok groups)
    (notEmpty : rows ≠ []) :
    groups ≠ [] := by
  rw [Value.groups, items, Attempt.ok_bind] at grouped
  rcases bind_eq_ok_iff.mp grouped with ⟨listed, listedOk, groupsRun⟩
  rcases bind_eq_ok_iff.mp groupsRun with ⟨named, namedOk, groupsOk⟩
  have lengths : named.length = rows.length :=
    (Attempt.length_of_mapM namedOk).trans (length_of_sortedBy listedOk)
  cases named with
  | nil => exact fun _ => notEmpty (List.length_eq_zero_iff.mp lengths.symm)
  | cons entry others =>
      rw [List.map_cons, Keyed.firstByKey_cons] at groupsOk
      exact List.ne_nil_of_length_pos (Attempt.length_of_mapM groupsOk ▸ Nat.succ_pos _)

@[simp]
theorem mem_namedRows :
    row ∈ namedRows rows name ↔ row ∈ rows ∧ row.letters "name" = name := by
  simp [namedRows]

theorem nodup_groupNames
    (rows : List Value) :
    (groupNames rows).Nodup := by
  have distinct := Keyed.nodup_keys_firstByKey id
    ((sortedOn listing rows).map fun row => row.letters "name")
  rwa [List.map_id] at distinct

@[simp]
theorem mem_groupNames :
    name ∈ groupNames rows ↔ ∃ row ∈ rows, row.letters "name" = name := by
  constructor
  · intro member
    have listed := (Keyed.firstByKey_sublist id _).subset member
    rcases List.mem_map.mp listed with ⟨row, rowMember, rfl⟩
    exact ⟨row, mem_sortedOn.mp rowMember, rfl⟩
  · rintro ⟨row, member, rfl⟩
    have listed : row.letters "name" ∈ (sortedOn listing rows).map fun row => row.letters "name" :=
      List.mem_map_of_mem (mem_sortedOn.mpr member)
    rcases Keyed.exists_mem_firstByKey id listed with ⟨first, firstMember, same⟩
    simp only [id_eq] at same
    exact same ▸ firstMember

/-- The rows of a group are all rows with the name of the group. -/
theorem namedRows_groupName
    (member : group ∈ rowGroups rows) :
    namedRows rows (groupName group) = group := by
  rcases List.mem_map.mp member with ⟨name, named, rfl⟩
  rcases mem_groupNames.mp named with ⟨row, rowMember, rfl⟩
  have inGroup : row ∈ namedRows rows (row.letters "name") :=
    mem_namedRows.mpr ⟨rowMember, rfl⟩
  cases found : namedRows rows (row.letters "name") with
  | nil => simp [found] at inGroup
  | cons first others =>
      have firstMember : first ∈ namedRows rows (row.letters "name") := by simp [found]
      rw [groupName, List.headD_cons, (mem_namedRows.mp firstMember).2, found]

/-- No group is empty. -/
theorem ne_nil_of_mem_rowGroups
    (member : group ∈ rowGroups rows) :
    group ≠ [] := by
  rcases List.mem_map.mp member with ⟨name, named, rfl⟩
  rcases mem_groupNames.mp named with ⟨row, rowMember, rfl⟩
  exact List.ne_nil_of_mem (mem_namedRows.mpr ⟨rowMember, rfl⟩)

/-- A row is in a group exactly when it is one of the rows and has the name of the group. -/
theorem mem_of_mem_rowGroups
    (member : group ∈ rowGroups rows) :
    row ∈ group ↔ row ∈ rows ∧ row.letters "name" = groupName group := by
  rw [← mem_namedRows, namedRows_groupName member]

/-- Every row is in a group. -/
theorem exists_mem_rowGroups
    (member : row ∈ rows) :
    namedRows rows (row.letters "name") ∈ rowGroups rows :=
  List.mem_map_of_mem (mem_groupNames.mpr ⟨row, member, rfl⟩)

/-- The group that a row is in has the name of the row. -/
theorem groupName_namedRows
    (member : row ∈ rows) :
    groupName (namedRows rows (row.letters "name")) = row.letters "name" := by
  have inGroup : row ∈ namedRows rows (row.letters "name") :=
    mem_namedRows.mpr ⟨member, rfl⟩
  exact ((mem_of_mem_rowGroups (exists_mem_rowGroups member)).mp inGroup).2.symm

/-- The names of the groups are the names of the rows, each once. -/
theorem map_groupName_rowGroups
    (rows : List Value) :
    (rowGroups rows).map groupName = groupNames rows := by
  rw [rowGroups, List.map_map]
  refine (List.map_congr_left fun name named => ?_).trans (List.map_id _)
  rcases mem_groupNames.mp named with ⟨row, member, rfl⟩
  exact groupName_namedRows member

end Value

end SchemaDelta
