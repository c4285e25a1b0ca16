import SchemaDelta.Migration.Action
import SchemaDelta.Proofs.Ddl.ForeignKey
import SchemaDelta.Proofs.Ddl.Inheritance

/-!
# Names of foreign keys

Which foreign keys the actions of a migration drop and add, by the schema and the name of the table
and the name of the key.  No action drops or adds a foreign key twice.
-/

namespace SchemaDelta

open Value (rowGroups groupName groupNames)

/-- The schema and the name of a table, and the name of a foreign key on it. -/
abbrev ForeignKeyName : Type :=
  String × String × String

namespace Value

/-- The schema and the name of the table that a row belongs to. -/
def ownerName
    (row : Value) : String × String :=
  (row.letters "table_schema", row.letters "table_name")

/-- The name of the foreign key that a row belongs to. -/
def foreignKeyName
    (row : Value) : ForeignKeyName :=
  (row.letters "table_schema", row.letters "table_name", row.letters "name")

/-- The foreign keys that are dropped with rows, group by group. -/
def namesDropped
    (rows : List Value) : List ForeignKeyName :=
  (rowGroups rows).map fun group => (group.headD .null).foreignKeyName

/-- The foreign keys of a table that are added with rows, group by group. -/
def namesAddedTo
    (owner : String × String)
    (rows : List Value) : List ForeignKeyName :=
  (groupNames rows).map fun name => (owner.1, owner.2, name)

/-- The tables that rows belong to, each once, in their order. -/
def ownerNames
    (rows : List Value) : List (String × String) :=
  sortedOn (fun owner => .list [.text owner.1, .text owner.2])
    (Keyed.firstByKey id (rows.map ownerName))

/-- The rows that belong to a table. -/
def rowsOwnedBy
    (rows : List Value)
    (owner : String × String) : List Value :=
  rows.filter fun row => row.ownerName == owner

/-- The foreign keys that are added with rows, table by table. -/
def namesAdded
    (rows : List Value) : List ForeignKeyName :=
  (ownerNames rows).flatMap fun owner => namesAddedTo owner (rowsOwnedBy rows owner)

variable {rows : List Value} {name : ForeignKeyName}

theorem mem_namesDropped
    (member : name ∈ namesDropped rows) :
    ∃ row ∈ rows, row.foreignKeyName = name := by
  rcases List.mem_map.mp member with ⟨group, grouped, rfl⟩
  cases found : group with
  | nil => exact absurd found (ne_nil_of_mem_rowGroups grouped)
  | cons first others =>
      have inGroup : first ∈ group := found ▸ List.mem_cons_self
      exact ⟨first, ((mem_of_mem_rowGroups grouped).mp inGroup).1, rfl⟩

/-- With a row a foreign key is dropped that has the name of the row. -/
theorem exists_mem_namesDropped
    {row : Value}
    (member : row ∈ rows) :
    ∃ other ∈ rows, other.letters "name" = row.letters "name" ∧
      other.foreignKeyName ∈ namesDropped rows := by
  have grouped := exists_mem_rowGroups member
  cases found : namedRows rows (row.letters "name") with
  | nil => exact absurd found (ne_nil_of_mem_rowGroups grouped)
  | cons first others =>
      have inGroup : first ∈ namedRows rows (row.letters "name") := found ▸ List.mem_cons_self
      rcases mem_namedRows.mp inGroup with ⟨held, sameName⟩
      refine ⟨first, held, sameName, List.mem_map.mpr ⟨_, grouped, ?_⟩⟩
      rw [found, List.headD_cons]

@[simp]
theorem namesDropped_nil :
    namesDropped [] = [] := by
  apply List.eq_nil_iff_forall_not_mem.mpr
  intro name member
  rcases mem_namesDropped member with ⟨row, rowMember, _⟩
  cases rowMember

/-- No foreign key is dropped twice with the same rows. -/
theorem nodup_namesDropped
    (rows : List Value) :
    (namesDropped rows).Nodup := by
  have distinct : ((rowGroups rows).map groupName).Nodup :=
    map_groupName_rowGroups rows ▸ nodup_groupNames rows
  refine List.Nodup.of_map (fun name : ForeignKeyName => name.2.2) ?_
  rw [namesDropped, List.map_map]
  exact distinct

theorem mem_namesAddedTo
    {owner : String × String}
    (member : name ∈ namesAddedTo owner rows) :
    (name.1, name.2.1) = owner ∧ ∃ row ∈ rows, row.letters "name" = name.2.2 := by
  rcases List.mem_map.mp member with ⟨own, named, rfl⟩
  exact ⟨rfl, mem_groupNames.mp named⟩

@[simp]
theorem namesAddedTo_nil
    (owner : String × String) :
    namesAddedTo owner [] = [] := by
  apply List.eq_nil_iff_forall_not_mem.mpr
  intro name member
  rcases mem_namesAddedTo member with ⟨_, row, rowMember, _⟩
  cases rowMember

/-- No foreign key of a table is added twice with the same rows. -/
theorem nodup_namesAddedTo
    (owner : String × String)
    (rows : List Value) :
    (namesAddedTo owner rows).Nodup :=
  (nodup_groupNames rows).map fun left right equal => by
    simpa using equal

theorem mem_ownerNames
    {owner : String × String} :
    owner ∈ ownerNames rows ↔ ∃ row ∈ rows, row.ownerName = owner := by
  rw [ownerNames, mem_sortedOn]
  constructor
  · intro member
    exact List.mem_map.mp ((Keyed.firstByKey_sublist id _).subset member)
  · rintro ⟨row, member, rfl⟩
    rcases Keyed.exists_mem_firstByKey id (List.mem_map_of_mem (f := ownerName) member) with
      ⟨first, firstMember, same⟩
    simp only [id_eq] at same
    exact same ▸ firstMember

theorem nodup_ownerNames
    (rows : List Value) :
    (ownerNames rows).Nodup := by
  have distinct := Keyed.nodup_keys_firstByKey id (rows.map ownerName)
  rw [List.map_id] at distinct
  exact (sortedOn_perm _ _).nodup_iff.mpr distinct

/-- The foreign keys that are added with rows are those that the rows belong to. -/
theorem mem_namesAdded_iff :
    name ∈ namesAdded rows ↔ ∃ row ∈ rows, row.foreignKeyName = name := by
  constructor
  · intro member
    rcases List.mem_flatMap.mp member with ⟨owner, _, added⟩
    rcases mem_namesAddedTo added with ⟨rfl, row, owned, named⟩
    rcases List.mem_filter.mp owned with ⟨held, onTable⟩
    rcases Prod.mk.inj (beq_iff_eq.mp onTable) with ⟨sameSchema, sameTable⟩
    exact ⟨row, held, by rw [foreignKeyName, sameSchema, sameTable, named]⟩
  · rintro ⟨row, member, rfl⟩
    refine List.mem_flatMap.mpr ⟨row.ownerName, mem_ownerNames.mpr ⟨row, member, rfl⟩, ?_⟩
    have owned : row ∈ rowsOwnedBy rows row.ownerName :=
      List.mem_filter.mpr ⟨member, beq_self_eq_true _⟩
    exact List.mem_map.mpr ⟨row.letters "name", mem_groupNames.mpr ⟨row, owned, rfl⟩, rfl⟩

@[simp]
theorem namesAdded_nil :
    namesAdded [] = [] := by
  apply List.eq_nil_iff_forall_not_mem.mpr
  intro name member
  rcases mem_namesAdded_iff.mp member with ⟨row, rowMember, _⟩
  cases rowMember

/-- No foreign key is added twice with the same rows. -/
theorem nodup_namesAdded
    (rows : List Value) :
    (namesAdded rows).Nodup := by
  refine List.nodup_flatMap.mpr ⟨fun owner _ => nodup_namesAddedTo owner _, ?_⟩
  refine (nodup_ownerNames rows).imp fun {left right} differ => ?_
  intro name ofLeft ofRight
  exact differ ((mem_namesAddedTo ofLeft).1.symm.trans (mem_namesAddedTo ofRight).1)

end Value

/-! ## Actions -/

namespace MigrationAction

/-- The foreign keys that an action drops by statements of their own. -/
def drops : MigrationAction → List ForeignKeyName
  | dropForeignKeys rows => Value.namesDropped rows
  | _ => []

/-- The foreign keys that an action adds. -/
def adds : MigrationAction → List ForeignKeyName
  | addTableForeignKeys table => Value.namesAddedTo table.fullName (table.rows "foreign_keys")
  | addForeignKeys rows => Value.namesAdded rows
  | _ => []

end MigrationAction

end SchemaDelta
