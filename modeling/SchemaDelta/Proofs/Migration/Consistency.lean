import Mathlib.Data.List.Flatten
import Mathlib.Data.List.Pairwise
import SchemaDelta.Proofs.Migration.ForeignKeyName

/-!
# Consistent lists of foreign keys

Every row of a foreign key is listed twice: by the table that it belongs to and by the table that it
references.  When the lists of a database say the same, the rows of a foreign key that is linked to a
table are all linked to it.
-/

namespace SchemaDelta

open Value (groupNames)

namespace Value

/-- The schema and the name of the table that a row references. -/
def referencedName
    (row : Value) : String × String :=
  (row.letters "referenced_table_schema", row.letters "referenced_table_name")

/-- The rows of the foreign keys on a table, then of those that reference it. -/
def linkedRows
    (table : Value) : List Value :=
  table.rows "foreign_keys" ++ table.rows "referencing_foreign_keys"

theorem linkedRows_isTyped
    {table : Value}
    (typed : table.isTyped .table = true) :
    ∀ row ∈ table.linkedRows, row.isTyped .foreignKey = true := by
  rw [linkedRows, List.forall_mem_append]
  exact ⟨fun _ => foreignKey_isTyped typed, fun _ => referencingForeignKey_isTyped typed⟩

/-- A row that belongs to a table keeps its name and identity when it is put on the table. -/
theorem sameKey_onTable
    (dialect : Dialect)
    {table row : Value}
    (typed : row.isTyped .foreignKey = true)
    (owned : row.ownerName = table.fullName) :
    (table.onTable row).foreignKeyName = row.foreignKeyName ∧
      dialect.identityOf (table.onTable row) = dialect.identityOf row := by
  unfold onTable
  split
  · generalize partsEq : [("table_schema", table.get "schema"), ("table_name", table.get "name")] =
      parts
    rcases Prod.mk.inj owned with ⟨sameSchema, sameTable⟩
    have schema : (row.withParts parts).letters "table_schema" = row.letters "table_schema" := by
      rw [letters, get_withParts typed ObjectClass.foreignKey_declares_table_schema, ← partsEq]
      exact sameSchema.symm
    have tableName : (row.withParts parts).letters "table_name" = row.letters "table_name" := by
      rw [letters, get_withParts typed ObjectClass.foreignKey_declares_table_name, ← partsEq]
      exact sameTable.symm
    have name : (row.withParts parts).letters "name" = row.letters "name" := by
      rw [letters, get_withParts typed ObjectClass.foreignKey_declares_name, ← partsEq]
      rfl
    have position :
        (row.withParts parts).number "ordinal_position" = row.number "ordinal_position" := by
      rw [number, get_withParts typed ObjectClass.foreignKey_declares_ordinal_position, ← partsEq]
      rfl
    simp only [foreignKeyName, Dialect.identityOf, Dialect.foldedPart, schema, tableName, name,
      position, and_self]
  · exact ⟨rfl, rfl⟩

end Value

/-- All rows of a foreign key of a table reference one table. -/
def ReferenceOneTable
    (tables : List Value) : Prop :=
  ∀ table ∈ tables, ∀ row ∈ table.rows "foreign_keys", ∀ other ∈ table.rows "foreign_keys",
    row.letters "name" = other.letters "name" → row.referencedName = other.referencedName

/--
The foreign key lists of tables say the same: a row of a table that references another is in the
foreign keys of the one exactly when it is in the referencing foreign keys of the other, and no two
foreign keys in a schema have one name.
-/
structure ConsistentForeignKeys
    (tables : List Value) : Prop where
  own : ∀ table ∈ tables, ∀ row ∈ table.rows "foreign_keys", row.ownerName = table.fullName
  inbound : ∀ table ∈ tables, ∀ row ∈ table.rows "referencing_foreign_keys",
    row.referencedName = table.fullName ∧ ∃ owner ∈ tables, row ∈ owner.rows "foreign_keys"
  outbound : ∀ owner ∈ tables, ∀ row ∈ owner.rows "foreign_keys", ∀ table ∈ tables,
    row.referencedName = table.fullName → row ∈ table.rows "referencing_foreign_keys"
  distinct : (tables.flatMap fun table =>
    (groupNames (table.rows "foreign_keys")).map fun name => (table.letters "schema", name)).Nodup

/-- Lists without a repetition in all of them together share no element. -/
private theorem eq_of_mem_of_nodup_flatMap
    {α β : Type}
    {items : List α}
    {parts : α → List β}
    (distinct : (items.flatMap parts).Nodup)
    {left right : α}
    (leftMember : left ∈ items)
    (rightMember : right ∈ items)
    {part : β}
    (ofLeft : part ∈ parts left)
    (ofRight : part ∈ parts right) :
    left = right := by
  by_contra differ
  have symmetric : Std.Symm (Function.onFun List.Disjoint parts) :=
    ⟨fun _ _ disjoint _ ofSecond ofFirst => disjoint ofFirst ofSecond⟩
  exact (List.nodup_flatMap.mp distinct).2.forall leftMember rightMember differ ofLeft ofRight

namespace ConsistentForeignKeys

variable {tables : List Value} {owner table row other : Value}

/-- A foreign key belongs to one table only. -/
theorem owner_eq
    (consistent : ConsistentForeignKeys tables)
    (ownerMember : owner ∈ tables)
    (rowMember : row ∈ owner.rows "foreign_keys")
    (tableMember : table ∈ tables)
    (otherMember : other ∈ table.rows "foreign_keys")
    (same : row.foreignKeyName = other.foreignKeyName) :
    owner = table := by
  rcases Prod.mk.inj same with ⟨sameSchema, rest⟩
  have sameName : row.letters "name" = other.letters "name" :=
    (Prod.mk.inj rest).2
  have rowSchema : row.letters "table_schema" = owner.letters "schema" :=
    congrArg Prod.fst (consistent.own owner ownerMember row rowMember)
  have otherSchema : other.letters "table_schema" = table.letters "schema" :=
    congrArg Prod.fst (consistent.own table tableMember other otherMember)
  have ofOwner : row.letters "name" ∈ groupNames (owner.rows "foreign_keys") :=
    Value.mem_groupNames.mpr ⟨row, rowMember, rfl⟩
  have ofTable : row.letters "name" ∈ groupNames (table.rows "foreign_keys") :=
    Value.mem_groupNames.mpr ⟨other, otherMember, sameName.symm⟩
  have sameTableSchema : table.letters "schema" = owner.letters "schema" := by
    rw [← rowSchema, ← otherSchema, sameSchema]
  apply eq_of_mem_of_nodup_flatMap consistent.distinct ownerMember tableMember
    (List.mem_map.mpr ⟨_, ofOwner, rfl⟩)
  exact List.mem_map.mpr ⟨_, ofTable, by rw [sameTableSchema]⟩

/-- With one row of a foreign key all its rows are linked to a table. -/
theorem mem_linkedRows
    (consistent : ConsistentForeignKeys tables)
    (oneTable : ReferenceOneTable tables)
    (tableMember : table ∈ tables)
    (linked : row ∈ table.linkedRows)
    (ownerMember : owner ∈ tables)
    (otherMember : other ∈ owner.rows "foreign_keys")
    (same : row.foreignKeyName = other.foreignKeyName) :
    other ∈ table.linkedRows := by
  rcases List.mem_append.mp linked with isOwn | isInbound
  · obtain rfl := consistent.owner_eq tableMember isOwn ownerMember otherMember same
    exact List.mem_append_left _ otherMember
  · rcases consistent.inbound table tableMember row isInbound with
      ⟨references, rowOwner, rowOwnerMember, rowMember⟩
    obtain rfl := consistent.owner_eq rowOwnerMember rowMember ownerMember otherMember same
    have sameName : row.letters "name" = other.letters "name" :=
      congrArg (fun name : ForeignKeyName => name.2.2) same
    have sameTable := oneTable rowOwner rowOwnerMember row rowMember other otherMember sameName
    exact List.mem_append_right _ (consistent.outbound rowOwner rowOwnerMember other otherMember
      table tableMember (sameTable.symm.trans references))

/-- Foreign keys that are added with tables, each listed at most once, are added once. -/
theorem nodup_namesAddedTo
    (consistent : ConsistentForeignKeys tables)
    {listed : List Value}
    (subperm : listed.Subperm tables) :
    (listed.flatMap fun table =>
      Value.namesAddedTo table.fullName (table.rows "foreign_keys")).Nodup := by
  refine List.Nodup.of_map (fun name : ForeignKeyName => (name.1, name.2.2)) ?_
  rcases subperm with ⟨kept, perm, sublist⟩
  have distinct := consistent.distinct.sublist (sublist.flatMap _)
  rw [List.map_flatMap]
  simp only [Value.namesAddedTo, List.map_map]
  exact (perm.flatMap_right _).nodup_iff.mp distinct

end ConsistentForeignKeys

end SchemaDelta
