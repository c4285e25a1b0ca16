import SchemaDelta.Proofs.Ddl.Statements
import SchemaDelta.Proofs.Ddl.Table
import SchemaDelta.Proofs.Value.Ranking

/-!
# Order of groups

Two lists that have the same group of rows under every name have the same groups in the same order,
however the rows of different groups are mixed.  The groups in which Microsoft SQL creates indexes
are the same, too, although clustered ones come first there.
-/

namespace SchemaDelta

open Attempt (bind_eq_ok_iff)

namespace Value

/-- Under every name stands the same group. -/
def SameGroups
    (rows others : List Value) : Prop :=
  ∀ name, namedRows rows name = namedRows others name

variable {rows others listed : List Value}

/-- Items are the same up to order when those of every class are. -/
theorem perm_of_forall_filter_perm
    {α β : Type}
    [DecidableEq β]
    (classOf : α → β)
    {items others : List α}
    (perm : ∀ place, (items.filter fun item => classOf item == place).Perm
      (others.filter fun item => classOf item == place)) :
    items.Perm others := by
  classical
  rw [List.perm_iff_count]
  intro item
  have counted := (perm (classOf item)).count_eq item
  rwa [List.count_filter (by simp), List.count_filter (by simp)] at counted

/-- The same groups are made of the same rows. -/
theorem SameGroups.perm
    (same : SameGroups rows others) :
    rows.Perm others := by
  apply perm_of_forall_filter_perm fun row => row.letters "name"
  intro name
  have grouped : ∀ rows : List Value,
      (rows.filter fun row => row.letters "name" == name).Perm (namedRows rows name) :=
    fun rows => ((sortedOn_perm _ rows).symm.filter _).trans (sortedOn_perm _ _).symm
  exact (grouped rows).trans ((same name) ▸ (grouped others).symm)

/-- In the listing of rows their names do not depend on the order of the rows. -/
theorem map_name_sortedOn_listing
    (perm : rows.Perm others) :
    ((sortedOn listing rows).map fun row => row.letters "name") =
      (sortedOn listing others).map fun row => row.letters "name" := by
  have ranks := congrArg (List.map fun rank => (ofLex rank).2)
    (listing_ranksBy.map_rank_sortedOn perm)
  rwa [List.map_map, List.map_map] at ranks

/-- The same groups come in the same order. -/
theorem SameGroups.rowGroups_eq
    (same : SameGroups rows others) :
    rowGroups rows = rowGroups others := by
  rw [rowGroups, rowGroups, groupNames, groupNames, map_name_sortedOn_listing same.perm]
  exact List.map_congr_left fun name _ => same name

/-- Whoever has all groups of a list has the groups that stand under the names of its rows. -/
private theorem namedRows_eq_of_subset
    (included : rowGroups rows ⊆ rowGroups others)
    {row : Value}
    (member : row ∈ rows) :
    namedRows rows (row.letters "name") = namedRows others (row.letters "name") := by
  have there := namedRows_groupName (included (exists_mem_rowGroups member))
  rw [groupName_namedRows member] at there
  exact there.symm

/-- Lists that have all groups of each other have the same groups. -/
theorem sameGroups_of_subset
    (included : rowGroups rows ⊆ rowGroups others)
    (includes : rowGroups others ⊆ rowGroups rows) :
    SameGroups rows others := by
  intro name
  by_cases named : ∃ row ∈ rows, row.letters "name" = name
  · rcases named with ⟨row, member, rfl⟩
    exact namedRows_eq_of_subset included member
  · by_cases othersNamed : ∃ row ∈ others, row.letters "name" = name
    · rcases othersNamed with ⟨row, member, rfl⟩
      exact (namedRows_eq_of_subset includes member).symm
    · have none : ∀ rows : List Value, (¬ ∃ row ∈ rows, row.letters "name" = name) →
          namedRows rows name = [] := by
        intro rows absent
        refine List.eq_nil_iff_forall_not_mem.mpr fun row member => absent ?_
        exact ⟨row, mem_namedRows.mp member⟩
      rw [none rows named, none others othersNamed]

/-- What tells the rows of groups apart: the schema and the name, and the position in the group. -/
def placeInGroup
    (row : Value) : String × String × Int :=
  (row.letters "schema", row.letters "name", row.number "ordinal_position")

/-- Rows that can be told apart make the same groups in whatever order they are. -/
theorem sameGroups_of_perm
    (perm : rows.Perm others)
    (distinct : (rows.map placeInGroup).Nodup) :
    SameGroups rows others := by
  intro name
  have positions := int_ranksBy fun row : Value => row.number "ordinal_position"
  apply eq_of_pairwise_of_filter_rank (positions.sortedOn_pairwise _)
    (positions.sortedOn_pairwise _)
  intro place
  rw [positions.sortedOn_filter_rank, positions.sortedOn_filter_rank,
    listing_ranksBy.sortedOn_filter, listing_ranksBy.sortedOn_filter,
    listing_ranksBy.sortedOn_filter, listing_ranksBy.sortedOn_filter]
  apply listing_ranksBy.sortedOn_congr ((perm.filter _).filter _)
  -- Rows at one position are told apart by their schemas and names.
  refine List.Nodup.map_on ?_ ((distinct.of_map.filter _).filter _)
  intro row rowMember row' rowMember' sameRank
  simp only [List.mem_filter, decide_eq_true_eq] at rowMember rowMember'
  have sameName := Prod.mk.inj (toLex.injective sameRank)
  refine List.inj_on_of_nodup_map distinct rowMember.1.1 rowMember'.1.1 ?_
  rw [placeInGroup, placeInGroup, sameName.1, sameName.2, rowMember.2, rowMember'.2]

end Value

/-! ## Clustered indexes first -/

namespace MicrosoftSql

open Value (SameGroups groupsOf int_ranksBy listing listing_ranksBy namedRows sortedOn)

variable {rows others : List Value}

/-- Of the rows with a name those at one position are ordered as in their group, clustered first. -/
private theorem clusteredFirst_filter
    (rows : List Value)
    (name : String)
    (place : Int) :
    ((clusteredFirst rows).filter fun row => row.letters "name" == name).filter
        (fun row => row.number "ordinal_position" = place) =
      ((namedRows rows name).filter fun row => row.number "ordinal_position" = place).filter
          isClustered ++
        ((namedRows rows name).filter fun row => row.number "ordinal_position" = place).filter
          fun row => !isClustered row := by
  have swapped : ∀ test : Value → Bool,
      (((sortedOn listing rows).filter test).filter fun row => row.letters "name" == name).filter
          (fun row => row.number "ordinal_position" = place) =
        (((sortedOn listing rows).filter fun row => row.letters "name" == name).filter
          fun row => row.number "ordinal_position" = place).filter test := by
    intro test
    rw [List.filter_comm (q := test), List.filter_comm (q := test)]
  rw [clusteredFirst, ← listing_ranksBy.sortedOn_filter, ← listing_ranksBy.sortedOn_filter,
    namedRows, (int_ranksBy _).sortedOn_filter_rank, List.filter_append, List.filter_append,
    swapped, swapped]

/-- The same groups are created in the same order. -/
theorem groupsOf_clusteredFirst_eq
    (same : SameGroups rows others) :
    groupsOf (clusteredFirst rows) = groupsOf (clusteredFirst others) := by
  have names : ((clusteredFirst rows).map fun row => row.letters "name") =
      (clusteredFirst others).map fun row => row.letters "name" := by
    rw [clusteredFirst, clusteredFirst, List.map_append, List.map_append,
      Value.map_name_sortedOn_listing (same.perm.filter _),
      Value.map_name_sortedOn_listing (same.perm.filter _)]
  rw [groupsOf, groupsOf, names]
  refine List.map_congr_left fun name _ => ?_
  have positions := int_ranksBy fun row : Value => row.number "ordinal_position"
  apply Value.eq_of_pairwise_of_filter_rank (positions.sortedOn_pairwise _)
    (positions.sortedOn_pairwise _)
  intro place
  rw [positions.sortedOn_filter_rank, positions.sortedOn_filter_rank, clusteredFirst_filter,
    clusteredFirst_filter, same name]

end MicrosoftSql

/-! ## Statements about groups -/

/-- The class of the index rows that a dialect scripts. -/
def Dialect.indexClass : Dialect → ObjectClass
  | microsoftSql => .microsoftSqlIndex
  | mySql => .mySqlIndex
  | postgreSql => .postgreSqlIndex

namespace Dialect

open Value (SameGroups)

variable {dialect : Dialect} {options : Options} {table other : Value} {rows others : List Value}

private theorem groups_eq
    (areRows : ∀ row ∈ rows, row.IsRow)
    (areOtherRows : ∀ row ∈ others, row.IsRow)
    (same : SameGroups rows others) :
    (Value.list rows).groups = (Value.list others).groups := by
  rw [Value.groups_ok areRows, Value.groups_ok areOtherRows, same.rowGroups_eq]

/-- The primary keys of a table are told by its name and their groups. -/
theorem addPrimaryKeys_eq_of_sameGroups
    (sameName : dialect.objectName options table = dialect.objectName options other)
    (areRows : ∀ row ∈ rows, row.IsRow)
    (areOtherRows : ∀ row ∈ others, row.IsRow)
    (same : SameGroups rows others) :
    dialect.statements.addPrimaryKeys options table (.list rows) =
      dialect.statements.addPrimaryKeys options other (.list others) := by
  have sameGroups := groups_eq areRows areOtherRows same
  cases dialect with
  | microsoftSql =>
      have sameStatement : MicrosoftSql.addPrimaryKey options table =
          MicrosoftSql.addPrimaryKey options other := by
        funext key group
        simp only [MicrosoftSql.addPrimaryKey, MicrosoftSql.alterTable, sameName]
      simp only [statements, MicrosoftSql.statements, MicrosoftSql.addPrimaryKeys, sameGroups,
        sameStatement]
  | mySql =>
      simp only [statements, MySql.statements, MySql.addPrimaryKeys, MySql.alterTable,
        sameGroups, sameName]
  | postgreSql =>
      simp only [statements, PostgreSql.statements, PostgreSql.addPrimaryKeys,
        PostgreSql.alterTable, sameGroups, sameName]

/-- The check constraints of a table are told by its name and their groups. -/
theorem addChecks_eq_of_sameGroups
    (sameName : dialect.objectName options table = dialect.objectName options other)
    (areRows : ∀ row ∈ rows, row.IsRow)
    (areOtherRows : ∀ row ∈ others, row.IsRow)
    (same : SameGroups rows others) :
    dialect.statements.addChecks options table (.list rows) =
      dialect.statements.addChecks options other (.list others) := by
  have sameGroups := groups_eq areRows areOtherRows same
  cases dialect with
  | microsoftSql =>
      simp only [statements, MicrosoftSql.statements, MicrosoftSql.addChecks,
        MicrosoftSql.addCheck, MicrosoftSql.alterTable, sameGroups, sameName]
  | mySql =>
      simp only [statements, MySql.statements, MySql.addChecks, MySql.alterTable, sameGroups,
        sameName]
  | postgreSql =>
      simp only [statements, PostgreSql.statements, PostgreSql.addChecks, PostgreSql.alterTable,
        sameGroups, sameName]

/-- The foreign keys of a table are told by its name and their groups. -/
theorem addForeignKeys_eq_of_sameGroups
    (sameName : dialect.objectName options table = dialect.objectName options other)
    (areRows : ∀ row ∈ rows, row.IsRow)
    (areOtherRows : ∀ row ∈ others, row.IsRow)
    (same : SameGroups rows others) :
    dialect.statements.addForeignKeys options table (.list rows) =
      dialect.statements.addForeignKeys options other (.list others) := by
  have sameGroups := groups_eq areRows areOtherRows same
  cases dialect with
  | microsoftSql =>
      simp only [statements, MicrosoftSql.statements, MicrosoftSql.addForeignKeys, sameGroups,
        sameName]
  | mySql =>
      have sameStatement : MySql.addForeignKey options table =
          MySql.addForeignKey options other := by
        funext key group
        simp only [MySql.addForeignKey, MySql.alterTable, sameName]
      simp only [statements, MySql.statements, MySql.addForeignKeys, sameGroups, sameStatement]
  | postgreSql =>
      have sameStatement : PostgreSql.addForeignKey options table =
          PostgreSql.addForeignKey options other := by
        funext key group
        simp only [PostgreSql.addForeignKey, PostgreSql.alterTable, sameName]
      simp only [statements, PostgreSql.statements, PostgreSql.addForeignKeys, sameGroups,
        sameStatement]

theorem forM_expect_ok
    (expected : ObjectClass)
    (ofClass : ∀ row ∈ rows, row.isA expected = true) :
    rows.forM (dialect.expect expected) = .ok () := by
  induction rows with
  | nil => rfl
  | cons row rows ih =>
      rw [List.forM_eq_forM, List.forM_cons, expect_ok_iff.mpr (ofClass row List.mem_cons_self)]
      exact ih fun other member => ofClass other (List.mem_cons_of_mem row member)

/-- The indexes of a table are told by its name and their rows. -/
theorem createIndexes_eq_of_sameName
    (sameName : dialect.objectName options table = dialect.objectName options other) :
    dialect.statements.createIndexes options table =
      dialect.statements.createIndexes options other := by
  funext rows
  cases dialect with
  | microsoftSql =>
      have sameStatement : MicrosoftSql.createIndex options table =
          MicrosoftSql.createIndex options other := by
        funext row group
        simp only [MicrosoftSql.createIndex, sameName]
      simp only [statements, MicrosoftSql.statements, MicrosoftSql.createIndexes, sameStatement]
  | mySql =>
      have sameStatement : MySql.createIndex options table = MySql.createIndex options other := by
        funext row group
        simp only [MySql.createIndex, sameName]
      simp only [statements, MySql.statements, MySql.createIndexes, sameStatement]
  | postgreSql =>
      have sameStatement : PostgreSql.createIndex options table =
          PostgreSql.createIndex options other := by
        funext row group
        simp only [PostgreSql.createIndex, sameName]
      simp only [statements, PostgreSql.statements, PostgreSql.createIndexes, sameStatement]

/--
The indexes of a table are told by its name and their groups.  Microsoft SQL refuses rows of another
class than the one that it scripts in the order in which they are stored, which groups leave open.
-/
theorem createIndexes_eq_of_sameGroups
    (sameName : dialect.objectName options table = dialect.objectName options other)
    (areRows : ∀ row ∈ rows, row.IsRow)
    (areOtherRows : ∀ row ∈ others, row.IsRow)
    (ofClass : dialect = .microsoftSql → ∀ row ∈ rows, row.isA .microsoftSqlIndex = true)
    (same : SameGroups rows others) :
    dialect.statements.createIndexes options table (.list rows) =
      dialect.statements.createIndexes options other (.list others) := by
  have sameGroups := groups_eq areRows areOtherRows same
  rw [createIndexes_eq_of_sameName sameName]
  cases dialect with
  | microsoftSql =>
      have othersOfClass : ∀ row ∈ others, row.isA .microsoftSqlIndex = true :=
        fun row member => ofClass rfl row (same.perm.symm.subset member)
      change MicrosoftSql.createIndexes options other (.list rows) =
        MicrosoftSql.createIndexes options other (.list others)
      rw [MicrosoftSql.createIndexes_eq options other areRows,
        MicrosoftSql.createIndexes_eq options other areOtherRows,
        forM_expect_ok .microsoftSqlIndex (ofClass rfl),
        forM_expect_ok .microsoftSqlIndex othersOfClass,
        MicrosoftSql.groupsOf_clusteredFirst_eq same]
  | mySql => simp only [statements, MySql.statements, MySql.createIndexes, sameGroups]
  | postgreSql => simp only [statements, PostgreSql.statements, PostgreSql.createIndexes, sameGroups]

/-- Indexes that Microsoft SQL scripts are of the class that it scripts. -/
theorem isA_of_createIndexes
    {owner : Value}
    {script : String}
    (areRows : ∀ row ∈ rows, row.IsRow)
    (created : dialect.statements.createIndexes options owner (.list rows) = .ok script)
    (onMicrosoftSql : dialect = .microsoftSql) :
    ∀ row ∈ rows, row.isA .microsoftSqlIndex = true := by
  subst onMicrosoftSql
  change MicrosoftSql.createIndexes options owner (.list rows) = .ok script at created
  rw [MicrosoftSql.createIndexes_eq options owner areRows] at created
  rcases bind_eq_ok_iff.mp created with ⟨_, accepted, -⟩
  clear created areRows
  induction rows with
  | nil => exact List.forall_mem_nil _
  | cons row rows ih =>
      rw [List.forM_eq_forM, List.forM_cons] at accepted
      rcases bind_eq_ok_iff.mp accepted with ⟨_, rowAccepted, othersAccepted⟩
      exact List.forall_mem_cons.mpr ⟨expect_ok_iff.mp rowAccepted, ih othersAccepted⟩

end Dialect

/-! ## Statements about all rows of a table -/

/-- The groups of all sorts of rows of two tables are the same. -/
structure Value.SameRows
    (source target : Value) : Prop where
  primaryKeys : SameGroups source.primaryRows target.primaryRows
  indexes : SameGroups source.secondaryRows target.secondaryRows
  checks : SameGroups (source.rows "constraints") (target.rows "constraints")
  foreignKeys : SameGroups (source.rows "foreign_keys") (target.rows "foreign_keys")

namespace Scripter

variable {scripter : Scripter} {source target : Value}
  (sourceTyped : source.isTyped .table = true) (targetTyped : target.isTyped .table = true)
  (sameName : scripter.objectName source = scripter.objectName target)
  (sameRows : Value.SameRows source target)

include sourceTyped targetTyped sameName sameRows

/-- Tables of one name with the same rows have the same keys, constraints and indexes scripted. -/
theorem tableKeysAndIndexes_eq
    (ofClass : scripter.dialect = .microsoftSql →
      ∀ row ∈ source.secondaryRows, row.isA .microsoftSqlIndex = true) :
    scripter.tableKeysAndIndexes source = scripter.tableKeysAndIndexes target := by
  have primaryKeys := Dialect.addPrimaryKeys_eq_of_sameGroups sameName
    (fun _ member => Value.isRow_of_index (Value.primaryRow_isTyped sourceTyped member))
    (fun _ member => Value.isRow_of_index (Value.primaryRow_isTyped targetTyped member))
    sameRows.primaryKeys
  have checks := Dialect.addChecks_eq_of_sameGroups sameName
    (fun _ member => Value.isRow_of_constraint (Value.constraint_isTyped sourceTyped member))
    (fun _ member => Value.isRow_of_constraint (Value.constraint_isTyped targetTyped member))
    sameRows.checks
  have indexes := Dialect.createIndexes_eq_of_sameGroups sameName
    (fun _ member => Value.isRow_of_index (Value.secondaryRow_isTyped sourceTyped member))
    (fun _ member => Value.isRow_of_index (Value.secondaryRow_isTyped targetTyped member))
    ofClass sameRows.indexes
  simp only [tableKeysAndIndexes, statements, Value.primaryKeys_ok sourceTyped,
    Value.primaryKeys_ok targetTyped, Value.secondaryIndexes_ok sourceTyped,
    Value.secondaryIndexes_ok targetTyped,
    Value.part_rows_of_isTyped sourceTyped ObjectClass.table_declares_constraints,
    Value.part_rows_of_isTyped targetTyped ObjectClass.table_declares_constraints,
    Attempt.ok_bind, primaryKeys, checks, indexes]

theorem tableForeignKeys_eq :
    scripter.tableForeignKeys source = scripter.tableForeignKeys target := by
  rw [tableForeignKeys, tableForeignKeys,
    Value.part_rows_of_isTyped sourceTyped ObjectClass.table_declares_foreign_keys,
    Value.part_rows_of_isTyped targetTyped ObjectClass.table_declares_foreign_keys,
    Attempt.ok_bind, Attempt.ok_bind]
  exact Dialect.addForeignKeys_eq_of_sameGroups sameName
    (fun _ member => Value.isRow_of_foreignKey (Value.foreignKey_isTyped sourceTyped member))
    (fun _ member => Value.isRow_of_foreignKey (Value.foreignKey_isTyped targetTyped member))
    sameRows.foreignKeys

end Scripter

end SchemaDelta
