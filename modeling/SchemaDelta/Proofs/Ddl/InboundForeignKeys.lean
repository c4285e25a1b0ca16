import SchemaDelta.Ddl.Scripter
import SchemaDelta.Proofs.Ddl.TableChange
import SchemaDelta.Proofs.Value.Filled

/-!
# Foreign keys of other tables

While keys or indexes of a table are rebuilt, the foreign keys of other tables that reference their
columns are dropped.  They are added again only where a key or index that is added has a column that
they reference: a foreign key that is in the way of an index that is not restored is lost, even if it
references a key that stays.
-/

namespace SchemaDelta

namespace Dialect

/-- The table of a foreign key row: the folded names of its schema and of the table itself. -/
def ownerOf
    (dialect : Dialect)
    (row : Value) : String × String :=
  (dialect.foldedPart "table_schema" row, dialect.foldedPart "table_name" row)

/-- The foreign key that a row belongs to: its table and its folded name. -/
def foreignKeyOf
    (dialect : Dialect)
    (row : Value) : (String × String) × String :=
  (dialect.ownerOf row, dialect.foldedPart "name" row)

/-- A row references a column of one of some key rows. -/
def ReferencesOneOf
    (dialect : Dialect)
    (keyRows : List Value)
    (row : Value) : Prop :=
  dialect.foldedPart "referenced_column_name" row ∈ dialect.columnKeys keyRows

theorem identityOf_eq_iff
    {dialect : Dialect}
    {left right : Value} :
    dialect.identityOf left = dialect.identityOf right ↔
      dialect.foreignKeyOf left = dialect.foreignKeyOf right ∧
        left.number "ordinal_position" = right.number "ordinal_position" := by
  simp [identityOf, foreignKeyOf, ownerOf, and_assoc]

end Dialect

namespace TableChanges

variable {dialect : Dialect} {source target : Value} {own returning inbound added : List Value}

theorem mem_inboundRows_iff
    {dropped : List Value}
    {row : Value} :
    row ∈ dialect.inboundRows target dropped ↔
      row ∈ target.rows "referencing_foreign_keys" ∧
        ∃ mate ∈ target.rows "referencing_foreign_keys",
          mate.letters "name" = row.letters "name" ∧ dialect.ReferencesOneOf dropped mate :=
  dialect.mem_referencingGroups_iff

theorem mem_returningRows_iff
    {row : Value} :
    row ∈ dialect.returningRows source inbound added ↔
      (row ∈ source.rows "referencing_foreign_keys" ∧
        ∃ mate ∈ source.rows "referencing_foreign_keys",
          mate.letters "name" = row.letters "name" ∧ dialect.ReferencesOneOf added mate) ∧
        dialect.foldedPart "name" row ∈ inbound.map (dialect.foldedPart "name") := by
  rw [Dialect.returningRows, List.mem_filter, List.contains_iff_mem,
    dialect.mem_referencingGroups_iff]
  rfl

/-- Of rows on other tables only those that return are added, one for every position. -/
private theorem mem_of_mem_uniqueRows
    {owner : String × String}
    (another : ∀ row ∈ own, dialect.ownerOf row ≠ owner)
    {row : Value}
    (owned : dialect.ownerOf row = owner)
    (member : row ∈ dialect.uniqueRows (own ++ returning)) :
    row ∈ returning := by
  rcases List.mem_append.mp ((Keyed.firstByKey_sublist _ _).subset member) with isOwn | returns
  · exact absurd owned (another row isOwn)
  · exact returns

/-- Rows that return are all added exactly when no two of them have one position. -/
private theorem uniqueRows_complete_iff
    {key : (String × String) × String}
    (another : ∀ row ∈ own, dialect.ownerOf row ≠ key.1) :
    (∀ row ∈ returning, dialect.foreignKeyOf row = key →
        row ∈ dialect.uniqueRows (own ++ returning)) ↔
      ∀ row ∈ returning, ∀ other ∈ returning, dialect.foreignKeyOf row = key →
        dialect.foreignKeyOf other = key →
          row.number "ordinal_position" = other.number "ordinal_position" → row = other := by
  constructor
  · intro complete row member other otherMember isKey otherIsKey samePosition
    refine List.inj_on_of_nodup_map (Keyed.nodup_keys_firstByKey dialect.identityOf _)
      (complete row member isKey) (complete other otherMember otherIsKey) ?_
    exact Dialect.identityOf_eq_iff.mpr ⟨isKey.trans otherIsKey.symm, samePosition⟩
  · intro apart row member isKey
    rcases Keyed.exists_mem_firstByKey dialect.identityOf (List.mem_append_right own member) with
      ⟨first, firstMember, sameIdentity⟩
    rcases Dialect.identityOf_eq_iff.mp sameIdentity with ⟨sameKey, samePosition⟩
    have firstIsKey := sameKey.trans isKey
    have returns : first ∈ returning :=
      mem_of_mem_uniqueRows another (congrArg Prod.fst firstIsKey) firstMember
    rw [← apart first returns row member firstIsKey isKey samePosition]
    exact firstMember

/-- A foreign key is dropped because a row of it references a column of a dropped key or index. -/
def PutsOutOfTheWay
    (changes : TableChanges)
    (dialect : Dialect)
    (target : Value)
    (key : (String × String) × String) : Prop :=
  ∃ row ∈ target.rows "referencing_foreign_keys", dialect.foreignKeyOf row = key ∧
    dialect.ReferencesOneOf (changes.dropPrimaryKeys ++ changes.dropIndexes) row

/-- A row with the name of a row references a column of a key or index that is added. -/
def BringsBack
    (changes : TableChanges)
    (dialect : Dialect)
    (source row : Value) : Prop :=
  ∃ mate ∈ source.rows "referencing_foreign_keys", mate.letters "name" = row.letters "name" ∧
    dialect.ReferencesOneOf (changes.addPrimaryKeys ++ changes.addIndexes) mate

/-- The rows of a foreign key that references a table. -/
def HasRow
    (dialect : Dialect)
    (table : Value)
    (key : (String × String) × String)
    (row : Value) : Prop :=
  row ∈ table.rows "referencing_foreign_keys" ∧ dialect.foreignKeyOf row = key

variable {byPosition scripted : List Value}

private theorem planned_restores_iff
    {key : (String × String) × String}
    (another : ∀ row ∈ source.rows "foreign_keys",
      dialect.ownerOf (target.onTable row) ≠ key.1)
    (outOfTheWay : (planned dialect source target byPosition scripted).PutsOutOfTheWay
      dialect target key) :
    (∀ row, HasRow dialect source key row →
        row ∈ (planned dialect source target byPosition scripted).addForeignKeys) ↔
      (∀ row, HasRow dialect source key row →
        (planned dialect source target byPosition scripted).BringsBack dialect source row) ∧
      ∀ row other, HasRow dialect source key row → HasRow dialect source key other →
        row.number "ordinal_position" = other.number "ordinal_position" → row = other := by
  generalize changesEq : planned dialect source target byPosition scripted = changes at *
  let inbound := dialect.inboundRows target (changes.dropPrimaryKeys ++ changes.dropIndexes)
  let returning := dialect.returningRows source inbound
    (changes.addPrimaryKeys ++ changes.addIndexes)
  obtain ⟨own, ownElsewhere, added⟩ :
      ∃ own : List Value, (∀ row ∈ own, dialect.ownerOf row ≠ key.1) ∧
        changes.addForeignKeys = dialect.uniqueRows (own ++ returning) := by
    subst changesEq
    refine ⟨_, ?_, rfl⟩
    intro row member
    rcases List.mem_map.mp member with ⟨held, heldMember, rfl⟩
    exact another held (Dialect.mem_of_mem_addedGroups heldMember)
  have named : ∀ row, dialect.foreignKeyOf row = key →
      dialect.foldedPart "name" row ∈ inbound.map (dialect.foldedPart "name") := by
    rcases outOfTheWay with ⟨dropped, member, droppedKey, references⟩
    intro row isKey
    have sameName : dialect.foldedPart "name" dropped = dialect.foldedPart "name" row :=
      congrArg Prod.snd (droppedKey.trans isKey.symm)
    rw [← sameName]
    exact List.mem_map_of_mem
      (mem_inboundRows_iff.mpr ⟨member, dropped, member, rfl, references⟩)
  have returns_iff : ∀ row, dialect.foreignKeyOf row = key →
      (row ∈ returning ↔ row ∈ source.rows "referencing_foreign_keys" ∧
        changes.BringsBack dialect source row) := by
    intro row isKey
    rw [mem_returningRows_iff, and_iff_left (named row isKey)]
    rfl
  rw [added]
  constructor
  · intro complete
    have returns : ∀ row, HasRow dialect source key row → row ∈ returning := by
      rintro row ⟨member, isKey⟩
      exact mem_of_mem_uniqueRows ownElsewhere (congrArg Prod.fst isKey)
        (complete row ⟨member, isKey⟩)
    have apart := (uniqueRows_complete_iff ownElsewhere).mp fun row member isKey =>
      complete row ⟨((returns_iff row isKey).mp member).1, isKey⟩
    constructor
    · intro row hasRow
      exact ((returns_iff row hasRow.2).mp (returns row hasRow)).2
    · intro row other hasRow otherHasRow
      exact apart row (returns row hasRow) other (returns other otherHasRow) hasRow.2
        otherHasRow.2
  · rintro ⟨broughtBack, apart⟩ row ⟨member, isKey⟩
    refine (uniqueRows_complete_iff ownElsewhere).mpr ?_ row
      ((returns_iff row isKey).mpr ⟨member, broughtBack row ⟨member, isKey⟩⟩) isKey
    intro left leftMember right rightMember leftKey rightKey
    exact apart left right ⟨((returns_iff left leftKey).mp leftMember).1, leftKey⟩
      ⟨((returns_iff right rightKey).mp rightMember).1, rightKey⟩

end TableChanges

namespace Scripter

variable {source target : Value}

/-- What is changed about foreign keys is what the changes of the tables say about them. -/
theorem foreignKeyChanges_ok
    {scripter : Scripter}
    (sourceTyped : source.isTyped .table = true)
    (targetTyped : target.isTyped .table = true)
    {changes : TableChanges}
    (planned : scripter.tableChanges source target = .ok changes) :
    scripter.foreignKeyChanges source target =
      .ok (changes.dropForeignKeys, changes.addForeignKeys) := by
  have given : ∀ {table : Value} (argument : String), table.isTyped .table = true →
      table.required argument = .ok () := by
    intro table argument typed
    rcases Value.isTyped_iff.mp typed with ⟨kind, fields, rfl, _, _⟩
    rfl
  rw [foreignKeyChanges, given _ sourceTyped, Attempt.ok_bind, given _ targetTyped,
    Attempt.ok_bind, planned]
  rfl

/--
A foreign key of another table that is out of the way of a rebuilt key is added again with all of its
rows exactly when each of them is brought back by a key or index that is added, and when no two of its
rows have one position.
-/
theorem foreignKey_restored_iff
    (scripter : Scripter)
    (sourceTyped : source.isTyped .table = true)
    (targetTyped : target.isTyped .table = true) :
    ∃ changes, scripter.tableChanges source target = .ok changes ∧
      scripter.foreignKeyChanges source target =
        .ok (changes.dropForeignKeys, changes.addForeignKeys) ∧
      ∀ key, (∀ row ∈ source.rows "foreign_keys",
          scripter.dialect.ownerOf (target.onTable row) ≠ key.1) →
        changes.PutsOutOfTheWay scripter.dialect target key →
          ((∀ row, TableChanges.HasRow scripter.dialect source key row →
              row ∈ changes.addForeignKeys) ↔
            (∀ row, TableChanges.HasRow scripter.dialect source key row →
              changes.BringsBack scripter.dialect source row) ∧
            ∀ row other, TableChanges.HasRow scripter.dialect source key row →
              TableChanges.HasRow scripter.dialect source key other →
                row.number "ordinal_position" = other.number "ordinal_position" →
                  row = other) := by
  rcases TableChanges.between_ok scripter.dialect scripter.options sourceTyped targetTyped with
    ⟨byPosition, scripted, _, _, planned⟩
  exact ⟨_, planned, foreignKeyChanges_ok sourceTyped targetTyped planned,
    fun key another outOfTheWay => TableChanges.planned_restores_iff another outOfTheWay⟩

/-- The foreign key of another table on the identifier of a table. -/
def orderForeignKey : Value :=
  .plainForeignKey "o" "fk" "t_id" "t" "id" .noAction

/-- A table with an identifier of a type, index rows and a foreign key that references it. -/
def referencedTable
    (dataType : String)
    (indexes : List Value) : Value :=
  .plainTable "t" [.plainColumn "id" dataType 1] indexes [] [orderForeignKey]

/-- While the primary key is rebuilt for another type of its column, the foreign key returns. -/
theorem foreignKey_restored_with_primaryKey :
    (referencedTable "bigint" [.plainIndex "t" "pk" "id" true]).isTyped .table = true ∧
      (referencedTable "integer" [.plainIndex "t" "pk" "id" true]).isTyped .table = true ∧
      ∃ changes,
        (Scripter.mk .postgreSql {}).tableChanges
            (referencedTable "bigint" [.plainIndex "t" "pk" "id" true])
            (referencedTable "integer" [.plainIndex "t" "pk" "id" true]) = .ok changes ∧
          changes.PutsOutOfTheWay .postgreSql
            (referencedTable "integer" [.plainIndex "t" "pk" "id" true])
            (("public", "o"), "fk") ∧
          orderForeignKey ∈ changes.addForeignKeys := by
  have sourceTyped :
      (referencedTable "bigint" [.plainIndex "t" "pk" "id" true]).isTyped .table = true := by
    decide
  have targetTyped :
      (referencedTable "integer" [.plainIndex "t" "pk" "id" true]).isTyped .table = true := by
    decide
  rcases foreignKey_restored_iff (Scripter.mk .postgreSql {}) sourceTyped targetTyped with
    ⟨changes, planned, _, restored⟩
  have columns :
      ((Scripter.mk .postgreSql {}).tableChanges
          (referencedTable "bigint" [.plainIndex "t" "pk" "id" true])
          (referencedTable "integer" [.plainIndex "t" "pk" "id" true])).toOption.map
        (fun changes =>
          (Dialect.postgreSql.columnKeys (changes.dropPrimaryKeys ++ changes.dropIndexes),
            Dialect.postgreSql.columnKeys (changes.addPrimaryKeys ++ changes.addIndexes))) =
        some (["id"], ["id"]) := by
    decide +kernel
  rw [planned] at columns
  rcases Prod.mk.inj (Option.some.inj columns) with ⟨dropped, added⟩
  have row :
      TableChanges.HasRow .postgreSql
        (referencedTable "bigint" [.plainIndex "t" "pk" "id" true]) (("public", "o"), "fk")
        orderForeignKey :=
    ⟨List.mem_singleton.mpr rfl, by decide⟩
  have outOfTheWay :
      changes.PutsOutOfTheWay .postgreSql
        (referencedTable "integer" [.plainIndex "t" "pk" "id" true]) (("public", "o"), "fk") :=
    ⟨orderForeignKey, List.mem_singleton.mpr rfl, by decide, by
      rw [Dialect.ReferencesOneOf, dropped]
      decide⟩
  refine ⟨sourceTyped, targetTyped, changes, planned, outOfTheWay, ?_⟩
  refine (restored (("public", "o"), "fk") ?_ outOfTheWay).mpr ⟨?_, ?_⟩ orderForeignKey row
  · intro own member
    cases member
  · rintro held ⟨member, _⟩
    obtain rfl := List.mem_singleton.mp member
    exact ⟨orderForeignKey, List.mem_singleton.mpr rfl, rfl, by
      rw [Dialect.ReferencesOneOf, added]
      decide⟩
  · rintro left right ⟨leftMember, _⟩ ⟨rightMember, _⟩ _
    exact (List.mem_singleton.mp leftMember).trans (List.mem_singleton.mp rightMember).symm

/--
A foreign key that both sides have is dropped and never added again when the target has one more
index on the column that it references.
-/
theorem foreignKey_lost_with_index :
    (referencedTable "integer" [.plainIndex "t" "pk" "id" true]).rows
        "referencing_foreign_keys" = [orderForeignKey] ∧
      (referencedTable "integer"
          [.plainIndex "t" "pk" "id" true, .plainIndex "t" "ix" "id" false]).rows
        "referencing_foreign_keys" = [orderForeignKey] ∧
      ((Scripter.mk .postgreSql {}).foreignKeyChanges
          (referencedTable "integer" [.plainIndex "t" "pk" "id" true])
          (referencedTable "integer"
            [.plainIndex "t" "pk" "id" true, .plainIndex "t" "ix" "id" false])).toOption.map
        (fun changes => (changes.1.map Dialect.postgreSql.foreignKeyOf,
          changes.2.map Dialect.postgreSql.foreignKeyOf)) =
        some ([(("public", "o"), "fk")], []) :=
  ⟨rfl, rfl, by decide +kernel⟩

end Scripter

end SchemaDelta
