import SchemaDelta.Proofs.Migration.Contents
import SchemaDelta.Proofs.Migration.ForeignKeyStatement

/-!
# Foreign keys in generated scripts

A migration between databases whose foreign key lists are consistent drops every foreign key once at
most.  It adds a foreign key twice exactly when a new table has it and an altered table gets it back:
an altered table gets back what has the name of a foreign key that was in the way of one of its keys,
even if that foreign key was on another table.
-/

namespace SchemaDelta

open Attempt (exists_ok_of_isSome)

namespace Migration

open MigrationAction (aboutForeignKeys)

variable {migration : Migration}

/-! ## Drops -/

/-- A row of a linked foreign key has the name and the identity of a row that its table lists. -/
theorem exists_listed_of_isLinkedRow
    (typed : migration.IsTyped)
    (consistent : ConsistentForeignKeys (migration.target.rows "tables"))
    {table row : Value}
    (tableMember : table ∈ migration.target.rows "tables")
    (linked : table.IsLinkedRow table row) :
    ∃ owner ∈ migration.target.rows "tables", ∃ listed ∈ owner.rows "foreign_keys",
      row.foreignKeyName = listed.foreignKeyName ∧
        migration.scripter.dialect.identityOf row =
          migration.scripter.dialect.identityOf listed := by
  rcases linked with ⟨own, member, rfl⟩ | inbound
  · have ownTyped := Value.foreignKey_isTyped (tables_isTyped typed.target table tableMember) member
    exact ⟨table, tableMember, own, member, Value.sameKey_onTable migration.scripter.dialect
      ownTyped (consistent.own table tableMember own member)⟩
  · rcases consistent.inbound table tableMember row inbound with ⟨_, owner, ownerMember, listed⟩
    exact ⟨owner, ownerMember, row, listed, rfl, rfl⟩

/-- No foreign key is dropped with a table and again for an altered table. -/
private theorem nodup_drops
    (typed : migration.IsTyped)
    (consistent : ConsistentForeignKeys (migration.target.rows "tables"))
    (oneTable : ReferenceOneTable (migration.target.rows "tables"))
    {droppedTables dropped altered : List Value}
    (listed : droppedTables ⊆ migration.target.rows "tables")
    (droppedRows :
      dropped = migration.scripter.dialect.uniqueRows (droppedTables.flatMap Value.linkedRows))
    (alteredRows :
      migration.alteredForeignKeys (migration.identities dropped) = .ok altered) :
    (Value.namesDropped dropped ++ Value.namesDropped altered).Nodup := by
  refine List.nodup_append.mpr
    ⟨Value.nodup_namesDropped dropped, Value.nodup_namesDropped altered, ?_⟩
  rintro name inDropped _ inAltered rfl
  rcases Value.mem_namesDropped inDropped with ⟨row, rowMember, rowNamed⟩
  rcases Value.mem_namesDropped inAltered with ⟨again, againMember, againNamed⟩
  rcases typed.alteredForeignKeys_areLinked alteredRows againMember with
    ⟨_, ⟨alteredTable, alteredMember, againLinked⟩, fresh⟩
  rcases exists_listed_of_isLinkedRow typed consistent alteredMember againLinked with
    ⟨owner, ownerMember, held, heldMember, sameName, sameIdentity⟩
  rw [droppedRows] at rowMember
  rcases List.mem_flatMap.mp ((Keyed.firstByKey_sublist _ _).subset rowMember) with
    ⟨table, tableMember, linked⟩
  have heldLinked : held ∈ table.linkedRows :=
    consistent.mem_linkedRows oneTable (listed tableMember) linked ownerMember heldMember
      (rowNamed.trans (againNamed.symm.trans sameName))
  rcases Keyed.exists_mem_firstByKey migration.scripter.dialect.identityOf
      (List.mem_flatMap_of_mem tableMember heldLinked) with
    ⟨first, firstMember, firstIdentity⟩
  have isDropped : (migration.identities dropped).contains
      (Dialect.identityKey (migration.scripter.dialect.identityOf again)) = true := by
    rw [identities, droppedRows, List.contains_eq_any_beq, List.any_map, List.any_eq_true]
    refine ⟨first, firstMember, ?_⟩
    rw [Function.comp_apply, Dialect.identityKey_beq, beq_iff_eq, firstIdentity, sameIdentity]
  rw [fresh] at isDropped
  cases isDropped

/-! ## Additions -/

/-- A foreign key is added twice only if a new table has it and an altered table gets it. -/
private theorem nodup_adds_iff
    (typed : migration.IsTyped)
    (consistent : ConsistentForeignKeys (migration.source.rows "tables"))
    {tables : List Value}
    (newTablesOk : migration.newTables = .ok tables)
    (added : List Value) :
    ((tables.flatMap fun table =>
        Value.namesAddedTo table.fullName (table.rows "foreign_keys")) ++
      Value.namesAdded added).Nodup ↔
      ∀ table ∈ tables, ∀ own ∈ table.rows "foreign_keys", ∀ row ∈ added,
        own.foreignKeyName ≠ row.foreignKeyName := by
  have listed := typed.newTables_subperm newTablesOk
  rw [List.nodup_append, and_iff_right (consistent.nodup_namesAddedTo listed),
    and_iff_right (Value.nodup_namesAdded added)]
  constructor
  · intro apart table tableMember own ownMember row rowMember
    apply apart
    · refine List.mem_flatMap.mpr ⟨table, tableMember, List.mem_map.mpr ⟨own.letters "name",
        Value.mem_groupNames.mpr ⟨own, ownMember, rfl⟩, ?_⟩⟩
      rw [← consistent.own table (listed.subset tableMember) own ownMember]
      rfl
    · exact Value.mem_namesAdded_iff.mpr ⟨row, rowMember, rfl⟩
  · intro apart name ofNew other ofAltered
    rcases List.mem_flatMap.mp ofNew with ⟨table, tableMember, inTable⟩
    rcases Value.mem_namesAddedTo inTable with ⟨ofTable, own, ownMember, named⟩
    rcases Value.mem_namesAdded_iff.mp ofAltered with ⟨row, rowMember, rfl⟩
    have ownName : own.foreignKeyName = name := by
      have owned := consistent.own table (listed.subset tableMember) own ownMember
      rw [← ofTable] at owned
      rcases Prod.mk.inj owned with ⟨schema, tableName⟩
      rw [Value.foreignKeyName, schema, tableName, named]
    exact ownName ▸ apart table tableMember own ownMember row rowMember

/-! ## Plans -/

private theorem drops_foreignKeyActions
    (contents : PlanContents) :
    (foreignKeyActions contents).flatMap MigrationAction.drops =
      Value.namesDropped contents.droppedRows ++ Value.namesDropped contents.alteredRows := by
  have silent : ∀ tables : List Value,
      tables.flatMap (fun table => (MigrationAction.addTableForeignKeys table).drops) = [] :=
    fun _ => List.flatMap_eq_nil_iff.mpr fun _ _ => rfl
  simp only [foreignKeyActions, List.flatMap_append, List.flatMap_map, silent, List.append_nil]
  rw [flatMap_actionOn Value.namesDropped_nil, flatMap_actionOn Value.namesDropped_nil,
    flatMap_actionOn rfl]
  exact List.append_nil _

/-- New tables without foreign keys add none. -/
private theorem adds_foreignKeyActions
    (contents : PlanContents) :
    (foreignKeyActions contents).flatMap MigrationAction.adds =
      (contents.newTables.flatMap fun table =>
        Value.namesAddedTo table.fullName (table.rows "foreign_keys")) ++
        Value.namesAdded contents.addedRows := by
  have ofTables :
      (contents.newTables.filter Value.hasForeignKeyRows).flatMap
          (fun table => (MigrationAction.addTableForeignKeys table).adds) =
        contents.newTables.flatMap fun table =>
          Value.namesAddedTo table.fullName (table.rows "foreign_keys") := by
    induction contents.newTables with
    | nil => rfl
    | cons table tables ih =>
        rw [List.flatMap_cons, ← ih, List.filter_cons, Value.hasForeignKeyRows]
        cases rows : table.rows "foreign_keys" with
        | nil => simp
        | cons row others => simp [MigrationAction.adds, rows]
  simp only [foreignKeyActions, List.flatMap_append, List.flatMap_map, ofTables]
  rw [flatMap_actionOn rfl, flatMap_actionOn rfl, flatMap_actionOn Value.namesAdded_nil]
  rfl

private theorem statesForeignKeys_of_mem
    {contents : PlanContents}
    (droppedTyped : ∀ row ∈ contents.droppedRows, row.isTyped .foreignKey = true)
    (alteredTyped : ∀ row ∈ contents.alteredRows, row.isTyped .foreignKey = true)
    (newTyped : ∀ table ∈ contents.newTables, table.isTyped .table = true)
    (addedTyped : ∀ row ∈ contents.addedRows, row.isTyped .foreignKey = true)
    (scripter : Scripter) :
    ∀ action ∈ foreignKeyActions contents, action.StatesForeignKeys scripter := by
  intro action member
  rw [foreignKeyActions, List.mem_append, List.mem_append, List.mem_append] at member
  rcases member with ((ofDropped | ofAltered) | ofNew) | ofAdded
  · rw [eq_of_mem_actionOn ofDropped]
    exact MigrationAction.statesForeignKeys_dropForeignKeys droppedTyped
  · rw [eq_of_mem_actionOn ofAltered]
    exact MigrationAction.statesForeignKeys_dropForeignKeys alteredTyped
  · rcases List.mem_map.mp ofNew with ⟨table, tableMember, rfl⟩
    exact MigrationAction.statesForeignKeys_addTableForeignKeys
      (newTyped table (List.mem_filter.mp tableMember).1)
  · rw [eq_of_mem_actionOn ofAdded]
    exact MigrationAction.statesForeignKeys_addForeignKeys addedTyped

/-- The foreign keys that a plan of all phases drops and adds. -/
private theorem IsTyped.plan_foreignKeys
    (typed : migration.IsTyped)
    (allPhases : ∀ phase, migration.includes phase = true)
    (sourceConsistent : ConsistentForeignKeys (migration.source.rows "tables"))
    (targetConsistent : ConsistentForeignKeys (migration.target.rows "tables"))
    {plan : MigrationPlan}
    {final : List Value}
    (planned : migration.planPhases migration.phases [] = .ok (plan, final)) :
    (∀ action ∈ plan.actions, action.StatesForeignKeys migration.scripter) ∧
      (ReferenceOneTable (migration.target.rows "tables") →
        (plan.actions.flatMap MigrationAction.drops).Nodup) ∧
      ∃ tables added, migration.newTables = .ok tables ∧
        migration.addedForeignKeys = .ok added ∧
        ((plan.actions.flatMap MigrationAction.adds).Nodup ↔
          ∀ table ∈ tables, ∀ own ∈ table.rows "foreign_keys", ∀ row ∈ added,
            own.foreignKeyName ≠ row.foreignKeyName) := by
  rw [phases_eq_all allPhases] at planned
  rcases typed.exists_contents planned with ⟨contents, collects, phases⟩
  have listed := (typed.droppedTables_subperm collects.droppedTables).subset
  have actions : aboutForeignKeys plan.actions = foreignKeyActions contents := by
    rw [actions_eq_of_phases phases, aboutForeignKeys_actionsIn]
  have droppedTyped : ∀ row ∈ contents.droppedRows, row.isTyped .foreignKey = true := by
    rw [collects.droppedRows]
    exact uniqueRows_isTyped fun table member =>
      tables_isTyped typed.target table (listed member)
  refine ⟨?_, ?_, contents.newTables, contents.addedRows, collects.newTables,
    collects.addedRows, ?_⟩
  · intro action member
    cases about : action.isAboutForeignKeys with
    | false =>
        exact ⟨fun some => absurd (MigrationAction.drops_of_quiet about) some,
          fun some => absurd (MigrationAction.adds_of_quiet about) some⟩
    | true =>
        have isAbout : action ∈ aboutForeignKeys plan.actions :=
          List.mem_filter.mpr ⟨member, about⟩
        rw [actions] at isAbout
        exact statesForeignKeys_of_mem droppedTyped
          (fun row held => (typed.alteredForeignKeys_areLinked collects.alteredRows held).1)
          (fun table held => tables_isTyped typed.source table
            ((typed.newTables_subperm collects.newTables).subset held))
          (typed.addedForeignKeys_isTyped collects.addedRows) migration.scripter action isAbout
  · intro oneTable
    have drops := drops_foreignKeyActions contents
    rw [← actions, MigrationAction.flatMap_aboutForeignKeys
      fun _ => MigrationAction.drops_of_quiet] at drops
    rw [drops]
    exact nodup_drops typed targetConsistent oneTable listed collects.droppedRows
      collects.alteredRows
  · have adds := adds_foreignKeyActions contents
    rw [← actions, MigrationAction.flatMap_aboutForeignKeys
      fun _ => MigrationAction.adds_of_quiet] at adds
    rw [adds]
    exact nodup_adds_iff typed sourceConsistent collects.newTables contents.addedRows

end Migration

namespace Generator

variable {generator : Generator} {script : String}

/--
A script of all phases drops every foreign key once at most, if each references one table, and adds
every foreign key once at most exactly when altered tables get back none that a new table has.
-/
theorem foreignKeys_once_iff
    (typed : generator.migration.IsTyped)
    (allPhases : ∀ phase, generator.migration.includes phase = true)
    (sourceConsistent : ConsistentForeignKeys (generator.migration.source.rows "tables"))
    (targetConsistent : ConsistentForeignKeys (generator.migration.target.rows "tables"))
    (generated : generator.generate.1.result = .ok script) :
    ∃ plan dropped,
      generator.migration.planPhases generator.migration.phases [] = .ok (plan, dropped) ∧
      generator.migration.Writes plan script ∧
      (∀ action ∈ plan.actions, action.StatesForeignKeys generator.migration.scripter) ∧
      (ReferenceOneTable (generator.migration.target.rows "tables") →
        (plan.actions.flatMap MigrationAction.drops).Nodup) ∧
      ∃ tables added, generator.migration.newTables = .ok tables ∧
        generator.migration.addedForeignKeys = .ok added ∧
        ((plan.actions.flatMap MigrationAction.adds).Nodup ↔
          ∀ table ∈ tables, ∀ own ∈ table.rows "foreign_keys", ∀ row ∈ added,
            own.foreignKeyName ≠ row.foreignKeyName) := by
  rcases exists_plan_of_generate generated with ⟨plan, dropped, planned, writes⟩
  exact ⟨plan, dropped, planned, writes,
    typed.plan_foreignKeys allPhases sourceConsistent targetConsistent planned⟩

/-! ## Migrations between two tables with a foreign key -/

theorem mem_foreignKeys_linkedTables
    {dataType owner : String}
    {table row : Value}
    (tableMember : table ∈ linkedTables dataType owner)
    (rowMember : row ∈ table.rows "foreign_keys") :
    row = keyOf owner ∧ table.fullName = ("public", owner) := by
  rcases List.mem_cons.mp tableMember with rfl | later
  · cases rowMember
  · obtain rfl := List.mem_singleton.mp later
    exact ⟨List.mem_singleton.mp rowMember, rfl⟩

theorem consistent_linkedTables
    (dataType : String)
    {owner : String}
    (another : owner ≠ "t") :
    ConsistentForeignKeys (linkedTables dataType owner) where
  own := by
    intro table tableMember row rowMember
    rcases mem_foreignKeys_linkedTables tableMember rowMember with ⟨rfl, named⟩
    exact named.symm
  inbound := by
    intro table tableMember row rowMember
    rcases List.mem_cons.mp tableMember with rfl | later
    · obtain rfl := List.mem_singleton.mp rowMember
      exact ⟨rfl, _, List.mem_cons_of_mem _ List.mem_cons_self, List.mem_cons_self⟩
    · obtain rfl := List.mem_singleton.mp later
      cases rowMember
  outbound := by
    intro holder holderMember row rowMember table tableMember references
    rcases mem_foreignKeys_linkedTables holderMember rowMember with ⟨rfl, _⟩
    rcases List.mem_cons.mp tableMember with rfl | later
    · exact List.mem_cons_self
    · obtain rfl := List.mem_singleton.mp later
      exact absurd (congrArg Prod.snd references).symm another
  distinct := List.nodup_singleton _

private theorem referenceOneTable_linkedTables
    (dataType owner : String) :
    ReferenceOneTable (linkedTables dataType owner) := by
  intro table tableMember row rowMember other otherMember _
  rw [(mem_foreignKeys_linkedTables tableMember rowMember).1,
    (mem_foreignKeys_linkedTables tableMember otherMember).1]

/-- The identifier of the table gets another type. -/
private def rebuilding : Generator :=
  betweenTables (linkedTables "bigint" "o") (linkedTables "integer" "o")

/-- The identifier gets another type, and a new table has the foreign key of a dropped one. -/
private def replacing : Generator :=
  betweenTables (linkedTables "bigint" "n") (linkedTables "integer" "o")

/-- While a key is rebuilt, the foreign key that references it is dropped and added once. -/
theorem foreignKeys_once_for_rebuilt_key :
    ∃ script plan dropped, rebuilding.generate.1.result = .ok script ∧
      rebuilding.migration.planPhases Phase.all [] = .ok (plan, dropped) ∧
      (plan.actions.flatMap MigrationAction.drops).Nodup ∧
      (plan.actions.flatMap MigrationAction.adds).Nodup := by
  have typed : rebuilding.migration.IsTyped :=
    betweenTables_isTyped (linkedTables_isTyped ..) (linkedTables_isTyped ..) (by decide +kernel)
  have generates : rebuilding.generate.1.result.toOption.isSome = true := by
    decide +kernel
  rcases exists_ok_of_isSome generates with ⟨script, generated, _⟩
  rcases foreignKeys_once_iff typed (fun _ => rfl)
      (consistent_linkedTables "bigint" (by decide)) (consistent_linkedTables "integer" (by decide))
      generated with
    ⟨plan, dropped, planned, _, _, drops, tables, added, newTables, _, adds⟩
  have noneNew : rebuilding.migration.newTables.toOption.map List.length = some 0 := by
    decide +kernel
  rw [newTables] at noneNew
  obtain rfl : tables = [] := List.length_eq_zero_iff.mp (Option.some.inj noneNew)
  exact ⟨script, plan, dropped, generated, planned,
    drops (referenceOneTable_linkedTables "integer" "o"),
    adds.mpr fun _ => List.not_mem_nil.elim⟩

/--
A foreign key of a new table that has the name of one in the way of a rebuilt key is added with the
new table and again for the altered one.
-/
theorem foreignKeys_added_twice :
    (replacing.migration.IsTyped ∧ (∀ phase, replacing.migration.includes phase = true) ∧
      ConsistentForeignKeys (replacing.migration.source.rows "tables") ∧
      ConsistentForeignKeys (replacing.migration.target.rows "tables")) ∧
    ∃ script plan dropped, replacing.generate.1.result = .ok script ∧
      replacing.migration.planPhases replacing.migration.phases [] = .ok (plan, dropped) ∧
      replacing.migration.Writes plan script ∧
      plan.actions.flatMap MigrationAction.adds =
        [("public", "n", "fk"), ("public", "n", "fk")] := by
  have typed : replacing.migration.IsTyped :=
    betweenTables_isTyped (linkedTables_isTyped ..) (linkedTables_isTyped ..) (by decide +kernel)
  have generates : replacing.generate.1.result.toOption.isSome = true := by
    decide +kernel
  rcases exists_ok_of_isSome generates with ⟨script, generated, _⟩
  rcases exists_plan_of_generate generated with ⟨plan, dropped, planned, writes⟩
  have adds :
      (replacing.migration.planPhases replacing.migration.phases []).toOption.map
          (fun planned => planned.1.actions.flatMap MigrationAction.adds) =
        some [("public", "n", "fk"), ("public", "n", "fk")] := by
    decide +kernel
  rw [planned] at adds
  exact ⟨⟨typed, fun _ => rfl, consistent_linkedTables "bigint" (by decide),
    consistent_linkedTables "integer" (by decide)⟩,
    script, plan, dropped, generated, planned, writes, Option.some.inj adds⟩

end Generator

end SchemaDelta
