import SchemaDelta.Proofs.Migration.Lines
import SchemaDelta.Proofs.Migration.Parts
import SchemaDelta.Proofs.Migration.QuietRun
import SchemaDelta.Proofs.Migration.TableLists

/-!
# Plans for databases without objects

A migration into a database that has no objects drops and alters nothing.  Its parts create what the
source has, in the order of names, and tables in the order of their creation.
-/

namespace SchemaDelta

open Value (listing sortedOn)

/-! ## Databases without objects -/

/-- A database has nothing in its collections. -/
def Value.IsVacant
    (database : Value) : Prop :=
  ∀ kind : ObjectKind, database.rows kind.name = []

theorem Value.IsVacant.objectsIn_eq_nil
    {database : Value}
    (vacant : database.IsVacant)
    (kind : ObjectKind) :
    database.objectsIn kind = [] := by
  cases kind with
  | dataTypes =>
      rw [objectsIn, show database.rows "data_types" = [] from vacant .dataTypes]
      rfl
  | triggers =>
      rw [objectsIn, show database.rows "tables" = [] from vacant .tables]
      rfl
  | _ => exact vacant _

/-- Objects of different names that are joined with nothing stand alone, in the order of names. -/
theorem NameMatching.pairingsOf_nil
    {matching : NameMatching}
    {kind : ObjectKind}
    {sources : List Value}
    (typed : ∀ source ∈ sources, source.isTyped kind.objectClass = true)
    (distinct : (sources.map matching.nameOf).Nodup) :
    ∃ created : List Value, matching.pairingsOf sources [] = created.map .onlySource ∧
      created.Perm sources ∧ created.Pairwise fun left right =>
        toLex (matching.nameOf left) < toLex (matching.nameOf right) := by
  have joined := matching.pairingsOf_isOuterJoin typed (List.forall_mem_nil _)
  have alone : ∀ pairing ∈ matching.pairingsOf sources [],
      pairing = .onlySource pairing.object ∧ pairing.object ∈ sources := by
    intro pairing member
    rcases joined.sides pairing member with ⟨sourceSide, targetSide⟩
    cases pairing with
    | onlySource source => exact ⟨rfl, List.mem_of_find?_eq_some sourceSide.symm⟩
    | onlyTarget target => cases targetSide
    | identical source target => cases targetSide
    | different source target => cases targetSide
  have ordered : ((matching.pairingsOf sources []).map (·.object)).Pairwise fun left right =>
      toLex (matching.nameOf left) < toLex (matching.nameOf right) :=
    List.pairwise_map.mpr joined.ascending
  refine ⟨(matching.pairingsOf sources []).map (·.object), ?_, ?_, ordered⟩
  · rw [List.map_map]
    exact (List.map_id _).symm.trans (List.map_congr_left fun pairing member =>
      (alone pairing member).1)
  · have once : ((matching.pairingsOf sources []).map (·.object)).Nodup :=
      ordered.imp fun below same => below.ne (by rw [same])
    refine (List.perm_ext_iff_of_nodup once distinct.of_map).mpr fun object => ?_
    constructor
    · intro member
      rcases List.mem_map.mp member with ⟨pairing, paired, rfl⟩
      exact (alone pairing paired).2
    · intro member
      have named := (joined.complete (matching.nameOf object)).mpr
        (List.mem_map_of_mem (List.mem_append_left [] member))
      rcases List.mem_map.mp named with ⟨pairing, paired, sameName⟩
      refine List.mem_map.mpr ⟨pairing, paired, ?_⟩
      exact List.inj_on_of_nodup_map distinct (alone pairing paired).2 member sameName

namespace Migration

/-- All phases of a migration into a database of its dialect that has no objects. -/
structure IsFresh
    (migration : Migration) : Prop extends migration.IsTyped where
  sourceDialect : migration.source.get "dialect" = .member (.dialect migration.scripter.dialect)
  targetDialect : migration.target.get "dialect" = .member (.dialect migration.scripter.dialect)
  vacant : migration.target.IsVacant
  distinct : ∀ kind,
    ((migration.source.objectsIn kind).map migration.scripter.dialect.nameOf).Nodup
  complete : ∀ phase, migration.includes phase = true

/-- The types of the source. -/
abbrev sourceTypes
    (migration : Migration) : Value :=
  .list (migration.source.rows "data_types")

/-- The objects that the pairings of a kind are about, in their order. -/
def paired
    (migration : Migration)
    (kind : ObjectKind) : List Value :=
  (migration.comparison.pairings kind).map (·.object)

/-! ## Parts that drop no foreign keys -/

variable {migration : Migration}

private theorem isQuiet_of_ofItems
    {α : Type}
    {part : Part}
    {activity things : String}
    {items : List α}
    {action : α → MigrationAction}
    (planned : part [] = .ok (MigrationSection.ofItems activity things items action))
    (silent : ∀ item, (action item).droppedForeignKeys = []) :
    part.IsQuiet := by
  intro sections sectionsOk
  cases planned.symm.trans sectionsOk
  rw [MigrationSection.droppedForeignKeys_eq, MigrationSection.actionsOf_ofItems, List.flatMap_map]
  exact List.flatMap_eq_nil_iff.mpr fun item _ => silent item

private theorem isQuiet_of_nothing
    {part : Part}
    (planned : part [] = .ok []) :
    part.IsQuiet := by
  intro sections sectionsOk
  cases planned.symm.trans sectionsOk
  rfl

private theorem droppedForeignKeys_creating
    (types : Value)
    (kind : ObjectKind)
    (object : Value) :
    (MigrationAction.creating types kind object).droppedForeignKeys = [] := by
  cases kind <;> rfl

/-- A part that begins with the new tables is not planned where these have no order. -/
private theorem isQuiet_of_newTables
    (migration : Migration)
    {part : Part}
    (begins : ∀ failure, migration.newTables = .error failure → part [] = .error failure)
    (quiet : ∀ tables, migration.newTables = .ok tables → part.IsQuiet) :
    part.IsQuiet := by
  cases created : migration.newTables with
  | ok tables => exact quiet tables created
  | error failure =>
      intro sections sectionsOk
      cases (begins failure created).symm.trans sectionsOk

theorem newTablePart_eq
    {tables : List Value}
    (created : migration.newTables = .ok tables) :
    migration.newTablePart [] =
      .ok (MigrationSection.ofItems "Creating" "new tables" tables .createTable) := by
  rw [newTablePart, created]
  rfl

/-- Objects of a kind that the target has none of stand alone, in the order of names. -/
private theorem IsTyped.exists_paired
    (typed : migration.IsTyped)
    (checked : migration.checkDialects = .ok ())
    {kind : ObjectKind}
    (absent : migration.target.objectsIn kind = [])
    (distinct : ((migration.source.objectsIn kind).map
      migration.scripter.dialect.nameOf).Nodup) :
    migration.comparison.pairings kind = (migration.paired kind).map .onlySource ∧
      (migration.paired kind).Perm (migration.source.objectsIn kind) ∧
        (migration.paired kind).Pairwise fun left right =>
          toLex (migration.scripter.dialect.nameOf left) <
            toLex (migration.scripter.dialect.nameOf right) := by
  have matching := matching_of_checkDialects typed checked
  have pairings := Comparison.pairings_of_between typed.source typed.target typed.compared kind
  rw [absent] at pairings
  rcases NameMatching.pairingsOf_nil (fun _ => Value.isTyped_of_mem_objectsIn typed.source)
      (matching ▸ distinct) with ⟨created, alone, perm, ordered⟩
  have same : migration.paired kind = created := by
    rw [paired, pairings, alone, List.map_map]
    exact List.map_id created
  rw [same, pairings, alone, ← matching]
  exact ⟨rfl, perm, ordered⟩

/-- Where names are matched exactly, the order of names is that of full scripts. -/
theorem IsTyped.pairings_eq_listed
    (typed : migration.IsTyped)
    (checked : migration.checkDialects = .ok ())
    (exact : migration.scripter.dialect = .postgreSql)
    {kind : ObjectKind}
    (absent : migration.target.objectsIn kind = [])
    (distinct : ((migration.source.objectsIn kind).map Value.fullName).Nodup) :
    migration.comparison.pairings kind =
      (sortedOn listing (migration.source.objectsIn kind)).map .onlySource := by
  have namesDistinct : ((migration.source.objectsIn kind).map
      migration.scripter.dialect.nameOf).Nodup := by
    rw [exact]
    exact distinct
  rcases typed.exists_paired checked absent namesDistinct with ⟨pairings, perm, ordered⟩
  rw [exact] at ordered
  rw [pairings]
  refine congrArg (List.map Pairing.onlySource) (List.Perm.eq_of_pairwise ?_ ordered
    (Value.listing_ranksBy.sortedOn_pairwise_lt distinct)
    (perm.trans (Value.sortedOn_perm listing _).symm))
  intro left right _ _ above below
  exact absurd above (lt_asymm below)

namespace IsFresh

variable (fresh : migration.IsFresh)

include fresh

theorem checkDialects_ok : migration.checkDialects = .ok () := by
  rcases Value.exists_dialect fresh.source with ⟨source, sourceRead, sourceGet⟩
  rcases Value.exists_dialect fresh.target with ⟨target, targetRead, targetGet⟩
  cases sourceGet.symm.trans fresh.sourceDialect
  cases targetGet.symm.trans fresh.targetDialect
  rw [checkDialects, sourceRead, targetRead, Attempt.ok_bind, Attempt.ok_bind]
  cases migration.scripter.dialect <;> rfl

theorem pairings_eq
    (kind : ObjectKind) :
    migration.comparison.pairings kind = (migration.paired kind).map .onlySource :=
  (fresh.toIsTyped.exists_paired fresh.checkDialects_ok
    (fresh.vacant.objectsIn_eq_nil kind) (fresh.distinct kind)).1

theorem paired_perm
    (kind : ObjectKind) :
    (migration.paired kind).Perm (migration.source.objectsIn kind) :=
  (fresh.toIsTyped.exists_paired fresh.checkDialects_ok
    (fresh.vacant.objectsIn_eq_nil kind) (fresh.distinct kind)).2.1

theorem isTyped_of_mem_paired
    {kind : ObjectKind} :
    ∀ object ∈ migration.paired kind, object.isTyped kind.objectClass = true :=
  fun _ member => Value.isTyped_of_mem_objectsIn fresh.source
    ((fresh.paired_perm kind).subset member)

theorem paired_eq_listed
    (exact : migration.scripter.dialect = .postgreSql)
    (kind : ObjectKind) :
    migration.paired kind = sortedOn listing (migration.source.objectsIn kind) := by
  have distinct := fresh.distinct kind
  rw [exact] at distinct
  rw [paired, fresh.toIsTyped.pairings_eq_listed fresh.checkDialects_ok exact
    (fresh.vacant.objectsIn_eq_nil kind) distinct, List.map_map]
  exact List.map_id _

/-! ## Pairings by status -/

theorem pairingsWith_eq
    {statuses : List Status}
    (wanted : statuses.contains .missingInTarget = true)
    (kind : ObjectKind) :
    migration.pairingsWith kind statuses = (migration.paired kind).map .onlySource := by
  rw [pairingsWith, fresh.pairings_eq, List.filter_eq_self]
  intro pairing member
  rcases List.mem_map.mp member with ⟨object, _, rfl⟩
  exact wanted

theorem pairingsWith_eq_nil
    {statuses : List Status}
    (unwanted : statuses.contains .missingInTarget = false)
    (kind : ObjectKind) :
    migration.pairingsWith kind statuses = [] := by
  rw [pairingsWith, fresh.pairings_eq, List.filter_eq_nil_iff]
  intro pairing member
  rcases List.mem_map.mp member with ⟨object, _, rfl⟩
  exact Bool.not_eq_true _ ▸ unwanted

theorem targetOnly_eq_nil
    (kind : ObjectKind) :
    migration.targetOnly kind = [] :=
  fresh.pairingsWith_eq_nil rfl kind

theorem differing_eq_nil
    (kind : ObjectKind) :
    migration.differing kind = [] :=
  fresh.pairingsWith_eq_nil rfl kind

theorem changed_eq
    (kind : ObjectKind) :
    migration.changed kind = (migration.paired kind).map .onlySource :=
  fresh.pairingsWith_eq rfl kind

/-! ## Parts without actions -/

theorem dropPart_eq
    (kind : ObjectKind)
    (action : Pairing → MigrationAction) :
    migration.dropPart kind action [] = .ok [] := by
  rw [dropPart, fresh.targetOnly_eq_nil]
  rfl

private theorem target_part
    (kind : ObjectKind)
    (notTriggers : kind ≠ .triggers) :
    migration.target.part kind.name = .ok (.list []) := by
  rw [Value.part_rows_of_isTyped fresh.target (ObjectKind.database_declares notTriggers),
    fresh.vacant kind]

theorem dropFunctionPart_eq : migration.dropFunctionPart [] = .ok [] := by
  have types : migration.target.part "data_types" = .ok (.list []) :=
    fresh.target_part .dataTypes (by decide)
  rw [dropFunctionPart, types, Attempt.ok_bind]
  exact fresh.dropPart_eq .functions _

theorem dropTablePart_eq : migration.dropTablePart [] = .ok [] := by
  have tables : migration.target.part "tables" = .ok (.list []) :=
    fresh.target_part .tables (by decide)
  have none : migration.droppedTables = .ok [] := by
    have sorted : migration.scripter.dialect.sortTables true (.list []) = .ok [] := by
      cases migration.scripter.dialect <;> rfl
    rw [droppedTables, fresh.targetOnly_eq_nil, tables, List.mapM_nil, Attempt.pure_eq_ok,
      Attempt.ok_bind, Attempt.ok_bind, tablesUnder, sorted]
    rfl
  rw [dropTablePart, none]
  rfl

theorem alterTablePart_eq : migration.alterTablePart [] = .ok [] := by
  rw [alterTablePart, alteredForeignKeys, changedForeignKeys, fresh.differing_eq_nil]
  rfl

theorem addedForeignKeyPart_eq : migration.addedForeignKeyPart [] = .ok [] := by
  rw [addedForeignKeyPart, addedForeignKeys, changedForeignKeys, fresh.differing_eq_nil]
  rfl

/-! ## Parts that create objects -/

/-- What is done with pairings that only the source has is done with their objects. -/
private theorem ofItems_paired
    (activity : String)
    (kind : ObjectKind)
    (things : String)
    (action : Pairing → MigrationAction) :
    MigrationSection.ofItems activity things (migration.changed kind) action =
      MigrationSection.ofItems activity things (migration.paired kind) fun object =>
        action (.onlySource object) := by
  rw [fresh.changed_eq, MigrationSection.ofItems, MigrationSection.ofItems, List.length_map,
    List.map_map]
  rfl

private theorem source_types :
    migration.source.part "data_types" = .ok migration.sourceTypes :=
  Value.part_rows_of_isTyped fresh.source ObjectClass.database_declares_data_types

theorem typePart_eq :
    migration.typePart [] = .ok (MigrationSection.ofItems "Creating/modifying" "user defined types"
      (migration.paired .dataTypes)
      (MigrationAction.creating migration.sourceTypes .dataTypes)) := by
  rw [typePart, fresh.source_types, Attempt.ok_bind, Part.ofPairings, fresh.ofItems_paired]
  rfl

theorem sequencePart_eq :
    Part.ofPairings "Creating/modifying" "sequences" (migration.changed .sequences)
        .changeSequence [] =
      .ok (MigrationSection.ofItems "Creating/modifying" "sequences" (migration.paired .sequences)
        (MigrationAction.creating migration.sourceTypes .sequences)) := by
  rw [Part.ofPairings, fresh.ofItems_paired]
  rfl

private theorem allTypes_ok :
    migration.allTypes = .ok migration.sourceTypes := by
  have none : migration.target.part "data_types" = .ok (.list []) :=
    fresh.target_part .dataTypes (by decide)
  rw [allTypes, fresh.source_types, Attempt.ok_bind, none, Attempt.ok_bind, Value.append,
    List.append_nil]

/-- New or altered modules are created as they are paired. -/
theorem programmabilityPart_eq
    (kind : ObjectKind)
    {action : Value → Pairing → MigrationAction}
    (creates : (fun object => action migration.sourceTypes
        (.onlySource object)) =
      MigrationAction.creating migration.sourceTypes kind) :
    migration.programmabilityPart kind action [] =
      .ok (MigrationSection.ofItems "Creating/modifying" kind.name (migration.paired kind)
        (MigrationAction.creating migration.sourceTypes kind)) := by
  rw [← creates, ← fresh.ofItems_paired]
  simp only [programmabilityPart]
  split
  · rename_i none
    rw [List.isEmpty_iff.mp none]
    rfl
  · rw [fresh.allTypes_ok]
    rfl

/-! ## Tables -/

/-- The new tables are all tables of the source, in the order of their creation. -/
theorem newTables_eq :
    migration.newTables = migration.scripter.dialect.sortTables false
      (.list (migration.source.rows "tables")) := by
  have tablesTyped := tables_isTyped fresh.source
  have keys : ((migration.sourceOnly .tables).mapM fun pairing =>
      migration.tableKey pairing.source) =
        .ok (((migration.paired .tables).map migration.scripter.dialect.nameOf).map
          Value.nameKey) := by
    rw [sourceOnly, fresh.pairingsWith_eq rfl, List.mapM_map, List.map_map]
    exact Attempt.mapM_ok fun table member => tableKey_ok (fresh.isTyped_of_mem_paired table member)
  rw [newTables, keys, Attempt.ok_bind, Value.part_rows_of_isTyped fresh.source
    ObjectClass.database_declares_tables, Attempt.ok_bind, tablesUnder]
  cases sortedOk : migration.scripter.dialect.sortTables false
      (.list (migration.source.rows "tables")) with
  | error failure => rfl
  | ok sorted =>
      have listed := (Dialect.sortTables_subperm tablesTyped sortedOk).subset
      have passes : ∀ table ∈ sorted, (do
          return (((migration.paired .tables).map migration.scripter.dialect.nameOf).map
            Value.nameKey).contains (← migration.tableKey table)) = Except.ok true := by
        intro table member
        rw [tableKey_ok (tablesTyped table (listed member)), Attempt.ok_bind,
          Value.contains_map_nameKey, List.contains_iff_mem.mpr (List.mem_map_of_mem
            ((fresh.paired_perm .tables).mem_iff.mpr (listed member)))]
        rfl
      rw [Attempt.ok_bind, Attempt.filterM_ok passes, List.filter_true]

theorem newKeyPart_eq
    {tables : List Value}
    (created : migration.newTables = .ok tables) :
    migration.newKeyPart [] =
      .ok (MigrationSection.ofItems "Adding constraints and indexes to" "new tables"
        (tables.filter Value.hasKeyRows) .addKeysAndIndexes) := by
  have tablesTyped := tables_isTyped fresh.source
  have listed := (fresh.newTables_subperm created).subset
  rw [newKeyPart, created, Attempt.ok_bind, Attempt.filterM_ok fun table member =>
    Scripter.hasKeys_ok (tablesTyped table (listed member))]
  rfl

theorem newForeignKeyPart_eq
    {tables : List Value}
    (created : migration.newTables = .ok tables) :
    migration.newForeignKeyPart [] =
      .ok (MigrationSection.ofItems "Adding foreign keys to" "new tables"
        (tables.filter Value.hasForeignKeyRows) .addTableForeignKeys) := by
  have tablesTyped := tables_isTyped fresh.source
  have listed := (fresh.newTables_subperm created).subset
  rw [newForeignKeyPart, created, Attempt.ok_bind, Attempt.filterM_ok fun table member =>
    Scripter.hasForeignKeys_ok (tablesTyped table (listed member))]
  rfl

/-- No part drops foreign keys on its own. -/
theorem isQuiet_of_mem_parts
    (phase : Phase) :
    ∀ part ∈ migration.parts phase, part.IsQuiet := by
  have creates := fun kind => droppedForeignKeys_creating
    migration.sourceTypes kind
  have drop := fun kind action => isQuiet_of_nothing (fresh.dropPart_eq kind action)
  have none := List.forall_mem_nil Part.IsQuiet
  cases phase with
  | drops =>
      simp only [parts, dropParts, List.forall_mem_cons]
      exact ⟨drop .views _, drop .triggers _, drop .procedures _,
        isQuiet_of_nothing fresh.dropFunctionPart_eq, isQuiet_of_nothing fresh.dropTablePart_eq,
        drop .sequences _, drop .dataTypes _, none⟩
  | types =>
      simp only [parts, typeParts, List.forall_mem_cons]
      exact ⟨isQuiet_of_ofItems fresh.typePart_eq (creates .dataTypes),
        isQuiet_of_ofItems fresh.sequencePart_eq (creates .sequences), none⟩
  | tables =>
      simp only [parts, tableParts, List.forall_mem_cons]
      refine ⟨migration.isQuiet_of_newTables (fun failure failed => ?_) fun tables created => ?_,
        isQuiet_of_nothing fresh.alterTablePart_eq, none⟩
      · rw [newTablePart, failed]
        rfl
      · exact isQuiet_of_ofItems (newTablePart_eq created) fun _ => rfl
  | constraints =>
      simp only [parts, constraintParts, List.forall_mem_cons]
      refine ⟨migration.isQuiet_of_newTables (fun failure failed => ?_)
        fun tables created => ?_, none⟩
      · rw [newKeyPart, failed]
        rfl
      · exact isQuiet_of_ofItems (fresh.newKeyPart_eq created) fun _ => rfl
  | foreignKeys =>
      simp only [parts, foreignKeyParts, List.forall_mem_cons]
      refine ⟨migration.isQuiet_of_newTables (fun failure failed => ?_) fun tables created => ?_,
        isQuiet_of_nothing fresh.addedForeignKeyPart_eq, none⟩
      · rw [newForeignKeyPart, failed]
        rfl
      · exact isQuiet_of_ofItems (fresh.newForeignKeyPart_eq created) fun _ => rfl
  | programmability =>
      simp only [parts, programmabilityParts, List.forall_mem_cons]
      exact ⟨isQuiet_of_ofItems (fresh.programmabilityPart_eq .functions rfl) (creates _),
        isQuiet_of_ofItems (fresh.programmabilityPart_eq .procedures rfl) (creates _),
        isQuiet_of_ofItems (fresh.programmabilityPart_eq .triggers rfl) (creates _),
        isQuiet_of_ofItems (fresh.programmabilityPart_eq .views rfl) (creates _), none⟩

end IsFresh

end Migration

end SchemaDelta
