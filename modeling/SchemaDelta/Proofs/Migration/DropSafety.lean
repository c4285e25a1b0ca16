import SchemaDelta.Proofs.Migration.InheritanceOrder

/-!
# Safety of drops

A drop is safe while no table that is there needs what is dropped: no column is of a dropped type,
and no table inherits from a dropped one.  Dropped tables are never in the way of one another.  What
can be in the way are the tables that both databases have, as all drops come before the first table
is altered.
-/

namespace SchemaDelta

open Attempt (bind_eq_ok_iff)

/-! ## Use of types and tables -/

namespace Value

/-- A field holds a text. -/
def holdsText
    (value : Value)
    (name letters : String) : Bool :=
  match value.get name with
  | .text held => held == letters
  | _ => false

/-- A column is of a type that users defined, which is told by its schema and name or by its name. -/
def isOfType
    (column type : Value) : Bool :=
  match column with
  | .object .microsoftSqlColumn _ =>
    (column.get "is_user_defined_type").isTruthy &&
      column.holdsText "user_type_schema" (type.letters "schema") &&
      column.holdsText "data_type" (type.letters "name")
  | .object .postgreSqlColumn _ => column.holdsText "udt_name" (type.letters "name")
  | _ => false

/-- A table has a column of a type. -/
def usesType
    (table type : Value) : Bool :=
  (table.rows "columns").any fun column => column.isOfType type

end Value

/-- A table inherits from another one; only PostgreSQL knows inheritance. -/
def Dialect.Inherits
    (dialect : Dialect)
    (child parent : Value) : Prop :=
  dialect = .postgreSql ∧ child.parentName? = some parent.fullName

instance
    (dialect : Dialect)
    (child parent : Value) :
    Decidable (dialect.Inherits child parent) :=
  inferInstanceAs (Decidable (_ ∧ _))

/-! ## Runs of actions -/

namespace MigrationAction

/-- The type that an action drops; an altered type is dropped before it is created again. -/
def droppedType? : MigrationAction → Option Value
  | changeType _ (.onlyTarget type) => some type
  | changeType _ (.different _ type) => some type
  | _ => none

/-- No table among those that are there needs what an action drops. -/
def IsSafeAmong
    (dialect : Dialect)
    (tables : List Value)
    (action : MigrationAction) : Prop :=
  (∀ type ∈ action.droppedType?.toList, ∀ table ∈ tables, table.usesType type = false) ∧
    ∀ dropped ∈ action.droppedTable?.toList, ∀ table ∈ tables, ¬ dialect.Inherits table dropped

instance
    (dialect : Dialect)
    (tables : List Value)
    (action : MigrationAction) :
    Decidable (action.IsSafeAmong dialect tables) :=
  inferInstanceAs (Decidable (_ ∧ _))

/-- The tables that are there after an action. -/
def tablesAfter
    (dialect : Dialect)
    (tables : List Value) : MigrationAction → List Value
  | dropTable dropped => tables.filter fun table => dialect.nameOf table ≠ dialect.nameOf dropped
  | createTable created => tables ++ [created]
  | alterTable pairing => tables.map fun table =>
    if dialect.nameOf table = dialect.nameOf pairing.target then pairing.source else table
  | _ => tables

end MigrationAction

namespace Dialect

/-- The tables that are there after a run of actions. -/
def tablesAfter
    (dialect : Dialect)
    (tables : List Value)
    (actions : List MigrationAction) : List Value :=
  actions.foldl (fun tables action => action.tablesAfter dialect tables) tables

/-- Every action of a run is safe among the tables that are there when it comes. -/
def RunsSafely
    (dialect : Dialect) : List Value → List MigrationAction → Prop
  | _, [] => True
  | tables, action :: actions =>
    action.IsSafeAmong dialect tables ∧
      RunsSafely dialect (action.tablesAfter dialect tables) actions

instance decidableRunsSafely
    (dialect : Dialect) :
    (tables : List Value) → (actions : List MigrationAction) →
      Decidable (dialect.RunsSafely tables actions)
  | _, [] => inferInstanceAs (Decidable True)
  | tables, action :: actions =>
    have := decidableRunsSafely dialect (action.tablesAfter dialect tables) actions
    inferInstanceAs (Decidable (_ ∧ _))

variable {dialect : Dialect} {tables : List Value} {actions others : List MigrationAction}

theorem runsSafely_append_iff :
    dialect.RunsSafely tables (actions ++ others) ↔
      dialect.RunsSafely tables actions ∧
        dialect.RunsSafely (dialect.tablesAfter tables actions) others := by
  induction actions generalizing tables with
  | nil => simp [RunsSafely, tablesAfter]
  | cons action actions ih =>
      rw [List.cons_append, RunsSafely, RunsSafely, ih, and_assoc]
      rfl

/-- Actions that leave the tables as they are have them all in their way. -/
theorem runsSafely_iff_of_keeping
    (keep : ∀ action ∈ actions, ∀ tables, action.tablesAfter dialect tables = tables) :
    dialect.RunsSafely tables actions ↔
      ∀ action ∈ actions, action.IsSafeAmong dialect tables := by
  induction actions with
  | nil => simp [RunsSafely]
  | cons action actions ih =>
      rcases List.forall_mem_cons.mp keep with ⟨first, rest⟩
      rw [RunsSafely, first, ih rest, List.forall_mem_cons]

theorem tablesAfter_of_keeping
    (keep : ∀ action ∈ actions, ∀ tables, action.tablesAfter dialect tables = tables) :
    dialect.tablesAfter tables actions = tables := by
  induction actions with
  | nil => rfl
  | cons action actions ih =>
      rcases List.forall_mem_cons.mp keep with ⟨first, rest⟩
      rw [tablesAfter, List.foldl_cons, first]
      exact ih rest

/-- Actions that drop neither types nor tables are safe wherever they come. -/
theorem runsSafely_of_dropping_nothing
    (nothing : ∀ action ∈ actions, action.droppedType? = none ∧ action.droppedTable? = none) :
    dialect.RunsSafely tables actions := by
  induction actions generalizing tables with
  | nil => trivial
  | cons action actions ih =>
      rcases List.forall_mem_cons.mp nothing with ⟨⟨noType, noTable⟩, rest⟩
      refine ⟨?_, ih rest⟩
      simp [MigrationAction.IsSafeAmong, noType, noTable]

/-- Dropped tables leave those of other names. -/
theorem tablesAfter_dropTables
    (dropped : List Value) :
    dialect.tablesAfter tables (dropped.map .dropTable) =
      tables.filter fun table => dialect.nameOf table ∉ dropped.map dialect.nameOf := by
  induction dropped generalizing tables with
  | nil => simp [tablesAfter]
  | cons table dropped ih =>
      rw [List.map_cons, tablesAfter, List.foldl_cons]
      refine (ih).trans ?_
      rw [MigrationAction.tablesAfter, List.filter_filter]
      apply List.filter_congr
      intro other _
      simp [Bool.and_comm]

/--
Where children are dropped first, tables are dropped safely exactly when no table that stays inherits
from one of them.
-/
theorem runsSafely_dropTables_iff
    {dropped : List Value}
    (apart : (tables.map dialect.nameOf).Nodup)
    (listed : dropped ⊆ tables)
    (distinct : (dropped.map dialect.nameOf).Nodup)
    (childrenFirst : dropped.Pairwise fun earlier later => ¬ dialect.Inherits later earlier)
    (notOwn : ∀ table ∈ dropped, ¬ dialect.Inherits table table) :
    dialect.RunsSafely tables (dropped.map .dropTable) ↔
      ∀ table ∈ tables, dialect.nameOf table ∉ dropped.map dialect.nameOf →
        ∀ parent ∈ dropped, ¬ dialect.Inherits table parent := by
  induction dropped generalizing tables with
  | nil => simp [RunsSafely]
  | cons first dropped ih =>
      rcases List.cons_subset.mp listed with ⟨firstListed, restListed⟩
      rw [List.map_cons, List.nodup_cons] at distinct
      rw [List.pairwise_cons] at childrenFirst
      rcases List.forall_mem_cons.mp notOwn with ⟨firstNotOwn, restNotOwn⟩
      -- The first dropped table is away when the others are dropped, and nothing else is.
      have remaining : ∀ {table : Value},
          table ∈ (MigrationAction.dropTable first).tablesAfter dialect tables ↔
            table ∈ tables ∧ dialect.nameOf table ≠ dialect.nameOf first := by
        intro table
        simp [MigrationAction.tablesAfter]
      have restRemains : dropped ⊆ (MigrationAction.dropTable first).tablesAfter dialect tables :=
        fun table member => remaining.mpr ⟨restListed member, fun sameName =>
          distinct.1 (sameName ▸ List.mem_map_of_mem member)⟩
      have stillApart : (((MigrationAction.dropTable first).tablesAfter dialect tables).map
          dialect.nameOf).Nodup :=
        apart.sublist (List.filter_sublist.map _)
      have firstSafe : (MigrationAction.dropTable first).IsSafeAmong dialect tables ↔
          ∀ table ∈ tables, ¬ dialect.Inherits table first := by
        simp [MigrationAction.IsSafeAmong, MigrationAction.droppedType?,
          MigrationAction.droppedTable?]
      rw [List.map_cons, RunsSafely, firstSafe,
        ih stillApart restRemains distinct.2 childrenFirst.2 restNotOwn]
      constructor
      · rintro ⟨noHeir, rest⟩ table member stays parent parentMember
        rw [List.map_cons, List.mem_cons, not_or] at stays
        rcases List.mem_cons.mp parentMember with rfl | later
        · exact noHeir table member
        · exact rest table (remaining.mpr ⟨member, stays.1⟩) stays.2 parent later
      · intro safe
        refine ⟨fun table member => ?_, fun table member stays parent parentMember => ?_⟩
        · -- A table with the name of a dropped one is that table.
          by_cases goes : dialect.nameOf table ∈ (first :: dropped).map dialect.nameOf
          · rcases List.mem_map.mp goes with ⟨other, otherMember, sameName⟩
            cases List.inj_on_of_nodup_map apart (listed otherMember) member sameName
            rcases List.mem_cons.mp otherMember with rfl | later
            · exact firstNotOwn
            · exact childrenFirst.1 table later
          · exact safe table member goes first List.mem_cons_self
        · rcases remaining.mp member with ⟨there, otherName⟩
          refine safe table there ?_ parent (List.mem_cons_of_mem first parentMember)
          rw [List.map_cons, List.mem_cons, not_or]
          exact ⟨otherName, stays⟩

end Dialect

namespace Migration

variable {migration : Migration} {contents : PlanContents}

/-! ## Tables that stay -/

/-- The tables of the target whose names the source has, too. -/
def keptTables
    (migration : Migration) : List Value :=
  (migration.target.rows "tables").filter fun table =>
    (migration.source.rows "tables").any fun other =>
      migration.scripter.dialect.nameOf other = migration.scripter.dialect.nameOf table

/-- No table of both databases needs a type or a table that the migration drops. -/
structure SparesKeptTables
    (migration : Migration) : Prop where
  types : ∀ pairing ∈ migration.pairingsWith .dataTypes [.missingInSource, .different],
    ∀ table ∈ migration.keptTables, table.usesType pairing.target = false
  tables : ∀ pairing ∈ migration.targetOnly .tables,
    ∀ table ∈ migration.keptTables, ¬ migration.scripter.dialect.Inherits table pairing.target

section Tables

variable (typed : migration.IsTyped)
  (checked : migration.checkDialects = .ok ())
  (targetApart : migration.scripter.dialect.TellsTablesApart migration.target)
  {tables : List Value}
  (found : migration.droppedTables = .ok tables)

include typed targetApart found

/-- Children are dropped before their parents, and no dropped table is its own parent. -/
private theorem IsTyped.childrenFirst_droppedTables :
    (tables.Pairwise fun earlier later =>
        ¬ migration.scripter.dialect.Inherits later earlier) ∧
      ∀ table ∈ tables, ¬ migration.scripter.dialect.Inherits table table := by
  by_cases onPostgreSql : migration.scripter.dialect = .postgreSql
  · have distinct := targetApart.nodup_fullNames
    have order := typed.putsChildrenFirst_droppedTables onPostgreSql distinct found
    refine ⟨List.Pairwise.imp (fun inOrder inherits => inOrder inherits.2) order,
      fun table member inherits => ?_⟩
    have listed := (typed.droppedTables_subperm found).subset member
    rw [typed.droppedTables_eq_filter distinct, onPostgreSql] at found
    rcases bind_eq_ok_iff.mp found with ⟨sorted, sortedOk, _⟩
    exact (Dialect.isCreationOrder_of_sortTables (tables_isTyped typed.target) distinct
      sortedOk).parentName?_ne_fullName distinct listed inherits.2
  · exact ⟨List.pairwise_of_forall fun _ _ inherits => onPostgreSql inherits.1,
      fun _ _ inherits => onPostgreSql inherits.1⟩

include checked

/-- What stays when the tables are dropped are the tables that both databases have. -/
private theorem IsTyped.mem_keptTables_iff
    {table : Value} :
    table ∈ migration.keptTables ↔ table ∈ migration.target.rows "tables" ∧
      migration.scripter.dialect.nameOf table ∉
        tables.map migration.scripter.dialect.nameOf := by
  rw [keptTables, List.mem_filter]
  refine and_congr_right fun member => ?_
  have named : migration.scripter.dialect.nameOf table ∈
      tables.map migration.scripter.dialect.nameOf ↔ table ∈ tables := by
    refine ⟨fun goes => ?_, List.mem_map_of_mem⟩
    rcases List.mem_map.mp goes with ⟨other, otherMember, sameName⟩
    cases List.inj_on_of_nodup_map targetApart
      ((typed.droppedTables_subperm found).subset otherMember) member sameName
    exact otherMember
  rw [named, typed.mem_droppedTables_iff checked targetApart found member]
  simp

/-- The tables are dropped safely exactly when no table that stays inherits from one of them. -/
private theorem IsTyped.runsSafely_dropTables_iff :
    migration.scripter.dialect.RunsSafely (migration.target.rows "tables")
        (tables.map .dropTable) ↔
      ∀ pairing ∈ migration.targetOnly .tables, ∀ table ∈ migration.keptTables,
        ¬ migration.scripter.dialect.Inherits table pairing.target := by
  have perm := typed.droppedTables_perm checked targetApart found
  have distinct : (tables.map migration.scripter.dialect.nameOf).Nodup :=
    (perm.map _).nodup_iff.mpr (by
      rw [List.map_map]
      exact (typed.nodup_names checked .tables).sublist (List.filter_sublist.map _))
  have order := typed.childrenFirst_droppedTables targetApart found
  rw [Dialect.runsSafely_dropTables_iff targetApart
    (typed.droppedTables_subperm found).subset distinct order.1 order.2]
  constructor
  · intro safe pairing paired table kept
    rcases (typed.mem_keptTables_iff checked targetApart found).mp kept with ⟨member, stays⟩
    have dropped : pairing.target ∈ tables := by
      refine perm.symm.subset (List.mem_map.mpr ⟨pairing, paired, ?_⟩)
      rw [eq_onlyTarget_of_mem paired]
      rfl
    exact safe table member stays _ dropped
  · intro safe table member stays parent parentMember
    rcases List.mem_map.mp (perm.subset parentMember) with ⟨pairing, paired, rfl⟩
    have kept := (typed.mem_keptTables_iff checked targetApart found).mpr ⟨member, stays⟩
    have apart := safe pairing paired table kept
    rw [eq_onlyTarget_of_mem paired] at apart
    exact apart

end Tables

/-! ## Whole runs -/

/-- The actions before the tables are dropped. -/
private def actionsBeforeDrops
    (migration : Migration)
    (contents : PlanContents) : List MigrationAction :=
  (migration.targetOnly .views).map .changeView ++
    (migration.targetOnly .triggers).map .changeTrigger ++
    (migration.targetOnly .procedures).map .changeProcedure ++
    (migration.targetOnly .functions).map (.changeFunction (typesOf [migration.target])) ++
    actionOn .dropForeignKeys contents.droppedRows

/-- The actions about types and sequences, which come behind the drops of tables. -/
private def actionsOnTypes
    (migration : Migration) : List MigrationAction :=
  (migration.targetOnly .sequences).map .changeSequence ++
    (migration.targetOnly .dataTypes).map (.changeType (.list [])) ++
    (migration.changed .dataTypes).map (.changeType (typesOf [migration.source])) ++
    (migration.changed .sequences).map .changeSequence

private theorem flatMap_actionsIn_eq
    (migration : Migration)
    (contents : PlanContents) :
    Phase.all.flatMap (migration.actionsIn contents) =
      migration.actionsBeforeDrops contents ++ (contents.droppedTables.map .dropTable ++
        (migration.actionsOnTypes ++
          [Phase.tables, .constraints, .foreignKeys, .programmability].flatMap
            (migration.actionsIn contents))) := by
  simp only [Phase.all, List.flatMap_cons, List.flatMap_nil, actionsIn, actionsBeforeDrops,
    actionsOnTypes, List.append_assoc, List.append_nil]

private theorem actionsBeforeDrops_silent
    {action : MigrationAction}
    (member : action ∈ migration.actionsBeforeDrops contents) :
    (∀ dialect tables, action.tablesAfter dialect tables = tables) ∧
      action.droppedType? = none ∧ action.droppedTable? = none := by
  simp only [actionsBeforeDrops, List.mem_append, List.mem_map] at member
  rcases member with (((⟨_, _, rfl⟩ | ⟨_, _, rfl⟩) | ⟨_, _, rfl⟩) | ⟨_, _, rfl⟩) | onRows
  on_goal 5 => rw [eq_of_mem_actionOn onRows]
  all_goals exact ⟨fun _ _ => rfl, rfl, rfl⟩

private theorem actionsOnTypes_keep
    {action : MigrationAction}
    (member : action ∈ migration.actionsOnTypes)
    (dialect : Dialect)
    (tables : List Value) :
    action.tablesAfter dialect tables = tables := by
  simp only [actionsOnTypes, List.mem_append, List.mem_map] at member
  rcases member with ((⟨_, _, rfl⟩ | ⟨_, _, rfl⟩) | ⟨_, _, rfl⟩) | ⟨_, _, rfl⟩ <;> rfl

/-- From the phase of the tables on, nothing is dropped that others may need. -/
private theorem laterActions_drop_nothing
    {action : MigrationAction}
    (member : action ∈ [Phase.tables, .constraints, .foreignKeys, .programmability].flatMap
      (migration.actionsIn contents)) :
    action.droppedType? = none ∧ action.droppedTable? = none := by
  simp only [List.flatMap_cons, List.flatMap_nil, actionsIn, List.append_nil, List.mem_append,
    List.mem_map] at member
  rcases member with (⟨_, _, rfl⟩ | onRows | ⟨_, _, rfl⟩) | ⟨_, _, rfl⟩ |
    (⟨_, _, rfl⟩ | onRows) | (((⟨_, _, rfl⟩ | ⟨_, _, rfl⟩) | ⟨_, _, rfl⟩) | ⟨_, _, rfl⟩)
  on_goal 2 => rw [eq_of_mem_actionOn onRows]
  on_goal 6 => rw [eq_of_mem_actionOn onRows]
  all_goals exact ⟨rfl, rfl⟩

/-- The type of a pairing is dropped where the target has it and the source has it not or differs. -/
private theorem isSafeAmong_changeType_iff
    {dialect : Dialect}
    {tables : List Value}
    (types : Value)
    (pairing : Pairing) :
    (MigrationAction.changeType types pairing).IsSafeAmong dialect tables ↔
      ([Status.missingInSource, .different].contains pairing.status = true →
        ∀ table ∈ tables, table.usesType pairing.target = false) := by
  cases pairing <;>
    simp [MigrationAction.IsSafeAmong, MigrationAction.droppedType?,
      MigrationAction.droppedTable?, Pairing.status, Pairing.target]

/-- Types and sequences are changed safely where no table uses a type that is dropped. -/
private theorem runsSafely_actionsOnTypes_iff
    (migration : Migration)
    (dialect : Dialect)
    (tables : List Value) :
    dialect.RunsSafely tables migration.actionsOnTypes ↔
      ∀ pairing ∈ migration.pairingsWith .dataTypes [.missingInSource, .different],
        ∀ table ∈ tables, table.usesType pairing.target = false := by
  have sequences : ∀ pairing,
      (MigrationAction.changeSequence pairing).IsSafeAmong dialect tables := by
    simp [MigrationAction.IsSafeAmong, MigrationAction.droppedType?, MigrationAction.droppedTable?]
  rw [Dialect.runsSafely_iff_of_keeping fun action member tables =>
    actionsOnTypes_keep member dialect tables]
  simp only [actionsOnTypes, List.forall_mem_append, List.forall_mem_map, sequences,
    isSafeAmong_changeType_iff, implies_true, true_and, and_true]
  constructor
  · rintro ⟨dropped, changed⟩ pairing paired
    rcases List.mem_filter.mp paired with ⟨member, status⟩
    cases pairing with
    | onlySource source => cases status
    | onlyTarget target => exact dropped _ (List.mem_filter.mpr ⟨member, rfl⟩) status
    | identical source target => cases status
    | different source target => exact changed _ (List.mem_filter.mpr ⟨member, rfl⟩) status
  · intro safe
    constructor <;> intro pairing paired status <;>
      exact safe pairing (List.mem_filter.mpr ⟨List.mem_of_mem_filter paired, status⟩)

/-- A migration in all phases drops safely exactly when it spares the tables that stay. -/
theorem IsTyped.runsSafely_iff
    (typed : migration.IsTyped)
    (checked : migration.checkDialects = .ok ())
    (targetApart : migration.scripter.dialect.TellsTablesApart migration.target)
    (collects : migration.Collects contents) :
    migration.scripter.dialect.RunsSafely (migration.target.rows "tables")
        (Phase.all.flatMap (migration.actionsIn contents)) ↔
      migration.SparesKeptTables := by
  have found := collects.droppedTables
  have before : migration.scripter.dialect.RunsSafely (migration.target.rows "tables")
      (migration.actionsBeforeDrops contents) :=
    Dialect.runsSafely_of_dropping_nothing fun action member =>
      (actionsBeforeDrops_silent member).2
  have beforeKeep : migration.scripter.dialect.tablesAfter (migration.target.rows "tables")
      (migration.actionsBeforeDrops contents) = migration.target.rows "tables" :=
    Dialect.tablesAfter_of_keeping fun action member =>
      (actionsBeforeDrops_silent member).1 migration.scripter.dialect
  have later : ∀ tables, migration.scripter.dialect.RunsSafely tables
      ([Phase.tables, .constraints, .foreignKeys, .programmability].flatMap
        (migration.actionsIn contents)) :=
    fun _ => Dialect.runsSafely_of_dropping_nothing fun action => laterActions_drop_nothing
  rw [flatMap_actionsIn_eq, Dialect.runsSafely_append_iff, and_iff_right before, beforeKeep,
    Dialect.runsSafely_append_iff, typed.runsSafely_dropTables_iff checked targetApart found,
    Dialect.tablesAfter_dropTables, Dialect.runsSafely_append_iff, and_iff_left (later _),
    runsSafely_actionsOnTypes_iff]
  have kept : ∀ table, table ∈ migration.keptTables ↔
      table ∈ (migration.target.rows "tables").filter fun table =>
        migration.scripter.dialect.nameOf table ∉
          contents.droppedTables.map migration.scripter.dialect.nameOf := by
    intro table
    rw [typed.mem_keptTables_iff checked targetApart found, List.mem_filter, decide_eq_true_eq]
  simp only [← kept]
  exact ⟨fun safe => ⟨safe.2, safe.1⟩, fun spares => ⟨spares.tables, spares.types⟩⟩

end Migration

namespace Generator

variable {generator : Generator}

/--
In a script of all phases every drop of a type or of a table is safe among the tables that are there
when it comes, exactly when no table of both databases has a column of a type that is dropped or
altered, or inherits from a table that is dropped.
-/
theorem drops_safely_iff
    {script : String}
    (typed : generator.migration.IsTyped)
    (targetApart : generator.migration.scripter.dialect.TellsTablesApart generator.migration.target)
    (allPhases : ∀ phase, generator.migration.includes phase = true)
    (generated : generator.generate.1.result = .ok script) :
    ∃ plan dropped,
      generator.migration.planPhases generator.migration.phases [] = .ok (plan, dropped) ∧
        generator.migration.Writes plan script ∧
        (generator.migration.scripter.dialect.RunsSafely
            (generator.migration.target.rows "tables") plan.actions ↔
          generator.migration.SparesKeptTables) := by
  rcases exists_plan_of_generate generated with ⟨plan, dropped, planned, writes⟩
  refine ⟨plan, dropped, planned, writes, ?_⟩
  rw [Migration.phases_eq_all allPhases] at planned
  rcases typed.exists_contents planned with ⟨contents, collects, phases⟩
  rw [Migration.actions_eq_of_phases phases]
  exact typed.runsSafely_iff (checkDialects_of_generate generated) targetApart collects

/-- An enumerated type of PostgreSQL. -/
private def enumeratedType : Value :=
  .filled .postgreSqlDataTypeEnumerated [
    ("name", .text "e"), ("schema", .text "public"), ("labels", .list [.text "a"])]

/-- A table with a column of the type. -/
private def enumeratingTable : Value :=
  .plainTable "t" [.filled .postgreSqlColumn [
    ("name", .text "c"), ("data_type", .text "USER-DEFINED"), ("udt_name", .text "e"),
    ("ordinal_position", .int 1)]] [] [] []

/-- A database with some tables and the type. -/
private def enumeratingDatabase
    (tables : List Value) : Value :=
  .filled .database [
    ("name", .text "d"), ("dialect", .member (.dialect .postgreSql)), ("tables", .list tables),
    ("data_types", .list [enumeratedType])]

/-- The migration in all phases from a database with the type to one without it. -/
private def retiringType
    (source target : List Value) : Generator :=
  between (.plainDatabase "s" source) (enumeratingDatabase target)

/-- The type is dropped together with the one table that uses it, while another table stays. -/
private def retiringWithTable : Generator :=
  retiringType [.plainTable "k" [] [] [] []] [.plainTable "k" [] [] [] [], enumeratingTable]

/-- The table is dropped before its type. -/
theorem drops_safely_with_table :
    retiringWithTable.migration.IsTyped ∧
      ∃ script plan dropped, retiringWithTable.generate.1.result = .ok script ∧
        retiringWithTable.migration.planPhases retiringWithTable.migration.phases [] =
          .ok (plan, dropped) ∧
        retiringWithTable.migration.SparesKeptTables ∧
        (plan.actions.filterMap MigrationAction.droppedTable?).map (·.letters "name") = ["t"] ∧
        (plan.actions.filterMap MigrationAction.droppedType?).map (·.letters "name") = ["e"] := by
  have typed : retiringWithTable.migration.IsTyped :=
    between_isTyped (by decide +kernel) (by decide +kernel) (by decide +kernel)
  have generates : retiringWithTable.generate.1.result.toOption.isSome = true := by
    decide +kernel
  rcases Attempt.exists_ok_of_isSome generates with ⟨script, generated, _⟩
  rcases drops_safely_iff typed (by decide +kernel) (fun _ => rfl) generated with
    ⟨plan, dropped, planned, _, safely⟩
  have run :
      (retiringWithTable.migration.planPhases retiringWithTable.migration.phases []).toOption.map
        (fun planned => (decide (Dialect.postgreSql.RunsSafely
            (retiringWithTable.migration.target.rows "tables") planned.1.actions),
          (planned.1.actions.filterMap MigrationAction.droppedTable?).map (·.letters "name"),
          (planned.1.actions.filterMap MigrationAction.droppedType?).map (·.letters "name"))) =
      some (true, ["t"], ["e"]) := by
    decide +kernel
  rw [planned] at run
  rcases Prod.mk.inj (Option.some.inj run) with ⟨safe, names⟩
  rcases Prod.mk.inj names with ⟨tableNames, typeNames⟩
  exact ⟨typed, script, plan, dropped, generated, planned,
    safely.mp (of_decide_eq_true safe), tableNames, typeNames⟩

/-- The type is dropped, while its table stays with a column of another type. -/
private def retiringFromTable : Generator :=
  retiringType [.plainTable "t" [.plainColumn "c" "text" 1] [] [] []] [enumeratingTable]

/--
The type is dropped while the table still has the column of it, which is altered only later; the
source has no use of the type.
-/
theorem drops_type_in_use :
    retiringFromTable.migration.IsTyped ∧
      retiringFromTable.migration.scripter.dialect.TellsTablesApart
        retiringFromTable.migration.target ∧
      (∀ phase, retiringFromTable.migration.includes phase = true) ∧
      (∀ table ∈ retiringFromTable.migration.source.rows "tables",
        table.parentName? = none ∧
          ∀ type ∈ retiringFromTable.migration.target.rows "data_types",
            table.usesType type = false) ∧
      ∃ script plan dropped, retiringFromTable.generate.1.result = .ok script ∧
        retiringFromTable.migration.planPhases retiringFromTable.migration.phases [] =
          .ok (plan, dropped) ∧
        retiringFromTable.migration.Writes plan script ∧
        ¬ Dialect.postgreSql.RunsSafely (retiringFromTable.migration.target.rows "tables")
          plan.actions := by
  have typed : retiringFromTable.migration.IsTyped :=
    between_isTyped (by decide +kernel) (by decide +kernel) (by decide +kernel)
  have generates : retiringFromTable.generate.1.result.toOption.isSome = true := by
    decide +kernel
  rcases Attempt.exists_ok_of_isSome generates with ⟨script, generated, _⟩
  rcases exists_plan_of_generate generated with ⟨plan, dropped, planned, writes⟩
  have run :
      (retiringFromTable.migration.planPhases retiringFromTable.migration.phases []).toOption.map
        (fun planned => decide (Dialect.postgreSql.RunsSafely
          (retiringFromTable.migration.target.rows "tables") planned.1.actions)) =
      some false := by
    decide +kernel
  rw [planned] at run
  exact ⟨typed, by decide +kernel, fun _ => rfl, by decide +kernel, script, plan, dropped,
    generated, planned, writes, of_decide_eq_false (Option.some.inj run)⟩

end Generator

end SchemaDelta
