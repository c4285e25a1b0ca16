import SchemaDelta.Migration.Generator
import SchemaDelta.Proofs.Comparison.OuterJoin
import SchemaDelta.Proofs.Ddl.CreationOrder
import SchemaDelta.Proofs.Migration.ForeignKeyRows

/-!
# Lists of new and dropped tables

New and dropped tables are found among all tables by their keys.  When the dialect tells the tables
of each database apart, what is found is each table that only one side has, once.
-/

namespace SchemaDelta

open Attempt (bind_eq_ok_iff)
open Value (nameKey)

namespace Dialect

/-- The folded schema and name of an object. -/
def nameOf
    (dialect : Dialect)
    (object : Value) : String × String :=
  (dialect.foldedPart "schema" object, dialect.foldedPart "name" object)

/-- No two tables of a database have names that the dialect takes to be the same. -/
def TellsTablesApart
    (dialect : Dialect)
    (database : Value) : Prop :=
  ((database.rows "tables").map dialect.nameOf).Nodup

instance
    (dialect : Dialect)
    (database : Value) :
    Decidable (dialect.TellsTablesApart database) :=
  inferInstanceAs (Decidable (List.Nodup _))

variable {dialect : Dialect} {database : Value}

theorem TellsTablesApart.nodup_fullNames
    (apart : dialect.TellsTablesApart database) :
    ((database.rows "tables").map Value.fullName).Nodup := by
  refine List.Nodup.of_map
    (fun name => (dialect.foldedName name.1, dialect.foldedName name.2)) ?_
  rwa [List.map_map]

end Dialect

namespace Migration

variable {migration : Migration}

/-! ## Keys -/

theorem tableKey_ok
    {table : Value}
    (typed : table.isTyped .table = true) :
    migration.tableKey table = .ok (nameKey (migration.scripter.dialect.nameOf table)) := by
  rw [tableKey, Value.part_text_of_isTyped typed ObjectClass.table_declares_schema,
    Attempt.ok_bind, Value.part_text_of_isTyped typed ObjectClass.table_declares_name,
    Attempt.ok_bind, Dialect.identifierKey, Dialect.nameKey_text, Attempt.ok_bind,
    Dialect.nameKey_text]
  rfl

/--
What is found under the keys of some tables are the tables of their names, in the order in which the
dialect puts all tables.
-/
private theorem tablesUnder_eq
    {database : Value}
    (typed : database.isTyped .database = true)
    (distinct : ((database.rows "tables").map Value.fullName).Nodup)
    {wanted : List Value}
    (listed : wanted ⊆ database.rows "tables")
    (dropping : Bool) :
    (do
      let keys ← wanted.mapM migration.tableKey
      migration.tablesUnder keys dropping (← database.part "tables")) = (do
        let sorted ← migration.scripter.dialect.sortTables dropping
          (.list (database.rows "tables"))
        return sorted.filter fun table => (wanted.map migration.scripter.dialect.nameOf).contains
          (migration.scripter.dialect.nameOf table)) := by
  have tablesTyped := tables_isTyped typed
  have keys : wanted.mapM migration.tableKey =
      .ok ((wanted.map migration.scripter.dialect.nameOf).map nameKey) := by
    rw [List.map_map]
    exact Attempt.mapM_ok fun table member => tableKey_ok (tablesTyped table (listed member))
  rw [keys, Attempt.ok_bind, Value.part_rows_of_isTyped typed
    ObjectClass.database_declares_tables, Attempt.ok_bind, tablesUnder]
  cases sortedOk : migration.scripter.dialect.sortTables dropping
      (.list (database.rows "tables")) with
  | error failure => rfl
  | ok sorted =>
      have sortedListed := (Dialect.sortTables_perm tablesTyped distinct sortedOk).subset
      refine Attempt.filterM_ok fun table member => ?_
      rw [tableKey_ok (tablesTyped table (sortedListed member)), Attempt.ok_bind,
        Value.contains_map_nameKey]
      rfl

/-- What is found under the keys of some of the tables that are told apart are these tables. -/
private theorem tablesUnder_perm
    {database : Value}
    (typed : database.isTyped .database = true)
    (apart : migration.scripter.dialect.TellsTablesApart database)
    {wanted tables : List Value}
    (listed : wanted ⊆ database.rows "tables")
    (distinct : (wanted.map migration.scripter.dialect.nameOf).Nodup)
    {dropping : Bool}
    (found : (do
      let keys ← wanted.mapM migration.tableKey
      migration.tablesUnder keys dropping (← database.part "tables")) = .ok tables) :
    tables.Perm wanted := by
  rw [tablesUnder_eq typed apart.nodup_fullNames listed] at found
  rcases bind_eq_ok_iff.mp found with ⟨sorted, sortedOk, kept⟩
  cases kept
  have sortedPerm : sorted.Perm (database.rows "tables") :=
    Dialect.sortTables_perm (tables_isTyped typed) apart.nodup_fullNames sortedOk
  have nodupTables : (database.rows "tables").Nodup := List.Nodup.of_map _ apart
  refine (List.perm_ext_iff_of_nodup ((sortedPerm.nodup_iff.mpr nodupTables).filter _)
    (List.Nodup.of_map _ distinct)).mpr fun table => ?_
  rw [List.mem_filter, List.contains_iff_mem, List.mem_map]
  constructor
  · rintro ⟨member, other, otherMember, sameName⟩
    rwa [← List.inj_on_of_nodup_map apart (listed otherMember) (sortedPerm.subset member) sameName]
  · intro member
    exact ⟨sortedPerm.symm.subset (listed member), table, member, rfl⟩

/-! ## Names of pairings -/

/-- The dialects of both databases and of the scripter are the same. -/
theorem matching_of_checkDialects
    (typed : migration.IsTyped)
    (checked : migration.checkDialects = .ok ()) :
    (Comparison.matchingOf migration.source migration.target).nameOf =
      migration.scripter.dialect.nameOf := by
  rcases Value.exists_dialect typed.source with ⟨sourceDialect, sourcePart, sourceGet⟩
  rcases Value.exists_dialect typed.target with ⟨targetDialect, targetPart, targetGet⟩
  rw [Comparison.matchingOf, sourceGet, targetGet]
  simp only [checkDialects, dialectValue, sourcePart, targetPart, Attempt.ok_bind] at checked
  generalize migration.scripter.dialect = dialect at checked ⊢
  -- The check passes only where all three are one dialect.
  cases sourceDialect <;> cases targetDialect <;> cases dialect <;>
    first
    | (cases checked; done)
    | rfl

/-- No two pairings of a kind are about objects of one name. -/
theorem IsTyped.nodup_names
    (typed : migration.IsTyped)
    (checked : migration.checkDialects = .ok ())
    (kind : ObjectKind) :
    ((migration.comparison.pairings kind).map fun pairing =>
      migration.scripter.dialect.nameOf pairing.object).Nodup := by
  have distinct := Comparison.nodup_names typed.source typed.target typed.compared kind
  rwa [matching_of_checkDialects typed checked] at distinct

private theorem IsTyped.nodup_names_filter
    (typed : migration.IsTyped)
    (checked : migration.checkDialects = .ok ())
    (kind : ObjectKind)
    (statuses : List Status) :
    (((migration.pairingsWith kind statuses).map (·.object)).map
      migration.scripter.dialect.nameOf).Nodup := by
  rw [List.map_map]
  exact (typed.nodup_names checked kind).sublist (List.filter_sublist.map _)

/-! ## New and dropped tables -/

theorem eq_onlySource_of_mem
    {kind : ObjectKind}
    {pairing : Pairing}
    (member : pairing ∈ migration.sourceOnly kind) :
    pairing = .onlySource pairing.object := by
  have status := (List.mem_filter.mp member).2
  cases pairing with
  | onlySource source => rfl
  | _ => cases status

theorem eq_onlyTarget_of_mem
    {kind : ObjectKind}
    {pairing : Pairing}
    (member : pairing ∈ migration.targetOnly kind) :
    pairing = .onlyTarget pairing.object := by
  have status := (List.mem_filter.mp member).2
  cases pairing with
  | onlyTarget target => rfl
  | _ => cases status

section Wanted

variable (typed : migration.IsTyped)

include typed

private theorem IsTyped.newTables_eq_tablesUnder :
    migration.newTables = (do
      let keys ← ((migration.sourceOnly .tables).map (·.object)).mapM migration.tableKey
      migration.tablesUnder keys false (← migration.source.part "tables")) ∧
      (migration.sourceOnly .tables).map (·.object) ⊆ migration.source.rows "tables" := by
  have sources : (migration.sourceOnly .tables).map (·.source) =
      (migration.sourceOnly .tables).map (·.object) :=
    List.map_congr_left fun pairing member => by rw [eq_onlySource_of_mem member]; rfl
  refine ⟨by rw [newTables, ← sources, List.mapM_map]; rfl, ?_⟩
  intro table member
  rcases List.mem_map.mp member with ⟨pairing, paired, rfl⟩
  have isOf := typed.isOf_tables (List.mem_of_mem_filter paired)
  rw [eq_onlySource_of_mem paired] at isOf
  exact isOf

private theorem IsTyped.droppedTables_eq_tablesUnder :
    migration.droppedTables = (do
      let keys ← ((migration.targetOnly .tables).map (·.object)).mapM migration.tableKey
      migration.tablesUnder keys true (← migration.target.part "tables")) ∧
      (migration.targetOnly .tables).map (·.object) ⊆ migration.target.rows "tables" := by
  have targets : (migration.targetOnly .tables).map (·.target) =
      (migration.targetOnly .tables).map (·.object) :=
    List.map_congr_left fun pairing member => by rw [eq_onlyTarget_of_mem member]; rfl
  refine ⟨by rw [droppedTables, ← targets, List.mapM_map]; rfl, ?_⟩
  intro table member
  rcases List.mem_map.mp member with ⟨pairing, paired, rfl⟩
  have isOf := typed.isOf_tables (List.mem_of_mem_filter paired)
  rw [eq_onlyTarget_of_mem paired] at isOf
  exact isOf

/-- The new tables are found among all tables of the source in the order of their creation. -/
theorem IsTyped.newTables_eq_filter
    (distinct : ((migration.source.rows "tables").map Value.fullName).Nodup) :
    migration.newTables = (do
      let sorted ← migration.scripter.dialect.sortTables false
        (.list (migration.source.rows "tables"))
      return sorted.filter fun table => (((migration.sourceOnly .tables).map (·.object)).map
        migration.scripter.dialect.nameOf).contains (migration.scripter.dialect.nameOf table)) := by
  rcases typed.newTables_eq_tablesUnder with ⟨equal, listed⟩
  exact equal.trans (tablesUnder_eq typed.source distinct listed false)

/-- The dropped tables are found among all tables of the target in the order of their removal. -/
theorem IsTyped.droppedTables_eq_filter
    (distinct : ((migration.target.rows "tables").map Value.fullName).Nodup) :
    migration.droppedTables = (do
      let sorted ← migration.scripter.dialect.sortTables true
        (.list (migration.target.rows "tables"))
      return sorted.filter fun table => (((migration.targetOnly .tables).map (·.object)).map
        migration.scripter.dialect.nameOf).contains (migration.scripter.dialect.nameOf table)) := by
  rcases typed.droppedTables_eq_tablesUnder with ⟨equal, listed⟩
  exact equal.trans (tablesUnder_eq typed.target distinct listed true)

variable (checked : migration.checkDialects = .ok ()) {tables : List Value}

include checked

/-- The new tables are the tables that only the source has, each once. -/
theorem IsTyped.newTables_perm
    (apart : migration.scripter.dialect.TellsTablesApart migration.source)
    (found : migration.newTables = .ok tables) :
    tables.Perm ((migration.sourceOnly .tables).map (·.object)) := by
  rcases typed.newTables_eq_tablesUnder with ⟨equal, listed⟩
  rw [equal] at found
  exact tablesUnder_perm typed.source apart listed (typed.nodup_names_filter checked _ _) found

/-- The dropped tables are the tables that only the target has, each once. -/
theorem IsTyped.droppedTables_perm
    (apart : migration.scripter.dialect.TellsTablesApart migration.target)
    (found : migration.droppedTables = .ok tables) :
    tables.Perm ((migration.targetOnly .tables).map (·.object)) := by
  rcases typed.droppedTables_eq_tablesUnder with ⟨equal, listed⟩
  rw [equal] at found
  exact tablesUnder_perm typed.target apart listed (typed.nodup_names_filter checked _ _) found

end Wanted

/-! ## Tables of both databases -/

/-- The pairings of tables join the tables of both databases by name. -/
private theorem IsTyped.isOuterJoin_tables
    (typed : migration.IsTyped) :
    (Comparison.matchingOf migration.source migration.target).IsOuterJoin
      (migration.source.rows "tables") (migration.target.rows "tables")
      (migration.comparison.pairings .tables) := by
  rw [Comparison.pairings_of_between typed.source typed.target typed.compared]
  have tablesTyped : ∀ {database : Value}, database.isTyped .database = true →
      ∀ table ∈ database.objectsIn .tables,
        table.isTyped ObjectKind.tables.objectClass = true :=
    fun typed _ member => Value.isTyped_of_mem_objectsIn typed member
  exact NameMatching.pairingsOf_isOuterJoin (tablesTyped typed.source) (tablesTyped typed.target)

/-- Tables of one name that are found for one another. -/
private theorem find?_eq_some_of_apart
    {dialect : Dialect}
    {database table : Value}
    (apart : dialect.TellsTablesApart database)
    (member : table ∈ database.rows "tables")
    {name : String × String}
    (named : dialect.nameOf table = name) :
    (database.rows "tables").find? (fun other => dialect.nameOf other == name) = some table := by
  have isSome : ((database.rows "tables").find?
      (fun other => dialect.nameOf other == name)).isSome = true :=
    List.find?_isSome.mpr ⟨table, member, beq_iff_eq.mpr named⟩
  rcases Option.isSome_iff_exists.mp isSome with ⟨found, foundOk⟩
  have sameName : dialect.nameOf found = name := by
    simpa using List.find?_some foundOk
  rw [foundOk, List.inj_on_of_nodup_map apart (List.mem_of_find?_eq_some foundOk) member
    (sameName.trans named.symm)]

/-- No table of the source has the name of a dropped table. -/
theorem IsTyped.nameOf_ne_of_mem_droppedTables
    (typed : migration.IsTyped)
    (checked : migration.checkDialects = .ok ())
    (apart : migration.scripter.dialect.TellsTablesApart migration.target)
    {tables : List Value}
    (found : migration.droppedTables = .ok tables)
    {table other : Value}
    (member : table ∈ tables)
    (otherMember : other ∈ migration.source.rows "tables") :
    migration.scripter.dialect.nameOf other ≠ migration.scripter.dialect.nameOf table := by
  rcases List.mem_map.mp ((typed.droppedTables_perm checked apart found).subset member) with
    ⟨pairing, paired, rfl⟩
  have sides := typed.isOuterJoin_tables.sides pairing (List.mem_of_mem_filter paired)
  rw [matching_of_checkDialects typed checked] at sides
  have absent : pairing.source? = none := by
    rw [eq_onlyTarget_of_mem paired]
    rfl
  rw [absent] at sides
  simpa using List.find?_eq_none.mp sides.1.symm other otherMember

/-- A table of the target is dropped exactly when no table of the source has its name. -/
theorem IsTyped.mem_droppedTables_iff
    (typed : migration.IsTyped)
    (checked : migration.checkDialects = .ok ())
    (apart : migration.scripter.dialect.TellsTablesApart migration.target)
    {tables : List Value}
    (found : migration.droppedTables = .ok tables)
    {table : Value}
    (member : table ∈ migration.target.rows "tables") :
    table ∈ tables ↔ ∀ other ∈ migration.source.rows "tables",
      migration.scripter.dialect.nameOf other ≠ migration.scripter.dialect.nameOf table := by
  constructor
  · intro dropped other otherMember
    exact typed.nameOf_ne_of_mem_droppedTables checked apart found dropped otherMember
  · intro unmatched
    have join := typed.isOuterJoin_tables
    have matching := matching_of_checkDialects typed checked
    have named : migration.scripter.dialect.nameOf table ∈
        (migration.comparison.pairings .tables).map fun pairing =>
          migration.scripter.dialect.nameOf pairing.object := by
      rw [← matching, join.complete, List.map_append]
      exact List.mem_append_right _ (List.mem_map_of_mem member)
    rcases List.mem_map.mp named with ⟨pairing, paired, ofPairing⟩
    have sides := join.sides pairing paired
    have absent : (migration.source.rows "tables").find? (fun other =>
        migration.scripter.dialect.nameOf other == migration.scripter.dialect.nameOf table) =
          none :=
      List.find?_eq_none.mpr fun other otherMember => by simpa using unmatched other otherMember
    rw [matching, ofPairing, find?_eq_some_of_apart apart member rfl, absent] at sides
    refine (typed.droppedTables_perm checked apart found).symm.subset
      (List.mem_map.mpr ⟨pairing, List.mem_filter.mpr ⟨paired, ?_⟩, ?_⟩)
    · cases pairing with
      | onlyTarget target => rfl
      | _ => cases sides.1
    · cases pairing with
      | onlyTarget target => exact Option.some.inj sides.2
      | _ => cases sides.1

end Migration

end SchemaDelta
