import Mathlib.Data.List.Nodup
import SchemaDelta.Proofs.Ddl.Lineage
import SchemaDelta.Proofs.Value.Filled
import SchemaDelta.Proofs.Value.Ranking

/-!
# Orders of creation

Tables are taken up by schema and name, and each is placed right behind those of its line that have
no place yet.  If every table has a line of ancestors, all tables get a place and every parent comes
before its children; otherwise there is no order.
-/

namespace SchemaDelta

namespace Inheritance

open Relation (ReflTransGen TransGen)
open Attempt (bind_eq_ok_iff)
open Value (listing nameKey)

variable {tables : List Value} {table : Value} {line : List Value}

/-! ## Placing -/

/-- What tables that are placed so far have in common with every order of creation. -/
structure IsPlaced
    (tables known : List Value) : Prop where
  listed : known ⊆ tables
  distinct : (known.map Value.fullName).Nodup
  held : HoldsLineages tables known
  /-- Parents come first. -/
  ordered : ∀ {before after : List Value} {child : Value}, known = before ++ child :: after →
    ∀ {name : String × String}, child.parentName? = some name →
      ∃ parent ∈ before, parent.fullName = name

theorem isPlaced_nil
    (tables : List Value) :
    IsPlaced tables [] where
  listed := List.nil_subset _
  distinct := List.nodup_nil
  held := fun _ => List.not_mem_nil.elim
  ordered := fun split => by simp at split

private theorem mem_known_or_newAmong
    (distinct : (tables.map Value.fullName).Nodup)
    {known : List Value}
    (listed : known ⊆ tables)
    (lineListed : line ⊆ tables)
    (member : table ∈ line) :
    table ∈ known ++ newAmong known line := by
  by_cases known_table : table.fullName ∈ known.map Value.fullName
  · rcases List.mem_map.mp known_table with ⟨other, otherMember, sameName⟩
    cases List.inj_on_of_nodup_map distinct (listed otherMember) (lineListed member) sameName
    exact List.mem_append_left _ otherMember
  · exact List.mem_append_right _ (List.mem_filter.mpr ⟨member, by simpa using known_table⟩)

/-- Where the tables of a line are placed, parents come first. -/
private theorem exists_parent_of_newAmong
    (distinct : (tables.map Value.fullName).Nodup)
    {known before after : List Value}
    (listed : known ⊆ tables)
    (lineage : Lineage tables table line)
    {child : Value}
    (split : newAmong known line = before ++ child :: after)
    {name : String × String}
    (inherits : child.parentName? = some name) :
    ∃ parent ∈ known ++ before, parent.fullName = name := by
  rcases List.filter_eq_append_iff.mp split with ⟨front, back, rfl, rfl, backNew⟩
  rcases List.filter_eq_cons_iff.mp backNew with ⟨skipped, later, rfl, noneNew, _, _⟩
  have lineSplit : front ++ (skipped ++ child :: later) = (front ++ skipped) ++ child :: later :=
    (List.append_assoc _ _ _).symm
  rcases lineage.exists_parent lineSplit inherits with ⟨parent, parentMember, sameName⟩
  refine ⟨parent, ?_, sameName⟩
  have skippedKnown : newAmong known skipped = [] := List.filter_eq_nil_iff.mpr noneNew
  have frontListed : front ++ skipped ⊆ tables := fun _ member =>
    lineage.subset (lineSplit ▸ List.mem_append_left _ member)
  have placed := mem_known_or_newAmong distinct listed frontListed parentMember
  rwa [newAmong_append, skippedKnown, List.append_nil] at placed

/-- Placing a table behind those of its line that have no place yet keeps all of this. -/
theorem IsPlaced.append_lineage
    (distinct : (tables.map Value.fullName).Nodup)
    {known : List Value}
    (placed : IsPlaced tables known)
    (lineage : Lineage tables table line) :
    IsPlaced tables (known ++ newAmong known line) where
  listed :=
    List.append_subset.mpr ⟨placed.listed,
      List.Subset.trans (List.filter_subset_self _) lineage.subset⟩
  distinct := by
    rw [List.map_append, List.nodup_append]
    refine ⟨placed.distinct,
      (lineage.nodup distinct).sublist (List.filter_sublist.map Value.fullName), ?_⟩
    rintro _ old _ new rfl
    rcases List.mem_map.mp new with ⟨other, otherMember, rfl⟩
    have fresh := (List.mem_filter.mp otherMember).2
    simp only [decide_eq_true_eq] at fresh
    exact fresh old
  held := by
    intro other member
    rcases List.mem_append.mp member with old | new
    · rcases placed.held other old with ⟨otherLine, otherLineage, inKnown⟩
      exact ⟨otherLine, otherLineage, fun _ found => List.mem_append_left _ (inKnown found)⟩
    · rcases lineage.of_mem (List.mem_of_mem_filter new) with ⟨before, after, split, otherLineage⟩
      refine ⟨_, otherLineage, fun ancestor ancestorMember => ?_⟩
      apply mem_known_or_newAmong distinct placed.listed lineage.subset
      rw [split]
      rcases List.mem_append.mp ancestorMember with earlier | here
      · exact List.mem_append_left _ earlier
      · cases List.mem_singleton.mp here
        simp
  ordered := by
    intro before after child split name inherits
    rcases List.append_eq_append_iff.mp split with ⟨between, rfl, inNew⟩ | ⟨between, rfl, rest⟩
    · exact exists_parent_of_newAmong distinct placed.listed lineage inNew inherits
    · cases between with
      | nil =>
          have inNew : newAmong (before ++ []) line = [] ++ child :: after := rest.symm
          have parent := exists_parent_of_newAmong distinct placed.listed lineage inNew inherits
          rwa [List.append_nil, List.append_nil] at parent
      | cons first between =>
          cases rest
          exact placed.ordered rfl inherits

private theorem map_key_entryOf
    (tables : List Value) :
    (tables.map entryOf).map (·.key) = (tables.map Value.fullName).map nameKey := by
  rw [List.map_map, List.map_map]
  rfl

private theorem map_table_entryOf
    (tables : List Value) :
    (tables.map entryOf).map (·.table) = tables := by
  rw [List.map_map]
  exact List.map_id _

/-- Tables placed one after the other, each behind those of its line that have no place yet. -/
def placeLines
    (lineage : Value → List Value)
    (known visits : List Value) : List Value :=
  visits.foldl (fun known table => known ++ newAmong known (lineage table)) known

/-- A run that places all visited tables gives every one of them its line. -/
private theorem place_entryOf
    (typed : ∀ table ∈ tables, table.isTyped .table = true)
    (distinct : (tables.map Value.fullName).Nodup)
    {known visits : List Value}
    (placed : IsPlaced tables known)
    (listed : visits ⊆ tables)
    {created : List KeyedTable}
    (run : place (tables.map entryOf) (known.map entryOf) (visits.map entryOf) = .ok created) :
    (∀ table ∈ visits, ∃ line, Lineage tables table line) ∧
      ∀ lineage : Value → List Value, (∀ table ∈ visits, Lineage tables table (lineage table)) →
        created = (placeLines lineage known visits).map entryOf ∧
          IsPlaced tables (placeLines lineage known visits) := by
  induction visits generalizing known with
  | nil =>
      cases run
      exact ⟨fun _ => List.not_mem_nil.elim, fun _ _ => ⟨rfl, placed⟩⟩
  | cons table visits ih =>
      rcases List.cons_subset.mp listed with ⟨tableListed, visitsListed⟩
      rw [List.map_cons, place] at run
      rcases bind_eq_ok_iff.mp run with ⟨added, addedOk, continued⟩
      rw [map_key_entryOf, map_key_entryOf] at addedOk
      rcases exists_lineage_of_chain typed distinct placed.listed placed.held tableListed addedOk
        with ⟨line, tableLineage, rfl⟩
      rw [← List.map_append] at continued
      rcases ih (placed.append_lineage distinct tableLineage) visitsListed continued with
        ⟨linesExist, arePlaced⟩
      refine ⟨List.forall_mem_cons.mpr ⟨⟨line, tableLineage⟩, linesExist⟩, ?_⟩
      intro lineage isLineage
      rcases List.forall_mem_cons.mp isLineage with ⟨ofTable, ofVisits⟩
      rw [placeLines, List.foldl_cons, ofTable.unique distinct tableLineage]
      exact arePlaced lineage ofVisits

/-- A run that fails meets a lost table. -/
private theorem isLost_of_place
    (typed : ∀ table ∈ tables, table.isTyped .table = true)
    (distinct : (tables.map Value.fullName).Nodup)
    {known visits : List Value}
    (listed : visits ⊆ tables)
    {failure : ScriptFailure}
    (failed : place (tables.map entryOf) (known.map entryOf) (visits.map entryOf) =
      .error failure)
    (placed : IsPlaced tables known) :
    (∃ table ∈ visits, IsLost tables table) ∧ failure.family = .unresolvedDependency := by
  induction visits generalizing known with
  | nil => cases failed
  | cons table visits ih =>
      rcases List.cons_subset.mp listed with ⟨tableListed, visitsListed⟩
      rw [List.map_cons, place, map_key_entryOf, map_key_entryOf] at failed
      cases run : chain (tables.map entryOf) ((known.map Value.fullName).map nameKey)
          ((tables.map Value.fullName).map nameKey) (entryOf table) with
      | error reason =>
          rw [run] at failed
          cases failed
          have unmet : ∀ other ∈ tables, other.fullName ∉ tables.map Value.fullName →
              TransGen (InheritsAmong tables) other table :=
            fun other member outside => absurd (List.mem_map_of_mem member) outside
          rcases isLost_of_chain typed distinct tableListed unmet run with ⟨lost, family⟩
          exact ⟨⟨table, List.mem_cons_self, lost⟩, family⟩
      | ok added =>
          rcases exists_lineage_of_chain typed distinct placed.listed placed.held tableListed run
            with ⟨line, tableLineage, rfl⟩
          rw [run, Attempt.ok_bind, ← List.map_append] at failed
          rcases ih visitsListed failed (placed.append_lineage distinct tableLineage) with
            ⟨⟨other, otherMember, lost⟩, family⟩
          exact ⟨⟨other, List.mem_cons_of_mem table otherMember, lost⟩, family⟩

/-! ## Orders of creation -/

/-- The order in which the tables of a list are created. -/
def creation
    (tables : List Value) : Attempt (List Value) := do
  createOrder (← listed (.list tables))

/-- The order in which the tables of a list are dropped. -/
def removal
    (tables : List Value) : Attempt (List Value) := do
  dropOrder (← listed (.list tables))

private theorem Lineage.mono
    {others : List Value}
    (subset : tables ⊆ others)
    (lineage : Lineage tables table line) :
    Lineage others table line := by
  induction lineage with
  | root listed free => exact .root (subset listed) free
  | child listed inherits _ ih => exact .child (subset listed) inherits ih

private theorem isLost_congr
    {others : List Value}
    (perm : others.Perm tables) :
    IsLost others table ↔ IsLost tables table := by
  have sameStep : InheritsAmong others = InheritsAmong tables := by
    funext child parent
    rw [InheritsAmong, InheritsAmong, perm.mem_iff]
  simp only [IsLost, sameStep, perm.mem_iff]

/-- Tables without parents are placed as they are visited. -/
private theorem placeLines_of_roots
    {lineage : Value → List Value}
    {known visits : List Value}
    (roots : ∀ table ∈ visits, lineage table = [table])
    (distinct : ((known ++ visits).map Value.fullName).Nodup) :
    placeLines lineage known visits = known ++ visits := by
  induction visits generalizing known with
  | nil => exact (List.append_nil known).symm
  | cons table visits ih =>
      rcases List.forall_mem_cons.mp roots with ⟨root, otherRoots⟩
      have fresh : table.fullName ∉ known.map Value.fullName := by
        rw [List.map_append, List.nodup_append] at distinct
        exact fun old => distinct.2.2 _ old _ (by simp) rfl
      rw [List.append_cons] at distinct ⊢
      rw [placeLines, List.foldl_cons, root, newAmong_singleton fresh]
      exact ih otherRoots distinct

/-- An order of creation: parents come first, and tables are taken up by schema and name. -/
structure IsCreationOrder
    (tables created : List Value) : Prop where
  perm : created.Perm tables
  parentsFirst : ∀ {before after : List Value} {child : Value}, created = before ++ child :: after →
    ∀ {name : String × String}, child.parentName? = some name →
      ∃ parent ∈ before, parent.fullName = name
  /-- Every visited table comes right behind those of its line that were not placed before. -/
  inTurn : ∃ (visits : List Value) (lineage : Value → List Value),
    visits.Perm tables ∧
      (visits.Pairwise fun left right => toLex left.fullName < toLex right.fullName) ∧
      (∀ table ∈ tables, Lineage tables table (lineage table)) ∧
      created = placeLines lineage [] visits

private theorem subset_placeLines
    (lineage : Value → List Value)
    (known visits : List Value) :
    known ⊆ placeLines lineage known visits := by
  induction visits generalizing known with
  | nil => exact List.Subset.refl _
  | cons table visits ih =>
      exact List.Subset.trans (List.subset_append_left _ _) (ih (known ++ newAmong known _))

/-- Every visited table has a place in the end. -/
private theorem visits_subset_placeLines
    (distinct : (tables.map Value.fullName).Nodup)
    {lineage : Value → List Value}
    {known visits : List Value}
    (listed : known ⊆ tables)
    (isLineage : ∀ table ∈ visits, Lineage tables table (lineage table)) :
    visits ⊆ placeLines lineage known visits := by
  induction visits generalizing known with
  | nil => exact List.nil_subset _
  | cons table visits ih =>
      rcases List.forall_mem_cons.mp isLineage with ⟨ofTable, ofVisits⟩
      have listedNext : known ++ newAmong known (lineage table) ⊆ tables :=
        List.append_subset.mpr ⟨listed,
          List.Subset.trans (List.filter_subset_self _) ofTable.subset⟩
      refine List.cons_subset.mpr ⟨?_, ih listedNext ofVisits⟩
      exact subset_placeLines lineage _ visits
        (mem_known_or_newAmong distinct listed ofTable.subset ofTable.table_mem)

private theorem creation_eq
    (typed : ∀ table ∈ tables, table.isTyped .table = true) :
    creation tables = (do
      let placed ← place ((Value.sortedOn listing tables).map entryOf) []
        ((Value.sortedOn listing tables).map entryOf)
      return placed.map (·.table)) := by
  rw [creation, listed_ok typed]
  rfl

private theorem removal_eq
    (typed : ∀ table ∈ tables, table.isTyped .table = true) :
    removal tables = (do return (← creation tables).reverse) := by
  rw [removal, creation, listed_ok typed]
  rfl

/-- Without an order, a table is lost. -/
private theorem isLost_of_creation
    (typed : ∀ table ∈ tables, table.isTyped .table = true)
    (distinct : (tables.map Value.fullName).Nodup)
    {failure : ScriptFailure}
    (failed : creation tables = .error failure) :
    (∃ table ∈ tables, IsLost tables table) ∧ failure.family = .unresolvedDependency := by
  have perm := Value.sortedOn_perm listing tables
  rw [creation_eq typed] at failed
  cases run : place ((Value.sortedOn listing tables).map entryOf) []
      ((Value.sortedOn listing tables).map entryOf) with
  | ok placed =>
      rw [run] at failed
      cases failed
  | error reason =>
      rw [run] at failed
      cases failed
      have runFromNone : place ((Value.sortedOn listing tables).map entryOf)
          (([] : List Value).map entryOf) ((Value.sortedOn listing tables).map entryOf) =
            .error failure := run
      rcases isLost_of_place (fun table member => typed table (perm.mem_iff.mp member))
          ((perm.map Value.fullName).nodup_iff.mpr distinct) (List.Subset.refl _) runFromNone
          (isPlaced_nil _) with
        ⟨⟨table, member, lost⟩, family⟩
      exact ⟨⟨table, perm.mem_iff.mp member, (isLost_congr perm).mp lost⟩, family⟩

/-- Where there is an order, every table has its line, and the lines determine the order. -/
private theorem isCreationOrder_of_creation
    (typed : ∀ table ∈ tables, table.isTyped .table = true)
    (distinct : (tables.map Value.fullName).Nodup)
    {created : List Value}
    (succeeds : creation tables = .ok created) :
    IsCreationOrder tables created := by
  have perm := Value.sortedOn_perm listing tables
  have sortedDistinct := (perm.map Value.fullName).nodup_iff.mpr distinct
  rw [creation_eq typed] at succeeds
  rcases bind_eq_ok_iff.mp succeeds with ⟨placed, run, equal⟩
  cases equal
  rcases place_entryOf (fun table member => typed table (perm.mem_iff.mp member)) sortedDistinct
      (isPlaced_nil _) (List.Subset.refl _) run with
    ⟨linesExist, arePlaced⟩
  choose! lineage isLineage using linesExist
  rcases arePlaced lineage isLineage with ⟨rfl, isPlaced⟩
  have complete : Value.sortedOn listing tables ⊆
      placeLines lineage [] (Value.sortedOn listing tables) :=
    visits_subset_placeLines sortedDistinct (List.nil_subset _) isLineage
  rw [map_table_entryOf]
  refine ⟨?_, isPlaced.ordered, Value.sortedOn listing tables, lineage, perm,
    Value.listing_ranksBy.sortedOn_pairwise_lt distinct,
    fun table member => (isLineage table (perm.mem_iff.mpr member)).mono perm.subset, rfl⟩
  refine ((List.perm_ext_iff_of_nodup isPlaced.distinct.of_map sortedDistinct.of_map).mpr
    fun table => ?_).trans perm
  exact ⟨fun member => isPlaced.listed member, fun member => complete member⟩

private theorem creation_error_iff
    (typed : ∀ table ∈ tables, table.isTyped .table = true)
    (distinct : (tables.map Value.fullName).Nodup) :
    (∃ failure, creation tables = .error failure) ↔ ∃ table ∈ tables, IsLost tables table := by
  constructor
  · rintro ⟨failure, failed⟩
    exact (isLost_of_creation typed distinct failed).1
  · rintro ⟨table, member, lost⟩
    cases run : creation tables with
    | error failure => exact ⟨failure, rfl⟩
    | ok created =>
        rcases (isCreationOrder_of_creation typed distinct run).inTurn with
          ⟨_, lineage, _, _, isLineage, _⟩
        exact absurd lost ((isLineage table member).not_isLost distinct)

/-- Tables without parents are created by schema and name. -/
private theorem creation_of_roots
    (typed : ∀ table ∈ tables, table.isTyped .table = true)
    (distinct : (tables.map Value.fullName).Nodup)
    (roots : ∀ table ∈ tables, table.parentName? = none) :
    creation tables = .ok (Value.sortedOn listing tables) := by
  cases run : creation tables with
  | error failure =>
      rcases (isLost_of_creation typed distinct run).1 with ⟨table, member, lost⟩
      exact absurd lost ((Lineage.root member (roots table member)).not_isLost distinct)
  | ok created =>
      rcases (isCreationOrder_of_creation typed distinct run).inTurn with
        ⟨visits, lineage, perm, ordered, isLineage, rfl⟩
      have lines : ∀ table ∈ visits, lineage table = [table] := fun table member =>
        (isLineage table (perm.mem_iff.mp member)).unique distinct
          (.root (perm.mem_iff.mp member) (roots table (perm.mem_iff.mp member)))
      have distinctVisits : (([] ++ visits).map Value.fullName).Nodup :=
        (perm.map Value.fullName).nodup_iff.mpr distinct
      rw [placeLines_of_roots lines distinctVisits, List.nil_append]
      refine congrArg Except.ok (List.Perm.eq_of_pairwise ?_ ordered
        (Value.listing_ranksBy.sortedOn_pairwise_lt distinct)
        (perm.trans (Value.sortedOn_perm listing tables).symm))
      intro left right _ _ above below
      exact absurd above (lt_asymm below)

/-- Without parents the shortcut of sorting by schema and name changes nothing. -/
private theorem sortTables_postgreSql
    (typed : ∀ table ∈ tables, table.isTyped .table = true)
    (distinct : (tables.map Value.fullName).Nodup)
    (dropping : Bool) :
    Dialect.postgreSql.sortTables dropping (.list tables) =
      if dropping then removal tables else creation tables := by
  have reads : ∀ entry ∈ (Value.sortedOn listing tables).map entryOf,
      (do return !(← entry.table.parentKey).isNull : Attempt Bool) =
        .ok entry.table.parentName?.isSome := by
    intro entry member
    rcases List.mem_map.mp member with ⟨table, tableMember, rfl⟩
    rw [entryOf, Value.parentKey_ok (typed table (Value.mem_sortedOn.mp tableMember))]
    cases table.parentName? with
    | none => rfl
    | some name => rfl
  have dependencies : hasDependencies ((Value.sortedOn listing tables).map entryOf) =
      .ok (((Value.sortedOn listing tables).map entryOf).any fun entry =>
        entry.table.parentName?.isSome) :=
    Attempt.anyM_ok reads
  have listedTables : listed (.list tables) =
      .ok ((Value.sortedOn listing tables).map entryOf) := listed_ok typed
  have asOrder : Dialect.postgreSql.sortTables dropping (.list tables) =
      order dropping (.list tables) := by
    rw [Dialect.sortTables, if_pos rfl]
  rw [asOrder, order, listedTables, Attempt.ok_bind, dependencies, Attempt.ok_bind]
  split
  · rw [removal, creation, listedTables]
    rfl
  · rename_i free
    have roots : ∀ table ∈ tables, table.parentName? = none := by
      intro table member
      by_contra inherits
      exact free (List.any_eq_true.mpr ⟨entryOf table,
        List.mem_map_of_mem (Value.mem_sortedOn.mpr member),
        Option.isSome_iff_ne_none.mpr inherits⟩)
    have created := creation_of_roots typed distinct roots
    have removed : removal tables = .ok (Value.sortedOn listing tables).reverse := by
      rw [creation, listedTables, Attempt.ok_bind] at created
      rw [removal, listedTables, Attempt.ok_bind, dropOrder, created]
      rfl
    rw [map_table_entryOf, created, removed]
    cases dropping with
    | true => rfl
    | false => rfl

/-- No table stands before its parent. -/
def PutsParentsFirst
    (tables : List Value) : Prop :=
  tables.Pairwise fun earlier later => earlier.parentName? ≠ some later.fullName

/-- No table stands behind its parent. -/
def PutsChildrenFirst
    (tables : List Value) : Prop :=
  tables.Pairwise fun earlier later => later.parentName? ≠ some earlier.fullName

namespace IsCreationOrder

variable {created : List Value}

/-- A table that has a place in an order of creation does not inherit from itself. -/
theorem parentName?_ne_fullName
    (distinct : (tables.map Value.fullName).Nodup)
    (order : IsCreationOrder tables created)
    (member : table ∈ tables) :
    table.parentName? ≠ some table.fullName := by
  intro inherits
  rcases List.mem_iff_append.mp (order.perm.mem_iff.mpr member) with ⟨before, after, split⟩
  rcases order.parentsFirst split inherits with ⟨parent, parentMember, sameName⟩
  have createdDistinct := (order.perm.map Value.fullName).nodup_iff.mpr distinct
  rw [split, List.map_append, List.nodup_append] at createdDistinct
  exact createdDistinct.2.2 _ (List.mem_map_of_mem parentMember) _
    (List.mem_map_of_mem List.mem_cons_self) sameName

theorem putsParentsFirst
    (distinct : (tables.map Value.fullName).Nodup)
    (order : IsCreationOrder tables created) :
    PutsParentsFirst created := by
  rw [PutsParentsFirst, List.pairwise_iff_forall_sublist]
  intro earlier later inTurn inherits
  rcases List.cons_sublist_iff.mp inTurn with ⟨front, back, split, earlierMember, laterMember⟩
  rcases List.mem_iff_append.mp earlierMember with ⟨before, after, rfl⟩
  have splitAt : created = before ++ earlier :: (after ++ back) := by
    rw [split, List.append_assoc, List.cons_append]
  rcases order.parentsFirst splitAt inherits with ⟨parent, parentMember, sameName⟩
  have createdDistinct := (order.perm.map Value.fullName).nodup_iff.mpr distinct
  rw [split, List.map_append, List.nodup_append] at createdDistinct
  exact createdDistinct.2.2 _
    (List.mem_map_of_mem (List.mem_append_left _ parentMember)) _
    (List.mem_map_of_mem (List.singleton_sublist.mp laterMember)) sameName

end IsCreationOrder

theorem putsChildrenFirst_reverse
    (order : PutsParentsFirst tables) :
    PutsChildrenFirst tables.reverse :=
  List.pairwise_reverse.mpr order

/--
Tables are put into an order of creation unless one of them is lost.  The order does not depend on
that of the tables, dropping reverses it, and sorting by schema and name where no table inherits
gives the same.
-/
structure Resolves
    (tables : List Value) : Prop where
  fails_iff : (∃ failure, creation tables = .error failure) ↔ ∃ table ∈ tables, IsLost tables table
  family : ∀ failure, creation tables = .error failure → failure.family = .unresolvedDependency
  order : ∀ created, creation tables = .ok created → IsCreationOrder tables created
  congr : ∀ others : List Value, others.Perm tables → creation others = creation tables
  reverse : removal tables = (do return (← creation tables).reverse)
  shortcut : ∀ dropping, Dialect.postgreSql.sortTables dropping (.list tables) =
    if dropping then removal tables else creation tables

/-- Tables of different schemas and names are resolved. -/
theorem resolves_of_distinct
    (typed : ∀ table ∈ tables, table.isTyped .table = true)
    (distinct : (tables.map Value.fullName).Nodup) :
    Resolves tables where
  fails_iff := creation_error_iff typed distinct
  family := fun _ failed => (isLost_of_creation typed distinct failed).2
  order := fun _ succeeds => isCreationOrder_of_creation typed distinct succeeds
  congr := by
    intro others perm
    have othersTyped : ∀ table ∈ others, table.isTyped .table = true :=
      fun table member => typed table (perm.mem_iff.mp member)
    have ranksDiffer : (others.map Value.listingRank).Nodup :=
      (perm.map Value.listingRank).nodup_iff.mpr distinct
    rw [creation_eq othersTyped, creation_eq typed,
      Value.listing_ranksBy.sortedOn_congr perm ranksDiffer]
  reverse := removal_eq typed
  shortcut := sortTables_postgreSql typed distinct

/-- A table of PostgreSQL that inherits from another one of its schema. -/
def heir
    (name parent : String) : Value :=
  .filled .postgreSqlTable [
    ("name", .text name), ("schema", .text "public"), ("inherited_table_schema", .text "public"),
    ("inherited_table_name", .text parent)]

/-- A table, the table from which it inherits, and one that inherits from itself. -/
theorem resolves_heirs :
    (∀ table ∈ [heir "a" "b", .plainTable "b" [] [] [] [], heir "c" "c"],
        table.isTyped .table = true) ∧
      ([heir "a" "b", .plainTable "b" [] [] [] [], heir "c" "c"].map Value.fullName).Nodup ∧
      Resolves [heir "a" "b", .plainTable "b" [] [] [] [], heir "c" "c"] := by
  have typed : ∀ table ∈ [heir "a" "b", .plainTable "b" [] [] [] [], heir "c" "c"],
      table.isTyped .table = true := by decide
  have distinct :
      ([heir "a" "b", .plainTable "b" [] [] [] [], heir "c" "c"].map Value.fullName).Nodup := by
    decide
  exact ⟨typed, distinct, resolves_of_distinct typed distinct⟩

end Inheritance

/-- A dialect that finds an order for tables of different schemas and names orders all of them. -/
theorem Dialect.sortTables_perm
    {dialect : Dialect}
    {dropping : Bool}
    {tables sorted : List Value}
    (typed : ∀ table ∈ tables, table.isTyped .table = true)
    (distinct : (tables.map Value.fullName).Nodup)
    (sortedOk : dialect.sortTables dropping (.list tables) = .ok sorted) :
    sorted.Perm tables := by
  by_cases inherits : dialect = .postgreSql
  · subst inherits
    rw [Inheritance.sortTables_postgreSql typed distinct] at sortedOk
    cases dropping with
    | true =>
        rw [if_pos rfl, Inheritance.removal_eq typed] at sortedOk
        rcases Attempt.bind_eq_ok_iff.mp sortedOk with ⟨created, createdOk, equal⟩
        cases equal
        exact (List.reverse_perm created).trans
          (Inheritance.isCreationOrder_of_creation typed distinct createdOk).perm
    | false => exact (Inheritance.isCreationOrder_of_creation typed distinct sortedOk).perm
  · rw [sortTables, if_neg inherits, Value.items, Attempt.ok_bind,
      Value.sortedByName_ok fun table member => Value.listingKey_ok (typed table member),
      Attempt.ok_bind] at sortedOk
    cases sortedOk
    split
    · exact (List.reverse_perm _).trans (Value.sortedOn_perm _ tables)
    · exact Value.sortedOn_perm _ tables

/-- Tables are sorted by schema and name where no dialect asks for more. -/
theorem Dialect.sortTables_of_ne_postgreSql
    {dialect : Dialect}
    {tables : List Value}
    (typed : ∀ table ∈ tables, table.isTyped .table = true)
    (flat : dialect ≠ .postgreSql) :
    dialect.sortTables false (.list tables) =
      .ok (Value.sortedOn Value.listing tables) := by
  rw [sortTables, if_neg flat, Value.items, Attempt.ok_bind,
    Value.sortedByName_ok fun table member => Value.listingKey_ok (typed table member)]
  rfl

/-- The order of creation does not depend on the order in which the tables are given. -/
theorem Dialect.sortTables_congr
    {dialect : Dialect}
    {tables others : List Value}
    (typed : ∀ table ∈ tables, table.isTyped .table = true)
    (distinct : (tables.map Value.fullName).Nodup)
    (perm : others.Perm tables) :
    dialect.sortTables false (.list others) = dialect.sortTables false (.list tables) := by
  have othersTyped : ∀ table ∈ others, table.isTyped .table = true :=
    fun table member => typed table (perm.mem_iff.mp member)
  have othersDistinct := (perm.map Value.fullName).nodup_iff.mpr distinct
  have sameListing : Value.sortedOn Value.listing others = Value.sortedOn Value.listing tables :=
    Value.listing_ranksBy.sortedOn_congr perm othersDistinct
  by_cases inherits : dialect = .postgreSql
  · subst inherits
    rw [Inheritance.sortTables_postgreSql othersTyped othersDistinct,
      Inheritance.sortTables_postgreSql typed distinct, if_neg Bool.false_ne_true,
      if_neg Bool.false_ne_true, Inheritance.creation_eq othersTyped,
      Inheritance.creation_eq typed, sameListing]
  · rw [sortTables_of_ne_postgreSql othersTyped inherits,
      sortTables_of_ne_postgreSql typed inherits, sameListing]

section Failures

variable {tables : List Value} {dropping : Bool}

/-- The order in which PostgreSQL drops tables is an order of creation from its end. -/
theorem Dialect.isCreationOrder_of_sortTables
    {sorted : List Value}
    (typed : ∀ table ∈ tables, table.isTyped .table = true)
    (distinct : (tables.map Value.fullName).Nodup)
    (sortedOk : Dialect.postgreSql.sortTables dropping (.list tables) = .ok sorted) :
    Inheritance.IsCreationOrder tables (if dropping then sorted.reverse else sorted) := by
  rw [Inheritance.sortTables_postgreSql typed distinct] at sortedOk
  cases dropping with
  | false => exact Inheritance.isCreationOrder_of_creation typed distinct sortedOk
  | true =>
      rw [if_pos rfl, Inheritance.removal_eq typed] at sortedOk
      rcases Attempt.bind_eq_ok_iff.mp sortedOk with ⟨created, createdOk, equal⟩
      cases equal
      rw [if_pos rfl, List.reverse_reverse]
      exact Inheritance.isCreationOrder_of_creation typed distinct createdOk

private theorem Inheritance.removal_eq_error_iff
    (typed : ∀ table ∈ tables, table.isTyped .table = true)
    {failure : ScriptFailure} :
    removal tables = .error failure ↔ creation tables = .error failure := by
  rw [removal_eq typed]
  cases creation tables with
  | error reason => exact Iff.rfl
  | ok created => exact iff_of_false (fun failed => nomatch failed) fun failed => nomatch failed

/-- PostgreSQL has no order for tables exactly when one of them is lost. -/
theorem Dialect.sortTables_error_iff
    (typed : ∀ table ∈ tables, table.isTyped .table = true)
    (distinct : (tables.map Value.fullName).Nodup) :
    (∃ failure, Dialect.postgreSql.sortTables dropping (.list tables) = .error failure) ↔
      ∃ table ∈ tables, Inheritance.IsLost tables table := by
  rw [Inheritance.sortTables_postgreSql typed distinct, ← Inheritance.creation_error_iff typed
    distinct]
  cases dropping with
  | false => exact Iff.rfl
  | true => exact exists_congr fun _ => Inheritance.removal_eq_error_iff typed

/-- Tables that have no order have a dependency that is not resolved. -/
theorem Dialect.family_of_sortTables
    {dialect : Dialect}
    (typed : ∀ table ∈ tables, table.isTyped .table = true)
    (distinct : (tables.map Value.fullName).Nodup)
    {failure : ScriptFailure}
    (failed : dialect.sortTables dropping (.list tables) = .error failure) :
    failure.family = .unresolvedDependency := by
  by_cases inherits : dialect = .postgreSql
  · subst inherits
    rw [Inheritance.sortTables_postgreSql typed distinct] at failed
    cases dropping with
    | false => exact (Inheritance.isLost_of_creation typed distinct failed).2
    | true =>
        exact (Inheritance.isLost_of_creation typed distinct
          ((Inheritance.removal_eq_error_iff typed).mp failed)).2
  · rw [sortTables, if_neg inherits, Value.items, Attempt.ok_bind,
      Value.sortedByName_ok fun table member => Value.listingKey_ok (typed table member)] at failed
    cases failed

end Failures

end SchemaDelta
