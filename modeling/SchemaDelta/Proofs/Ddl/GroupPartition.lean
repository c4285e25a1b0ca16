import Mathlib.Data.List.Perm.Basic
import SchemaDelta.Proofs.Ddl.GroupOrder
import SchemaDelta.Proofs.Value.Filled

/-!
# Groups share out rows

Grouping puts every row into the one group of its name.  A group is in stable order by position,
groups come in the order in which their names first come, and rows that are first listed by schema
and name fall into the same groups whatever order they were given in, if they can be told apart.
-/

namespace SchemaDelta.Value

/-! ## Stable order -/

section StableOrder

variable {α β γ : Type} [LinearOrder β] [LinearOrder γ]

/-- Items in the order of their ranks; items of one rank stand in the order in which they stood. -/
structure StablySorted
    (rank : α → β)
    (items sorted : List α) : Prop where
  perm : sorted.Perm items
  ordered : sorted.Pairwise fun left right => rank left ≤ rank right
  ties : ∀ place, sorted.filter (fun item => rank item = place) =
    items.filter fun item => rank item = place

variable {key : α → Value} {rank : α → β} {minor : α → γ} {items others sorted : List α}

theorem RanksBy.stablySorted
    (ranks : RanksBy key rank)
    (items : List α) :
    StablySorted rank items (sortedOn key items) :=
  ⟨sortedOn_perm key items, ranks.sortedOn_pairwise items, ranks.sortedOn_filter_rank items⟩

theorem StablySorted.filter
    (stable : StablySorted rank items sorted)
    (test : α → Bool) :
    StablySorted rank (items.filter test) (sorted.filter test) where
  perm := stable.perm.filter test
  ordered := stable.ordered.filter test
  ties := by
    intro place
    rw [List.filter_comm, stable.ties, List.filter_comm]

/-- Sorting by a minor rank and then by a major one is sorting by both. -/
theorem StablySorted.lex
    {between : List α}
    (inner : StablySorted minor items between)
    (outer : StablySorted rank between sorted) :
    StablySorted (fun item => toLex (rank item, minor item)) items sorted where
  perm := outer.perm.trans inner.perm
  ordered := by
    rw [List.pairwise_iff_forall_sublist]
    intro left right before
    rw [Prod.Lex.toLex_le_toLex]
    have ordered := List.pairwise_iff_forall_sublist.mp outer.ordered before
    refine ordered.lt_or_eq.imp_right fun (same : rank left = rank right) => ⟨same, ?_⟩
    -- Of items of one major rank the order has not changed since they were sorted by the minor one.
    have kept := before.filter fun item => rank item = rank right
    rw [outer.ties] at kept
    have both : [left, right].filter (fun item => rank item = rank right) = [left, right] := by
      simp [same]
    rw [both] at kept
    exact List.pairwise_iff_forall_sublist.mp inner.ordered (kept.trans List.filter_sublist)
  ties := by
    intro place
    have byParts : ∀ items : List α,
        items.filter (fun item => toLex (rank item, minor item) = place) =
          (items.filter fun item => rank item = (ofLex place).1).filter
            fun item => minor item = (ofLex place).2 := by
      intro items
      rw [List.filter_filter]
      refine List.filter_congr fun item _ => ?_
      rw [← Bool.decide_and, decide_eq_decide, and_comm, ← Prod.ext_iff (x := (_, _))]
      rfl
    rw [byParts, byParts, outer.ties, List.filter_comm, inner.ties, List.filter_comm]

/-- Items with ranks of their own have only one order. -/
theorem StablySorted.eq_of_perm
    {otherSorted : List α}
    (stable : StablySorted rank items sorted)
    (otherStable : StablySorted rank others otherSorted)
    (perm : items.Perm others)
    (distinct : (items.map rank).Nodup) :
    sorted = otherSorted := by
  apply List.Perm.eq_of_pairwise _ stable.ordered otherStable.ordered
    ((stable.perm.trans perm).trans otherStable.perm.symm)
  intro left right leftMember rightMember above below
  exact List.inj_on_of_nodup_map distinct (stable.perm.mem_iff.mp leftMember)
    (perm.mem_iff.mpr (otherStable.perm.mem_iff.mp rightMember)) (le_antisymm above below)

end StableOrder

/-! ## Groups of all items -/

variable {α β : Type} [LinearOrder β] {rowOf : α → Value} {rank : α → β}
  {items listed others : List α} {groups : List (List α)}

/-- Groups that hold every item once, each all items of one name in the order of their ranks. -/
structure SharesOut
    (rowOf : α → Value)
    (rank : α → β)
    (items : List α)
    (groups : List (List α)) : Prop where
  complete : groups.flatten.Perm items
  named : ∀ group ∈ groups, group ≠ [] ∧ ∃ name,
    StablySorted rank (items.filter fun item => (rowOf item).letters "name" == name) group
  apart : groups.Pairwise fun left right => ∀ item ∈ left, ∀ other ∈ right,
    (rowOf item).letters "name" ≠ (rowOf other).letters "name"

/-- The items of a group have the name of the group. -/
private theorem name_of_mem_group
    {name : String}
    {item : α}
    (member : item ∈ sortedOn (fun item => .int ((rowOf item).number "ordinal_position"))
      (listed.filter fun item => (rowOf item).letters "name" == name)) :
    (rowOf item).letters "name" = name :=
  beq_iff_eq.mp (List.mem_filter.mp (mem_sortedOn.mp member)).2

/-- Groups share out items if every group is in stable order. -/
theorem sharesOut_groupsBy
    (perm : listed.Perm items)
    (stable : ∀ name,
      StablySorted rank (items.filter fun item => (rowOf item).letters "name" == name)
        (sortedOn (fun item => .int ((rowOf item).number "ordinal_position"))
          (listed.filter fun item => (rowOf item).letters "name" == name))) :
    SharesOut rowOf rank items (groupsBy rowOf listed) where
  complete := by
    have whole := Keyed.flatten_filter_firstByKey_perm
      (fun item => (rowOf item).letters "name") listed
    rw [← List.flatMap_def] at whole
    rw [groupsBy, ← List.flatMap_def]
    exact ((List.Perm.flatMap_left _ fun name _ => sortedOn_perm _ _).trans whole).trans perm
  named := by
    refine List.forall_mem_map.mpr fun name kept => ⟨?_, name, stable name⟩
    rcases List.mem_map.mp ((Keyed.firstByKey_sublist id _).subset kept) with ⟨item, held, rfl⟩
    exact List.ne_nil_of_mem
      (mem_sortedOn.mpr (List.mem_filter.mpr ⟨held, beq_self_eq_true _⟩))
  apart := by
    have distinct := Keyed.nodup_keys_firstByKey id
      (listed.map fun item => (rowOf item).letters "name")
    rw [List.map_id] at distinct
    refine List.pairwise_map.mpr (distinct.imp ?_)
    intro name other differ item member item' member' same
    exact differ (((name_of_mem_group member).symm.trans same).trans (name_of_mem_group member'))

/-! ## Groups by first appearance -/

/-- Rows that are not listed first stand by position, and as they stood where positions agree. -/
theorem sharesOut_groupsBy_items
    (rowOf : α → Value)
    (items : List α) :
    SharesOut rowOf (fun item => (rowOf item).number "ordinal_position") items
      (groupsBy rowOf items) :=
  sharesOut_groupsBy (List.Perm.refl _) fun _ => (int_ranksBy _).stablySorted _

/-- Groups come in the order in which their names first come. -/
theorem groupsBy_pairwise_idxOf
    (rowOf : α → Value)
    (items : List α) :
    (groupsBy rowOf items).Pairwise fun left right => ∀ item ∈ left, ∀ other ∈ right,
      (items.map fun item => (rowOf item).letters "name").idxOf ((rowOf item).letters "name") <
        (items.map fun item => (rowOf item).letters "name").idxOf
          ((rowOf other).letters "name") := by
  refine List.pairwise_map.mpr ((Keyed.firstByKey_pairwise_idxOf _).imp ?_)
  intro name otherName earlier item member other otherMember
  rwa [name_of_mem_group member, name_of_mem_group otherMember]

/-! ## Groups of listed rows -/

/-- Items listed by the schemas and names of their rows. -/
def listedBy
    (rowOf : α → Value)
    (items : List α) : List α :=
  sortedOn (fun item => listing (rowOf item)) items

private theorem listedBy_ranksBy
    (rowOf : α → Value) :
    RanksBy (fun item => listing (rowOf item)) fun item => listingRank (rowOf item) :=
  fun left right => listing_ranksBy (rowOf left) (rowOf right)

theorem sortAndGroup_ok
    (areListed : ∀ item ∈ items, (rowOf item).IsListed) :
    sortAndGroup rowOf items = .ok (groupsBy rowOf (listedBy rowOf items)) := by
  have listed : sortedBy (fun item => (rowOf item).listingKey) items =
      .ok (listedBy rowOf items) :=
    sortedBy_ok _ (fun item member => (areListed item member).listingKey_ok)
      fun left _ right _ => by simp [listing]
  rw [sortAndGroup, listed, Attempt.ok_bind]
  exact groupByName_ok fun item member => (areListed item (mem_sortedOn.mp member)).isNamed

/-- The rank of a row in its group, where rows at one position are ordered by their schemas. -/
def rankInGroup
    (row : Value) : Lex (Int × String) :=
  toLex (row.number "ordinal_position", row.letters "schema")

/-- Listed items of one name are in the order of their schemas. -/
private theorem stablySorted_schema
    (rowOf : α → Value)
    (items : List α)
    (name : String) :
    StablySorted (fun item => (rowOf item).letters "schema")
      (items.filter fun item => (rowOf item).letters "name" == name)
      ((listedBy rowOf items).filter fun item => (rowOf item).letters "name" == name) := by
  have stable := ((listedBy_ranksBy rowOf).stablySorted items).filter
    fun item => (rowOf item).letters "name" == name
  have named : ∀ {items : List α} {item : α},
      item ∈ items.filter (fun item => (rowOf item).letters "name" == name) →
        listingRank (rowOf item) = toLex ((rowOf item).letters "schema", name) := by
    intro items item member
    rw [listingRank, beq_iff_eq.mp (List.mem_filter.mp member).2]
  refine ⟨stable.perm, stable.ordered.imp_of_mem fun leftMember rightMember above => ?_,
    fun place => ?_⟩
  · rw [named leftMember, named rightMember, Prod.Lex.toLex_le_toLex] at above
    exact above.elim le_of_lt fun same => same.1.le
  · have asRank : ∀ items : List α,
        (items.filter fun item => (rowOf item).letters "name" == name).filter
            (fun item => (rowOf item).letters "schema" = place) =
          (items.filter fun item => (rowOf item).letters "name" == name).filter
            fun item => listingRank (rowOf item) = toLex (place, name) := by
      intro items
      refine List.filter_congr fun item member => ?_
      rw [decide_eq_decide, named member, toLex_inj, Prod.mk.injEq]
      exact ⟨fun same => ⟨same, rfl⟩, fun same => same.1⟩
    rw [asRank, asRank]
    exact stable.ties _

private theorem stablySorted_rankInGroup
    (rowOf : α → Value)
    (items : List α)
    (name : String) :
    StablySorted (fun item => (rowOf item).rankInGroup)
      (items.filter fun item => (rowOf item).letters "name" == name)
      (sortedOn (fun item => .int ((rowOf item).number "ordinal_position"))
        ((listedBy rowOf items).filter fun item => (rowOf item).letters "name" == name)) :=
  (stablySorted_schema rowOf items name).lex ((int_ranksBy _).stablySorted _)

/-- A group of listed rows stands by position, and by schema where positions agree. -/
theorem sharesOut_groupsBy_listedBy
    (rowOf : α → Value)
    (items : List α) :
    SharesOut rowOf (fun item => (rowOf item).rankInGroup) items
      (groupsBy rowOf (listedBy rowOf items)) :=
  sharesOut_groupsBy (sortedOn_perm _ _) (stablySorted_rankInGroup rowOf items)

/-- Groups of listed rows come in the order of the least schema and name in each. -/
theorem groupsBy_listedBy_pairwise
    (rowOf : α → Value)
    (items : List α) :
    (groupsBy rowOf (listedBy rowOf items)).Pairwise fun left right =>
      ∃ item ∈ left, ∀ other ∈ right,
        listingRank (rowOf item) < listingRank (rowOf other) := by
  have byRank := (listedBy_ranksBy rowOf).sortedOn_pairwise items
  have ordered : (groupsBy rowOf (listedBy rowOf items)).Pairwise _ := groupsBy_pairwise byRank
  refine (ordered.and (sharesOut_groupsBy_listedBy rowOf items).apart).imp ?_
  rintro left right ⟨⟨item, member, isLeast⟩, apart⟩
  refine ⟨item, member, fun other otherMember => lt_of_le_of_ne (isLeast other otherMember) ?_⟩
  exact fun same => apart item member other otherMember (Prod.mk.inj (toLex.injective same)).2

/-- Rows that can be told apart fall into the same groups in whatever order they are given. -/
theorem groupsBy_listedBy_eq_of_perm
    (perm : items.Perm others)
    (distinct : (items.map fun item => (rowOf item).placeInGroup).Nodup) :
    groupsBy rowOf (listedBy rowOf items) = groupsBy rowOf (listedBy rowOf others) := by
  have names : ((listedBy rowOf items).map fun item => (rowOf item).letters "name") =
      (listedBy rowOf others).map fun item => (rowOf item).letters "name" := by
    have ranks := congrArg (List.map fun rank => (ofLex rank).2)
      ((listedBy_ranksBy rowOf).map_rank_sortedOn perm)
    rwa [List.map_map, List.map_map] at ranks
  rw [groupsBy, groupsBy, names]
  refine List.map_congr_left fun name _ => ?_
  refine (stablySorted_rankInGroup rowOf items name).eq_of_perm
    (stablySorted_rankInGroup rowOf others name) (perm.filter _) ?_
  refine List.Nodup.map_on ?_ (distinct.of_map.filter _)
  intro left leftMember right rightMember sameRank
  rcases List.mem_filter.mp leftMember with ⟨leftHeld, leftNamed⟩
  rcases List.mem_filter.mp rightMember with ⟨rightHeld, rightNamed⟩
  rcases Prod.mk.inj (toLex.injective sameRank) with ⟨samePosition, sameSchema⟩
  refine List.inj_on_of_nodup_map distinct leftHeld rightHeld ?_
  rw [placeInGroup, placeInGroup, samePosition, sameSchema, beq_iff_eq.mp leftNamed,
    beq_iff_eq.mp rightNamed]

/--
Grouping shares out all rows by their names.  Without listing, groups are in stable order by
position and come in the order in which their names first come.  Listed rows stand in their groups
by position and then by schema, groups come in the order of the least schema and name in each, and
rows that differ in schema, name or position fall into the same groups in whatever order they are
given.
-/
theorem grouping_shares_out
    (rowOf : α → Value)
    {items : List α}
    (areNamed : ∀ item ∈ items, (rowOf item).IsNamed) :
    (∃ groups, groupByName rowOf items = .ok groups ∧
      SharesOut rowOf (fun item => (rowOf item).number "ordinal_position") items groups ∧
      groups.Pairwise fun left right => ∀ item ∈ left, ∀ other ∈ right,
        (items.map fun item => (rowOf item).letters "name").idxOf ((rowOf item).letters "name") <
          (items.map fun item => (rowOf item).letters "name").idxOf
            ((rowOf other).letters "name")) ∧
    ((∀ item ∈ items, (rowOf item).IsListed) →
      ∃ groups, sortAndGroup rowOf items = .ok groups ∧
        SharesOut rowOf (fun item => (rowOf item).rankInGroup) items groups ∧
        (groups.Pairwise fun left right => ∃ item ∈ left, ∀ other ∈ right,
          listingRank (rowOf item) < listingRank (rowOf other)) ∧
        ((items.map fun item => (rowOf item).placeInGroup).Nodup →
          ∀ others, items.Perm others → sortAndGroup rowOf others = .ok groups)) := by
  constructor
  · exact ⟨groupsBy rowOf items, groupByName_ok areNamed, sharesOut_groupsBy_items rowOf items,
      groupsBy_pairwise_idxOf rowOf items⟩
  · intro areListed
    refine ⟨groupsBy rowOf (listedBy rowOf items), sortAndGroup_ok areListed,
      sharesOut_groupsBy_listedBy rowOf items, groupsBy_listedBy_pairwise rowOf items, ?_⟩
    intro distinct others perm
    rw [groupsBy_listedBy_eq_of_perm perm distinct]
    exact sortAndGroup_ok fun item member => areListed item (perm.mem_iff.mpr member)

/-! ## Mixed rows -/

/-- A row of an index with a number beside it. -/
private def mixedRow
    (number : Nat)
    (schema name : String)
    (position : Int) : Value × Nat :=
  (.filled .index [("name", .text name), ("schema", .text schema),
    ("ordinal_position", .int position)], number)

/-- Rows of two names, one of them in two schemas. -/
private def mixedRows : List (Value × Nat) :=
  [mixedRow 0 "sales" "b" 1, mixedRow 1 "dbo" "c" 1, mixedRow 2 "sales" "b" 0,
    mixedRow 3 "dbo" "b" 1]

private theorem isListed_of_mem_mixedRows :
    ∀ item ∈ mixedRows, item.1.IsListed := by
  have listed : ∀ (number : Nat) (schema name : String) (position : Int),
      (mixedRow number schema name position).1.IsListed := fun _ _ _ _ =>
    (isRow_of_index (isTyped_filled rfl rfl)).isListed
  simp [mixedRows, listed]

/-- The name that comes first and the one with the least schema come first; both keep all rows. -/
theorem grouping_of_mixedRows :
    (∀ item ∈ mixedRows, item.1.IsNamed) ∧ (∀ item ∈ mixedRows, item.1.IsListed) ∧
      (mixedRows.map fun item => item.1.placeInGroup).Nodup ∧
      (∃ groups, groupByName Prod.fst mixedRows = .ok groups ∧
        groups.map (List.map Prod.snd) = [[2, 0, 3], [1]]) ∧
      ∃ groups, sortAndGroup Prod.fst mixedRows = .ok groups ∧
        sortAndGroup Prod.fst mixedRows.reverse = .ok groups ∧
        groups.map (List.map Prod.snd) = [[2, 3, 0], [1]] := by
  have areListed := isListed_of_mem_mixedRows
  have areNamed : ∀ item ∈ mixedRows, item.1.IsNamed :=
    fun item member => (areListed item member).isNamed
  have distinct : (mixedRows.map fun item => item.1.placeInGroup).Nodup := by decide
  rcases grouping_shares_out Prod.fst areNamed with ⟨⟨groups, grouped, _, _⟩, sorting⟩
  rcases sorting areListed with ⟨sortedGroups, sorted, _, _, anyOrder⟩
  refine ⟨areNamed, areListed, distinct, ⟨groups, grouped, ?_⟩, sortedGroups, sorted,
    anyOrder distinct _ (List.reverse_perm _).symm, ?_⟩
  · cases grouped
    rfl
  · cases sorted
    rfl

end SchemaDelta.Value
