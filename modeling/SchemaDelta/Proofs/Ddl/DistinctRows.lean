import Mathlib.Data.List.Perm.Subperm
import SchemaDelta.Proofs.Ddl.Convergence
import SchemaDelta.Proofs.Ddl.GroupOrder
import SchemaDelta.Proofs.Migration.ForeignKeyName

/-!
# Rows that are told apart

A dialect takes groups whose names fold alike to be one group, of which the last counts, and rows of
a foreign key at one position to be one row, of which the first counts.  What is left of the rows of
a table has the same groups as long as names and positions tell all rows apart, and folded names all
groups, and only then.
-/

namespace SchemaDelta.Dialect

open Value (rowGroups groupName)

/-- The groups of rows; of several that a dialect takes to have one name only the last. -/
def distinctGroups
    (dialect : Dialect)
    (rows : List Value) : List (List Value) :=
  (dialect.groupMap rows).map (·.2)

/-- The rows of distinct groups; of those in a group that stand at one position only the first. -/
def distinctRows
    (dialect : Dialect)
    (rows : List Value) : List Value :=
  dialect.uniqueRows (dialect.distinctGroups rows).flatten

variable {dialect : Dialect} {rows group : List Value} {owner : String × String}

/-! ## Groups -/

theorem mem_of_mem_distinctGroups
    {row : Value}
    (member : row ∈ (dialect.distinctGroups rows).flatten) :
    row ∈ rows := by
  rcases List.mem_flatten.mp member with ⟨group, distinct, rowMember⟩
  rcases List.mem_map.mp distinct with ⟨entry, entryMember, rfl⟩
  exact ((Value.mem_of_mem_rowGroups (mem_of_mem_groupMap entryMember).1).mp rowMember).1

theorem mem_of_mem_distinctRows
    {row : Value}
    (member : row ∈ dialect.distinctRows rows) :
    row ∈ rows :=
  mem_of_mem_distinctGroups ((Keyed.firstByKey_sublist _ _).subset member)

theorem mem_rowGroups_of_mem_distinctGroups
    {group : List Value}
    (distinct : group ∈ dialect.distinctGroups rows) :
    group ∈ rowGroups rows := by
  rcases List.mem_map.mp distinct with ⟨entry, member, rfl⟩
  exact (mem_of_mem_groupMap member).1

theorem nodup_groupKeys_distinctGroups
    (dialect : Dialect)
    (rows : List Value) :
    ((dialect.distinctGroups rows).map dialect.groupKey).Nodup := by
  have keys : (dialect.distinctGroups rows).map dialect.groupKey =
      (dialect.groupMap rows).map (·.1) := by
    rw [distinctGroups, List.map_map]
    exact List.map_congr_left fun entry member => (mem_of_mem_groupMap member).2.symm
  rw [keys]
  exact Keyed.nodup_keys_ofList _

/-- All groups are there exactly when a dialect tells their names apart. -/
theorem distinctGroups_perm_iff :
    (dialect.distinctGroups rows).Perm (rowGroups rows) ↔ dialect.TellsApart rows := by
  constructor
  · intro all left leftMember right rightMember sameKey
    have distinct : ((rowGroups rows).map dialect.groupKey).Nodup :=
      (all.map _).nodup_iff.mp (nodup_groupKeys_distinctGroups _ rows)
    have sameGroup := List.inj_on_of_nodup_map distinct (Value.exists_mem_rowGroups leftMember)
      (Value.exists_mem_rowGroups rightMember)
      (by rwa [groupKey, groupKey, Value.groupName_namedRows leftMember,
        Value.groupName_namedRows rightMember])
    rw [← Value.groupName_namedRows leftMember, ← Value.groupName_namedRows rightMember, sameGroup]
  · intro apart
    rw [distinctGroups, groupMap_eq apart, List.map_map]
    exact List.Perm.of_eq (List.map_id _)

/-! ## Rows -/

private theorem foldedName_of_mem
    (grouped : group ∈ rowGroups rows)
    {row : Value}
    (member : row ∈ group) :
    dialect.foldedPart "name" row = dialect.groupKey group :=
  congrArg dialect.foldedName ((Value.mem_of_mem_rowGroups grouped).mp member).2

/-- No two groups have rows that a dialect takes to be the same. -/
theorem distinctRows_eq
    (rows : List Value) :
    dialect.distinctRows rows = ((dialect.distinctGroups rows).map dialect.uniqueRows).flatten := by
  refine Keyed.firstByKey_flatten dialect.identityOf ?_
  have distinct := List.pairwise_map.mp (nodup_groupKeys_distinctGroups dialect rows)
  refine distinct.imp_of_mem fun {left right} leftMember rightMember differ => ?_
  intro row rowMember other otherMember same
  refine differ ?_
  rw [← foldedName_of_mem (mem_rowGroups_of_mem_distinctGroups leftMember) rowMember,
    ← foldedName_of_mem (mem_rowGroups_of_mem_distinctGroups rightMember) otherMember]
  exact congrArg (fun identity => identity.2.2.1) same

/-- In a group of rows of one table every position is kept once. -/
private theorem nodup_positions_uniqueRows
    (dialect : Dialect)
    (owned : ∀ row ∈ rows, row.ownerName = owner)
    (grouped : group ∈ rowGroups rows) :
    ((dialect.uniqueRows group).map fun row => row.number "ordinal_position").Nodup := by
  have identities : ((dialect.uniqueRows group).map dialect.identityOf).Nodup :=
    Keyed.nodup_keys_firstByKey dialect.identityOf group
  refine List.Nodup.map_on ?_ identities.of_map
  intro left leftMember right rightMember samePosition
  have leftHeld := (Keyed.firstByKey_sublist _ _).subset leftMember
  have rightHeld := (Keyed.firstByKey_sublist _ _).subset rightMember
  have leftRow := (Value.mem_of_mem_rowGroups grouped).mp leftHeld
  have rightRow := (Value.mem_of_mem_rowGroups grouped).mp rightHeld
  have sameOwner : left.ownerName = right.ownerName :=
    (owned left leftRow.1).trans (owned right rightRow.1).symm
  rcases Prod.mk.inj sameOwner with ⟨sameSchema, sameTable⟩
  refine List.inj_on_of_nodup_map identities leftMember rightMember ?_
  simp only [identityOf, foldedPart, sameSchema, sameTable, leftRow.2, rightRow.2, samePosition]

/-- Among parts with labels of their own, what has a label is the part with the label. -/
private theorem filter_flatten_of_mem
    {α β : Type}
    [DecidableEq β]
    {parts : List α}
    {items : α → List Value}
    {label : α → β}
    {labelOf : Value → β}
    (labelled : ∀ part ∈ parts, ∀ item ∈ items part, labelOf item = label part)
    (distinct : (parts.map label).Nodup)
    {part : α}
    (member : part ∈ parts) :
    ((parts.map items).flatten.filter fun item => labelOf item == label part) = items part := by
  induction parts with
  | nil => cases member
  | cons first parts ih =>
      rw [List.map_cons, List.nodup_cons] at distinct
      rw [List.forall_mem_cons] at labelled
      rw [List.map_cons, List.flatten_cons, List.filter_append]
      rcases List.mem_cons.mp member with rfl | later
      · have none : ((parts.map items).flatten.filter fun item => labelOf item == label part) =
            [] := by
          refine List.filter_eq_nil_iff.mpr fun item within same => distinct.1 ?_
          rcases List.mem_flatten.mp within with ⟨held, heldMember, itemMember⟩
          rcases List.mem_map.mp heldMember with ⟨other, otherMember, rfl⟩
          rw [← beq_iff_eq.mp same, labelled.2 other otherMember item itemMember]
          exact List.mem_map_of_mem otherMember
        rw [none, List.append_nil]
        exact List.filter_eq_self.mpr fun item itemMember =>
          beq_iff_eq.mpr (labelled.1 item itemMember)
      · have none : ((items first).filter fun item => labelOf item == label part) = [] := by
          refine List.filter_eq_nil_iff.mpr fun item itemMember same => distinct.1 ?_
          rw [← labelled.1 item itemMember, beq_iff_eq.mp same]
          exact List.mem_map_of_mem later
        rw [none, List.nil_append, ih labelled.2 distinct.2 later]

private theorem nodup_groupNames_distinctGroups
    (dialect : Dialect)
    (rows : List Value) :
    ((dialect.distinctGroups rows).map groupName).Nodup := by
  have keys := nodup_groupKeys_distinctGroups dialect rows
  refine List.Nodup.of_map dialect.foldedName ?_
  rwa [List.map_map]

private theorem groupName_of_mem_uniqueRows
    (grouped : group ∈ rowGroups rows)
    {row : Value}
    (member : row ∈ dialect.uniqueRows group) :
    row.letters "name" = groupName group :=
  ((Value.mem_of_mem_rowGroups grouped).mp ((Keyed.firstByKey_sublist _ _).subset member)).2

/-- A group of the rows that are kept is what is kept of a group. -/
theorem namedRows_distinctRows
    (owned : ∀ row ∈ rows, row.ownerName = owner)
    (distinct : group ∈ dialect.distinctGroups rows) :
    Value.namedRows (dialect.distinctRows rows) (groupName group) = dialect.uniqueRows group := by
  have grouped := mem_rowGroups_of_mem_distinctGroups distinct
  have positions := Value.int_ranksBy fun row : Value => row.number "ordinal_position"
  have kept : ((dialect.distinctRows rows).filter fun row =>
      row.letters "name" == groupName group) = dialect.uniqueRows group := by
    rw [distinctRows_eq]
    exact filter_flatten_of_mem
      (fun _ member _ => groupName_of_mem_uniqueRows (mem_rowGroups_of_mem_distinctGroups member))
      (nodup_groupNames_distinctGroups dialect rows) distinct
  have apart := nodup_positions_uniqueRows dialect owned grouped
  have ordered : group.Pairwise fun left right =>
      left.number "ordinal_position" ≤ right.number "ordinal_position" := by
    rw [← Value.namedRows_groupName grouped]
    exact positions.sortedOn_pairwise _
  rw [Value.namedRows, Value.listing_ranksBy.sortedOn_filter, kept,
    positions.sortedOn_congr (Value.sortedOn_perm _ _)
      (((Value.sortedOn_perm _ _).map _).nodup_iff.mpr apart)]
  exact Value.eq_of_pairwise_of_filter_rank (positions.sortedOn_pairwise _)
    (ordered.sublist (Keyed.firstByKey_sublist _ _)) (positions.sortedOn_filter_rank _)

private theorem uniqueRows_ne_nil
    (dialect : Dialect)
    (grouped : group ∈ rowGroups rows) :
    dialect.uniqueRows group ≠ [] := by
  rcases List.exists_cons_of_ne_nil (Value.ne_nil_of_mem_rowGroups grouped) with
    ⟨first, others, rfl⟩
  rw [uniqueRows, Keyed.firstByKey_cons]
  exact List.cons_ne_nil _ _

/-- The groups of the rows that are kept are what is kept of the distinct groups. -/
theorem rowGroups_distinctRows_perm
    (owned : ∀ row ∈ rows, row.ownerName = owner) :
    (rowGroups (dialect.distinctRows rows)).Perm
      ((dialect.distinctGroups rows).map dialect.uniqueRows) := by
  have keptName : ∀ group ∈ dialect.distinctGroups rows,
      groupName (dialect.uniqueRows group) = groupName group := by
    intro group distinct
    have grouped := mem_rowGroups_of_mem_distinctGroups distinct
    rcases List.exists_cons_of_ne_nil (Value.ne_nil_of_mem_rowGroups grouped) with
      ⟨first, others, rfl⟩
    rw [uniqueRows, Keyed.firstByKey_cons]
    rfl
  have distinctKept : ((dialect.distinctGroups rows).map dialect.uniqueRows).Nodup := by
    refine List.Nodup.of_map groupName ?_
    rw [List.map_map]
    exact (List.map_congr_left keptName) ▸ nodup_groupNames_distinctGroups dialect rows
  have distinctOwn : (rowGroups (dialect.distinctRows rows)).Nodup := by
    refine List.Nodup.of_map groupName ?_
    rw [Value.map_groupName_rowGroups]
    exact Value.nodup_groupNames _
  refine (List.perm_ext_iff_of_nodup distinctOwn distinctKept).mpr fun group => ?_
  constructor
  · intro member
    rcases List.exists_mem_of_ne_nil group (Value.ne_nil_of_mem_rowGroups member) with
      ⟨row, rowMember⟩
    rcases (Value.mem_of_mem_rowGroups member).mp rowMember with ⟨held, named⟩
    rw [distinctRows_eq] at held
    rcases List.mem_flatten.mp held with ⟨kept, keptMember, within⟩
    rcases List.mem_map.mp keptMember with ⟨whole, wholeMember, rfl⟩
    have sameName := groupName_of_mem_uniqueRows
      (mem_rowGroups_of_mem_distinctGroups wholeMember) within
    rw [← Value.namedRows_groupName member, ← named, sameName,
      namedRows_distinctRows owned wholeMember]
    exact keptMember
  · intro member
    rcases List.mem_map.mp member with ⟨whole, wholeMember, rfl⟩
    rw [← namedRows_distinctRows owned wholeMember]
    rcases List.exists_mem_of_ne_nil _ (uniqueRows_ne_nil dialect
      (mem_rowGroups_of_mem_distinctGroups wholeMember)) with ⟨row, within⟩
    have sameName := groupName_of_mem_uniqueRows
      (mem_rowGroups_of_mem_distinctGroups wholeMember) within
    rw [← sameName]
    refine Value.exists_mem_rowGroups ?_
    rw [distinctRows_eq]
    exact List.mem_flatten.mpr ⟨_, member, within⟩

/-- No row is lost: names and positions tell the rows apart, and folded names their groups. -/
structure KeepsForeignKeys
    (dialect : Dialect)
    (rows : List Value) : Prop where
  names : dialect.TellsApart rows
  places : (rows.map fun row => (row.letters "name", row.number "ordinal_position")).Nodup

/-- Where no group is lost and none loses a row, the groups are the same. -/
theorem sameGroups_distinctRows
    (owned : ∀ row ∈ rows, row.ownerName = owner)
    (allGroups : (dialect.distinctGroups rows).Perm (rowGroups rows))
    (wholeGroups : ∀ group ∈ dialect.distinctGroups rows, dialect.uniqueRows group = group) :
    Value.SameGroups (dialect.distinctRows rows) rows := by
  have same : (rowGroups (dialect.distinctRows rows)).Perm (rowGroups rows) := by
    refine (rowGroups_distinctRows_perm owned).trans (List.Perm.trans ?_ allGroups)
    exact List.Perm.of_eq ((List.map_congr_left wholeGroups).trans (List.map_id _))
  exact Value.sameGroups_of_subset same.subset same.symm.subset

/-- No row is lost exactly when no group is and none loses a row. -/
theorem keepsForeignKeys_iff
    (owned : ∀ row ∈ rows, row.ownerName = owner) :
    dialect.KeepsForeignKeys rows ↔
      (dialect.distinctGroups rows).Perm (rowGroups rows) ∧
        ∀ group ∈ dialect.distinctGroups rows, dialect.uniqueRows group = group := by
  constructor
  · rintro ⟨names, places⟩
    refine ⟨distinctGroups_perm_iff.mpr names, fun group distinct => ?_⟩
    have grouped := mem_rowGroups_of_mem_distinctGroups distinct
    have groupNodup : group.Nodup := by
      rw [← Value.namedRows_groupName grouped]
      exact (Value.sortedOn_perm _ _).nodup_iff.mpr
        (((Value.sortedOn_perm _ _).nodup_iff.mpr places.of_map).filter _)
    have identities : (group.map dialect.identityOf).Nodup := by
      refine List.Nodup.map_on (fun left leftMember right rightMember same => ?_) groupNodup
      have leftRow := (Value.mem_of_mem_rowGroups grouped).mp leftMember
      have rightRow := (Value.mem_of_mem_rowGroups grouped).mp rightMember
      refine List.inj_on_of_nodup_map places leftRow.1 rightRow.1 ?_
      rw [leftRow.2, rightRow.2]
      exact congrArg (Prod.mk _) (congrArg (fun identity => identity.2.2.2) same)
    exact (Keyed.firstByKey_sublist _ _).eq_of_length
      ((Keyed.firstByKey_perm_iff dialect.identityOf group).mpr identities).length_eq
  · rintro ⟨allGroups, wholeGroups⟩
    refine ⟨distinctGroups_perm_iff.mp allGroups, ?_⟩
    have same := (sameGroups_distinctRows owned allGroups wholeGroups).perm
    have identities : (rows.map dialect.identityOf).Nodup :=
      (same.map _).nodup_iff.mp (Keyed.nodup_keys_firstByKey dialect.identityOf _)
    refine List.Nodup.map_on (fun left leftMember right rightMember samePlace => ?_)
      identities.of_map
    rcases Prod.mk.inj samePlace with ⟨sameName, samePosition⟩
    rcases Prod.mk.inj ((owned left leftMember).trans (owned right rightMember).symm) with
      ⟨sameSchema, sameTable⟩
    refine List.inj_on_of_nodup_map identities leftMember rightMember ?_
    simp only [identityOf, foldedPart, sameSchema, sameTable, sameName, samePosition]

end SchemaDelta.Dialect
