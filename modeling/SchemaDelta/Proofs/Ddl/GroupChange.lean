import SchemaDelta.Proofs.Ddl.Grouping
import SchemaDelta.Proofs.Ddl.Identifier

/-!
# Changes of groups

Groups are compared by the folded names of their rows.  What is dropped from the target and what is
added from the source is computed here without failures, for rows that can be read.
-/

namespace SchemaDelta.Dialect

open Value (rowGroups groupName)

variable (dialect : Dialect)

/-- The folded name of a group. -/
def groupKey
    (group : List Value) : String :=
  dialect.foldedName (groupName group)

/-- The groups of rows under their folded names; of several under one name the last counts. -/
def groupMap
    (rows : List Value) : List (String × List Value) :=
  Keyed.ofList ((rowGroups rows).map fun group => (dialect.groupKey group, group))

/-- A group has a row on one of the touched columns. -/
def covers
    (touched : List String)
    (group : List Value) : Bool :=
  group.any fun row => touched.contains (dialect.foldedPart "column_name" row)

/-- A group stays: the other side has the same, and no touched column is in it. -/
def keeps
    (touched : List String)
    (group : List Value)
    (other : Option (List Value)) : Bool :=
  other == some group && !dialect.covers touched group

/-- The groups that do not stay. -/
def rebuiltGroups
    (touched : List String)
    (groups others : List (String × List Value)) : List (List Value) :=
  (groups.filter fun entry => !dialect.keeps touched entry.2 (others.lookup entry.1)).map (·.2)

/-- The groups of the target to drop. -/
def droppedGroups
    (touched : List String)
    (source target : List Value) : List (List Value) :=
  dialect.rebuiltGroups touched (dialect.groupMap target) (dialect.groupMap source)

/-- The groups of the source to add. -/
def addedGroups
    (touched : List String)
    (source target : List Value) : List (List Value) :=
  dialect.rebuiltGroups touched (dialect.groupMap source) (dialect.groupMap target)

variable {dialect}
variable {rows source target group : List Value}

/-- Every entry is a group under the folded name of its rows. -/
theorem mem_of_mem_groupMap
    {entry : String × List Value}
    (member : entry ∈ dialect.groupMap rows) :
    entry.2 ∈ rowGroups rows ∧ entry.1 = dialect.groupKey entry.2 := by
  rcases List.mem_map.mp (Keyed.mem_of_mem_ofList member) with ⟨group, grouped, rfl⟩
  exact ⟨grouped, rfl⟩

theorem lookup_groupMap_iff
    {key : String} :
    (dialect.groupMap rows).lookup key = some group ↔ (key, group) ∈ dialect.groupMap rows :=
  Keyed.lookup_eq_some_iff_mem (Keyed.nodup_keys_ofList _)

/-- Every name of rows has a group. -/
theorem exists_mem_groupMap
    (dialect : Dialect)
    {row : Value}
    (member : row ∈ rows) :
    ∃ group, (dialect.foldedPart "name" row, group) ∈ dialect.groupMap rows := by
  have key : dialect.groupKey (Value.namedRows rows (row.letters "name")) =
      dialect.foldedPart "name" row :=
    congrArg dialect.foldedName (Value.groupName_namedRows member)
  rw [← key]
  exact Keyed.exists_mem_ofList (List.mem_map.mpr ⟨_, Value.exists_mem_rowGroups member, rfl⟩)

/-- The groups that do not stay are groups of the side that they are rebuilt from. -/
theorem mem_rowGroups_of_mem_rebuiltGroups
    {touched : List String}
    {others : List (String × List Value)}
    (member : group ∈ dialect.rebuiltGroups touched (dialect.groupMap rows) others) :
    group ∈ rowGroups rows := by
  rcases List.mem_map.mp member with ⟨entry, entryMember, rfl⟩
  exact (mem_of_mem_groupMap (List.mem_filter.mp entryMember).1).1

/-- Rows that are dropped are rows of the target. -/
theorem mem_of_mem_droppedGroups
    {touched : List String}
    {row : Value}
    (member : row ∈ (dialect.droppedGroups touched source target).flatten) :
    row ∈ target := by
  rcases List.mem_flatten.mp member with ⟨group, dropped, rowMember⟩
  exact ((Value.mem_of_mem_rowGroups
    (mem_rowGroups_of_mem_rebuiltGroups dropped)).mp rowMember).1

/-- Rows that are added are rows of the source. -/
theorem mem_of_mem_addedGroups
    {touched : List String}
    {row : Value}
    (member : row ∈ (dialect.addedGroups touched source target).flatten) :
    row ∈ source :=
  mem_of_mem_droppedGroups member

/-- A group stays exactly when the other side has it under the same name and nothing touches it. -/
theorem keeps_iff
    {touched : List String}
    {others : List Value}
    (areRows : ∀ row ∈ rows, row.IsRow)
    (otherRows : ∀ row ∈ others, row.IsRow)
    {key : String}
    (member : (key, group) ∈ dialect.groupMap rows) :
    dialect.keeps touched group ((dialect.groupMap others).lookup key) = true ↔
      (key, group) ∈ dialect.groupMap others ∧ dialect.covers touched group = false := by
  have flat : ∀ {rows group : List Value}, (∀ row ∈ rows, row.IsRow) → group ∈ rowGroups rows →
      ∀ row ∈ group, row.IsFlat :=
    fun areRows grouped row rowMember =>
      (areRows row ((Value.mem_of_mem_rowGroups grouped).mp rowMember).1).flat
  have atKey :
      ((dialect.groupMap others).lookup key == some group) = true ↔
        (key, group) ∈ dialect.groupMap others := by
    rw [← lookup_groupMap_iff]
    cases found : (dialect.groupMap others).lookup key with
    | none => simp
    | some other =>
        have otherMember := mem_of_mem_groupMap (lookup_groupMap_iff.mp found)
        rw [Option.some_beq_some, Option.some.injEq]
        exact Value.list_beq_iff_eq_of_isFlat (flat otherRows otherMember.1)
          (flat areRows (mem_of_mem_groupMap member).1)
  rw [keeps, Bool.and_eq_true, atKey, Bool.not_eq_true']

/-- What is dropped are the groups of the target that the source lacks or that are touched. -/
theorem mem_droppedGroups_iff
    {touched : List String}
    (sourceRows : ∀ row ∈ source, row.IsRow)
    (targetRows : ∀ row ∈ target, row.IsRow) :
    group ∈ dialect.droppedGroups touched source target ↔
      ∃ key, (key, group) ∈ dialect.groupMap target ∧
        ((key, group) ∈ dialect.groupMap source → dialect.covers touched group = true) := by
  have rebuilt : ∀ entry ∈ dialect.groupMap target,
      (!dialect.keeps touched entry.2 ((dialect.groupMap source).lookup entry.1)) = true ↔
        (entry ∈ dialect.groupMap source → dialect.covers touched entry.2 = true) := by
    intro entry member
    rw [Bool.not_eq_true', ← Bool.not_eq_true, keeps_iff targetRows sourceRows member, not_and,
      Bool.not_eq_false]
  constructor
  · intro member
    rcases List.mem_map.mp member with ⟨entry, entryMember, rfl⟩
    rcases List.mem_filter.mp entryMember with ⟨held, isRebuilt⟩
    exact ⟨entry.1, held, (rebuilt entry held).mp isRebuilt⟩
  · rintro ⟨key, held, isRebuilt⟩
    exact List.mem_map.mpr ⟨(key, group),
      List.mem_filter.mpr ⟨held, (rebuilt (key, group) held).mpr isRebuilt⟩, rfl⟩

variable (dialect)

/-- The groups are put under their folded names without failure. -/
theorem keyedGroups_ok
    (areRows : ∀ row ∈ rows, row.IsRow) :
    dialect.keyedGroups (.list rows) = .ok (textKeyed (dialect.groupMap rows)) := by
  have keyed :
      ((rowGroups rows).mapM fun group => do
          return (← dialect.partKey "name" (group.headD .null), group)) =
        .ok ((rowGroups rows).map fun group =>
          (Value.text (dialect.groupKey group), group)) := by
    apply Attempt.mapM_ok
    intro group member
    cases group with
    | nil => exact absurd rfl (Value.ne_nil_of_mem_rowGroups member)
    | cons first others =>
        have isRow := areRows first
          ((Value.mem_of_mem_rowGroups member).mp List.mem_cons_self).1
        rw [List.headD_cons, dialect.partKey_ok isRow.name]
        rfl
  rw [keyedGroups, Value.groups_ok areRows, Attempt.ok_bind, keyed, Attempt.ok_bind, groupMap,
    ← ofList_textKeyed, textKeyed, List.map_map]
  rfl

/-- Whether a group covers touched columns is found without failure. -/
theorem touches_ok
    {touched : List String}
    (areRows : ∀ row ∈ group, row.IsRow) :
    dialect.touches (touched.map .text) group = .ok (dialect.covers touched group) := by
  apply Attempt.anyM_ok
  intro row member
  rcases (areRows row member).column with reads | ⟨⟨failure, fails⟩, absent⟩
  · simp only [reads, keyOf_text, Attempt.ok_bind, contains_map_text]
    rfl
  · simp only [fails, keyOf_text, Attempt.ok_bind, contains_map_text, foldedPart, absent]
    rfl

/-- Whether a group stays is found without failure. -/
theorem isKept_ok
    {touched : List String}
    (other : Option (List Value))
    (areRows : ∀ row ∈ group, row.IsRow) :
    dialect.isKept (touched.map .text) group other = .ok (dialect.keeps touched group other) := by
  unfold isKept keeps
  cases other == some group with
  | false => rfl
  | true =>
      rw [if_pos rfl, dialect.touches_ok areRows]
      rfl

/-- The rows of the groups that do not stay are found without failure. -/
theorem rebuiltRows_ok
    {touched : List String}
    {groups others : List (String × List Value)}
    (areRows : ∀ entry ∈ groups, ∀ row ∈ entry.2, row.IsRow) :
    dialect.rebuiltRows (touched.map .text) (textKeyed groups) (textKeyed others) =
      .ok (dialect.rebuiltGroups touched groups others).flatten := by
  have filtered :
      ((textKeyed groups).filterM fun entry => do
          return !(← dialect.isKept (touched.map .text) entry.2
            ((textKeyed others).lookup entry.1))) =
        .ok ((textKeyed groups).filter fun entry =>
          !dialect.keeps touched entry.2 ((textKeyed others).lookup entry.1)) := by
    apply Attempt.filterM_ok
    intro entry member
    rcases List.mem_map.mp member with ⟨held, heldMember, rfl⟩
    rw [dialect.isKept_ok _ (areRows held heldMember)]
    rfl
  have texts :
      ((textKeyed groups).filter fun entry =>
          !dialect.keeps touched entry.2 ((textKeyed others).lookup entry.1)) =
        textKeyed (groups.filter fun entry =>
          !dialect.keeps touched entry.2 (others.lookup entry.1)) := by
    rw [show textKeyed groups = groups.map fun entry => (.text entry.1, entry.2) from rfl,
      List.filter_map]
    simp only [Function.comp_def, lookup_textKeyed]
    rfl
  have rows : ∀ entries : List (String × List Value),
      (textKeyed entries).flatMap (·.2) = (entries.map (·.2)).flatten := by
    intro entries
    rw [textKeyed, List.flatMap_map, List.flatMap_def]
  rw [rebuiltRows, filtered, Attempt.ok_bind, texts, rows]
  rfl

/-- What is dropped from the target and added from the source is found without failure. -/
theorem changedGroups_ok
    (touched : List String)
    (sourceRows : ∀ row ∈ source, row.IsRow)
    (targetRows : ∀ row ∈ target, row.IsRow) :
    dialect.changedGroups (touched.map .text) (.list source) (.list target) =
      .ok ((dialect.droppedGroups touched source target).flatten,
        (dialect.addedGroups touched source target).flatten) := by
  have entryRows :
      ∀ {rows : List Value}, (∀ row ∈ rows, row.IsRow) →
        ∀ entry ∈ dialect.groupMap rows, ∀ row ∈ entry.2, row.IsRow := by
    intro rows areRows entry member row rowMember
    exact areRows row
      ((Value.mem_of_mem_rowGroups (mem_of_mem_groupMap member).1).mp rowMember).1
  rw [changedGroups, dialect.keyedGroups_ok sourceRows, Attempt.ok_bind,
    dialect.keyedGroups_ok targetRows, Attempt.ok_bind,
    dialect.rebuiltRows_ok (entryRows targetRows), Attempt.ok_bind,
    dialect.rebuiltRows_ok (entryRows sourceRows)]
  rfl

end SchemaDelta.Dialect
