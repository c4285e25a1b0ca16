import Mathlib.Data.List.Nodup
import Mathlib.Logic.Relation
import SchemaDelta.Proofs.Ddl.Inheritance

/-!
# Lines of ancestors

Following parents from a table ends at a root, at a parent that is not listed, or in a circle.  A
table has a line of ancestors up to a root exactly when it ends at one, and the chain of a table is
its line without the tables that were placed before.
-/

namespace SchemaDelta

namespace Value

/-- The schema and the name of the table from which a table inherits. -/
def parentName?
    (table : Value) : Option (String × String) :=
  match table with
  | object .postgreSqlTable _ =>
    if (Text.trim (table.letters "inherited_table_name")).isEmpty then none
    else some (table.letters "inherited_table_schema", table.letters "inherited_table_name")
  | _ => none

/-- A text that may be missing is read as one that is empty then. -/
theorem part_optionalText
    {table : Value}
    {kind : ObjectClass}
    (typed : table.isTyped kind = true)
    (name : String)
    (declared : kind.declares name { item := .text, isOptional := true } = true) :
    ∃ held, table.part name = .ok held ∧ held.orElse (.text "") = .text (table.letters name) ∧
      (held = .text (table.letters name) ∨ table.letters name = "") := by
  rcases part_of_isTyped typed declared with ⟨read, conform⟩
  refine ⟨table.get name, read, ?_⟩
  unfold letters
  cases held : table.get name with
  | null => exact ⟨rfl, Or.inr rfl⟩
  | text letters =>
      refine ⟨?_, Or.inl rfl⟩
      by_cases empty : letters = ""
      · subst empty
        rfl
      · simp [orElse, isTruthy, asText?, empty]
  | _ => simp [held, conforms, ItemType.admits] at conform

/-- The parent of a typed table is read without failure. -/
theorem parentKey_ok
    {table : Value}
    (typed : table.isTyped .table = true) :
    table.parentKey = .ok ((table.parentName?.map nameKey).getD .null) := by
  rcases isTyped_iff.mp typed with ⟨special, fields, rfl, special_isA, conform⟩
  cases special with
  | table => rfl
  | postgreSqlTable =>
      have inherits : (object .postgreSqlTable fields).isTyped .postgreSqlTable = true :=
        isTyped_iff.mpr ⟨.postgreSqlTable, fields, rfl, by decide, conform⟩
      rcases part_optionalText inherits "inherited_table_schema" (by decide) with
        ⟨schema, schemaRead, schemaText, _⟩
      rcases part_optionalText inherits "inherited_table_name" (by decide) with
        ⟨name, nameRead, nameText, nameKept⟩
      simp only [parentKey, nameRead, Attempt.ok_bind, nameText, asText, asText?, schemaRead,
        schemaText, parentName?]
      split
      · rfl
      · rename_i given
        rcases nameKept with rfl | absent
        · rfl
        · rw [absent] at given
          exact absurd rfl given
  | _ => exact absurd special_isA (by decide)

end Value

namespace Inheritance

open Relation (ReflTransGen TransGen)
open Attempt (bind_eq_ok_iff)
open Value (listing nameKey)

variable {tables : List Value} {table : Value} {line : List Value}

/-! ## Ancestors -/

/-- A table inherits from another one of a list. -/
def InheritsAmong
    (tables : List Value)
    (child parent : Value) : Prop :=
  parent ∈ tables ∧ child.parentName? = some parent.fullName

/--
Following parents from a table leads to one that is not listed, or back to a table that was met on
the way.
-/
def IsLost
    (tables : List Value)
    (table : Value) : Prop :=
  ∃ reached, ReflTransGen (InheritsAmong tables) table reached ∧
    ((∃ name, reached.parentName? = some name ∧ ∀ other ∈ tables, other.fullName ≠ name) ∨
      TransGen (InheritsAmong tables) reached reached)

/-- A table behind its ancestors, the root first. -/
inductive Lineage
    (tables : List Value) : Value → List Value → Prop where
  | root
      {table : Value}
      (listed : table ∈ tables)
      (free : table.parentName? = none) :
      Lineage tables table [table]
  | child
      {table parent : Value}
      {ancestors : List Value}
      (listed : table ∈ tables)
      (inherits : table.parentName? = some parent.fullName)
      (lineage : Lineage tables parent ancestors) :
      Lineage tables table (ancestors ++ [table])

namespace Lineage

theorem table_mem
    (lineage : Lineage tables table line) :
    table ∈ line := by
  cases lineage with
  | root => exact List.mem_singleton_self table
  | child => exact List.mem_append_right _ (List.mem_singleton_self table)

theorem subset
    (lineage : Lineage tables table line) :
    line ⊆ tables := by
  induction lineage with
  | root listed _ => exact List.cons_subset.mpr ⟨listed, List.nil_subset _⟩
  | child listed _ _ ih =>
      exact List.append_subset.mpr ⟨ih, List.cons_subset.mpr ⟨listed, List.nil_subset _⟩⟩

/-- A table has one line of ancestors. -/
theorem unique
    (distinct : (tables.map Value.fullName).Nodup)
    {other : List Value}
    (lineage : Lineage tables table line)
    (otherLineage : Lineage tables table other) :
    line = other := by
  induction lineage generalizing other with
  | root _ free =>
      cases otherLineage with
      | root => rfl
      | child _ inherits _ => simp [free] at inherits
  | child _ inherits lineage ih =>
      cases otherLineage with
      | root _ free => simp [free] at inherits
      | child _ otherInherits otherLineage =>
          have sameName := Option.some.inj (inherits.symm.trans otherInherits)
          cases List.inj_on_of_nodup_map distinct (lineage.subset lineage.table_mem)
            (otherLineage.subset otherLineage.table_mem) sameName
          rw [ih otherLineage]

/-- The line of an ancestor is the start of the line of the table. -/
theorem of_mem
    (lineage : Lineage tables table line)
    {ancestor : Value}
    (member : ancestor ∈ line) :
    ∃ before after, line = before ++ ancestor :: after ∧
      Lineage tables ancestor (before ++ [ancestor]) := by
  induction lineage with
  | root listed free =>
      cases List.mem_singleton.mp member
      exact ⟨[], [], rfl, .root listed free⟩
  | @child last _ _ listed inherits lineage ih =>
      rcases List.mem_append.mp member with earlier | here
      · rcases ih earlier with ⟨before, after, rfl, ancestorLineage⟩
        exact ⟨before, after ++ [last], by simp, ancestorLineage⟩
      · cases List.mem_singleton.mp here
        exact ⟨_, [], rfl, .child listed inherits lineage⟩

/-- No two tables of a line have one name, as the line would go on in a circle between them. -/
theorem nodup
    (distinct : (tables.map Value.fullName).Nodup)
    (lineage : Lineage tables table line) :
    (line.map Value.fullName).Nodup := by
  induction lineage with
  | root => exact List.nodup_singleton _
  | child listed inherits lineage ih =>
      rw [List.map_append, List.nodup_append]
      refine ⟨ih, List.nodup_singleton _, ?_⟩
      rintro _ old _ new rfl
      rcases List.mem_map.mp old with ⟨ancestor, member, sameName⟩
      rw [List.map_singleton, List.mem_singleton] at new
      cases List.inj_on_of_nodup_map distinct (lineage.subset member) listed
        (sameName.trans new)
      rcases lineage.of_mem member with ⟨before, after, rfl, shorter⟩
      have equal := congrArg List.length ((Lineage.child listed inherits lineage).unique distinct
        shorter)
      simp at equal

/-- In a line the parent of a table stands before it. -/
theorem exists_parent
    (lineage : Lineage tables table line)
    {before after : List Value}
    {child : Value}
    (split : line = before ++ child :: after)
    {name : String × String}
    (inherits : child.parentName? = some name) :
    ∃ parent ∈ before, parent.fullName = name := by
  induction lineage generalizing before after with
  | root _ free =>
      rcases List.append_eq_singleton_iff.mp split.symm with ⟨rfl, last⟩ | ⟨_, last⟩
      · cases last
        simp [free] at inherits
      · cases last
  | child _ ofLast lineage ih =>
      rcases List.eq_nil_or_concat after with rfl | ⟨after, last, rfl⟩
      · rcases List.append_inj' split rfl with ⟨rfl, same⟩
        cases same
        exact ⟨_, lineage.table_mem, Option.some.inj (ofLast.symm.trans inherits)⟩
      · rw [List.concat_eq_append, ← List.cons_append, ← List.append_assoc] at split
        exact ih (List.append_inj' split rfl).1

/-- A table with a line of ancestors is not lost. -/
theorem not_isLost
    (distinct : (tables.map Value.fullName).Nodup)
    (lineage : Lineage tables table line) :
    ¬ IsLost tables table := by
  induction lineage with
  | root _ free =>
      rintro ⟨reached, reaches, ends⟩
      rcases ReflTransGen.cases_head reaches with rfl | ⟨next, step, _⟩
      · rcases ends with ⟨name, inherits, _⟩ | circle
        · simp [free] at inherits
        · rcases TransGen.head'_iff.mp circle with ⟨next, step, _⟩
          simp [InheritsAmong, free] at step
      · simp [InheritsAmong, free] at step
  | @child heir parent _ _ inherits lineage ih =>
      have parentListed := lineage.subset lineage.table_mem
      have onlyParent : ∀ {next : Value}, InheritsAmong tables heir next → next = parent := by
        rintro next ⟨nextListed, nextName⟩
        exact List.inj_on_of_nodup_map distinct nextListed parentListed
          (Option.some.inj (nextName.symm.trans inherits))
      rintro ⟨reached, reaches, ends⟩
      rcases ReflTransGen.cases_head reaches with rfl | ⟨next, step, rest⟩
      · rcases ends with ⟨name, missing, absent⟩ | circle
        · exact absent _ parentListed (Option.some.inj (inherits.symm.trans missing))
        · rcases TransGen.head'_iff.mp circle with ⟨next, step, back⟩
          cases onlyParent step
          exact ih ⟨_, ReflTransGen.refl, Or.inr (TransGen.tail' back step)⟩
      · cases onlyParent step
        exact ih ⟨reached, rest, ends⟩

end Lineage

/-! ## Chains -/

/-- A table under its schema and name. -/
def entryOf
    (table : Value) : KeyedTable :=
  ⟨listing table, table⟩

/-- The table of a name; of several the last one counts. -/
def named?
    (tables : List Value)
    (name : String × String) : Option Value :=
  tables.reverse.find? fun table => table.fullName == name

private theorem any_nameKey
    (names : List (String × String))
    (table : Value) :
    ((names.map nameKey).any fun key => listing table == key) = decide (table.fullName ∈ names) := by
  rw [List.any_map, Bool.eq_iff_iff, List.any_eq_true, decide_eq_true_eq]
  change (∃ name ∈ names, (nameKey table.fullName == nameKey name) = true) ↔ _
  simp only [Value.nameKey_beq, beq_iff_eq, exists_eq_right']

private theorem without_nameKey
    (names : List (String × String))
    (table : Value) :
    without (listing table) (names.map nameKey) =
      (names.filter fun name => name ≠ table.fullName).map nameKey := by
  rw [without, List.filter_map]
  congr 1
  apply List.filter_congr
  intro name _
  change (!(nameKey table.fullName == nameKey name)) = _
  rw [Value.nameKey_beq, Bool.eq_iff_iff, Bool.not_eq_true', beq_eq_false_iff_ne,
    decide_eq_true_eq]
  exact ne_comm

private theorem find?_entryOf
    (tables : List Value)
    (name : String × String) :
    find? (tables.map entryOf) (nameKey name) = (named? tables name).map entryOf := by
  rw [find?, ← List.map_reverse, List.find?_map, named?]
  congr 2
  funext table
  exact Value.nameKey_beq table.fullName name

variable {placed pool : List (String × String)}

/-- How the chain of a table comes about, told by schemas and names. -/
inductive ChainStep
    (tables : List Value)
    (placed pool : List (String × String))
    (table : Value) : Attempt (List KeyedTable) → Prop where
  | placed
      (known : table.fullName ∈ placed) :
      ChainStep tables placed pool table (.ok [])
  | circle
      (met : table.fullName ∉ pool) :
      ChainStep tables placed pool table
        (.error (.circularInheritance (table.letters "schema") (table.letters "name")))
  | root
      (fresh : table.fullName ∉ placed)
      (free : table.parentName? = none) :
      ChainStep tables placed pool table (.ok [entryOf table])
  | missing
      {name : String × String}
      (inherits : table.parentName? = some name)
      (absent : ∀ other ∈ tables, other.fullName ≠ name) :
      ChainStep tables placed pool table
        (.error (.missingParent name.1 name.2 (table.letters "schema") (table.letters "name")))
  | child
      {parent : Value}
      (fresh : table.fullName ∉ placed)
      (unmet : table.fullName ∈ pool)
      (listed : parent ∈ tables)
      (inherits : table.parentName? = some parent.fullName) :
      ChainStep tables placed pool table (do
        let ancestors ← chain (tables.map entryOf) (placed.map nameKey)
          ((pool.filter fun other => other ≠ table.fullName).map nameKey) (entryOf parent)
        return ancestors ++ [entryOf table])

/-- The chain of a typed table comes about in one of these ways. -/
private theorem chainStep_chain
    (typed : table.isTyped .table = true)
    (tables : List Value)
    (placed pool : List (String × String)) :
    ChainStep tables placed pool table
      (chain (tables.map entryOf) (placed.map nameKey) (pool.map nameKey) (entryOf table)) := by
  have schemaRead := Value.part_text_of_isTyped typed ObjectClass.table_declares_schema
  have nameRead := Value.part_text_of_isTyped typed ObjectClass.table_declares_name
  have parentRead := Value.parentKey_ok typed
  have keyed : (entryOf table).key = listing table := rfl
  have held : (entryOf table).table = table := rfl
  rw [chain]
  simp only [keyed, held, any_nameKey, decide_eq_true_eq, without_nameKey, schemaRead, nameRead,
    parentRead, Attempt.ok_bind]
  split
  · rename_i known
    exact .placed known
  · rename_i fresh
    split
    · rename_i unmet
      cases inherits : table.parentName? with
      | none => exact .root fresh inherits
      | some name =>
          have usable : (nameKey name).asKey = .ok (nameKey name) := rfl
          have schemaItem : (nameKey name).itemAt 0 = .ok (.text name.1) := rfl
          have nameItem : (nameKey name).itemAt 1 = .ok (.text name.2) := rfl
          simp only [Option.map_some, Option.getD_some, usable, schemaItem, nameItem,
            Attempt.ok_bind]
          rw [find?_entryOf]
          cases found : named? tables name with
          | none =>
              refine .missing inherits fun other member => ?_
              simpa using List.find?_eq_none.mp found other (List.mem_reverse.mpr member)
          | some parent =>
              have listed := List.mem_reverse.mp (List.mem_of_find?_eq_some found)
              have sameName : parent.fullName = name := by simpa using List.find?_some found
              exact .child fresh unmet listed (inherits.trans (congrArg some sameName.symm))
    · rename_i met
      exact .circle met

private theorem length_filter_ne_lt
    {name : String × String}
    (member : name ∈ pool) :
    (pool.filter fun other => other ≠ name).length < pool.length :=
  List.length_filter_lt_length_iff_exists.mpr ⟨name, member, by simp⟩

/--
A chain that fails starts at a lost table, when the names that are no longer in the pool are those
of tables from which the chain came.
-/
theorem isLost_of_chain
    (typed : ∀ table ∈ tables, table.isTyped .table = true)
    (distinct : (tables.map Value.fullName).Nodup)
    (member : table ∈ tables)
    (met : ∀ other ∈ tables, other.fullName ∉ pool → TransGen (InheritsAmong tables) other table)
    {failure : ScriptFailure}
    (failed : chain (tables.map entryOf) (placed.map nameKey) (pool.map nameKey) (entryOf table) =
      .error failure) :
    IsLost tables table ∧ failure.family = .unresolvedDependency := by
  induction size : pool.length using Nat.strongRecOn generalizing pool table with
  | ind count ih =>
      have step := chainStep_chain (typed table member) tables placed pool
      rw [failed] at step
      generalize outcome : (Except.error failure : Attempt (List KeyedTable)) = result at step
      cases step with
      | placed => cases outcome
      | circle outside =>
          cases outcome
          exact ⟨⟨table, ReflTransGen.refl, Or.inr (met table member outside)⟩, rfl⟩
      | root => cases outcome
      | missing inherits absent =>
          cases outcome
          exact ⟨⟨table, ReflTransGen.refl, Or.inl ⟨_, inherits, absent⟩⟩, rfl⟩
      | @child parent _ unmet listed inherits =>
          have up : InheritsAmong tables table parent := ⟨listed, inherits⟩
          have metAbove : ∀ other ∈ tables,
              other.fullName ∉ pool.filter (fun other => other ≠ table.fullName) →
                TransGen (InheritsAmong tables) other parent := by
            intro other otherMember outside
            by_cases same : other.fullName = table.fullName
            · cases List.inj_on_of_nodup_map distinct otherMember member same
              exact TransGen.single up
            · have left : other.fullName ∉ pool := by
                intro inside
                exact outside (List.mem_filter.mpr ⟨inside, by simpa using same⟩)
              exact (met other otherMember left).tail up
          cases ancestorsRun : chain (tables.map entryOf) (placed.map nameKey)
              ((pool.filter fun other => other ≠ table.fullName).map nameKey) (entryOf parent) with
          | ok ancestors =>
              rw [ancestorsRun] at outcome
              cases outcome
          | error reason =>
              rw [ancestorsRun] at outcome
              cases outcome
              rcases ih _ (size ▸ length_filter_ne_lt unmet) listed metAbove ancestorsRun rfl with
                ⟨⟨reached, reaches, ends⟩, family⟩
              exact ⟨⟨reached, ReflTransGen.head up reaches, ends⟩, family⟩

/-- The tables of a list stand in it with their lines of ancestors. -/
def HoldsLineages
    (tables known : List Value) : Prop :=
  ∀ table ∈ known, ∃ line, Lineage tables table line ∧ line ⊆ known

/-- The tables of a line whose names no known table has. -/
def newAmong
    (known line : List Value) : List Value :=
  line.filter fun table => table.fullName ∉ known.map Value.fullName

theorem newAmong_singleton
    {known : List Value}
    (fresh : table.fullName ∉ known.map Value.fullName) :
    newAmong known [table] = [table] := by
  rw [newAmong, List.filter_singleton]
  simp [fresh]

theorem newAmong_append
    (known line others : List Value) :
    newAmong known (line ++ others) = newAmong known line ++ newAmong known others :=
  List.filter_append _ _

/-- A chain that does not fail is the line of its table without the tables placed before. -/
theorem exists_lineage_of_chain
    (typed : ∀ table ∈ tables, table.isTyped .table = true)
    (distinct : (tables.map Value.fullName).Nodup)
    {known : List Value}
    (knownListed : known ⊆ tables)
    (held : HoldsLineages tables known)
    (member : table ∈ tables)
    {added : List KeyedTable}
    (chained : chain (tables.map entryOf) ((known.map Value.fullName).map nameKey)
      (pool.map nameKey) (entryOf table) = .ok added) :
    ∃ line, Lineage tables table line ∧ added = (newAmong known line).map entryOf := by
  induction size : pool.length using Nat.strongRecOn generalizing pool table added with
  | ind count ih =>
      have step := chainStep_chain (typed table member) tables (known.map Value.fullName) pool
      rw [chained] at step
      generalize outcome : (Except.ok added : Attempt (List KeyedTable)) = result at step
      cases step with
      | placed placed =>
          cases outcome
          rcases List.mem_map.mp placed with ⟨other, otherKnown, sameName⟩
          cases List.inj_on_of_nodup_map distinct (knownListed otherKnown) member sameName
          rcases held _ otherKnown with ⟨line, lineage, lineKnown⟩
          have nothing : newAmong known line = [] := by
            refine List.filter_eq_nil_iff.mpr fun ancestor ancestorMember => ?_
            simpa using ⟨ancestor, lineKnown ancestorMember, rfl⟩
          exact ⟨line, lineage, by rw [nothing]; rfl⟩
      | circle => cases outcome
      | root fresh free =>
          cases outcome
          exact ⟨[table], .root member free, by rw [newAmong_singleton fresh]; rfl⟩
      | missing => cases outcome
      | @child parent fresh unmet listed inherits =>
          rcases bind_eq_ok_iff.mp outcome.symm with ⟨ancestors, ancestorsOk, equal⟩
          cases equal
          rcases ih _ (size ▸ length_filter_ne_lt unmet) listed ancestorsOk rfl with
            ⟨line, lineage, rfl⟩
          refine ⟨line ++ [table], .child member inherits lineage, ?_⟩
          rw [newAmong_append, newAmong_singleton fresh, List.map_append]
          rfl

end Inheritance

end SchemaDelta
