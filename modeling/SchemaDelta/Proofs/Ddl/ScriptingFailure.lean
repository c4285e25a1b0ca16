import SchemaDelta.Proofs.Ddl.ColumnDefinition
import SchemaDelta.Proofs.Ddl.ColumnOrder
import SchemaDelta.Proofs.Ddl.Lineage

/-!
# Failures of scripting

An attempt that fails only by scripting has no failures but those of which users are told.  Reading
the fields that a class declares, quoting names and listing rows by groups are such attempts where
the objects are typed.
-/

namespace SchemaDelta

namespace Attempt

variable {α β : Type}

/-- If there is no result, the failure is one of scripting. -/
def FailsByScripting
    (attempt : Attempt α) : Prop :=
  ∀ failure, attempt = .error failure → failure.isScripting = true

theorem failsByScripting_ok
    (value : α) :
    FailsByScripting (.ok value) :=
  fun _ impossible => nomatch impossible

theorem failsByScripting_pure
    (value : α) :
    FailsByScripting (pure value) :=
  failsByScripting_ok value

theorem failsByScripting_error
    {failure : ScriptFailure}
    (isScripting : failure.isScripting = true) :
    FailsByScripting (.error failure : Attempt α) := by
  rintro _ ⟨⟩
  exact isScripting

/-- After a step that fails only by scripting, only what follows its result matters. -/
theorem FailsByScripting.bind
    {first : Attempt α}
    {next : α → Attempt β}
    (firstFails : FailsByScripting first)
    (nextFails : ∀ value, first = .ok value → FailsByScripting (next value)) :
    FailsByScripting (first >>= next) := by
  cases first with
  | error failure => exact failsByScripting_error (firstFails failure rfl)
  | ok value => exact nextFails value rfl

theorem FailsByScripting.andThen
    {first : Attempt α}
    {next : α → Attempt β}
    (firstFails : FailsByScripting first)
    (nextFails : ∀ value, FailsByScripting (next value)) :
    FailsByScripting (first >>= next) :=
  firstFails.bind fun value _ => nextFails value

theorem FailsByScripting.map
    {first : Attempt α}
    {result : α → β}
    (firstFails : FailsByScripting first) :
    FailsByScripting (first >>= fun value => pure (result value)) :=
  firstFails.andThen fun value => failsByScripting_pure (result value)

theorem failsByScripting_ite
    {condition : Prop}
    [Decidable condition]
    {first second : Attempt α}
    (firstFails : FailsByScripting first)
    (secondFails : FailsByScripting second) :
    FailsByScripting (if condition then first else second) := by
  split
  · exact firstFails
  · exact secondFails

theorem failsByScripting_mapM
    {attempt : α → Attempt β}
    {items : List α}
    (fails : ∀ item ∈ items, FailsByScripting (attempt item)) :
    FailsByScripting (items.mapM attempt) := by
  induction items with
  | nil => exact failsByScripting_pure []
  | cons item items ih =>
      rw [List.mapM_cons]
      have rest := ih fun other member => fails other (List.mem_cons_of_mem item member)
      exact (fails item List.mem_cons_self).andThen fun _ => rest.map

theorem failsByScripting_forM
    {attempt : α → Attempt PUnit}
    {items : List α}
    (fails : ∀ item ∈ items, FailsByScripting (attempt item)) :
    FailsByScripting (items.forM attempt) := by
  induction items with
  | nil => exact failsByScripting_pure _
  | cons item items ih =>
      exact (fails item List.mem_cons_self).andThen fun _ =>
        ih fun other member => fails other (List.mem_cons_of_mem item member)

/-- A run over items that succeeds has succeeded with each of them. -/
theorem ok_of_forM
    {attempt : α → Attempt PUnit}
    {items : List α}
    (succeeds : items.forM attempt = .ok ⟨⟩) :
    ∀ item ∈ items, attempt item = .ok ⟨⟩ := by
  induction items with
  | nil => exact fun _ => List.not_mem_nil.elim
  | cons item items ih =>
      rcases bind_eq_ok_iff.mp succeeds with ⟨_, first, rest⟩
      exact List.forall_mem_cons.mpr ⟨first, ih rest⟩

/-- A traversal that succeeds has succeeded with each item. -/
theorem exists_ok_of_mapM
    {attempt : α → Attempt β}
    {items : List α}
    {results : List β}
    (succeeds : items.mapM attempt = .ok results) :
    ∀ item ∈ items, ∃ result, attempt item = .ok result :=
  fun item member => (exists_mem_of_mapM succeeds item member).imp fun _ => And.right

/-- With a traversal succeeds every traversal of some of its items. -/
theorem exists_mapM_ok_of_subset
    {attempt : α → Attempt β}
    {items others : List α}
    {results : List β}
    (succeeds : items.mapM attempt = .ok results)
    (subset : others ⊆ items) :
    ∃ otherResults, others.mapM attempt = .ok otherResults := by
  have each : ∀ item ∈ others, ∃ result, attempt item = .ok result ∧ True := fun item member =>
    (exists_ok_of_mapM succeeds item (subset member)).imp fun _ run => ⟨run, trivial⟩
  rcases exists_mapM_ok each with ⟨otherResults, run, _⟩
  exact ⟨otherResults, run⟩

/-- Rearranged items have the same results, rearranged. -/
theorem exists_mapM_ok_of_perm
    {attempt : α → Attempt β}
    {items others : List α}
    {results : List β}
    (succeeds : items.mapM attempt = .ok results)
    (perm : others.Perm items) :
    ∃ otherResults, others.mapM attempt = .ok otherResults ∧ otherResults.Perm results := by
  induction perm generalizing results with
  | nil => exact ⟨results, succeeds, .refl _⟩
  | cons item _ ih =>
      rw [List.mapM_cons] at succeeds ⊢
      rcases bind_eq_ok_iff.mp succeeds with ⟨first, firstOk, restRun⟩
      rcases bind_eq_ok_iff.mp restRun with ⟨rest, restOk, equal⟩
      cases equal
      rcases ih restOk with ⟨otherRest, otherOk, restPerm⟩
      rw [firstOk, otherOk]
      exact ⟨first :: otherRest, rfl, restPerm.cons first⟩
  | swap =>
      rw [List.mapM_cons, List.mapM_cons] at succeeds ⊢
      rcases bind_eq_ok_iff.mp succeeds with ⟨first, firstOk, restRun⟩
      rcases bind_eq_ok_iff.mp restRun with ⟨afterFirst, afterFirstRun, equal⟩
      cases equal
      rcases bind_eq_ok_iff.mp afterFirstRun with ⟨second, secondOk, lastRun⟩
      rcases bind_eq_ok_iff.mp lastRun with ⟨rest, restOk, equal⟩
      cases equal
      rw [firstOk, secondOk, restOk]
      exact ⟨second :: first :: rest, rfl, .swap first second rest⟩
  | trans _ _ ih ih' =>
      rcases ih' succeeds with ⟨middle, middleOk, middlePerm⟩
      rcases ih middleOk with ⟨others, othersOk, othersPerm⟩
      exact ⟨others, othersOk, othersPerm.trans middlePerm⟩

/--
Where two traversals share their middle part and the second begins with all that the first begins
with, the second fails by scripting when the first does, as long as its other items can fail in no
other way.
-/
theorem isScripting_of_shared
    {attempt : α → Attempt β}
    {early shared late first last : List α}
    (subset : early ⊆ first)
    (firstFails : ∀ item ∈ first, FailsByScripting (attempt item))
    (lastFails : ∀ item ∈ last, FailsByScripting (attempt item))
    {failure other : ScriptFailure}
    (failed : (early ++ (shared ++ late)).mapM attempt = .error failure)
    (isScripting : failure.isScripting = true)
    (otherFailed : (first ++ (shared ++ last)).mapM attempt = .error other) :
    other.isScripting = true := by
  rw [List.mapM_append] at failed otherFailed
  cases firstRun : first.mapM attempt with
  | error reason =>
      rw [firstRun] at otherFailed
      cases otherFailed
      exact failsByScripting_mapM firstFails other firstRun
  | ok firstResults =>
      rcases exists_mapM_ok_of_subset firstRun subset with ⟨earlyResults, earlyRun⟩
      rw [firstRun, List.mapM_append] at otherFailed
      rw [earlyRun, List.mapM_append] at failed
      -- Both traversals have come to the part that they share.
      cases sharedRun : shared.mapM attempt with
      | error reason =>
          rw [sharedRun] at failed otherFailed
          cases failed
          cases otherFailed
          exact isScripting
      | ok sharedResults =>
          rw [sharedRun] at otherFailed
          cases lastRun : last.mapM attempt with
          | error reason =>
              rw [lastRun] at otherFailed
              cases otherFailed
              exact failsByScripting_mapM lastFails other lastRun
          | ok lastResults =>
              rw [lastRun] at otherFailed
              cases otherFailed

end Attempt

open Attempt

/-! ## Parts of typed objects -/

/-- Every object of a class has a field of a name. -/
def ObjectClass.offers
    (kind : ObjectClass)
    (name : String) : Bool :=
  all.all fun special => !special.isA kind || (special.fieldType? name).isSome

/-- Every object of a class is one of another class, too. -/
def ObjectClass.isWithin
    (kind general : ObjectClass) : Bool :=
  all.all fun special => !special.isA kind || special.isA general

variable {value object column table owner row : Value} {kind : ObjectClass} {name : String}
  {options : Options}

theorem Value.isTyped_of_isWithin
    {general : ObjectClass}
    (typed : value.isTyped kind = true)
    (within : kind.isWithin general = true) :
    value.isTyped general = true := by
  rcases isTyped_iff.mp typed with ⟨special, fields, rfl, special_isA, conform⟩
  have checked := List.all_eq_true.mp within special (ObjectClass.mem_all special)
  rw [special_isA, Bool.not_true, Bool.false_or] at checked
  exact isTyped_iff.mpr ⟨special, fields, rfl, checked, conform⟩

theorem failsByScripting_part
    (typed : value.isTyped kind = true)
    (offered : kind.offers name = true) :
    FailsByScripting (value.part name) := by
  rcases Value.isTyped_iff.mp typed with ⟨special, fields, rfl, special_isA, conform⟩
  have checked := List.all_eq_true.mp offered special (ObjectClass.mem_all special)
  simp only [special_isA, Bool.not_true, Bool.false_or] at checked
  rcases Option.isSome_iff_exists.mp checked with ⟨type, declared⟩
  rcases Option.map_eq_some_iff.mp declared with ⟨info, found, _⟩
  rcases Value.lookup_of_fieldsConform conform found with ⟨held, atName, _⟩
  rw [Value.part, atName]
  exact failsByScripting_ok held

theorem failsByScripting_partText
    (typed : value.isTyped kind = true)
    (declared : kind.declares name .text = true) :
    FailsByScripting (value.partText name) := by
  rw [Value.partText, Value.part_text_of_isTyped typed declared]
  exact failsByScripting_ok _

theorem failsByScripting_partItems
    (item : ItemType)
    (typed : value.isTyped kind = true)
    (declared : kind.declares name { item := item, isList := true } = true) :
    FailsByScripting (value.partItems name) := by
  rcases Value.part_of_isTyped typed declared with ⟨read, conform⟩
  rw [Value.partItems, read, Attempt.ok_bind]
  cases held : value.get name with
  | list items => exact failsByScripting_ok items
  | object special fields =>
      rw [held] at conform
      cases item <;> simp [Value.conforms] at conform
  | _ => simp [held, Value.conforms] at conform

/-- A text that may be missing is read as it is. -/
theorem Value.part_eq_null_or_text
    (name : String)
    (typed : value.isTyped kind = true)
    (declared : kind.declares name { item := .text, isOptional := true } = true) :
    value.part name = .ok .null ∨ ∃ letters, value.part name = .ok (.text letters) := by
  rcases Value.part_of_isTyped typed declared with ⟨read, conform⟩
  rw [read]
  rcases Value.eq_null_or_text conform with held | ⟨letters, held⟩
  · exact Or.inl (congrArg Except.ok held)
  · exact Or.inr ⟨letters, congrArg Except.ok held⟩

theorem Value.required_ok
    (typed : value.isTyped kind = true)
    (argument : String) :
    value.required argument = .ok () := by
  rcases isTyped_iff.mp typed with ⟨_, _, rfl, _, _⟩
  rfl

namespace Dialect

variable (dialect : Dialect)

theorem failsByScripting_expect
    (expected : ObjectClass)
    (found : Value) :
    FailsByScripting (dialect.expect expected found) := by
  unfold expect Value.required
  refine (failsByScripting_ite (failsByScripting_error rfl) (failsByScripting_ok ())).andThen
    fun _ => failsByScripting_ite (failsByScripting_error rfl) (failsByScripting_ok ())

/-- After an expectation of a class the object is a typed one of the class. -/
theorem failsByScripting_expected
    {α : Type}
    {expected : ObjectClass}
    {next : Unit → Attempt α}
    (typed : value.isTyped kind = true)
    (nextFails : value.isTyped expected = true → FailsByScripting (next ())) :
    FailsByScripting (dialect.expect expected value >>= next) :=
  (dialect.failsByScripting_expect expected value).bind fun _ met =>
    nextFails (Value.isTyped_of_isA typed (expect_ok_iff.mp met))

theorem failsByScripting_quotePart
    (typed : value.isTyped kind = true)
    (declared : kind.declares name .text = true) :
    FailsByScripting (dialect.quotePart value name) := by
  rw [quotePart, Value.part_text_of_isTyped typed declared]
  exact failsByScripting_ok _

theorem failsByScripting_quotedParts
    {rows : List Value}
    (typed : ∀ row ∈ rows, row.isTyped kind = true)
    (declared : kind.declares name .text = true) :
    FailsByScripting (dialect.quotedParts name rows) :=
  (failsByScripting_mapM fun row member =>
    dialect.failsByScripting_quotePart (typed row member) declared).map

/-- A schema that is left out is no part of a qualified name. -/
theorem failsByScripting_qualifiedName
    {schema : Value}
    (schemaConforms : schema.conforms { item := .text, isOptional := true } = true)
    (name : String) :
    FailsByScripting (dialect.qualifiedName options schema (.text name)) := by
  rcases Value.eq_null_or_text schemaConforms with rfl | ⟨schema, rfl⟩
  · rw [qualifiedName, show (Value.null).isTruthy = false from rfl, Bool.and_false]
    exact failsByScripting_ok _
  · rw [qualifiedName_text]
    exact failsByScripting_ok _

theorem failsByScripting_qualifiedParts
    {schemaPart namePart : String}
    (typed : value.isTyped kind = true)
    (schemaDeclared : kind.declares schemaPart .text = true)
    (nameDeclared : kind.declares namePart .text = true) :
    FailsByScripting (do
      dialect.qualifiedName options (← value.part schemaPart) (← value.part namePart)) := by
  rw [Value.part_text_of_isTyped typed schemaDeclared,
    Value.part_text_of_isTyped typed nameDeclared, Attempt.ok_bind, Attempt.ok_bind,
    qualifiedName_text]
  exact failsByScripting_ok _

theorem failsByScripting_objectName
    (options : Options)
    (typed : object.isTyped .schemaObject = true) :
    FailsByScripting (dialect.objectName options object) := by
  rw [objectName, Value.required_ok typed]
  exact dialect.failsByScripting_qualifiedParts typed (by decide) (by decide)

theorem failsByScripting_collateClause
    (options : Options)
    (typed : column.isTyped .column = true) :
    FailsByScripting (dialect.collateClause options column) := by
  unfold collateClause
  refine failsByScripting_ite (failsByScripting_pure _) ?_
  rcases Value.part_eq_null_or_text "collation_name" typed (by decide) with
    read | ⟨letters, read⟩
  · rw [read]
    exact failsByScripting_ok _
  · rw [read]
    refine failsByScripting_ite (failsByScripting_pure _) ?_
    cases dialect <;> exact failsByScripting_ok _

theorem failsByScripting_referentialAction
    (action : Value) :
    FailsByScripting (dialect.referentialAction action) := by
  unfold referentialAction
  refine failsByScripting_ite (failsByScripting_error rfl) ?_
  split
  · exact failsByScripting_pure _
  · exact failsByScripting_error rfl

/-- The columns of an index are listed by position. -/
theorem failsByScripting_indexColumns
    {rows : List Value}
    (typed : ∀ row ∈ rows, row.isTyped .index = true) :
    FailsByScripting (dialect.indexColumns rows) := by
  have shows : rows.anyM (fun row => do return (← row.part "is_descending").isTruthy : Value →
      Attempt Bool) = .ok (rows.any fun row => (row.get "is_descending").isTruthy) := by
    apply Attempt.anyM_ok
    intro row member
    have declared : ObjectClass.index.declares "is_descending" { item := .truth } = true := by
      decide
    rw [(Value.part_of_isTyped (typed row member) declared).1]
    rfl
  have sorted : Value.sortedBy (fun row => row.part "ordinal_position") rows = .ok _ :=
    Value.sortedBy_part_int fun row member =>
      Value.part_int_of_isTyped (typed row member) (by decide)
  rw [indexColumns, shows, Attempt.ok_bind, sorted, Attempt.ok_bind]
  refine (failsByScripting_mapM fun row member => ?_).map
  have rowTyped := typed row (Value.mem_sortedOn.mp member)
  refine (dialect.failsByScripting_quotePart rowTyped (by decide)).andThen fun _ => ?_
  exact failsByScripting_ite (failsByScripting_pure _)
    ((failsByScripting_part rowTyped (by decide)).andThen fun _ => failsByScripting_pure _)

end Dialect

/-! ## Groups -/

/-- Statements of groups fail as the statement of one group, for which its first row stands. -/
theorem failsByScripting_groupScripts
    {listed : List Value}
    {statement : Value → List Value → Script}
    (typed : ∀ row ∈ listed, row.isTyped kind = true)
    (fails : ∀ row group, row.isTyped kind = true →
      (∀ member ∈ group, member.isTyped kind = true) → FailsByScripting (statement row group)) :
    FailsByScripting (groupScripts (Value.groupsOf listed) statement) := by
  refine (failsByScripting_mapM fun group grouped => ?_).map
  rcases List.mem_map.mp grouped with ⟨name, named, rfl⟩
  have groupTyped : ∀ member ∈ Value.sortedOn (fun row => .int (row.number "ordinal_position"))
      (listed.filter fun row => row.letters "name" == name), member.isTyped kind = true :=
    fun member held => typed member (List.mem_of_mem_filter (Value.mem_sortedOn.mp held))
  rcases List.mem_map.mp ((Keyed.firstByKey_sublist id _).subset named) with ⟨row, member, rfl⟩
  have held : row ∈ Value.sortedOn (fun row => .int (row.number "ordinal_position"))
      (listed.filter fun other => other.letters "name" == row.letters "name") :=
    Value.mem_sortedOn.mpr (List.mem_filter.mpr ⟨member, beq_self_eq_true _⟩)
  refine fails _ _ (groupTyped _ ?_) groupTyped
  rcases List.exists_cons_of_ne_nil (List.ne_nil_of_mem held) with ⟨first, others, equal⟩
  rw [equal]
  exact List.mem_cons_self

theorem failsByScripting_ofGroups
    {rows : List Value}
    {statement : Value → List Value → Script}
    (typed : ∀ row ∈ rows, row.isTyped kind = true)
    (isRow : kind.isRow = true)
    (fails : ∀ row group, row.isTyped kind = true →
      (∀ member ∈ group, member.isTyped kind = true) → FailsByScripting (statement row group)) :
    FailsByScripting (do groupScripts (← (Value.list rows).groups) statement) := by
  rw [Value.groups_ok fun row member => Value.isRow_of_isTyped (typed row member) isRow,
    Attempt.ok_bind]
  exact failsByScripting_groupScripts
    (fun row member => typed row (Value.mem_sortedOn.mp member)) fails

end SchemaDelta
