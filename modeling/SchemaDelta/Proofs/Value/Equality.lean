import SchemaDelta.Proofs.Value.Reading

/-!
# Equality of typed rows

Values of different kinds may be equal: true is one, and a member is the text that is its value.
Two flat objects, whose fields hold typed values without parts, are equal only when they are the
same.
-/

namespace SchemaDelta

/-- Values of the type have no parts, and two of them are equal only when they are the same. -/
def FieldType.isExact
    (type : FieldType) : Bool :=
  !type.isList &&
    match type.item with
    | .number => false
    | .object _ => false
    | _ => true

/-- All fields of a class are exact. -/
def ObjectClass.isFlat
    (kind : ObjectClass) : Bool :=
  kind.fields.all fun info => info.type.isExact

/-- The objects of a class, those of more special classes included, have a field of an exact type. -/
def ObjectClass.declaresExact
    (kind : ObjectClass)
    (name : String) : Bool :=
  (kind.fieldType? name).any fun type => type.isExact && kind.declares name type

namespace Value

/-! ## Equality by kinds -/

@[simp]
theorem beq_eq_equal
    (left right : Value) :
    (left == right) = equal left right :=
  rfl

@[simp]
theorem equal_text
    (left right : String) :
    equal (text left) (text right) = (left == right) :=
  rfl

@[simp]
theorem equal_int
    (left right : Int) :
    equal (int left) (int right) = (left == right) :=
  rfl

theorem equalItems_eq_beq
    (lefts rights : List Value) :
    equalItems lefts rights = (lefts == rights) := by
  induction lefts generalizing rights with
  | nil => cases rights <;> rfl
  | cons left lefts ih =>
      cases rights with
      | nil => rfl
      | cons right rights =>
          rw [List.cons_beq_cons, ← ih]
          rfl

@[simp]
theorem equal_list
    (lefts rights : List Value) :
    equal (list lefts) (list rights) = (lefts == rights) :=
  equalItems_eq_beq lefts rights

/-! ## Exact values -/

/-- A single value without parts that is meant to be of a type is null or of that type. -/
theorem conforms_single
    {value : Value}
    {item : ItemType}
    {isOptional : Bool}
    (notObject : ∀ kind, item ≠ .object kind)
    (conform : value.conforms ⟨item, false, isOptional⟩ = true) :
    value = null ∨ item.admits value = true := by
  cases value with
  | null => exact Or.inl rfl
  | object kind fields =>
      cases item with
      | object expected => exact (notObject expected rfl).elim
      | _ => simp [conforms] at conform
  | list items => simp [conforms] at conform
  | _ => exact Or.inr (by simpa [conforms] using conform)

/-- What an optional field of a text holds. -/
theorem eq_null_or_text
    {value : Value}
    (conform : value.conforms { item := .text, isOptional := true } = true) :
    value = null ∨ ∃ letters, value = text letters := by
  apply (conforms_single (by simp) conform).imp_right
  intro admitted
  cases value <;> cases admitted
  exact ⟨_, rfl⟩

private theorem admits_member_value_injective
    {item : ItemType}
    {left right : Member}
    (leftAdmitted : item.admits (.member left) = true)
    (rightAdmitted : item.admits (.member right) = true)
    (sameValue : left.value = right.value) :
    left = right := by
  cases left <;> cases right <;> rename_i left right <;>
    cases item <;> simp only [ItemType.admits, reduceCtorEq] at leftAdmitted rightAdmitted <;>
    cases left <;> cases right <;> first | rfl | exact absurd sameValue (by decide)

private theorem beq_iff_eq_of_admits
    {item : ItemType}
    {left right : Value}
    (notNumber : item ≠ .number)
    (leftAdmitted : item.admits left = true)
    (rightAdmitted : item.admits right = true) :
    (left == right) = true ↔ left = right := by
  have unfolded :
      ∀ left right : Member, equal (member left) (member right) = (left.value == right.value) :=
    fun _ _ => rfl
  cases item with
  | number => exact (notNumber rfl).elim
  | object expected => cases left <;> cases leftAdmitted
  | text =>
      cases left <;> cases leftAdmitted
      cases right <;> cases rightAdmitted
      simp
  | truth =>
      cases left <;> cases leftAdmitted
      cases right <;> cases rightAdmitted
      rename_i left right
      cases left <;> cases right <;> simp [equal, equalScalar, asInt?]
  | int =>
      cases left <;> cases leftAdmitted
      cases right <;> cases rightAdmitted
      simp
  | _ =>
      cases left <;> first | cases leftAdmitted | skip
      cases right <;> first | cases rightAdmitted | skip
      rw [beq_eq_equal, unfolded, beq_iff_eq, member.injEq]
      constructor
      · exact admits_member_value_injective leftAdmitted rightAdmitted
      · rintro rfl
        rfl

/-- Two values of an exact type are equal only when they are the same. -/
theorem beq_iff_eq_of_isExact
    {type : FieldType}
    {left right : Value}
    (exact : type.isExact = true)
    (leftConforms : left.conforms type = true)
    (rightConforms : right.conforms type = true) :
    (left == right) = true ↔ left = right := by
  rcases type with ⟨item, isList, isOptional⟩
  simp only [FieldType.isExact, Bool.and_eq_true, Bool.not_eq_true'] at exact
  rcases exact with ⟨rfl, single⟩
  have notObject : ∀ kind, item ≠ .object kind := by
    rintro kind rfl
    cases single
  have notNumber : item ≠ .number := by
    rintro rfl
    cases single
  rcases conforms_single notObject leftConforms with rfl | leftAdmitted <;>
    rcases conforms_single notObject rightConforms with rfl | rightAdmitted
  · exact ⟨fun _ => rfl, fun _ => rfl⟩
  · cases right <;> simp_all [ItemType.admits, equal, equalScalar, asInt?, asText?]
  · cases left <;> simp_all [ItemType.admits, equal, equalScalar, asInt?, asText?]
  · exact beq_iff_eq_of_admits notNumber leftAdmitted rightAdmitted

/-! ## Exact fields -/

section ExactFields

variable {kind : ObjectClass} {name : String} {left right : Value}

private theorem exists_type_of_declaresExact
    (declared : kind.declaresExact name = true) :
    ∃ type : FieldType, type.isExact = true ∧ kind.declares name type = true := by
  rw [ObjectClass.declaresExact, Option.any_eq_true] at declared
  rcases declared with ⟨type, _, holds⟩
  exact ⟨type, Bool.and_eq_true_iff.mp holds⟩

/-- An exact field of a typed object can be read. -/
theorem part_of_declaresExact
    (typed : left.isTyped kind = true)
    (declared : kind.declaresExact name = true) :
    left.part name = .ok (left.get name) := by
  rcases exists_type_of_declaresExact declared with ⟨type, _, declares⟩
  exact (part_of_isTyped typed declares).1

/-- In an exact field two typed objects have equal values only when they have the same. -/
theorem get_eq_of_declaresExact
    (leftTyped : left.isTyped kind = true)
    (rightTyped : right.isTyped kind = true)
    (declared : kind.declaresExact name = true)
    (same : (left.get name == right.get name) = true) :
    left.get name = right.get name := by
  rcases exists_type_of_declaresExact declared with ⟨type, exact, declares⟩
  exact (beq_iff_eq_of_isExact exact (part_of_isTyped leftTyped declares).2
    (part_of_isTyped rightTyped declares).2).mp same

/-- What an exact field holds is equal to itself. -/
theorem get_beq_self
    (typed : left.isTyped kind = true)
    (declared : kind.declaresExact name = true) :
    (left.get name == left.get name) = true := by
  rcases exists_type_of_declaresExact declared with ⟨type, exact, declares⟩
  have conforms := (part_of_isTyped typed declares).2
  exact (beq_iff_eq_of_isExact exact conforms conforms).mpr rfl

/-- What an exact field holds agrees with itself. -/
theorem get_agrees_self
    (typed : left.isTyped kind = true)
    (declared : kind.declaresExact name = true) :
    (left.get name).agrees (left.get name) = true := by
  have same := get_beq_self typed declared
  rw [agrees, same, Bool.and_true, Bool.not_eq_true']
  -- No exact field holds a number that could be undefined.
  cases held : left.get name with
  | float value =>
      rcases exists_type_of_declaresExact declared with ⟨⟨item, isList, isOptional⟩, exact, declares⟩
      have conforms := (part_of_isTyped typed declares).2
      rw [held] at conforms
      cases item <;> simp_all [FieldType.isExact, Value.conforms, ItemType.admits]
  | _ => rfl

end ExactFields

/-! ## Flat objects -/

/-- A typed object of a class whose fields are all exact. -/
def IsFlat
    (value : Value) : Prop :=
  ∃ kind fields, value = .object kind fields ∧ kind.isFlat = true ∧
    fieldsConform fields kind.fields = true

theorem equalFields_iff_of_exact
    {infos : List FieldInfo}
    (exact : infos.all (fun info => info.type.isExact) = true)
    {lefts rights : List (String × Value)}
    (leftsConform : fieldsConform lefts infos = true)
    (rightsConform : fieldsConform rights infos = true) :
    equalFields lefts rights = true ↔ lefts = rights := by
  induction infos generalizing lefts rights with
  | nil =>
      cases lefts with
      | nil =>
          cases rights with
          | nil => simp [equalFields]
          | cons right rights => cases rightsConform
      | cons left lefts => cases leftsConform
  | cons info infos ih =>
      cases lefts with
      | nil => cases leftsConform
      | cons left lefts =>
          cases rights with
          | nil => cases rightsConform
          | cons right rights =>
              rcases left with ⟨leftName, leftValue⟩
              rcases right with ⟨rightName, rightValue⟩
              simp only [fieldsConform, Bool.and_eq_true, beq_iff_eq] at leftsConform rightsConform
              rcases leftsConform with ⟨⟨rfl, leftConforms⟩, leftsConform⟩
              rcases rightsConform with ⟨⟨rfl, rightConforms⟩, rightsConform⟩
              rw [List.all_cons, Bool.and_eq_true] at exact
              have sameValue :=
                beq_iff_eq_of_isExact exact.1 leftConforms rightConforms
              rw [beq_eq_equal] at sameValue
              simp [equalFields, sameValue, ih exact.2 leftsConform rightsConform]

/-- Two flat objects are equal only when they are the same. -/
theorem beq_iff_eq_of_isFlat
    {left right : Value}
    (leftFlat : left.IsFlat)
    (rightFlat : right.IsFlat) :
    (left == right) = true ↔ left = right := by
  rcases leftFlat with ⟨leftKind, lefts, rfl, flat, leftsConform⟩
  rcases rightFlat with ⟨rightKind, rights, rfl, _, rightsConform⟩
  have unfolded :
      equal (.object leftKind lefts) (.object rightKind rights) =
        (leftKind == rightKind && equalFields lefts rights) := rfl
  rw [beq_eq_equal, unfolded, Bool.and_eq_true, beq_iff_eq, object.injEq]
  constructor
  · rintro ⟨rfl, sameFields⟩
    exact ⟨rfl, (equalFields_iff_of_exact flat leftsConform rightsConform).mp sameFields⟩
  · rintro ⟨rfl, rfl⟩
    exact ⟨rfl, (equalFields_iff_of_exact flat leftsConform leftsConform).mpr rfl⟩

/-- Two lists of flat objects are equal only when they are the same. -/
theorem list_beq_iff_eq_of_isFlat
    {lefts rights : List Value}
    (leftsFlat : ∀ left ∈ lefts, left.IsFlat)
    (rightsFlat : ∀ right ∈ rights, right.IsFlat) :
    (lefts == rights) = true ↔ lefts = rights := by
  induction lefts generalizing rights with
  | nil => cases rights <;> simp
  | cons left lefts ih =>
      cases rights with
      | nil => simp
      | cons right rights =>
          rw [List.cons_beq_cons, Bool.and_eq_true, List.cons.injEq,
            beq_iff_eq_of_isFlat (leftsFlat left List.mem_cons_self)
              (rightsFlat right List.mem_cons_self),
            ih (fun other member => leftsFlat other (List.mem_cons_of_mem left member))
              (fun other member => rightsFlat other (List.mem_cons_of_mem right member))]

end Value

/-! ## Classes of rows -/

/-- All classes that belong to one have exact fields only. -/
def ObjectClass.areFlat
    (kind : ObjectClass) : Bool :=
  all.all fun special => !special.isA kind || special.isFlat

/-- A typed object of a class with exact fields only is flat. -/
theorem Value.isFlat_of_isTyped
    {value : Value}
    {kind : ObjectClass}
    (typed : value.isTyped kind = true)
    (flat : kind.areFlat = true) :
    value.IsFlat := by
  rcases Value.isTyped_iff.mp typed with ⟨special, fields, equal, special_isA, conform⟩
  have checked := List.all_eq_true.mp flat special (ObjectClass.mem_all special)
  exact ⟨special, fields, equal, by simpa [special_isA] using checked, conform⟩

end SchemaDelta
