import SchemaDelta.Comparison.Sameness
import SchemaDelta.Proofs.Value.Reading

/-!
# Alike values

Records agree in every field whose name is no tag; lists agree when every item of either one is
alike to some item of the other.  What the declared fields of an object hold can be found in its
stored form.
-/

namespace SchemaDelta.Value

/-! ## Fields of records -/

theorem sameFields_iff
    {lefts rights : List (String × Value)} :
    sameFields lefts rights = true ↔
      ∀ field ∈ lefts, isTag field.1 = true ∨
        ∃ right, rights.lookup field.1 = some right ∧ same field.2 right = true := by
  induction lefts with
  | nil => simp [sameFields]
  | cons field lefts ih =>
      rcases field with ⟨name, left⟩
      rw [sameFields, Bool.and_eq_true, ih, List.forall_mem_cons, Bool.or_eq_true]
      cases found : rights.lookup name <;> simp

theorem alikeFields_iff
    {lefts rights : List (String × Value)} :
    alikeFields lefts rights = true ↔
      ∀ field ∈ lefts, isTag field.1 = true ∨
        ∃ right, rights.lookup field.1 = some right ∧ alike field.2 right = true := by
  induction lefts with
  | nil => simp [alikeFields]
  | cons field lefts ih =>
      rcases field with ⟨name, left⟩
      rw [alikeFields, Bool.and_eq_true, ih, List.forall_mem_cons, Bool.or_eq_true]
      cases found : rights.lookup name <;> simp

/-- Alike records hold alike values under a name that is no tag. -/
theorem alike_of_alike_record
    {lefts rights : List (String × Value)}
    {name : String}
    {left right : Value}
    (alikeRecords : alike (record lefts) (record rights) = true)
    (untagged : isTag name = false)
    (leftHeld : lefts.lookup name = some left)
    (rightHeld : rights.lookup name = some right) :
    alike left right = true := by
  rw [alike, Bool.and_eq_true, alikeFields_iff] at alikeRecords
  rcases alikeRecords.2 _ (mem_of_lookup_eq_some leftHeld) with tagged | ⟨other, held, matched⟩
  · rw [untagged] at tagged
    cases tagged
  · rw [rightHeld] at held
    cases held
    exact matched

/-- Records that are the same hold the same values under a name that is no tag. -/
theorem same_of_same_record
    {lefts rights : List (String × Value)}
    {name : String}
    {left right : Value}
    (sameRecords : same (record lefts) (record rights) = true)
    (untagged : isTag name = false)
    (leftHeld : lefts.lookup name = some left)
    (rightHeld : rights.lookup name = some right) :
    same left right = true := by
  rw [same, Bool.and_eq_true, sameFields_iff] at sameRecords
  rcases sameRecords.2 _ (mem_of_lookup_eq_some leftHeld) with tagged | ⟨other, held, matched⟩
  · rw [untagged] at tagged
    cases tagged
  · rw [rightHeld] at held
    cases held
    exact matched

/-- Records that are the same have the same names, tags apart. -/
theorem mem_names_iff_of_same_record
    {lefts rights : List (String × Value)}
    (sameRecords : same (record lefts) (record rights) = true)
    {name : String}
    (untagged : isTag name = false) :
    name ∈ lefts.map (·.1) ↔ name ∈ rights.map (·.1) := by
  rw [same, Bool.and_eq_true, sameFields_iff] at sameRecords
  rcases sameRecords with ⟨namesHeld, fieldsHeld⟩
  constructor
  · intro member
    rcases List.mem_map.mp member with ⟨field, fieldMember, rfl⟩
    rcases fieldsHeld field fieldMember with tagged | ⟨other, held, _⟩
    · rw [untagged] at tagged
      cases tagged
    · exact List.mem_map.mpr ⟨_, mem_of_lookup_eq_some held, rfl⟩
  · intro member
    rcases List.mem_map.mp member with ⟨field, fieldMember, rfl⟩
    have occurs := List.all_eq_true.mp namesHeld field fieldMember
    rw [untagged, Bool.false_or, List.any_eq_true] at occurs
    rcases occurs with ⟨left, leftMember, sameName⟩
    exact beq_iff_eq.mp sameName ▸ List.mem_map_of_mem leftMember

/-! ## Items of lists -/

private theorem alikeRows_eq_map
    (lefts rights : List Value) :
    alikeRows lefts rights = lefts.map fun left => rights.map (alike left) := by
  induction lefts with
  | nil => rfl
  | cons left lefts ih => rw [alikeRows, ih, List.map_cons]

private theorem foldl_rows_eq_map
    {α β : Type}
    (test : α → β → Bool)
    (lefts : List α)
    (rights : List β)
    (known : β → Bool) :
    (lefts.map fun left => rights.map (test left)).foldl (List.zipWith (· || ·))
        (rights.map known) =
      rights.map fun right => known right || lefts.any fun left => test left right := by
  induction lefts generalizing known with
  | nil => simp
  | cons left lefts ih =>
      rw [List.map_cons, List.foldl_cons, List.zipWith_map, List.zipWith_self, ih]
      simp [Bool.or_assoc]

/-- Lists are alike exactly when each item of either one is alike to some item of the other. -/
theorem alike_list_iff
    {lefts rights : List Value} :
    alike (list lefts) (list rights) = true ↔
      (∀ left ∈ lefts, ∃ right ∈ rights, alike left right = true) ∧
        ∀ right ∈ rights, ∃ left ∈ lefts, alike left right = true := by
  have start : List.replicate rights.length false = rights.map fun _ => false :=
    List.map_const'.symm
  rw [alike, alikeRows_eq_map, Bool.and_eq_true, coversAll, start, foldl_rows_eq_map]
  simp

/-! ## Stored form -/

theorem toPlainItems_eq_map
    (items : List Value) :
    toPlainItems items = items.map toPlain := by
  induction items with
  | nil => rfl
  | cons item items ih => rw [toPlainItems, ih, List.map_cons]

theorem toPlainFields_eq_map
    (fields : List (String × Value)) :
    toPlainFields fields = fields.map fun field => (field.1, field.2.toPlain) := by
  induction fields with
  | nil => rfl
  | cons field fields ih => rw [toPlainFields, ih, List.map_cons]

private theorem lookup_toPlainFields
    (fields : List (String × Value))
    (name : String) :
    (toPlainFields fields).lookup name = (fields.lookup name).map toPlain := by
  rw [toPlainFields_eq_map]
  exact lookup_map_values (fun _ value => value.toPlain) fields name

private theorem lookup_stored
    {kind : ObjectClass}
    {fields : List (String × Value)}
    {name : String}
    (untagged : isTag name = false) :
    ((classTag, text kind.name) :: toPlainFields fields).lookup name =
      (fields.lookup name).map toPlain := by
  have differs : (name == classTag) = false := by
    rw [beq_eq_false_iff_ne]
    rintro rfl
    exact absurd untagged (by decide)
  rw [List.lookup_cons, differs, lookup_toPlainFields]

/-- In the stored form of an object stands what a field of its class holds. -/
theorem lookup_stored_of_declared
    {kind : ObjectClass}
    {fields : List (String × Value)}
    (conform : fieldsConform fields kind.fields = true)
    {name : String}
    {type : FieldType}
    (declared : kind.fieldType? name = some type)
    (untagged : isTag name = false) :
    ((classTag, text kind.name) :: toPlainFields fields).lookup name =
      some ((object kind fields).get name).toPlain := by
  rcases Option.map_eq_some_iff.mp declared with ⟨info, found, _⟩
  rcases lookup_of_fieldsConform conform found with ⟨held, atName, _⟩
  simp [lookup_stored untagged, atName, get, field?]

/-- A typed object is stored as a record of what its declared fields hold. -/
theorem toPlain_of_isTyped
    {value : Value}
    {kind : ObjectClass}
    (typed : value.isTyped kind = true) :
    ∃ fields, value.toPlain = record fields ∧
      ∀ name type, kind.declares name type = true → isTag name = false →
        fields.lookup name = some (value.get name).toPlain := by
  rcases isTyped_iff.mp typed with ⟨special, fields, rfl, special_isA, conform⟩
  refine ⟨(classTag, text special.name) :: toPlainFields fields, rfl, ?_⟩
  intro name type declared untagged
  exact lookup_stored_of_declared conform
    (ObjectClass.fieldType?_of_declares declared special_isA) untagged

end SchemaDelta.Value
