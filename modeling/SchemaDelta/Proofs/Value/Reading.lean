import SchemaDelta.Ddl.Access
import SchemaDelta.Schema.Typing

/-!
# Reading typed values

Every field that a class declares can be read from a typed object of it, and what is read is of the
declared type.  The readers of this module give null, no letters, zero or no items where a field is
absent or of another type, so that they can be used without a proof that the object is typed.
-/

namespace SchemaDelta

/-! ## Declared fields -/

namespace ObjectClass

/-- What a field of a class is meant to hold, if the class has the field. -/
def fieldType?
    (kind : ObjectClass)
    (name : String) : Option FieldType :=
  (kind.fields.find? fun info => info.name == name).map (·.type)

/-- The objects of a class, those of more special classes included, have a field of a type. -/
def declares
    (kind : ObjectClass)
    (name : String)
    (type : FieldType) : Bool :=
  all.all fun special => !special.isA kind || decide (special.fieldType? name = some type)

/-- No object of a class has a field of a name. -/
def lacks
    (kind : ObjectClass)
    (name : String) : Bool :=
  all.all fun special => !special.isA kind || decide (special.fieldType? name = none)

theorem mem_all
    (kind : ObjectClass) :
    kind ∈ all := by
  cases kind <;> decide

theorem fieldType?_of_declares
    {kind special : ObjectClass}
    {name : String}
    {type : FieldType}
    (declared : kind.declares name type = true)
    (special_isA : special.isA kind = true) :
    special.fieldType? name = some type := by
  have checked := List.all_eq_true.mp declared special (mem_all special)
  simpa [special_isA] using checked

theorem fieldType?_of_lacks
    {kind special : ObjectClass}
    {name : String}
    (lacking : kind.lacks name = true)
    (special_isA : special.isA kind = true) :
    special.fieldType? name = none := by
  have checked := List.all_eq_true.mp lacking special (mem_all special)
  simpa [special_isA] using checked

end ObjectClass

namespace FieldType

/-- A single text. -/
def text : FieldType := { item := .text }

/-- A single integer. -/
def int : FieldType := { item := .int }

/-- A list of objects of a class. -/
def objects
    (kind : ObjectClass) : FieldType :=
  { item := .object kind, isList := true }

end FieldType

namespace Value

/-! ## Parts -/

/-- Induction over a value, with what holds for the items of a list and the values of all fields. -/
@[elab_as_elim]
theorem partsInduction
    {motive : Value → Prop}
    (null : motive .null)
    (bool : ∀ value, motive (.bool value))
    (int : ∀ value, motive (.int value))
    (float : ∀ value, motive (.float value))
    (text : ∀ value, motive (.text value))
    (member : ∀ known, motive (.member known))
    (list : ∀ items, (∀ item ∈ items, motive item) → motive (.list items))
    (record : ∀ fields, (∀ field ∈ fields, motive field.2) → motive (.record fields))
    (object : ∀ kind fields, (∀ field ∈ fields, motive field.2) → motive (.object kind fields))
    (value : Value) :
    motive value := by
  match value with
  | .null => exact null
  | .bool value => exact bool value
  | .int value => exact int value
  | .float value => exact float value
  | .text value => exact text value
  | .member known => exact member known
  | .list items =>
      exact list items fun item _ =>
        partsInduction null bool int float text member list record object item
  | .record fields =>
      exact record fields fun field _ =>
        partsInduction null bool int float text member list record object field.2
  | .object kind fields =>
      exact object kind fields fun field _ =>
        partsInduction null bool int float text member list record object field.2
termination_by sizeOf value
decreasing_by
  · have smaller := List.sizeOf_lt_of_mem ‹item ∈ items›
    simp only [Value.list.sizeOf_spec]
    omega
  all_goals
    have smaller := List.sizeOf_lt_of_mem ‹field ∈ fields›
    rcases field with ⟨name, held⟩
    simp only [Value.record.sizeOf_spec, Value.object.sizeOf_spec, Prod.mk.sizeOf_spec] at smaller ⊢
    omega

/-! ## Readers -/

/-- What a field of an object holds, null where the object has no such field. -/
def get
    (value : Value)
    (name : String) : Value :=
  (value.field? name).getD .null

/-- The letters in a field. -/
def letters
    (value : Value)
    (name : String) : String :=
  ((value.get name).asText?).getD ""

/-- The number in a field. -/
def number
    (value : Value)
    (name : String) : Int :=
  ((value.get name).asInt?).getD 0

/-- The items in a field. -/
def rows
    (value : Value)
    (name : String) : List Value :=
  match value.get name with
  | list items => items
  | _ => []

/-! ## Fields of typed objects -/

theorem mem_of_lookup_eq_some
    {fields : List (String × Value)}
    {name : String}
    {held : Value}
    (found : fields.lookup name = some held) :
    (name, held) ∈ fields := by
  rcases List.lookup_eq_some_iff.mp found with ⟨before, after, rfl, _⟩
  exact List.mem_append_right before List.mem_cons_self

/-- Under a name stands the changed value where all values are changed under their names. -/
theorem lookup_map_values
    (change : String → Value → Value)
    (fields : List (String × Value))
    (name : String) :
    (fields.map fun field => (field.1, change field.1 field.2)).lookup name =
      (fields.lookup name).map (change name) := by
  induction fields with
  | nil => rfl
  | cons field fields ih =>
      rw [List.map_cons, List.lookup_cons, List.lookup_cons]
      cases same : name == field.1 with
      | true =>
          obtain rfl := beq_iff_eq.mp same
          rfl
      | false => exact ih

theorem lookup_of_fieldsConform
    {fields : List (String × Value)}
    {infos : List FieldInfo}
    (conform : fieldsConform fields infos = true)
    {name : String}
    {info : FieldInfo}
    (declared : infos.find? (fun info => info.name == name) = some info) :
    ∃ found, fields.lookup name = some found ∧
      conforms found info.type = true := by
  induction fields generalizing infos with
  | nil =>
      cases infos with
      | nil => cases declared
      | cons first rest => cases conform
  | cons field fields ih =>
      cases infos with
      | nil => cases conform
      | cons first rest =>
          simp only [fieldsConform, Bool.and_eq_true, beq_iff_eq] at conform
          rcases conform with ⟨⟨sameName, headConforms⟩, tailConform⟩
          rw [List.find?_cons] at declared
          rw [← sameName] at declared
          cases same : field.1 == name with
          | true =>
              rw [same] at declared
              cases declared
              have nameEq : name = field.1 := (beq_iff_eq.mp same).symm
              subst nameEq
              exact ⟨field.2, by rw [List.lookup_cons, beq_self_eq_true], headConforms⟩
          | false =>
              rw [same] at declared
              rcases ih tailConform declared with ⟨found, atName, foundConforms⟩
              have other : (name == field.1) = false := by
                rw [beq_eq_false_iff_ne] at same ⊢
                exact same.symm
              refine ⟨found, ?_, foundConforms⟩
              rw [List.lookup_cons, other]
              exact atName

theorem lookup_none_of_fieldsConform
    {fields : List (String × Value)}
    {infos : List FieldInfo}
    (conform : fieldsConform fields infos = true)
    {name : String}
    (absent : infos.find? (fun info => info.name == name) = none) :
    fields.lookup name = none := by
  induction fields generalizing infos with
  | nil => rfl
  | cons field fields ih =>
      cases infos with
      | nil => cases conform
      | cons first rest =>
          simp only [fieldsConform, Bool.and_eq_true, beq_iff_eq] at conform
          rcases conform with ⟨⟨sameName, _⟩, tailConform⟩
          rw [List.find?_eq_none, List.forall_mem_cons, ← sameName] at absent
          have other : (name == field.1) = false := by
            have differs := absent.1
            simp only [Bool.not_eq_true, beq_eq_false_iff_ne] at differs ⊢
            exact differs.symm
          have rest := ih tailConform (List.find?_eq_none.mpr absent.2)
          rw [List.lookup_cons, other]
          exact rest

/-- A typed object is an object of a class that belongs to the asked one, with its fields. -/
theorem isTyped_iff
    {value : Value}
    {kind : ObjectClass} :
    value.isTyped kind = true ↔
      ∃ special fields, value = .object special fields ∧
        special.isA kind = true ∧ fieldsConform fields special.fields = true := by
  constructor
  · intro typed
    cases value with
    | object special fields =>
        simp only [isTyped, conforms, Bool.not_false, Bool.true_and,
          Bool.and_eq_true] at typed
        exact ⟨special, fields, rfl, typed⟩
    | _ => simp [isTyped, conforms, ItemType.admits] at typed
  · rintro ⟨special, fields, rfl, special_isA, conform⟩
    simp [isTyped, conforms, special_isA, conform]

variable {value : Value} {kind : ObjectClass} {name : String} {type : FieldType}

theorem isNull_of_isTyped
    (typed : value.isTyped kind = true) :
    value.isNull = false := by
  rcases isTyped_iff.mp typed with ⟨_, _, rfl, _, _⟩
  rfl

/-- A declared field of a typed object can be read and holds what it is meant to hold. -/
theorem part_of_isTyped
    (typed : value.isTyped kind = true)
    (declared : kind.declares name type = true) :
    value.part name = .ok (value.get name) ∧
      (value.get name).conforms type = true := by
  rcases isTyped_iff.mp typed with ⟨special, fields, rfl, special_isA, conform⟩
  rcases Option.map_eq_some_iff.mp
      (ObjectClass.fieldType?_of_declares declared special_isA) with
    ⟨info, found, rfl⟩
  rcases lookup_of_fieldsConform conform found with ⟨held, atName, heldConforms⟩
  simp [part, get, field?, atName, heldConforms]

/-- A field that no object of a class has cannot be read from a typed object of it. -/
theorem part_of_lacks
    (typed : value.isTyped kind = true)
    (lacking : kind.lacks name = true) :
    (∃ failure, value.part name = .error failure) ∧ value.get name = .null := by
  rcases isTyped_iff.mp typed with ⟨special, fields, rfl, special_isA, conform⟩
  have absent := ObjectClass.fieldType?_of_lacks lacking special_isA
  have missing : fields.lookup name = none :=
    lookup_none_of_fieldsConform conform (Option.map_eq_none_iff.mp absent)
  simp [part, get, field?, missing]

theorem part_text_of_isTyped
    (typed : value.isTyped kind = true)
    (declared : kind.declares name .text = true) :
    value.part name = .ok (.text (value.letters name)) := by
  rcases part_of_isTyped typed declared with ⟨read, held⟩
  rw [read]
  unfold letters
  cases found : value.get name <;>
    simp_all [FieldType.text, conforms, ItemType.admits, asText?]

theorem part_int_of_isTyped
    (typed : value.isTyped kind = true)
    (declared : kind.declares name .int = true) :
    value.part name = .ok (.int (value.number name)) := by
  rcases part_of_isTyped typed declared with ⟨read, held⟩
  rw [read]
  unfold number
  cases found : value.get name <;>
    simp_all [FieldType.int, conforms, ItemType.admits, asInt?]

theorem allConform_iff
    {items : List Value} :
    allConform items type = true ↔
      ∀ item ∈ items, item.conforms type = true := by
  induction items with
  | nil => simp [allConform]
  | cons item items ih => simp [allConform, ih]

/-- A list in a typed object consists of its items, unless there is none. -/
theorem get_eq_list
    (typed : value.isTyped kind = true)
    (declared : kind.declares name type = true)
    (isList : type.isList = true)
    (given : (value.get name).isNull = false) :
    value.get name = .list (value.rows name) := by
  have conform := (part_of_isTyped typed declared).2
  unfold rows
  cases held : value.get name with
  | list items => rfl
  | null => simp [held, isNull] at given
  | object special fields =>
      rw [held, conforms] at conform
      split at conform <;> simp [isList] at conform
  | _ => simp [held, conforms, isList] at conform

/-- A list that has to be given consists of its items. -/
theorem get_rows_of_isTyped
    {item : ItemType}
    (typed : value.isTyped kind = true)
    (declared : kind.declares name { item, isList := true } = true) :
    value.get name = .list (value.rows name) := by
  refine get_eq_list typed declared rfl ?_
  have conform := (part_of_isTyped typed declared).2
  cases held : value.get name with
  | null =>
      rw [held] at conform
      cases conform
  | _ => rfl

theorem part_rows_of_isTyped
    {item : ItemType}
    (typed : value.isTyped kind = true)
    (declared : kind.declares name { item, isList := true } = true) :
    value.part name = .ok (.list (value.rows name)) := by
  rw [(part_of_isTyped typed declared).1, get_rows_of_isTyped typed declared]

/-- The items of a list that has to be given are read without failure. -/
theorem partItems_of_isTyped
    {item : ItemType}
    (typed : value.isTyped kind = true)
    (declared : kind.declares name { item, isList := true } = true) :
    value.partItems name = .ok (value.rows name) := by
  rw [partItems, part_rows_of_isTyped typed declared]
  rfl

/-- The items of a list of objects in a typed object are typed. -/
theorem isTyped_of_mem_rows
    {item : ObjectClass}
    (typed : value.isTyped kind = true)
    (declared : kind.declares name (.objects item) = true)
    {row : Value}
    (member : row ∈ value.rows name) :
    row.isTyped item = true := by
  have held := (part_of_isTyped typed declared).2
  unfold rows at member
  cases found : value.get name with
  | list items =>
      rw [found] at held member
      simp only [FieldType.objects, conforms, Bool.true_and] at held
      exact allConform_iff.mp held row member
  | _ => simp [found] at member

end Value

end SchemaDelta
