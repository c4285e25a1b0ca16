import SchemaDelta.Proofs.Comparison.Names
import SchemaDelta.Proofs.Comparison.Sameness

/-!
# Symmetry of sameness

Of two typed objects either both are the same as the other or none is.  Sameness looks every field of
one record up in the other, so this needs records that have no name twice, as stored forms of typed
objects have.
-/

namespace SchemaDelta.Value

/-! ## Stored forms -/

/-- Stored forms: neither objects nor members stand in them, and no record has a name twice. -/
inductive IsStored : Value → Prop where
  | null : IsStored .null
  | bool (value : Bool) : IsStored (.bool value)
  | int (value : Int) : IsStored (.int value)
  | float (value : Decimal.Binary64) : IsStored (.float value)
  | text (value : String) : IsStored (.text value)
  | list
    {items : List Value}
    (each : ∀ item ∈ items, IsStored item) : IsStored (.list items)
  | record
    {fields : List (String × Value)}
    (distinct : (fields.map (·.1)).Nodup)
    (each : ∀ field ∈ fields, IsStored field.2) : IsStored (.record fields)

/-- No class has a field twice or one under the tag of the class. -/
theorem nodup_stored_names
    (kind : ObjectClass) :
    (classTag :: kind.fields.map (·.name)).Nodup := by
  cases kind <;> decide

/-- Every field of a typed object is declared by its class. -/
theorem exists_info_of_mem_fields
    {fields : List (String × Value)}
    {infos : List FieldInfo}
    (conform : fieldsConform fields infos = true)
    {field : String × Value}
    (member : field ∈ fields) :
    ∃ info ∈ infos, field.1 = info.name ∧ field.2.conforms info.type = true := by
  induction fields generalizing infos with
  | nil => cases member
  | cons first fields ih =>
      cases infos with
      | nil => cases conform
      | cons info infos =>
          simp only [fieldsConform, Bool.and_eq_true, beq_iff_eq] at conform
          rcases List.mem_cons.mp member with rfl | later
          · exact ⟨info, List.mem_cons_self, conform.1⟩
          · rcases ih conform.2 later with ⟨declared, declaredMember, holds⟩
            exact ⟨declared, List.mem_cons_of_mem info declaredMember, holds⟩

/-- What is of a declared type has a stored form. -/
theorem isStored_toPlain
    (value : Value)
    {type : FieldType}
    (conform : value.conforms type = true) :
    value.toPlain.IsStored := by
  induction value using partsInduction generalizing type with
  | null => exact .null
  | bool value => exact .bool value
  | int value => exact .int value
  | float value => exact .float value
  | text value => exact .text value
  | member known =>
      refine .record (List.nodup_singleton _) fun field member => ?_
      rw [List.mem_singleton.mp member]
      exact .text _
  | list items ih =>
      simp only [conforms, Bool.and_eq_true] at conform
      rw [toPlain, toPlainItems_eq_map]
      refine .list fun item member => ?_
      rcases List.mem_map.mp member with ⟨held, heldMember, rfl⟩
      exact ih held heldMember (allConform_iff.mp conform.2 held heldMember)
  | record fields _ => simp [conforms, ItemType.admits] at conform
  | object kind fields ih =>
      have fieldsConform : fieldsConform fields kind.fields = true := by
        simp only [conforms] at conform
        split at conform
        · exact (Bool.and_eq_true_iff.mp conform).2
        · cases conform
      rw [toPlain, toPlainFields_eq_map]
      refine .record ?_ fun field member => ?_
      · have distinct := nodup_stored_names kind
        rw [← names_of_fieldsConform fieldsConform] at distinct
        simpa [Function.comp_def] using distinct
      · rcases List.mem_cons.mp member with rfl | later
        · exact .text _
        · rcases List.mem_map.mp later with ⟨held, heldMember, rfl⟩
          rcases exists_info_of_mem_fields fieldsConform heldMember with
            ⟨info, _, _, heldConforms⟩
          exact ih held heldMember heldConforms

/-! ## Values without parts -/

private theorem binary64_equal_comm
    (left right : Decimal.Binary64) :
    left.equal right = right.equal left := by
  cases left <;> cases right <;>
    simp only [Decimal.Binary64.equal, Bool.and_comm, eq_comm, Bool.beq_comm]

private theorem float_beq_comm
    (left right : Decimal.Binary64) :
    (float left == float right) = (float right == float left) := by
  rw [beq_eq_equal, beq_eq_equal]
  cases left <;> cases right <;>
    first
      | rfl
      | simp only [equal, equalScalar, binary64_equal_comm]

private theorem marks_comm
    (left right : Option String) :
    (match left, right with
      | some left, some right => left == right
      | _, _ => false) =
      match right, left with
      | some right, some left => right == left
      | _, _ => false := by
  cases left with
  | none => cases right <;> rfl
  | some left =>
      cases right with
      | none => rfl
      | some right => exact Bool.beq_comm

private theorem sameMark_comm
    (left right : Value) :
    sameMark left right = sameMark right left := by
  have marks := marks_comm left.mark? right.mark?
  cases left <;> cases right <;>
    first
      | exact marks
      | exact float_beq_comm _ _
      | exact Bool.beq_comm
      | rfl

/-! ## Symmetry -/

section Exchange

variable {lefts rights : List Value} {leftFields rightFields : List (String × Value)}

private theorem alike_list_exchange
    (symmetric : ∀ left ∈ lefts, ∀ right ∈ rights, alike left right = alike right left)
    (alikeLists : alike (list lefts) (list rights) = true) :
    alike (list rights) (list lefts) = true := by
  rcases alike_list_iff.mp alikeLists with ⟨forward, backward⟩
  apply alike_list_iff.mpr
  constructor
  · intro right rightMember
    rcases backward right rightMember with ⟨left, leftMember, alikeItems⟩
    exact ⟨left, leftMember, (symmetric left leftMember right rightMember).symm.trans alikeItems⟩
  · intro left leftMember
    rcases forward left leftMember with ⟨right, rightMember, alikeItems⟩
    exact ⟨right, rightMember, (symmetric left leftMember right rightMember).symm.trans alikeItems⟩

/-- Fields that are looked up in a record can be looked up the other way. -/
private theorem fields_exchange
    {test : Value → Value → Bool}
    (leftDistinct : (leftFields.map (·.1)).Nodup)
    (rightDistinct : (rightFields.map (·.1)).Nodup)
    (symmetric : ∀ left ∈ leftFields, ∀ right ∈ rightFields,
      test left.2 right.2 = test right.2 left.2)
    (named : sameNames leftFields rightFields = true)
    (agree : ∀ field ∈ leftFields, isTag field.1 = true ∨
      ∃ right, rightFields.lookup field.1 = some right ∧ test field.2 right = true) :
    sameNames rightFields leftFields = true ∧ ∀ field ∈ rightFields, isTag field.1 = true ∨
      ∃ left, leftFields.lookup field.1 = some left ∧ test field.2 left = true := by
  constructor
  · rw [sameNames, List.all_eq_true]
    intro left leftMember
    rw [Bool.or_eq_true, List.any_eq_true]
    apply (agree left leftMember).imp_right
    rintro ⟨right, found, _⟩
    exact ⟨_, mem_of_lookup_eq_some found, beq_self_eq_true _⟩
  · intro right rightMember
    have occurs := List.all_eq_true.mp named right rightMember
    rw [Bool.or_eq_true, List.any_eq_true] at occurs
    rcases occurs with tagged | ⟨left, leftMember, sameName⟩
    · exact Or.inl tagged
    · rcases left with ⟨name, left⟩
      rcases right with ⟨_, right⟩
      obtain rfl : name = _ := beq_iff_eq.mp sameName
      apply (agree _ leftMember).imp_right
      rintro ⟨other, found, agrees⟩
      cases found.symm.trans ((Keyed.lookup_eq_some_iff_mem rightDistinct).mpr rightMember)
      exact ⟨left, (Keyed.lookup_eq_some_iff_mem leftDistinct).mpr leftMember,
        (symmetric _ leftMember _ rightMember).symm.trans agrees⟩

private theorem alike_record_exchange
    (leftDistinct : (leftFields.map (·.1)).Nodup)
    (rightDistinct : (rightFields.map (·.1)).Nodup)
    (symmetric : ∀ left ∈ leftFields, ∀ right ∈ rightFields,
      alike left.2 right.2 = alike right.2 left.2)
    (alikeRecords : alike (record leftFields) (record rightFields) = true) :
    alike (record rightFields) (record leftFields) = true := by
  rw [alike, Bool.and_eq_true, alikeFields_iff] at alikeRecords ⊢
  exact fields_exchange leftDistinct rightDistinct symmetric alikeRecords.1 alikeRecords.2

private theorem same_record_exchange
    (leftDistinct : (leftFields.map (·.1)).Nodup)
    (rightDistinct : (rightFields.map (·.1)).Nodup)
    (symmetric : ∀ left ∈ leftFields, ∀ right ∈ rightFields,
      same left.2 right.2 = same right.2 left.2)
    (sameRecords : same (record leftFields) (record rightFields) = true) :
    same (record rightFields) (record leftFields) = true := by
  rw [same, Bool.and_eq_true, sameFields_iff] at sameRecords ⊢
  exact fields_exchange leftDistinct rightDistinct symmetric sameRecords.1 sameRecords.2

end Exchange

variable {left right : Value}

/-- The induction follows the stored form of one side; the other side has the same shape or none. -/
theorem alike_comm
    (leftStored : left.IsStored)
    (rightStored : right.IsStored) :
    alike left right = alike right left := by
  induction leftStored generalizing right with
  | list leftEach ih =>
      cases rightStored with
      | list rightEach =>
          exact Bool.eq_iff_iff.mpr
            ⟨alike_list_exchange fun _ leftMember _ rightMember =>
                ih _ leftMember (rightEach _ rightMember),
              alike_list_exchange fun _ rightMember _ leftMember =>
                (ih _ leftMember (rightEach _ rightMember)).symm⟩
      | _ => simp only [alike, sameMark_comm]
  | record leftDistinct leftEach ih =>
      cases rightStored with
      | record rightDistinct rightEach =>
          exact Bool.eq_iff_iff.mpr
            ⟨alike_record_exchange leftDistinct rightDistinct
                fun _ leftMember _ rightMember => ih _ leftMember (rightEach _ rightMember),
              alike_record_exchange rightDistinct leftDistinct
                fun _ rightMember _ leftMember =>
                  (ih _ leftMember (rightEach _ rightMember)).symm⟩
      | _ => simp only [alike, sameMark_comm]
  | _ => cases rightStored <;> simp only [alike, sameMark_comm]

theorem same_comm
    (leftStored : left.IsStored)
    (rightStored : right.IsStored) :
    same left right = same right left := by
  induction leftStored generalizing right with
  | list leftEach =>
      cases rightStored with
      | list rightEach =>
          simp only [same]
          exact alike_comm (.list leftEach) (.list rightEach)
      | _ => simp only [same]
  | record leftDistinct leftEach ih =>
      cases rightStored with
      | record rightDistinct rightEach =>
          exact Bool.eq_iff_iff.mpr
            ⟨same_record_exchange leftDistinct rightDistinct
                fun _ leftMember _ rightMember => ih _ leftMember (rightEach _ rightMember),
              same_record_exchange rightDistinct leftDistinct
                fun _ rightMember _ leftMember =>
                  (ih _ leftMember (rightEach _ rightMember)).symm⟩
      | _ => simp only [same]
  | float value =>
      cases rightStored with
      | float other =>
          simp only [same]
          exact float_beq_comm value other
      | _ => simp only [same]
  | _ => cases rightStored <;> simp only [same, Bool.beq_comm]

/-! ## Objects -/

/-- Columns are declared as such wherever a class has a field of this name. -/
private theorem type_of_columns
    {kind : ObjectClass}
    {info : FieldInfo}
    (member : info ∈ kind.fields)
    (isColumns : info.name = "columns") :
    info.type = .objects .column := by
  have checked : ∀ kind : ObjectClass,
      (kind.fields.all fun info => info.name != "columns" || info.type == .objects .column) =
        true := by
    intro kind
    cases kind <;> decide
  simpa [isColumns] using List.all_eq_true.mp (checked kind) info member

private theorem isStored_unplaced
    {column : Value}
    (stored : column.IsStored) :
    (unplaced column).IsStored := by
  cases stored with
  | record distinct each =>
      exact .record (distinct.sublist (List.filter_sublist.map _))
        fun field member => each field (List.mem_of_mem_filter member)
  | list each => exact .list each
  | null => exact .null
  | bool value => exact .bool value
  | int value => exact .int value
  | float value => exact .float value
  | text value => exact .text value

private theorem comparableColumns_ok
    {columns : List Value}
    (typed : ∀ column ∈ columns, column.isTyped .column = true) :
    comparableColumns (list columns).toPlain =
      .ok (list (columns.map fun column => unplaced column.toPlain)) := by
  have mapped : (columns.map toPlain).mapM withoutPosition =
      .ok (columns.map fun column => unplaced column.toPlain) := by
    rw [List.mapM_map]
    exact Attempt.mapM_ok fun column member => withoutPosition_ok (typed column member)
  rw [toPlain, toPlainItems_eq_map, comparableColumns, items, Attempt.ok_bind, mapped]
  rfl

/-- Every field of a typed object can be compared. -/
private theorem exists_comparableField
    {kind : ObjectClass}
    {info : FieldInfo}
    {value : Value}
    (member : info ∈ kind.fields)
    (conform : value.conforms info.type = true) :
    ∃ held, comparableField (info.name, value.toPlain) = .ok (info.name, held) ∧
      held.IsStored := by
  by_cases isColumns : info.name = "columns"
  · rw [type_of_columns member isColumns] at conform
    rw [isColumns]
    cases value with
    | list columns =>
        simp only [FieldType.objects, conforms, Bool.true_and] at conform
        have typed := allConform_iff.mp conform
        refine ⟨_, by rw [comparableField, comparableColumns_ok typed]; rfl, .list ?_⟩
        intro compared comparedMember
        rcases List.mem_map.mp comparedMember with ⟨column, columnMember, rfl⟩
        exact isStored_unplaced (isStored_toPlain column (typed column columnMember))
    | _ => simp [FieldType.objects, conforms] at conform
  · exact ⟨_, comparableField_of_ne isColumns _, isStored_toPlain value conform⟩

/-- A typed object can be compared. -/
private theorem exists_comparable
    {object : Value}
    {kind : ObjectClass}
    (typed : object.isTyped kind = true) :
    ∃ compared, object.comparable = .ok compared ∧ compared.IsStored := by
  rcases isTyped_iff.mp typed with ⟨special, fields, rfl, _, conform⟩
  have tagCompared :
      comparableField (classTag, text special.name) = .ok (classTag, text special.name) :=
    comparableField_of_ne (by decide) _
  have compared : ∀ field ∈ (classTag, text special.name) :: toPlainFields fields,
      ∃ held, comparableField field = .ok held ∧ field.1 = held.1 ∧ held.2.IsStored := by
    rw [toPlainFields_eq_map, List.forall_mem_cons]
    refine ⟨⟨_, tagCompared, rfl, .text _⟩, ?_⟩
    intro field member
    rcases List.mem_map.mp member with ⟨⟨name, value⟩, heldMember, rfl⟩
    rcases exists_info_of_mem_fields conform heldMember with
      ⟨info, infoMember, sameName, heldConforms⟩
    obtain rfl : name = info.name := sameName
    rcases exists_comparableField infoMember heldConforms with ⟨held, comparedOk, stored⟩
    exact ⟨(info.name, held), comparedOk, rfl, stored⟩
  rcases Attempt.exists_mapM_ok compared with ⟨held, heldOk, holds⟩
  have sameNames : held.map (·.1) = classTag :: fields.map (·.1) := by
    have named : List.Forall₂ Eq
        (((classTag, text special.name) :: toPlainFields fields).map (·.1)) (held.map (·.1)) :=
      List.forall₂_map_left_iff.mpr
        (List.forall₂_map_right_iff.mpr (holds.imp fun _ _ => And.left))
    rw [List.forall₂_eq_eq_eq] at named
    rw [← named, toPlainFields_eq_map]
    simp [Function.comp_def]
  refine ⟨record held, ?_, .record ?_ ?_⟩
  · rw [comparable, toPlain]
    simp only [heldOk, Attempt.ok_bind, Attempt.pure_eq_ok]
  · rw [sameNames, names_of_fieldsConform conform]
    exact nodup_stored_names special
  · intro field member
    rcases Attempt.exists_of_mem_mapM heldOk member with ⟨origin, originMember, originOk⟩
    rcases compared origin originMember with ⟨found, foundOk, _, stored⟩
    cases originOk.symm.trans foundOk
    exact stored

/-- Two typed objects can be compared, and in either direction alike. -/
theorem exists_sameObject
    {left right : Value}
    {leftKind rightKind : ObjectClass}
    (leftTyped : left.isTyped leftKind = true)
    (rightTyped : right.isTyped rightKind = true) :
    ∃ answer, left.sameObject right = .ok answer ∧ right.sameObject left = .ok answer := by
  rcases exists_comparable leftTyped with ⟨leftCompared, leftOk, leftStored⟩
  rcases exists_comparable rightTyped with ⟨rightCompared, rightOk, rightStored⟩
  refine ⟨same leftCompared rightCompared, ?_, ?_⟩
  · rw [sameObject, leftOk, rightOk]
    rfl
  · rw [sameObject, leftOk, rightOk, same_comm leftStored rightStored]
    rfl

end SchemaDelta.Value
