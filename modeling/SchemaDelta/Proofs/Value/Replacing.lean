import SchemaDelta.Proofs.Value.Reading

/-!
# Replacing parts of typed values

Parts of a typed object can be replaced by values of the declared types.  The object stays typed, the
replaced parts hold the new values and the others what they held.
-/

namespace SchemaDelta

namespace ObjectClass

private theorem fieldType?_of_mem_fields
    (kind : ObjectClass) :
    (kind.fields.all fun info => decide (kind.fieldType? info.name = some info.type)) = true := by
  cases kind <;> decide

end ObjectClass

namespace Value

/-- An object with other values in some of its fields; other values stay as they are. -/
def withParts
    (value : Value)
    (parts : List (String × Value)) : Value :=
  match value with
  | object kind fields =>
    object kind (fields.map fun (name, given) => (name, (parts.lookup name).getD given))
  | value => value

/-- Every part has a place in the objects of a class and is of the type of the place. -/
def PartsFit
    (parts : List (String × Value))
    (kind : ObjectClass) : Prop :=
  ∀ part ∈ parts, ∃ type, kind.declares part.1 type = true ∧ part.2.conforms type = true

variable {value : Value} {kind : ObjectClass} {parts : List (String × Value)} {name : String}

/-- Parts that fit are replaced without failure. -/
theorem replaceParts_ok
    (typed : value.isTyped kind = true)
    (fit : PartsFit parts kind) :
    value.replaceParts parts = .ok (value.withParts parts) := by
  rcases isTyped_iff.mp typed with ⟨special, fields, rfl, special_isA, conform⟩
  have present : (parts.all fun part => (fields.lookup part.1).isSome) = true := by
    apply List.all_eq_true.mpr
    intro part member
    rcases fit part member with ⟨type, declared, _⟩
    rcases Option.map_eq_some_iff.mp
        (ObjectClass.fieldType?_of_declares declared special_isA) with
      ⟨info, found, _⟩
    rcases lookup_of_fieldsConform conform found with ⟨held, atName, _⟩
    rw [atName]
    rfl
  simp only [replaceParts, present, if_true, withParts]

private theorem fieldsConform_map
    {special : ObjectClass}
    (special_isA : special.isA kind = true)
    (fit : PartsFit parts kind)
    {fields : List (String × Value)}
    {infos : List FieldInfo}
    (infosOf : ∀ info ∈ infos, info ∈ special.fields)
    (conform : fieldsConform fields infos = true) :
    fieldsConform
      (fields.map fun (name, given) => (name, (parts.lookup name).getD given)) infos = true := by
  induction fields generalizing infos with
  | nil => exact conform
  | cons field fields ih =>
      cases infos with
      | nil => cases conform
      | cons info infos =>
          rcases field with ⟨name, given⟩
          simp only [fieldsConform, Bool.and_eq_true, beq_iff_eq] at conform
          rcases conform with ⟨⟨rfl, givenConforms⟩, restConforms⟩
          have rest := ih (fun other member => infosOf other (List.mem_cons_of_mem info member))
            restConforms
          simp only [List.map_cons, fieldsConform, Bool.and_eq_true, beq_self_eq_true, true_and]
          refine ⟨?_, rest⟩
          cases replaced : parts.lookup info.name with
          | none => exact givenConforms
          | some held =>
              rcases fit _ (mem_of_lookup_eq_some replaced) with ⟨type, declared, heldConforms⟩
              have ofClass := ObjectClass.fieldType?_of_declares declared special_isA
              have ofInfo := List.all_eq_true.mp (ObjectClass.fieldType?_of_mem_fields special)
                info (infosOf info List.mem_cons_self)
              rw [ofClass, decide_eq_true_eq, Option.some.injEq] at ofInfo
              exact ofInfo ▸ heldConforms

/-- An object stays typed when parts that fit are replaced. -/
theorem isTyped_withParts
    (typed : value.isTyped kind = true)
    (fit : PartsFit parts kind) :
    (value.withParts parts).isTyped kind = true := by
  rcases isTyped_iff.mp typed with ⟨special, fields, rfl, special_isA, conform⟩
  exact isTyped_iff.mpr ⟨special, _, rfl, special_isA,
    fieldsConform_map special_isA fit (fun _ member => member) conform⟩

private theorem lookup_of_kept
    (kept : parts.lookup name = none)
    (fields : List (String × Value)) :
    (fields.map fun (name, given) => (name, (parts.lookup name).getD given)).lookup name =
      fields.lookup name := by
  refine (lookup_map_values (fun name given => (parts.lookup name).getD given)
    fields name).trans ?_
  rw [kept]
  exact Option.map_id' ..

/-- A part that is not replaced is read as before. -/
theorem part_withParts
    (kept : parts.lookup name = none) :
    (value.withParts parts).part name = value.part name := by
  cases value with
  | object kind fields => rw [withParts, part, part, lookup_of_kept kept]
  | _ => rfl

/-- A field that is not replaced holds what it held. -/
theorem field?_withParts
    (kept : parts.lookup name = none) :
    (value.withParts parts).field? name = value.field? name := by
  cases value with
  | object kind fields => exact lookup_of_kept kept fields
  | _ => rfl

/-- A declared field holds the new value, if there is one, and else what it held. -/
theorem get_withParts
    {type : FieldType}
    (typed : value.isTyped kind = true)
    (declared : kind.declares name type = true) :
    (value.withParts parts).get name = (parts.lookup name).getD (value.get name) := by
  rcases isTyped_iff.mp typed with ⟨special, fields, rfl, special_isA, conform⟩
  rcases Option.map_eq_some_iff.mp
      (ObjectClass.fieldType?_of_declares declared special_isA) with
    ⟨info, found, rfl⟩
  rcases lookup_of_fieldsConform conform found with ⟨held, atName, _⟩
  have replaced := lookup_map_values (fun name given => (parts.lookup name).getD given) fields name
  rw [atName] at replaced
  simpa [get, withParts, field?, atName] using congrArg (Option.getD · .null) replaced

end Value

end SchemaDelta
