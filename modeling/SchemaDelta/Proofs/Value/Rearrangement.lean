import Mathlib.Data.List.Forall2
import SchemaDelta.Proofs.Value.Filled
import SchemaDelta.Proofs.Value.Reading

/-!
# Rearranged values

A collection of objects is rearranged when its objects come in another order, and when one of them
is rearranged itself.  Everything else in an object stays as it is, so that a rearranged object of a
class without collections is the same object.
-/

namespace SchemaDelta

/-- What is of a type is no object and holds none. -/
def FieldType.isShallow
    (type : FieldType) : Bool :=
  match type.item with
  | .object _ => false
  | _ => true

namespace ObjectClass

/-- No object of a class, nor of a more special one, holds an object in a field. -/
def isShallowAt
    (kind : ObjectClass)
    (name : String) : Bool :=
  all.all fun special => !special.isA kind || (special.fieldType? name).all FieldType.isShallow

/-- No object of a class, nor of a more special one, holds objects. -/
def isShallow
    (kind : ObjectClass) : Bool :=
  all.all fun special => !special.isA kind || special.fields.all fun info => info.type.isShallow

end ObjectClass

namespace Value

/-- A value is an object of some class. -/
def isObject : Value → Bool
  | object _ _ => true
  | _ => false

/--
Two values that are the same up to the order of collections of objects, wherever in the values these
are.
-/
inductive Rearranges : Value → Value → Prop where
  | same
      (value : Value) :
      Rearranges value value
  | object
      {kind : ObjectClass}
      {fields others : List (String × Value)}
      (names : fields.map (·.1) = others.map (·.1))
      (held : List.Forall₂ Rearranges (fields.map (·.2)) (others.map (·.2))) :
      Rearranges (.object kind fields) (.object kind others)
  | collection
      {items moved others : List Value}
      (areObjects : ∀ item ∈ items, item.isObject = true)
      (perm : items.Perm moved)
      (held : List.Forall₂ Rearranges moved others) :
      Rearranges (.list items) (.list others)

/-! ## Types of rearranged values -/

/-- One value is of all the types of another one. -/
private def KeepsTypes
    (value other : Value) : Prop :=
  ∀ type : FieldType, value.conforms type = true → other.conforms type = true

private theorem allConform_of_forall₂
    {type : FieldType}
    {items others : List Value}
    (keeps : List.Forall₂ KeepsTypes items others)
    (conform : allConform items type = true) :
    allConform others type = true := by
  induction keeps with
  | nil => rfl
  | cons keep _ ih =>
      simp only [allConform, Bool.and_eq_true] at conform ⊢
      exact ⟨keep type conform.1, ih conform.2⟩

private theorem fieldsConform_of_forall₂
    {fields others : List (String × Value)}
    {infos : List FieldInfo}
    (names : fields.map (·.1) = others.map (·.1))
    (keeps : List.Forall₂ KeepsTypes (fields.map (·.2)) (others.map (·.2)))
    (conform : fieldsConform fields infos = true) :
    fieldsConform others infos = true := by
  induction fields generalizing others infos with
  | nil =>
      cases List.map_eq_nil_iff.mp names.symm
      exact conform
  | cons field fields ih =>
      cases others with
      | nil => cases names
      | cons other others =>
          cases infos with
          | nil => cases conform
          | cons info infos =>
              rcases field with ⟨name, item⟩
              rcases List.cons.inj names with ⟨rfl, sameNames⟩
              rcases List.forall₂_cons.mp keeps with ⟨keep, keeps⟩
              simp only [fieldsConform, Bool.and_eq_true] at conform ⊢
              rcases conform with ⟨⟨named, held⟩, rest⟩
              exact ⟨⟨named, keep _ held⟩, ih sameNames keeps rest⟩

namespace Rearranges

/-- Under every pair of values that stand in corresponding places stands what holds of both. -/
private theorem forall₂_of_mem
    {property : Value → Value → Prop}
    {items others : List Value}
    (held : List.Forall₂ Rearranges items others)
    (holds : ∀ item ∈ items, ∀ other, Rearranges item other → property item other) :
    List.Forall₂ property items others :=
  ((List.forall₂_and_left _ _).mpr ⟨holds, held⟩).imp fun _ other both => both.1 other both.2

/-- A rearranged value is of the types of the value. -/
theorem conforms
    {value other : Value}
    (rearranged : Rearranges value other)
    {type : FieldType}
    (conform : value.conforms type = true) :
    other.conforms type = true := by
  induction value using partsInduction generalizing other type with
  | object kind fields ih =>
      cases rearranged with
      | same => exact conform
      | @object _ _ others names held =>
          have keeps : List.Forall₂ KeepsTypes (fields.map (·.2)) (others.map (·.2)) := by
            refine forall₂_of_mem held fun item member other rearranged type conform => ?_
            rcases List.mem_map.mp member with ⟨field, fieldMember, rfl⟩
            exact ih field fieldMember rearranged conform
          cases item : type.item with
          | object expected =>
              simp only [Value.conforms, item, Bool.and_eq_true] at conform ⊢
              exact ⟨conform.1, fieldsConform_of_forall₂ names keeps conform.2⟩
          | _ => simp [Value.conforms, item] at conform
  | list items ih =>
      cases rearranged with
      | same => exact conform
      | @collection _ moved others _ perm held =>
          simp only [Value.conforms, Bool.and_eq_true] at conform ⊢
          have keeps : List.Forall₂ KeepsTypes moved others :=
            forall₂_of_mem held fun item member other rearranged _ conform =>
              ih item (perm.mem_iff.mpr member) rearranged conform
          refine ⟨conform.1, allConform_of_forall₂ keeps ?_⟩
          rw [allConform_iff] at conform ⊢
          exact fun item member => conform.2 item (perm.mem_iff.mpr member)
  | _ =>
      cases rearranged
      exact conform

theorem isTyped
    {value other : Value}
    {kind : ObjectClass}
    (rearranged : Rearranges value other)
    (typed : value.isTyped kind = true) :
    other.isTyped kind = true :=
  rearranged.conforms typed

/-! ## Fields of rearranged objects -/

/-- What is no list of objects is not rearranged. -/
theorem eq_of_conforms
    {value other : Value}
    (rearranged : Rearranges value other)
    {type : FieldType}
    (shallow : type.isShallow = true)
    (conform : value.conforms type = true) :
    value = other := by
  have noObject : ∀ kind, type.item ≠ .object kind := by
    intro kind item
    rw [FieldType.isShallow, item] at shallow
    cases shallow
  cases rearranged with
  | same => rfl
  | object names held =>
      cases item : type.item with
      | object kind => exact absurd item (noObject kind)
      | _ => simp [Value.conforms, item] at conform
  | @collection items moved others areObjects perm held =>
      cases items with
      | nil =>
          cases List.perm_nil.mp perm.symm
          cases held
          rfl
      | cons item items =>
          simp only [Value.conforms, allConform, Bool.and_eq_true] at conform
          have isObject := areObjects item List.mem_cons_self
          cases item with
          | object kind fields =>
              cases found : type.item with
              | object expected => exact absurd found (noObject expected)
              | _ => simp [Value.conforms, FieldType.itemType, found] at conform
          | _ => cases isObject

private theorem fields_eq_of_isShallow
    {fields others : List (String × Value)}
    {infos : List FieldInfo}
    (shallow : infos.all (fun info => info.type.isShallow) = true)
    (names : fields.map (·.1) = others.map (·.1))
    (held : List.Forall₂ Rearranges (fields.map (·.2)) (others.map (·.2)))
    (conform : fieldsConform fields infos = true) :
    fields = others := by
  induction fields generalizing others infos with
  | nil => exact (List.map_eq_nil_iff.mp names.symm).symm
  | cons field fields ih =>
      cases others with
      | nil => cases names
      | cons other others =>
          cases infos with
          | nil => cases conform
          | cons info infos =>
              rcases field with ⟨name, item⟩
              rcases other with ⟨otherName, otherItem⟩
              rcases List.cons.inj names with ⟨rfl, sameNames⟩
              rcases List.forall₂_cons.mp held with ⟨rearranged, heldLater⟩
              simp only [fieldsConform, Bool.and_eq_true] at conform
              rw [List.all_cons, Bool.and_eq_true] at shallow
              obtain rfl : item = otherItem := rearranged.eq_of_conforms shallow.1 conform.1.2
              rw [ih shallow.2 sameNames heldLater conform.2]

private theorem lookup_rel
    {fields others : List (String × Value)}
    (names : fields.map (·.1) = others.map (·.1))
    (held : List.Forall₂ Rearranges (fields.map (·.2)) (others.map (·.2)))
    (name : String) :
    Option.Rel Rearranges (fields.lookup name) (others.lookup name) := by
  induction fields generalizing others with
  | nil =>
      cases List.map_eq_nil_iff.mp names.symm
      exact .none
  | cons field fields ih =>
      cases others with
      | nil => cases names
      | cons other others =>
          rcases field with ⟨fieldName, item⟩
          rcases other with ⟨otherName, otherItem⟩
          rcases List.cons.inj names with ⟨rfl, sameNames⟩
          rcases List.forall₂_cons.mp held with ⟨rearranged, held⟩
          rw [List.lookup_cons, List.lookup_cons]
          cases name == fieldName with
          | true => exact .some rearranged
          | false => exact ih sameNames held

private theorem field?_rel
    {value other : Value}
    (rearranged : Rearranges value other)
    (name : String) :
    Option.Rel Rearranges (value.field? name) (other.field? name) := by
  cases rearranged with
  | same =>
      cases value.field? name with
      | none => exact .none
      | some held => exact .some (.same held)
  | object names held => exact lookup_rel names held name
  | collection => exact .none

/-- What a field holds is rearranged with the object. -/
theorem get
    {value other : Value}
    (rearranged : Rearranges value other)
    (name : String) :
    Rearranges (value.get name) (other.get name) := by
  have related := rearranged.field?_rel name
  rw [Value.get, Value.get]
  generalize value.field? name = found at related
  generalize other.field? name = otherFound at related
  cases related with
  | none => exact .same .null
  | some held => exact held

/-- Objects that are filled with rearranged values are rearranged. -/
theorem filled
    {given others : List (String × Value)}
    (kind : ObjectClass)
    (names : given.map (·.1) = others.map (·.1))
    (held : List.Forall₂ Rearranges (given.map (·.2)) (others.map (·.2))) :
    Rearranges (.filled kind given) (.filled kind others) := by
  refine .object (by simp) ?_
  rw [List.map_map, List.map_map]
  refine List.forall₂_map_left_iff.mpr (List.forall₂_map_right_iff.mpr ?_)
  refine List.forall₂_same.mpr fun info _ => ?_
  have related := lookup_rel names held info.name
  simp only [Function.comp_apply]
  generalize given.lookup info.name = found at related ⊢
  generalize others.lookup info.name = otherFound at related ⊢
  cases related with
  | none => exact .same _
  | some rearranged => exact rearranged

/-- The items of a collection are the same up to their order and to what is rearranged in them. -/
theorem rows
    {value other : Value}
    (rearranged : Rearranges value other)
    (name : String) :
    ∃ moved, (value.rows name).Perm moved ∧ List.Forall₂ Rearranges moved (other.rows name) := by
  have related := rearranged.get name
  rw [Value.rows, Value.rows]
  generalize value.get name = held at related
  generalize other.get name = otherHeld at related
  cases related with
  | same => exact ⟨_, .refl _, List.forall₂_same.mpr fun item _ => .same item⟩
  | object names held => exact ⟨[], .refl _, .nil⟩
  | collection _ perm held => exact ⟨_, perm, held⟩

end Rearranges

/-- A typed object of a class, and the same object rearranged. -/
structure RearrangesAs
    (kind : ObjectClass)
    (value other : Value) : Prop where
  typed : value.isTyped kind = true
  rearranged : Rearranges value other

namespace RearrangesAs

variable {value other : Value} {kind : ObjectClass}
  (related : RearrangesAs kind value other)

include related

theorem otherTyped :
    other.isTyped kind = true :=
  related.rearranged.isTyped related.typed

/-- An object of a class without collections is not rearranged. -/
theorem eq
    (shallow : kind.isShallow = true) :
    value = other := by
  rcases related with ⟨typed, rearranged⟩
  rcases isTyped_iff.mp typed with ⟨special, fields, rfl, special_isA, conform⟩
  have checked := List.all_eq_true.mp shallow special (ObjectClass.mem_all special)
  rw [special_isA, Bool.not_true, Bool.false_or] at checked
  cases rearranged with
  | same => rfl
  | object names held => rw [Rearranges.fields_eq_of_isShallow checked names held conform]

/-- The items of a collection are the same up to their order and to what is rearranged in them. -/
theorem rows
    {item : ObjectClass}
    {name : String}
    (declared : kind.declares name (.objects item) = true) :
    ∃ moved, (value.rows name).Perm moved ∧
      List.Forall₂ (RearrangesAs item) moved (other.rows name) := by
  rcases related.rearranged.rows name with ⟨moved, perm, held⟩
  refine ⟨moved, perm, Rearranges.forall₂_of_mem held fun row member other rearranged => ?_⟩
  exact ⟨isTyped_of_mem_rows related.typed declared (perm.mem_iff.mpr member), rearranged⟩

/-- Objects of a class without collections only come in another order. -/
theorem rows_perm
    {item : ObjectClass}
    {name : String}
    (declared : kind.declares name (.objects item) = true)
    (shallow : item.isShallow = true) :
    (value.rows name).Perm (other.rows name) := by
  rcases related.rows declared with ⟨moved, perm, held⟩
  have same : List.Forall₂ Eq moved (other.rows name) := held.imp fun _ _ row => row.eq shallow
  rw [List.forall₂_eq_eq_eq] at same
  rwa [← same]

/-- A field that holds no objects stays as it is, also when there is none. -/
theorem field?_eq
    (name : String)
    (shallow : kind.isShallowAt name = true) :
    value.field? name = other.field? name := by
  rcases related with ⟨typed, rearranged⟩
  have sameField := rearranged.field?_rel name
  rcases isTyped_iff.mp typed with ⟨special, fields, rfl, special_isA, conform⟩
  have checked := List.all_eq_true.mp shallow special (ObjectClass.mem_all special)
  rw [special_isA, Bool.not_true, Bool.false_or] at checked
  generalize other.field? name = otherFound at sameField ⊢
  rw [field?] at sameField ⊢
  cases declared : special.fields.find? (fun info => info.name == name) with
  | none =>
      rw [lookup_none_of_fieldsConform conform declared] at sameField ⊢
      cases sameField
      rfl
  | some info =>
      rcases lookup_of_fieldsConform conform declared with ⟨item, found, itemConforms⟩
      rw [ObjectClass.fieldType?, declared] at checked
      rw [found] at sameField ⊢
      cases sameField with
      | some rearranged => rw [rearranged.eq_of_conforms checked itemConforms]

theorem letters_eq
    (name : String)
    (shallow : kind.isShallowAt name = true) :
    value.letters name = other.letters name := by
  rw [letters, letters, Value.get, Value.get, related.field?_eq name shallow]

/-- A field that holds no objects can be read or not as before. -/
theorem part_eq
    (name : String)
    (shallow : kind.isShallowAt name = true) :
    value.part name = other.part name := by
  have sameField := related.field?_eq name shallow
  rcases related with ⟨typed, rearranged⟩
  rcases isTyped_iff.mp typed with ⟨special, fields, rfl, _, _⟩
  cases rearranged with
  | same => rfl
  | object names held =>
      rw [field?, field?] at sameField
      rw [part, part, sameField]

end RearrangesAs

theorem isTyped_of_forall₂
    {kind : ObjectClass}
    {items others : List Value}
    (held : List.Forall₂ (RearrangesAs kind) items others) :
    (∀ item ∈ items, item.isTyped kind = true) ∧ ∀ other ∈ others, other.isTyped kind = true := by
  induction held with
  | nil => exact ⟨List.forall_mem_nil _, List.forall_mem_nil _⟩
  | cons related _ ih =>
      exact ⟨List.forall_mem_cons.mpr ⟨related.typed, ih.1⟩,
        List.forall_mem_cons.mpr ⟨related.otherTyped, ih.2⟩⟩

/-! ## Sorted lists -/

private theorem forall₂_insertOn
    {α : Type}
    {relation : α → α → Prop}
    {key : α → Value}
    (sameKey : ∀ item other, relation item other → key item = key other)
    {item other : α}
    (related : relation item other)
    {items others : List α}
    (held : List.Forall₂ relation items others) :
    List.Forall₂ relation (insertOn key item items) (insertOn key other others) := by
  induction held with
  | nil => exact .cons related .nil
  | @cons first otherFirst items others firstRelated rest ih =>
      rw [insertOn, insertOn, sameKey item other related, sameKey first otherFirst firstRelated]
      split
      · exact .cons related (.cons firstRelated rest)
      · exact .cons firstRelated ih

/-- Sorting keeps related items of the same keys together. -/
theorem forall₂_sortedOn
    {α : Type}
    {relation : α → α → Prop}
    {key : α → Value}
    (sameKey : ∀ item other, relation item other → key item = key other)
    {items others : List α}
    (held : List.Forall₂ relation items others) :
    List.Forall₂ relation (sortedOn key items) (sortedOn key others) := by
  induction held with
  | nil => exact .nil
  | cons related _ ih => exact forall₂_insertOn sameKey related ih

end Value

end SchemaDelta
