import Mathlib.Data.List.Forall2
import SchemaDelta.Proofs.Attempt
import SchemaDelta.Proofs.Comparison.Symmetry
import SchemaDelta.Proofs.Value.Filled

/-!
# Restoring stored values

Items and fields are restored and written one by one.  A member is restored from its tag, and an
object from the tag of its class and all of its fields.
-/

namespace SchemaDelta.Value

/-! ## Parts -/

/-- Two lists have the same keys when their items have them pair by pair. -/
theorem forall₂_eq_iff
    {α β γ : Type}
    {key : α → γ}
    {key' : β → γ}
    {lefts : List α}
    {rights : List β} :
    List.Forall₂ (fun left right => key left = key' right) lefts rights ↔
      lefts.map key = rights.map key' := by
  rw [← List.forall₂_eq_eq_eq, List.forall₂_map_left_iff, List.forall₂_map_right_iff]

/-- What exists for every item exists for the list. -/
theorem exists_forall₂
    {α β : Type}
    {related : α → β → Prop}
    {items : List α}
    (each : ∀ item ∈ items, ∃ other, related item other) :
    ∃ others, List.Forall₂ related items others := by
  induction items with
  | nil => exact ⟨[], .nil⟩
  | cons item items ih =>
      rw [List.forall_mem_cons] at each
      rcases each with ⟨⟨other, held⟩, rest⟩
      rcases ih rest with ⟨others, heldRest⟩
      exact ⟨other :: others, .cons held heldRest⟩

/-- Every item on the right is related to some on the left. -/
theorem exists_of_mem_right
    {α β : Type}
    {related : α → β → Prop}
    {lefts : List α}
    {rights : List β}
    (paired : List.Forall₂ related lefts rights)
    {right : β}
    (member : right ∈ rights) :
    ∃ left ∈ lefts, related left right := by
  induction paired with
  | nil => cases member
  | cons held _ ih =>
      rcases List.mem_cons.mp member with rfl | later
      · exact ⟨_, List.mem_cons_self, held⟩
      · rcases ih later with ⟨left, leftMember, heldLater⟩
        exact ⟨left, List.mem_cons_of_mem _ leftMember, heldLater⟩

theorem ofPlainItems_eq_ok_iff
    {documents : List Json}
    {values : List Value} :
    ofPlainItems documents = .ok values ↔
      List.Forall₂ (fun document value =>
        ofPlain document = .ok value) documents values := by
  induction documents generalizing values with
  | nil => cases values <;> simp [ofPlainItems]
  | cons document documents ih =>
      cases values with
      | nil =>
          rw [ofPlainItems]
          cases ofPlain document <;> cases ofPlainItems documents <;> simp
      | cons value values =>
          rw [ofPlainItems, List.forall₂_cons, ← ih]
          cases ofPlain document <;> cases ofPlainItems documents <;>
            simp

theorem ofPlainFields_eq_ok_iff
    {documents : List (String × Json)}
    {values : List (String × Value)} :
    ofPlainFields documents = .ok values ↔
      List.Forall₂ (fun document value =>
        document.1 = value.1 ∧ ofPlain document.2 = .ok value.2) documents values := by
  induction documents generalizing values with
  | nil => cases values <;> simp [ofPlainFields]
  | cons document documents ih =>
      cases values with
      | nil =>
          rw [ofPlainFields]
          cases ofPlain document.2 <;> cases ofPlainFields documents <;> simp
      | cons value values =>
          rw [ofPlainFields, List.forall₂_cons, ← ih]
          cases ofPlain document.2 <;> cases ofPlainFields documents <;>
            simp [Prod.ext_iff, and_assoc, and_comm]

/-- A list is restored item by item. -/
theorem ofPlain_list_eq_ok_iff
    {documents : List Json}
    {value : Value} :
    ofPlain (.list documents) = .ok value ↔
      ∃ values, value = .list values ∧
        List.Forall₂ (fun document value => ofPlain document = .ok value) documents values := by
  simp only [← ofPlainItems_eq_ok_iff, ofPlain]
  cases ofPlainItems documents with
  | error failure => simp
  | ok values => simp [eq_comm]

/-- What is made of the values of all fields: a record, or an object of the class that is named. -/
def assemble
    (kind? : Option ObjectClass)
    (values : List (String × Value)) : Except SnapshotFailure Value :=
  match kind? with
  | none => .ok (.record values)
  | some kind => construct kind (values.filter fun field => field.1 != classTag)

/-- An object of a document is restored as a member, or from the values of all of its fields. -/
theorem ofPlain_object_eq_ok_iff
    {documents : List (String × Json)}
    {value : Value} :
    ofPlain (.object documents) = .ok value ↔
      (∃ tag, documents.lookup memberTag = some (.text tag) ∧ ofMemberTag tag = .ok value) ∨
        documents.lookup memberTag = none ∧ ∃ kind? values,
          classOfTag (documents.lookup classTag) = .ok kind? ∧
            List.Forall₂ (fun document value =>
              document.1 = value.1 ∧ ofPlain document.2 = .ok value.2) documents values ∧
              assemble kind? values = .ok value := by
  simp only [← ofPlainFields_eq_ok_iff, ofPlain]
  cases documents.lookup memberTag with
  | some tag => cases tag <;> simp
  | none =>
      cases classOfTag (documents.lookup classTag) with
      | error failure => simp
      | ok kind? => cases kind? <;> cases ofPlainFields documents <;> simp [assemble]

theorem toJsonItems?_eq_some_iff
    {values : List Value}
    {documents : List Json} :
    toJsonItems? values = some documents ↔
      List.Forall₂ (fun value document =>
        toJson? value = some document) values documents := by
  induction values generalizing documents with
  | nil => cases documents <;> simp [toJsonItems?]
  | cons value values ih =>
      cases documents with
      | nil =>
          rw [toJsonItems?]
          cases toJson? value <;> cases toJsonItems? values <;> simp
      | cons document documents =>
          rw [toJsonItems?, List.forall₂_cons, ← ih]
          cases toJson? value <;> cases toJsonItems? values <;>
            simp

theorem toJsonFields?_eq_some_iff
    {values : List (String × Value)}
    {documents : List (String × Json)} :
    toJsonFields? values = some documents ↔
      List.Forall₂ (fun value document =>
        value.1 = document.1 ∧ toJson? value.2 = some document.2) values documents := by
  induction values generalizing documents with
  | nil => cases documents <;> simp [toJsonFields?]
  | cons value values ih =>
      cases documents with
      | nil =>
          rw [toJsonFields?]
          cases toJson? value.2 <;> cases toJsonFields? values <;> simp
      | cons document documents =>
          rw [toJsonFields?, List.forall₂_cons, ← ih]
          cases toJson? value.2 <;> cases toJsonFields? values <;>
            simp [Prod.ext_iff, and_assoc, and_comm]

/-! ## Tags -/

/-- A member is restored from its qualified name. -/
theorem ofMemberTag_qualifiedName
    (known : Member) :
    ofMemberTag known.qualifiedName = .ok (.member known) := by
  rcases known with known | known | known <;> cases known <;> rfl

/-- A class is found by its name. -/
theorem ofName?_name
    (kind : ObjectClass) :
    ObjectClass.ofName? kind.name = some kind := by
  cases kind <;> rfl

/-! ## Objects -/

/-- No field of a class has the name of a tag. -/
theorem not_mem_names_of_tag
    (kind : ObjectClass) :
    memberTag ∉ kind.fields.map (·.name) ∧ classTag ∉ kind.fields.map (·.name) := by
  cases kind <;> decide

/-- An object is constructed from all of its fields. -/
theorem construct_of_names
    {kind : ObjectClass}
    {values : List (String × Value)}
    (named : values.map Prod.fst = kind.fields.map (·.name)) :
    construct kind values = .ok (.object kind values) := by
  have distinct : (values.map Prod.fst).Nodup :=
    named ▸ (List.nodup_cons.mp (nodup_stored_names kind)).2
  have noStray : values.find?
      (fun field => !kind.fields.any fun info => info.name == field.1) = none := by
    rw [List.find?_eq_none]
    intro field member stray
    have declared : field.1 ∈ kind.fields.map (·.name) := named ▸ List.mem_map_of_mem member
    rcases List.mem_map.mp declared with ⟨info, infoMember, same⟩
    rw [Bool.not_eq_true', List.any_eq_false] at stray
    exact stray info infoMember (beq_iff_eq.mpr same)
  have noneMissing : kind.fields.filter (fun info =>
      info.default?.isNone && !values.any fun field => field.1 == info.name) = [] := by
    rw [List.filter_eq_nil_iff]
    intro info infoMember missing
    have held : info.name ∈ values.map Prod.fst := named ▸ List.mem_map_of_mem infoMember
    rcases List.mem_map.mp held with ⟨field, member, same⟩
    rw [Bool.and_eq_true, Bool.not_eq_true', List.any_eq_false] at missing
    exact missing.2 field member (beq_iff_eq.mpr same)
  have filled : (kind.fields.map fun info =>
      (info.name, (values.lookup info.name).getD (info.default?.getD .null))) = values := by
    have paired : List.Forall₂ (fun value (info : FieldInfo) =>
        value ∈ values ∧ value.1 = info.name) values kind.fields :=
      (List.forall₂_and_left _ _).mpr ⟨fun _ member => member, forall₂_eq_iff.mpr named⟩
    have equal : List.Forall₂ (fun (info : FieldInfo) value =>
        (info.name, (values.lookup info.name).getD (info.default?.getD .null)) = value)
        kind.fields values := by
      refine paired.flip.imp fun info value held => ?_
      have found := (Keyed.lookup_eq_some_iff_mem distinct).mpr held.1
      rw [← held.2, found, Option.getD_some]
    rwa [← List.forall₂_map_left_iff, List.forall₂_eq_eq_eq] at equal
  unfold construct
  dsimp only
  rw [noStray, noneMissing]
  dsimp only
  rw [filled]
  rfl

/-- An object is stored as the tag of its class and its fields, one by one. -/
theorem toJson?_object_iff
    {kind : ObjectClass}
    {fields : List (String × Value)}
    {document : Json} :
    (object kind fields).toPlain.toJson? = some document ↔
      ∃ documents, document = .object ((classTag, .text kind.name) :: documents) ∧
        List.Forall₂ (fun field document =>
          field.1 = document.1 ∧ field.2.toPlain.toJson? = some document.2) fields documents := by
  have paired : ∀ documents, toJsonFields? (toPlainFields fields) = some documents ↔
      List.Forall₂ (fun field document =>
        field.1 = document.1 ∧ field.2.toPlain.toJson? = some document.2) fields documents := by
    intro documents
    rw [toJsonFields?_eq_some_iff, toPlainFields_eq_map, List.forall₂_map_left_iff]
  simp only [← paired, toPlain, toJson?, toJsonFields?]
  cases toJsonFields? (toPlainFields fields) with
  | none => simp
  | some documents => simp [eq_comm]

/-- The stored form of an object is restored to the object, field by field. -/
theorem ofPlain_object
    {kind : ObjectClass}
    {documents : List (String × Json)}
    {values : List (String × Value)}
    (paired : List.Forall₂ (fun document value =>
      document.1 = value.1 ∧ ofPlain document.2 = .ok value.2) documents values)
    (named : values.map Prod.fst = kind.fields.map (·.name)) :
    ofPlain (.object ((classTag, .text kind.name) :: documents)) = .ok (.object kind values) := by
  have restoredNames : documents.map Prod.fst = values.map Prod.fst :=
    forall₂_eq_iff.mp (paired.imp fun _ _ held => held.1)
  rcases not_mem_names_of_tag kind with ⟨noMember, noClass⟩
  rw [← named] at noMember noClass
  have untagged : ((classTag, Json.text kind.name) :: documents).lookup memberTag = none := by
    rw [List.lookup_cons, show (memberTag == classTag) = false from by decide]
    exact Keyed.lookup_eq_none_iff_not_mem.mpr (restoredNames ▸ noMember)
  have ofClass : classOfTag (((classTag, Json.text kind.name) :: documents).lookup classTag) =
      .ok (some kind) := by
    rw [List.lookup_cons, beq_self_eq_true]
    simp only [classOfTag, Json.display, ofName?_name]
  have kept : ((classTag, Value.text kind.name) :: values).filter
      (fun field => field.1 != classTag) = values := by
    rw [List.filter_cons_of_neg (by simp), List.filter_eq_self]
    intro field member
    rw [bne_iff_ne]
    rintro same
    exact noClass (same ▸ List.mem_map_of_mem member)
  refine ofPlain_object_eq_ok_iff.mpr (Or.inr ⟨untagged, some kind,
    (classTag, .text kind.name) :: values, ofClass, .cons ⟨rfl, rfl⟩ paired, ?_⟩)
  rw [assemble, kept, construct_of_names named]

end SchemaDelta.Value

/-! ## Texts -/

namespace SchemaDelta.Snapshot

/-- Only a document that is not too deep is restored. -/
theorem restore_eq_ok_iff
    {document : Json}
    {value : Value} :
    Value.restore document = .ok value ↔
      document.depth ≤ Value.deepestNesting ∧ Value.ofPlain document = .ok value := by
  rw [Value.restore, ← Nat.not_lt]
  split <;> simp_all

theorem asDatabase_eq_ok_iff
    {value database : Value} :
    asDatabase value = .ok database ↔
      value = database ∧ ∃ fields, database = .object .database fields := by
  unfold asDatabase
  split
  · rename_i fields
    constructor
    · intro same
      cases same
      exact ⟨rfl, fields, rfl⟩
    · rintro ⟨rfl, _⟩
      rfl
  · rename_i notDatabase
    refine iff_of_false (by simp) ?_
    rintro ⟨rfl, fields, rfl⟩
    exact notDatabase fields rfl

/-- A text that is read is loaded from what stands behind the header. -/
theorem loadText_of_read
    {text : String}
    {document : Json}
    (read : Json.read text = .ok document) :
    loadText text = (payload document >>= fun part => Value.restore part >>= asDatabase) := by
  rw [loadText, read]
  rfl

/-- A text that cannot be read is refused for the same reason. -/
theorem loadText_of_unread
    {text : String}
    {failure : Json.ReadFailure}
    (unread : Json.read text = .error failure) :
    loadText text = .error (.unreadableText failure) := by
  rw [loadText, unread]
  rfl

/-- A text is loaded when it is read and a database is restored from what stands behind the header. -/
theorem loadText_eq_ok_iff
    {text : String}
    {database : Value} :
    loadText text = .ok database ↔
      ∃ document part, Json.read text = .ok document ∧ payload document = .ok part ∧
        part.depth ≤ Value.deepestNesting ∧ Value.ofPlain part = .ok database ∧
          ∃ fields, database = .object .database fields := by
  cases read : Json.read text with
  | error failure => simp [loadText_of_unread read]
  | ok document =>
      rw [loadText_of_read read, Attempt.bind_eq_ok_iff]
      simp only [Attempt.bind_eq_ok_iff, restore_eq_ok_iff, asDatabase_eq_ok_iff]
      constructor
      · rintro ⟨part, found, _, ⟨shallow, restored⟩, rfl, isDatabase⟩
        exact ⟨document, part, rfl, found, shallow, restored, isDatabase⟩
      · rintro ⟨_, part, same, found, shallow, restored, isDatabase⟩
        cases same
        exact ⟨part, found, database, ⟨shallow, restored⟩, rfl, isDatabase⟩

end SchemaDelta.Snapshot
