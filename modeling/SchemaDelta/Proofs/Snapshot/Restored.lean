import SchemaDelta.Proofs.Json.Readable
import SchemaDelta.Proofs.Snapshot.Restoring

/-!
# What restoring gives

Fields are not checked, so that any value may stand in them.  Still, a restored object has all fields
of its class in their order, a record has neither a tag nor a name twice, and the value is hardly
deeper than the document: only a usual value of a field may lie one level deeper.
-/

namespace SchemaDelta.Value

/-- What can be restored from a document, with the greatest depth of its stored form. -/
inductive IsRestored : Nat → Value → Prop where
  | null (bound : Nat) : IsRestored bound .null
  | bool (bound : Nat) (value : Bool) : IsRestored bound (.bool value)
  | int
      (bound : Nat)
      {value : Int}
      (fits : (Nat.toDigits 10 value.natAbs).length ≤ Json.mostDigits) :
      IsRestored bound (.int value)
  | float
      (bound : Nat)
      {value : Decimal.Binary64}
      (reduced : value.IsReduced) :
      IsRestored bound (.float value)
  | text (bound : Nat) (value : String) : IsRestored bound (.text value)
  | member (bound : Nat) (known : Member) : IsRestored (bound + 1) (.member known)
  | list
      {bound : Nat}
      {items : List Value}
      (each : ∀ item ∈ items, IsRestored bound item) :
      IsRestored (bound + 1) (.list items)
  | record
      {bound : Nat}
      {fields : List (String × Value)}
      (distinct : (fields.map Prod.fst).Nodup)
      (noMember : fields.lookup memberTag = none)
      (noClass : fields.lookup classTag = none ∨ fields.lookup classTag = some .null)
      (each : ∀ field ∈ fields, IsRestored bound field.2) :
      IsRestored (bound + 1) (.record fields)
  | object
      {bound : Nat}
      (kind : ObjectClass)
      {fields : List (String × Value)}
      (named : fields.map Prod.fst = kind.fields.map (·.name))
      (each : ∀ field ∈ fields, IsRestored bound field.2) :
      IsRestored (bound + 1) (.object kind fields)

theorem IsRestored.mono
    {bound bound' : Nat}
    {value : Value}
    (restored : IsRestored bound value)
    (within : bound ≤ bound') :
    IsRestored bound' value := by
  induction restored generalizing bound' with
  | null => exact .null bound'
  | bool _ value => exact .bool bound' value
  | int _ fits => exact .int bound' fits
  | float _ reduced => exact .float bound' reduced
  | text _ value => exact .text bound' value
  | member bound known =>
      obtain ⟨deeper, rfl⟩ := Nat.exists_eq_add_of_le' ((Nat.le_add_left 1 bound).trans within)
      exact .member deeper known
  | @list bound _ _ ih =>
      obtain ⟨deeper, rfl⟩ := Nat.exists_eq_add_of_le' ((Nat.le_add_left 1 bound).trans within)
      exact .list fun item member => ih item member (by omega)
  | @record bound _ distinct noMember noClass _ ih =>
      obtain ⟨deeper, rfl⟩ := Nat.exists_eq_add_of_le' ((Nat.le_add_left 1 bound).trans within)
      exact .record distinct noMember noClass fun field member => ih field member (by omega)
  | @object bound kind _ named _ ih =>
      obtain ⟨deeper, rfl⟩ := Nat.exists_eq_add_of_le' ((Nat.le_add_left 1 bound).trans within)
      exact .object kind named fun field member => ih field member (by omega)

/-! ## Usual values -/

/-- A value like the usual ones of fields. -/
private def isUsual : Value → Bool
  | null => true
  | bool _ => true
  | int value => decide (value.natAbs < 1000)
  | text _ => true
  | member _ => true
  | list items => items.isEmpty
  | _ => false

private theorem isRestored_of_isUsual
    (bound : Nat)
    {value : Value}
    (usual : value.isUsual = true) :
    IsRestored (bound + 1) value := by
  cases value with
  | null => exact .null _
  | bool value => exact .bool _ value
  | int value =>
      have small : value.natAbs < 10 ^ 3 := of_decide_eq_true usual
      have short := (Nat.length_toDigits_le_iff (by decide) (by decide)).mpr small
      exact .int _ (short.trans (by decide))
  | text value => exact .text _ value
  | member known => exact .member bound known
  | list items =>
      obtain rfl := List.isEmpty_iff.mp usual
      exact .list (by simp)
  | _ => cases usual

/-- The usual value of a field lies in at most one level of lists and records. -/
private theorem isRestored_default
    (bound : Nat)
    {kind : ObjectClass}
    {info : FieldInfo}
    (member : info ∈ kind.fields) :
    IsRestored (bound + 1) (info.default?.getD .null) := by
  have checked : ∀ kind : ObjectClass,
      (kind.fields.all fun info => (info.default?.getD .null).isUsual) = true := by
    intro kind
    cases kind <;> decide
  exact isRestored_of_isUsual bound (List.all_eq_true.mp (checked kind) info member)

/-! ## Restored documents -/

section Lookup

variable {α β : Type} {lefts : List (String × α)} {rights : List (String × β)} {name : String}

/-- A name is missing wherever the same names are listed. -/
theorem lookup_eq_none_of_names
    (names : lefts.map Prod.fst = rights.map Prod.fst)
    (absent : lefts.lookup name = none) :
    rights.lookup name = none := by
  rw [Keyed.lookup_eq_none_iff_not_mem] at absent ⊢
  rwa [← names]

/-- Under a name stand related values in two lists of fields that are related one by one. -/
theorem exists_lookup_of_forall₂
    (related : α → β → Prop)
    (paired : List.Forall₂ (fun left right => left.1 = right.1 ∧ related left.2 right.2)
      lefts rights)
    {left : α}
    (found : lefts.lookup name = some left) :
    ∃ right, rights.lookup name = some right ∧ related left right := by
  induction paired with
  | nil => cases found
  | @cons first first' _ _ held _ ih =>
      rcases first with ⟨key, first⟩
      rcases first' with ⟨_, first'⟩
      obtain rfl : key = _ := held.1
      rw [List.lookup_cons] at found ⊢
      cases same : name == key with
      | true =>
          rw [same] at found
          cases found
          exact ⟨first', rfl, held.2⟩
      | false =>
          rw [same] at found
          exact ih found

end Lookup

private theorem exists_member_of_ofMemberTag
    {tag : String}
    {value : Value}
    (restored : ofMemberTag tag = .ok value) :
    ∃ known, value = .member known := by
  unfold ofMemberTag at restored
  dsimp only at restored
  split at restored
  · cases restored
  split at restored
  · cases restored
  · cases restored
    exact ⟨_, rfl⟩

/-- Only without a class tag, or with null for one, an object of a document is a plain record. -/
private theorem classOfTag_eq_ok_none
    {tag : Option Json}
    (found : classOfTag tag = .ok none) :
    tag = none ∨ tag = some .null := by
  unfold classOfTag at found
  dsimp only at found
  split at found
  · exact Or.inl rfl
  · exact Or.inr rfl
  · cases found
  · cases found
  · split at found <;> cases found

/-- A record is made of the values of an object without tags. -/
private theorem isRestored_record
    {bound : Nat}
    {documents : List (String × Json)}
    {values : List (String × Value)}
    (distinct : (documents.map Prod.fst).Nodup)
    (noMember : documents.lookup memberTag = none)
    (noClass : documents.lookup classTag = none ∨ documents.lookup classTag = some .null)
    (paired : List.Forall₂ (fun document value =>
      document.1 = value.1 ∧ ofPlain document.2 = .ok value.2) documents values)
    (each : ∀ field ∈ values, IsRestored bound field.2) :
    IsRestored (bound + 1) (.record values) := by
  have names := forall₂_eq_iff.mp (paired.imp fun _ _ held => held.1)
  refine .record (names ▸ distinct) (lookup_eq_none_of_names names noMember) ?_ each
  rcases noClass with absent | null
  · exact Or.inl (lookup_eq_none_of_names names absent)
  · rcases exists_lookup_of_forall₂ (fun document value => ofPlain document = .ok value) paired
      null with ⟨value, found, restored⟩
    cases restored
    exact Or.inr found

/-- An object has the given values in its fields, and the usual ones where none is given. -/
theorem isRestored_filled
    {bound : Nat}
    (kind : ObjectClass)
    {given : List (String × Value)}
    (each : ∀ field ∈ given, IsRestored (bound + 1) field.2) :
    IsRestored (bound + 2) (filled kind given) := by
  refine .object kind (by simp) fun field member => ?_
  rcases List.mem_map.mp member with ⟨info, infoMember, rfl⟩
  dsimp only
  cases held : given.lookup info.name with
  | none => exact isRestored_default bound infoMember
  | some value => exact each _ (mem_of_lookup_eq_some held)

/-- What is restored from a document that can be written. -/
theorem isRestored_of_ofPlain
    {document : Json}
    (writable : document.IsWritable)
    {value : Value}
    (restored : ofPlain document = .ok value) :
    IsRestored (document.depth + 1) value := by
  induction writable generalizing value with
  | null =>
      cases restored
      exact .null _
  | bool value =>
      cases restored
      exact .bool _ value
  | int fits =>
      cases restored
      exact .int _ fits
  | float reduced =>
      cases restored
      exact .float _ reduced
  | text value =>
      cases restored
      exact .text _ value
  | @list documents _ ih =>
      rcases ofPlain_list_eq_ok_iff.mp restored with ⟨values, rfl, paired⟩
      refine .list fun item member => ?_
      rcases exists_of_mem_right paired member with ⟨document, documentMember, itemRestored⟩
      exact (ih document documentMember itemRestored).mono
        (Nat.succ_le_succ (Json.itemsDepth_le_iff.mp le_rfl document documentMember))
  | @object documents distinct _ ih =>
      rcases ofPlain_object_eq_ok_iff.mp restored with
        ⟨tag, _, ofTag⟩ | ⟨noMember, kind?, values, ofClass, paired, assembled⟩
      · rcases exists_member_of_ofMemberTag ofTag with ⟨known, rfl⟩
        exact .member _ known
      · have each : ∀ field ∈ values, IsRestored (Json.fieldsDepth documents + 1) field.2 := by
          intro field member
          rcases exists_of_mem_right paired member with
            ⟨document, documentMember, _, fieldRestored⟩
          exact (ih document documentMember fieldRestored).mono
            (Nat.succ_le_succ (Json.fieldsDepth_le_iff.mp le_rfl document documentMember))
        cases kind? with
        | none =>
            cases assembled
            exact isRestored_record distinct noMember (classOfTag_eq_ok_none ofClass) paired each
        | some kind =>
            rw [eq_filled_of_construct assembled]
            exact isRestored_filled kind fun field member =>
              each field (List.mem_of_mem_filter member)

end SchemaDelta.Value
