import SchemaDelta.Proofs.Snapshot.Restored

/-!
# Storing what was restored

A value with anything in its fields has a stored form unless an object stands inside a plain record,
which is written as it is.  Its stored form is restored to an equal value, in which members inside
plain records have become the texts to which they are equal.
-/

namespace SchemaDelta

namespace Value

/-! ## Objects inside records -/

/-- A value is an object, or one stands in its items or in the fields of a record. -/
inductive HoldsObject : Value → Prop where
  | object
      (kind : ObjectClass)
      (fields : List (String × Value)) :
      HoldsObject (.object kind fields)
  | item
      {items : List Value}
      {item : Value}
      (member : item ∈ items)
      (held : HoldsObject item) :
      HoldsObject (.list items)
  | field
      {fields : List (String × Value)}
      {field : String × Value}
      (member : field ∈ fields)
      (held : HoldsObject field.2) :
      HoldsObject (.record fields)

/-- An object stands inside a plain record. -/
inductive BuriesObject : Value → Prop where
  | record
      {fields : List (String × Value)}
      (held : HoldsObject (.record fields)) :
      BuriesObject (.record fields)
  | item
      {items : List Value}
      {item : Value}
      (member : item ∈ items)
      (buried : BuriesObject item) :
      BuriesObject (.list items)
  | field
      {kind : ObjectClass}
      {fields : List (String × Value)}
      {field : String × Value}
      (member : field ∈ fields)
      (buried : BuriesObject field.2) :
      BuriesObject (.object kind fields)

/-- Items are written unless one of them is not. -/
private theorem toJsonItems?_eq_none_iff
    {values : List Value} :
    toJsonItems? values = none ↔ ∃ value ∈ values, toJson? value = none := by
  constructor
  · intro unwritten
    by_contra! written
    rcases exists_forall₂ fun value member => Option.ne_none_iff_exists'.mp (written value member)
      with ⟨documents, paired⟩
    rw [toJsonItems?_eq_some_iff.mpr paired] at unwritten
    cases unwritten
  · rintro ⟨value, member, unwritten⟩
    by_contra written
    rcases Option.ne_none_iff_exists'.mp written with ⟨documents, found⟩
    rcases exists_of_mem_right (toJsonItems?_eq_some_iff.mp found).flip member with ⟨_, _, held⟩
    rw [unwritten] at held
    cases held

private theorem toJsonFields?_eq_none_iff
    {values : List (String × Value)} :
    toJsonFields? values = none ↔ ∃ value ∈ values, toJson? value.2 = none := by
  constructor
  · intro unwritten
    by_contra! written
    have each : ∀ value ∈ values, ∃ document : String × Json,
        value.1 = document.1 ∧ toJson? value.2 = some document.2 := by
      intro value member
      rcases Option.ne_none_iff_exists'.mp (written value member) with ⟨document, found⟩
      exact ⟨(value.1, document), rfl, found⟩
    rcases exists_forall₂ each with ⟨documents, paired⟩
    rw [toJsonFields?_eq_some_iff.mpr paired] at unwritten
    cases unwritten
  · rintro ⟨value, member, unwritten⟩
    by_contra written
    rcases Option.ne_none_iff_exists'.mp written with ⟨documents, found⟩
    rcases exists_of_mem_right (toJsonFields?_eq_some_iff.mp found).flip member with
      ⟨_, _, _, held⟩
    rw [unwritten] at held
    cases held

private theorem holdsObject_of_toJson?
    {value : Value}
    (unwritten : toJson? value = none) :
    value.HoldsObject := by
  induction value using partsInduction with
  | object kind fields => exact .object kind fields
  | list items ih =>
      rw [toJson?, Option.map_eq_none_iff, toJsonItems?_eq_none_iff] at unwritten
      rcases unwritten with ⟨item, member, unwritten⟩
      exact .item member (ih item member unwritten)
  | record fields ih =>
      rw [toJson?, Option.map_eq_none_iff, toJsonFields?_eq_none_iff] at unwritten
      rcases unwritten with ⟨field, member, unwritten⟩
      exact .field member (ih field member unwritten)
  | _ => cases unwritten

/-- A value is written as it is unless it holds an object. -/
theorem toJson?_eq_none_iff
    {value : Value} :
    toJson? value = none ↔ value.HoldsObject := by
  refine ⟨holdsObject_of_toJson?, fun held => ?_⟩
  induction held with
  | object => rfl
  | item member _ ih =>
      rw [toJson?, Option.map_eq_none_iff, toJsonItems?_eq_none_iff]
      exact ⟨_, member, ih⟩
  | field member _ ih =>
      rw [toJson?, Option.map_eq_none_iff, toJsonFields?_eq_none_iff]
      exact ⟨_, member, ih⟩

/-- The stored items of a list are written unless one of them is not. -/
private theorem toJson?_list_eq_none_iff
    {items : List Value} :
    (list items).toPlain.toJson? = none ↔ ∃ item ∈ items, item.toPlain.toJson? = none := by
  rw [toPlain, toPlainItems_eq_map, toJson?, Option.map_eq_none_iff, toJsonItems?_eq_none_iff]
  simp

private theorem toJson?_object_eq_none_iff
    {kind : ObjectClass}
    {fields : List (String × Value)} :
    (object kind fields).toPlain.toJson? = none ↔
      ∃ field ∈ fields, field.2.toPlain.toJson? = none := by
  rw [toPlain, toPlainFields_eq_map, toJson?, Option.map_eq_none_iff, toJsonFields?_eq_none_iff]
  simp [toJson?]

private theorem buriesObject_of_toJson?
    {value : Value}
    (unwritten : value.toPlain.toJson? = none) :
    value.BuriesObject := by
  induction value using partsInduction with
  | record fields => exact .record (toJson?_eq_none_iff.mp unwritten)
  | list items ih =>
      rcases toJson?_list_eq_none_iff.mp unwritten with ⟨item, member, unwritten⟩
      exact .item member (ih item member unwritten)
  | object kind fields ih =>
      rcases toJson?_object_eq_none_iff.mp unwritten with ⟨field, member, unwritten⟩
      exact .field member (ih field member unwritten)
  | _ => cases unwritten

/-- A value has a stored form unless it buries an object. -/
theorem toJson?_toPlain_eq_none_iff
    {value : Value} :
    value.toPlain.toJson? = none ↔ value.BuriesObject := by
  refine ⟨buriesObject_of_toJson?, fun buried => ?_⟩
  induction buried with
  | record held => exact toJson?_eq_none_iff.mpr held
  | item member _ ih => exact toJson?_list_eq_none_iff.mpr ⟨_, member, ih⟩
  | field member _ ih => exact toJson?_object_eq_none_iff.mpr ⟨_, member, ih⟩

/-! ## Equal values -/

theorem equalItems_iff
    {lefts rights : List Value} :
    equalItems lefts rights = true ↔
      List.Forall₂ (fun left right => equal left right = true) lefts rights := by
  induction lefts generalizing rights with
  | nil => cases rights <;> simp [equalItems]
  | cons left lefts ih => cases rights <;> simp [equalItems, ih]

theorem equalFields_iff
    {lefts rights : List (String × Value)} :
    equalFields lefts rights = true ↔
      List.Forall₂ (fun left right => left.1 = right.1 ∧ equal left.2 right.2 = true)
        lefts rights := by
  induction lefts generalizing rights with
  | nil => cases rights <;> simp [equalFields]
  | cons left lefts ih => cases rights <;> simp [equalFields, ih]

theorem equalRecord_iff
    {lefts rights : List (String × Value)} :
    equalRecord lefts rights = true ↔
      ∀ left ∈ lefts, ∃ right, rights.lookup left.1 = some right ∧ equal left.2 right = true := by
  induction lefts with
  | nil => simp [equalRecord]
  | cons left lefts ih =>
      rcases left with ⟨name, left⟩
      rw [equalRecord, Bool.and_eq_true, ih, List.forall_mem_cons]
      cases rights.lookup name <;> simp

private theorem float_equal_self
    (value : Decimal.Binary64) :
    equal (float value) (float value) = true := by
  cases value with
  | undefined => rfl
  | infinite negative => simp [equal, equalScalar, Decimal.Binary64.equal]
  | finite negative mantissa exponent => simp [equal, equalScalar, Decimal.Binary64.equal]

/-- Records of distinct names are equal when their fields are, one by one. -/
private theorem record_equal
    {lefts rights : List (String × Value)}
    (distinct : (lefts.map Prod.fst).Nodup)
    (paired : List.Forall₂ (fun left right => left.1 = right.1 ∧ equal left.2 right.2 = true)
      lefts rights) :
    equal (record lefts) (record rights) = true := by
  have names := forall₂_eq_iff.mp (paired.imp fun _ _ held => held.1)
  have sameLength : lefts.length = rights.length := paired.length_eq
  have looked : equalRecord lefts rights = true := by
    rw [equalRecord_iff]
    intro left member
    rcases exists_of_mem_right paired.flip member with ⟨right, rightMember, sameName, same⟩
    refine ⟨right.2, ?_, same⟩
    rw [sameName]
    exact (Keyed.lookup_eq_some_iff_mem (names ▸ distinct)).mpr rightMember
  simp only [equal, sameLength, beq_self_eq_true, looked, Bool.and_self]

/-! ## Reloading -/

/--
A value is stored as a document that can be written and lies within a depth, and that is restored to
an equal value, which is stored as the same document.
-/
structure Reloads
    (stored : Value → Option Json)
    (bound : Nat)
    (value : Value)
    (document : Json) : Prop where
  writable : document.IsWritable
  depth_le : document.depth ≤ bound
  exists_again : ∃ again, ofPlain document = .ok again ∧ equal value again = true ∧
    stored again = some document

/-- What is found for every pair stands in between. -/
private theorem exists_between
    {α β γ : Type}
    {first : α → γ → Prop}
    {second : β → γ → Prop}
    {lefts : List α}
    {rights : List β}
    (paired : List.Forall₂ (fun left right => ∃ again, second right again ∧ first left again)
      lefts rights) :
    ∃ agains, List.Forall₂ second rights agains ∧ List.Forall₂ first lefts agains := by
  induction paired with
  | nil => exact ⟨[], .nil, .nil⟩
  | cons held _ ih =>
      rcases held with ⟨again, right, left⟩
      rcases ih with ⟨agains, rights, lefts⟩
      exact ⟨again :: agains, .cons right rights, .cons left lefts⟩

section Reloading

variable {stored : Value → Option Json} {bound : Nat}

private theorem reloads_list
    (storedList : ∀ items documents,
      List.Forall₂ (fun item document => stored item = some document) items documents →
        stored (list items) = some (.list documents))
    {items : List Value}
    {documents : List Json}
    (each : List.Forall₂ (Reloads stored bound) items documents) :
    Reloads stored (bound + 1) (list items) (.list documents) where
  writable := by
    refine .list fun document member => ?_
    rcases exists_of_mem_right each member with ⟨_, _, reloads⟩
    exact reloads.writable
  depth_le := by
    refine Nat.succ_le_succ (Json.itemsDepth_le_iff.mpr fun document member => ?_)
    rcases exists_of_mem_right each member with ⟨_, _, reloads⟩
    exact reloads.depth_le
  exists_again := by
    have between : List.Forall₂ (fun item document => ∃ again,
        (ofPlain document = .ok again ∧ stored again = some document) ∧ equal item again = true)
        items documents := by
      refine each.imp fun item document reloads => ?_
      rcases reloads.exists_again with ⟨again, restored, same, storedAgain⟩
      exact ⟨again, ⟨restored, storedAgain⟩, same⟩
    rcases exists_between between with ⟨agains, restored, same⟩
    refine ⟨list agains, ?_, ?_, ?_⟩
    · exact ofPlain_list_eq_ok_iff.mpr ⟨agains, rfl, restored.imp fun _ _ held => held.1⟩
    · rw [equal]
      exact equalItems_iff.mpr same
    · exact storedList _ _ (restored.flip.imp fun _ _ held => held.2)

/-- Fields that reload one by one are within a depth and reload together. -/
private theorem reloads_fields
    {fields : List (String × Value)}
    {documents : List (String × Json)}
    (each : List.Forall₂ (fun field document =>
      field.1 = document.1 ∧ Reloads stored bound field.2 document.2) fields documents) :
    (∀ document ∈ documents, document.2.IsWritable ∧ document.2.depth ≤ bound) ∧
      ∃ agains : List (String × Value), List.Forall₂ (fun document again =>
          document.1 = again.1 ∧ ofPlain document.2 = .ok again.2) documents agains ∧
        List.Forall₂ (fun field again => field.1 = again.1 ∧ equal field.2 again.2 = true)
          fields agains ∧
        List.Forall₂ (fun again document =>
          again.1 = document.1 ∧ stored again.2 = some document.2) agains documents := by
  constructor
  · intro document member
    rcases exists_of_mem_right each member with ⟨_, _, _, reloads⟩
    exact ⟨reloads.writable, reloads.depth_le⟩
  · have between : List.Forall₂ (fun (field : String × Value) (document : String × Json) =>
        ∃ again : String × Value, (document.1 = again.1 ∧ ofPlain document.2 = .ok again.2 ∧
          stored again.2 = some document.2) ∧ field.1 = again.1 ∧ equal field.2 again.2 = true)
        fields documents := by
      refine each.imp fun field document held => ?_
      rcases held.2.exists_again with ⟨again, restored, same, storedAgain⟩
      exact ⟨(document.1, again), ⟨rfl, restored, storedAgain⟩, held.1, same⟩
    rcases exists_between between with ⟨agains, restored, same⟩
    exact ⟨agains, restored.imp fun _ _ held => ⟨held.1, held.2.1⟩, same,
      restored.flip.imp fun _ _ held => ⟨held.1.symm, held.2.2⟩⟩

private theorem reloads_record
    {fields : List (String × Value)}
    {documents : List (String × Json)}
    (distinct : (fields.map Prod.fst).Nodup)
    (noMember : fields.lookup memberTag = none)
    (noClass : fields.lookup classTag = none ∨ fields.lookup classTag = some .null)
    (paired : List.Forall₂ (fun field document =>
      field.1 = document.1 ∧ toJson? field.2 = some document.2) fields documents)
    (each : List.Forall₂ (fun field document =>
      field.1 = document.1 ∧ Reloads toJson? bound field.2 document.2) fields documents) :
    (Json.object documents).IsWritable ∧ (Json.object documents).depth ≤ bound + 1 ∧
      ∃ agains, ofPlain (.object documents) = .ok (record agains) ∧
        equal (record fields) (record agains) = true ∧
        toJson? (record agains) = some (.object documents) := by
  rcases reloads_fields each with ⟨parts, agains, restored, same, storedAgain⟩
  have names := forall₂_eq_iff.mp (paired.imp fun _ _ held => held.1)
  refine ⟨.object (names ▸ distinct) fun document member => (parts document member).1,
    Nat.succ_le_succ (Json.fieldsDepth_le_iff.mpr fun document member => (parts document member).2),
    agains, ?_, record_equal distinct same, ?_⟩
  · have classTagged : classOfTag (documents.lookup classTag) = .ok none := by
      rcases noClass with absent | null
      · rw [lookup_eq_none_of_names names absent]
        rfl
      · rcases exists_lookup_of_forall₂ (fun value document => toJson? value = some document) paired
          null with ⟨document, found, written⟩
        cases written
        rw [found]
        rfl
    exact ofPlain_object_eq_ok_iff.mpr
      (Or.inr ⟨lookup_eq_none_of_names names noMember, none, agains, classTagged, restored, rfl⟩)
  · rw [toJson?, toJsonFields?_eq_some_iff.mpr storedAgain]
    rfl

/-- The value is neither a member nor made of parts. -/
private def isLeaf : Value → Bool
  | null => true
  | bool _ => true
  | int _ => true
  | float _ => true
  | text _ => true
  | _ => false

private theorem reloads_leaf
    {value : Value}
    {document : Json}
    (leaf : value.isLeaf = true)
    (restored : IsRestored bound value)
    (written : toJson? value = some document)
    (storedSame : stored value = toJson? value) :
    Reloads stored bound value document := by
  rw [written] at storedSame
  cases restored with
  | null =>
      cases written
      exact ⟨.null, Nat.zero_le _, .null, rfl, rfl, storedSame⟩
  | bool _ value =>
      cases written
      exact ⟨.bool value, Nat.zero_le _, .bool value, rfl, by simp [equal, equalScalar, asInt?],
        storedSame⟩
  | int _ fits =>
      cases written
      exact ⟨.int fits, Nat.zero_le _, .int _, rfl, by simp [equal, equalScalar, asInt?],
        storedSame⟩
  | float _ reduced =>
      cases written
      exact ⟨.float reduced, Nat.zero_le _, .float _, rfl, float_equal_self _, storedSame⟩
  | text _ value =>
      cases written
      exact ⟨.text value, Nat.zero_le _, .text value, rfl,
        by simp [equal, equalScalar, asInt?, asText?], storedSame⟩
  | _ => cases leaf

end Reloading

/-- What was restored and holds no object is written as it is and reloads, members as their texts. -/
private theorem reloads_of_toJson?
    {bound : Nat}
    {value : Value}
    (restored : IsRestored bound value)
    {document : Json}
    (written : toJson? value = some document) :
    Reloads toJson? bound value document := by
  induction restored generalizing document with
  | null bound => exact reloads_leaf rfl (.null bound) written rfl
  | bool bound value => exact reloads_leaf rfl (.bool bound value) written rfl
  | int bound fits => exact reloads_leaf rfl (.int bound fits) written rfl
  | float bound reduced => exact reloads_leaf rfl (.float bound reduced) written rfl
  | text bound value => exact reloads_leaf rfl (.text bound value) written rfl
  | member _ known =>
      cases written
      exact ⟨.text _, Nat.zero_le _, .text known.value, rfl,
        by simp [equal, equalScalar, asInt?, asText?], rfl⟩
  | list _ ih =>
      rw [toJson?, Option.map_eq_some_iff] at written
      rcases written with ⟨documents, written, rfl⟩
      refine reloads_list (fun items documents paired => ?_)
        (((List.forall₂_and_left _ _).mpr ⟨fun item member => member,
          toJsonItems?_eq_some_iff.mp written⟩).imp fun item document held => ih item held.1 held.2)
      rw [toJson?, toJsonItems?_eq_some_iff.mpr paired]
      rfl
  | record distinct noMember noClass _ ih =>
      rw [toJson?, Option.map_eq_some_iff] at written
      rcases written with ⟨documents, written, rfl⟩
      have paired := toJsonFields?_eq_some_iff.mp written
      rcases reloads_record distinct noMember noClass paired
        (((List.forall₂_and_left _ _).mpr ⟨fun field member => member, paired⟩).imp
          fun field document held => ⟨held.2.1, ih field held.1 held.2.2⟩) with
        ⟨writable, fits, agains, again⟩
      exact ⟨writable, fits, record agains, again⟩
  | object => cases written

/-- An object with the fields of its class reloads when each of its fields does. -/
private theorem reloads_object
    {bound : Nat}
    {kind : ObjectClass}
    {fields : List (String × Value)}
    {documents : List (String × Json)}
    (named : fields.map Prod.fst = kind.fields.map (·.name))
    (each : List.Forall₂ (fun field document => field.1 = document.1 ∧
      Reloads (fun value => value.toPlain.toJson?) bound field.2 document.2) fields documents) :
    Reloads (fun value => value.toPlain.toJson?) (bound + 1) (object kind fields)
      (.object ((classTag, .text kind.name) :: documents)) := by
  have storedNames := forall₂_eq_iff.mp (each.imp fun _ _ held => held.1)
  rcases reloads_fields each with ⟨parts, agains, restoredAgain, same, storedAgain⟩
  have againNames := forall₂_eq_iff.mp (same.imp fun _ _ held => held.1)
  refine ⟨.object ?_ ?_, ?_, object kind agains, ?_, ?_, ?_⟩
  · rw [List.map_cons, ← storedNames, named]
    exact nodup_stored_names kind
  · rw [List.forall_mem_cons]
    exact ⟨.text _, fun document member => (parts document member).1⟩
  · refine Nat.succ_le_succ (Json.fieldsDepth_le_iff.mpr ?_)
    rw [List.forall_mem_cons]
    exact ⟨Nat.zero_le _, fun document member => (parts document member).2⟩
  · exact ofPlain_object restoredAgain (againNames.symm.trans named)
  · rw [equal, beq_self_eq_true, Bool.true_and]
    exact equalFields_iff.mpr same
  · exact toJson?_object_iff.mpr ⟨documents, rfl, storedAgain⟩

/-- The stored form of a value that was restored reloads. -/
theorem reloads_of_toPlain
    {bound : Nat}
    {value : Value}
    (restored : IsRestored bound value)
    {document : Json}
    (written : value.toPlain.toJson? = some document) :
    Reloads (fun value => value.toPlain.toJson?) bound value document := by
  induction restored generalizing document with
  | null bound => exact reloads_leaf rfl (.null bound) written rfl
  | bool bound value => exact reloads_leaf rfl (.bool bound value) written rfl
  | int bound fits => exact reloads_leaf rfl (.int bound fits) written rfl
  | float bound reduced => exact reloads_leaf rfl (.float bound reduced) written rfl
  | text bound value => exact reloads_leaf rfl (.text bound value) written rfl
  | member _ known =>
      cases written
      refine ⟨.object (List.nodup_singleton _) fun field member => ?_,
        Nat.succ_le_succ (Nat.zero_le _), .member known, ofMemberTag_qualifiedName known,
        by simp [equal, equalScalar, asInt?, asText?], rfl⟩
      rw [List.mem_singleton.mp member]
      exact .text _
  | @list bound items _ ih =>
      rw [toPlain, toPlainItems_eq_map, toJson?, Option.map_eq_some_iff] at written
      rcases written with ⟨documents, written, rfl⟩
      have paired := List.forall₂_map_left_iff.mp (toJsonItems?_eq_some_iff.mp written)
      refine reloads_list (fun items documents stored => ?_)
        (((List.forall₂_and_left _ _).mpr ⟨fun item member => member, paired⟩).imp
          fun item document held => ih item held.1 held.2)
      rw [toPlain, toPlainItems_eq_map, toJson?,
        toJsonItems?_eq_some_iff.mpr (List.forall₂_map_left_iff.mpr stored)]
      rfl
  | @record bound fields distinct noMember noClass each _ =>
      change toJson? (record fields) = some document at written
      rw [toJson?, Option.map_eq_some_iff] at written
      rcases written with ⟨documents, written, rfl⟩
      have paired := toJsonFields?_eq_some_iff.mp written
      rcases reloads_record distinct noMember noClass paired
        (((List.forall₂_and_left _ _).mpr ⟨each, paired⟩).imp
          fun field document held => ⟨held.2.1, reloads_of_toJson? held.1 held.2.2⟩) with
        ⟨writable, fits, agains, again⟩
      exact ⟨writable, fits, record agains, again⟩
  | @object bound kind fields named _ ih =>
      rcases toJson?_object_iff.mp written with ⟨documents, rfl, paired⟩
      exact reloads_object named (((List.forall₂_and_left _ _).mpr
        ⟨fun field member => member, paired⟩).imp
          fun field document held => ⟨held.2.1, ih field held.1 held.2.2⟩)

end Value

end SchemaDelta
