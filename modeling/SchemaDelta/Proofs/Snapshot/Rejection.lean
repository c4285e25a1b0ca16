import SchemaDelta.Proofs.Json.RoundTrip
import SchemaDelta.Proofs.Snapshot.Restoring

/-!
# Refusing snapshots

A text that is no snapshot is refused by a failure that is told to the user, with these exceptions:
what is too deep, a version that is no number, and a tag of the wrong type that restoring comes upon.
-/

namespace SchemaDelta

/-- The value is a number; the truth values count as numbers. -/
def Json.isNumber : Json → Bool
  | bool _ => true
  | int _ => true
  | float _ => true
  | _ => false

/-- The tag of a member is no text, or the tag of an object without one is a list or an object. -/
def Json.isBadlyTagged : Json → Bool
  | object fields =>
    match fields.lookup Value.memberTag with
    | some (text _) => false
    | some _ => true
    | none =>
      match fields.lookup Value.classTag with
      | some (list _) => true
      | some (object _) => true
      | _ => false
  | _ => false

namespace Value

/-- Nothing is restored, and the failure ends the run. -/
def Escapes
    {α : Type}
    (result : Except SnapshotFailure α) : Prop :=
  ∃ failure, result = .error failure ∧ failure.isReported = false

@[simp]
theorem not_escapes_ok
    {α : Type}
    (value : α) :
    ¬Escapes (.ok value : Except SnapshotFailure α) := by
  rintro ⟨failure, failed, _⟩
  cases failed

@[simp]
theorem escapes_error_iff
    {α : Type}
    {failure : SnapshotFailure} :
    Escapes (.error failure : Except SnapshotFailure α) ↔ failure.isReported = false := by
  constructor
  · rintro ⟨_, same, escapes⟩
    cases same
    exact escapes
  · exact fun escapes => ⟨failure, rfl, escapes⟩

/-! ## Tags -/

/-- A member tag is refused by a failure that is told. -/
theorem not_escapes_ofMemberTag
    (tag : String) :
    ¬Escapes (ofMemberTag tag) := by
  unfold ofMemberTag
  dsimp only
  split
  · simp [SnapshotFailure.isReported]
  split <;> simp [SnapshotFailure.isReported]

/-- Fields that a class does not have or lacks are refused by a failure that is told. -/
theorem not_escapes_construct
    (kind : ObjectClass)
    (given : List (String × Value)) :
    ¬Escapes (construct kind given) := by
  unfold construct
  dsimp only
  split
  · simp [SnapshotFailure.isReported]
  · simp [SnapshotFailure.isReported]
  · split <;> simp [SnapshotFailure.isReported]

/-- A class tag is refused by a failure that is told unless it is a list or an object. -/
theorem escapes_classOfTag_iff
    {tag : Option Json} :
    Escapes (classOfTag tag) ↔
      (∃ items, tag = some (.list items)) ∨ ∃ fields, tag = some (.object fields) := by
  unfold classOfTag
  dsimp only
  split
  · simp
  · simp
  · simp [SnapshotFailure.isReported]
  · simp [SnapshotFailure.isReported]
  · rename_i tag _ notList notObject
    refine iff_of_false ?_ ?_
    · split <;> simp [SnapshotFailure.isReported]
    · rintro (⟨items, same⟩ | ⟨fields, same⟩)
      · exact notList items (Option.some.inj same)
      · exact notObject fields (Option.some.inj same)

/-! ## Parts -/

/-- A value is restored from a document. -/
def IsRestorable
    (document : Json) : Prop :=
  ∃ value, ofPlain document = .ok value

/-- A run along a list that stops at the first failure fails at an item behind none that fails. -/
private theorem exists_first_iff
    {α : Type}
    {passes fails : α → Prop}
    (runFails : List α → Prop)
    (empty : ¬runFails [])
    (step : ∀ first rest, runFails (first :: rest) ↔ fails first ∨ passes first ∧ runFails rest)
    {items : List α} :
    runFails items ↔ ∃ before item after, items = before ++ item :: after ∧
      (∀ earlier ∈ before, passes earlier) ∧ fails item := by
  induction items with
  | nil => simp [empty]
  | cons first rest ih =>
      rw [step, ih]
      constructor
      · rintro (failed | ⟨passed, before, item, after, rfl, passedBefore, failed⟩)
        · exact ⟨[], first, rest, rfl, by simp, failed⟩
        · exact ⟨first :: before, item, after, rfl,
            List.forall_mem_cons.mpr ⟨passed, passedBefore⟩, failed⟩
      · rintro ⟨_ | ⟨_, before⟩, item, after, split, passed, failed⟩
        · cases split
          exact Or.inl failed
        · cases split
          rw [List.forall_mem_cons] at passed
          exact Or.inr ⟨passed.1, before, item, after, rfl, passed.2, failed⟩

/-- Items escape when one of them does and those before it are restored. -/
theorem escapes_ofPlainItems_iff
    {documents : List Json} :
    Escapes (ofPlainItems documents) ↔
      ∃ before document after, documents = before ++ document :: after ∧
        (∀ earlier ∈ before, IsRestorable earlier) ∧ Escapes (ofPlain document) := by
  refine exists_first_iff (fun documents => Escapes (ofPlainItems documents)) (not_escapes_ok [])
    fun first rest => ?_
  rw [ofPlainItems, IsRestorable]
  cases ofPlain first <;> cases ofPlainItems rest <;> simp

/-- Fields escape when one of them does and those before it are restored. -/
theorem escapes_ofPlainFields_iff
    {documents : List (String × Json)} :
    Escapes (ofPlainFields documents) ↔
      ∃ before document after, documents = before ++ document :: after ∧
        (∀ earlier ∈ before, IsRestorable earlier.2) ∧ Escapes (ofPlain document.2) := by
  refine exists_first_iff (fun documents => Escapes (ofPlainFields documents)) (not_escapes_ok [])
    fun first rest => ?_
  rw [ofPlainFields, IsRestorable]
  cases ofPlain first.2 <;> cases ofPlainFields rest <;> simp

theorem escapes_ofPlain_list_iff
    {items : List Json} :
    Escapes (ofPlain (.list items)) ↔ Escapes (ofPlainItems items) := by
  rw [ofPlain]
  cases ofPlainItems items <;> simp

/-- The fields of an object are restored: its member tag is missing and its class tag is accepted. -/
def OpensFields
    (fields : List (String × Json)) : Prop :=
  fields.lookup memberTag = none ∧ ∃ kind?, classOfTag (fields.lookup classTag) = .ok kind?

/-- An object escapes by its own tag or by its fields. -/
theorem escapes_ofPlain_object_iff
    {fields : List (String × Json)} :
    Escapes (ofPlain (.object fields)) ↔
      (Json.object fields).isBadlyTagged = true ∨
        OpensFields fields ∧ Escapes (ofPlainFields fields) := by
  rw [ofPlain, OpensFields, Json.isBadlyTagged]
  cases fields.lookup memberTag with
  | some tag => cases tag <;> simp [not_escapes_ofMemberTag, SnapshotFailure.isReported]
  | none =>
      have badClass : (match fields.lookup classTag with
            | some (Json.list _) => true
            | some (Json.object _) => true
            | _ => false) = true ↔ Escapes (classOfTag (fields.lookup classTag)) := by
        rw [escapes_classOfTag_iff]
        split <;> simp_all
      dsimp only
      rw [badClass]
      cases classOfTag (fields.lookup classTag) with
      | error failure => simp
      | ok kind? =>
          cases kind? with
          | none => cases ofPlainFields fields <;> simp
          | some kind => cases ofPlainFields fields <;> simp [not_escapes_construct]

/--
Restoring a document comes upon a part of it: whatever stands before the part is restored, and the
tags of the objects around it are accepted.
-/
inductive Meets : Json → Json → Prop where
  | here (document : Json) : Meets document document
  | item
      {before after : List Json}
      {item part : Json}
      (restorable : ∀ earlier ∈ before, IsRestorable earlier)
      (meets : Meets item part) :
      Meets (.list (before ++ item :: after)) part
  | field
      {before after : List (String × Json)}
      {field : String × Json}
      {part : Json}
      (opens : OpensFields (before ++ field :: after))
      (restorable : ∀ earlier ∈ before, IsRestorable earlier.2)
      (meets : Meets field.2 part) :
      Meets (.object (before ++ field :: after)) part

private theorem exists_meets_of_escapes
    (document : Json)
    (escapes : Escapes (ofPlain document)) :
    ∃ part, Meets document part ∧ part.isBadlyTagged = true := by
  match document with
  | .null | .bool _ | .int _ | .float _ | .text _ => exact absurd escapes (not_escapes_ok _)
  | .list items =>
      rcases escapes_ofPlainItems_iff.mp (escapes_ofPlain_list_iff.mp escapes) with
        ⟨before, item, after, split, restorable, escapes⟩
      have member : item ∈ items := by simp [split]
      rcases exists_meets_of_escapes item escapes with ⟨part, meets, bad⟩
      exact ⟨part, split ▸ .item restorable meets, bad⟩
  | .object fields =>
      rcases escapes_ofPlain_object_iff.mp escapes with bad | ⟨opens, escapes⟩
      · exact ⟨_, .here _, bad⟩
      · rcases escapes_ofPlainFields_iff.mp escapes with
          ⟨before, field, after, split, restorable, escapes⟩
        have member : field ∈ fields := by simp [split]
        rcases exists_meets_of_escapes field.2 escapes with ⟨part, meets, bad⟩
        subst split
        exact ⟨part, .field opens restorable meets, bad⟩
termination_by sizeOf document
decreasing_by
  · have smaller := List.sizeOf_lt_of_mem member
    simp only [Json.list.sizeOf_spec]
    omega
  · have smaller := List.sizeOf_lt_of_mem member
    rcases field with ⟨name, held⟩
    simp only [Json.object.sizeOf_spec, Prod.mk.sizeOf_spec] at smaller ⊢
    omega

/-- A document escapes when restoring it comes upon a part with a tag of the wrong type. -/
theorem escapes_ofPlain_iff
    {document : Json} :
    Escapes (ofPlain document) ↔ ∃ part, Meets document part ∧ part.isBadlyTagged = true := by
  refine ⟨exists_meets_of_escapes document, ?_⟩
  rintro ⟨part, meets, bad⟩
  induction meets with
  | here document =>
      cases document with
      | object fields => exact escapes_ofPlain_object_iff.mpr (Or.inl bad)
      | _ => cases bad
  | item restorable _ ih =>
      exact escapes_ofPlain_list_iff.mpr
        (escapes_ofPlainItems_iff.mpr ⟨_, _, _, rfl, restorable, ih bad⟩)
  | field opens restorable _ ih =>
      exact escapes_ofPlain_object_iff.mpr
        (Or.inr ⟨opens, escapes_ofPlainFields_iff.mpr ⟨_, _, _, rfl, restorable, ih bad⟩⟩)

end Value

/-! ## Snapshots -/

namespace Snapshot

open Value (Escapes)

/-- A document has a header, and the version stated in it is no number. -/
def statesNoNumber
    (document : Json) : Bool :=
  (document.field? "database").isSome &&
    !((document.field? "version").getD (.int version)).isNumber

/-- Only numbers can be compared with the supported version. -/
theorem isNewer?_eq_none_iff
    {stated : Json} :
    isNewer? stated = none ↔ stated.isNumber = false := by
  cases stated <;> simp [isNewer?, Json.isNumber]

/-- A header escapes when its version is no number. -/
theorem escapes_payload_iff
    {document : Json} :
    Escapes (payload document) ↔ statesNoNumber document = true := by
  unfold payload statesNoNumber
  cases document.field? "database" with
  | none => simp
  | some database =>
      dsimp only
      rw [Option.isSome_some, Bool.true_and, Bool.not_eq_true', ← isNewer?_eq_none_iff]
      cases isNewer? ((document.field? "version").getD (.int version)) with
      | none => simp [SnapshotFailure.isReported]
      | some newer => cases newer <;> simp [SnapshotFailure.isReported]

/-- What makes loading a document fail in a way that is not told to the user. -/
inductive EndsRun
    (document : Json) : Prop where
  | incomparableVersion (noNumber : statesNoNumber document = true)
  | tooDeep
      {part : Json}
      (found : payload document = .ok part)
      (deep : Value.deepestNesting < part.depth)
  | badTag
      {part tagged : Json}
      (found : payload document = .ok part)
      (shallow : part.depth ≤ Value.deepestNesting)
      (meets : Value.Meets part tagged)
      (bad : tagged.isBadlyTagged = true)

/-- A text is too deep to be read, or its document fails in a way that is not told to the user. -/
def FailsUntold
    (text : String) : Prop :=
  Json.read text = .error .tooDeep ∨ ∃ document, Json.read text = .ok document ∧ EndsRun document

private theorem escapes_bind_asDatabase_iff
    {restored : Except SnapshotFailure Value} :
    Escapes (restored >>= asDatabase) ↔ Escapes restored := by
  cases restored with
  | error failure => exact Iff.rfl
  | ok value =>
      change Escapes (asDatabase value) ↔ _
      unfold asDatabase
      split <;> simp [SnapshotFailure.isReported]

/-- Restoring escapes when the document is too deep or comes upon a tag of the wrong type. -/
private theorem escapes_restore_iff
    {part : Json} :
    Escapes (Value.restore part) ↔
      Value.deepestNesting < part.depth ∨ part.depth ≤ Value.deepestNesting ∧
        ∃ tagged, Value.Meets part tagged ∧ tagged.isBadlyTagged = true := by
  rw [← Value.escapes_ofPlain_iff, ← Nat.not_lt, Value.restore]
  split <;> simp_all [SnapshotFailure.isReported]

/-- Loading a document escapes by its header, or by what stands behind it. -/
private theorem escapes_document_iff
    {document : Json} :
    Escapes (payload document >>= fun part => Value.restore part >>= asDatabase) ↔
      EndsRun document := by
  have header : Escapes (payload document) ↔ statesNoNumber document = true := escapes_payload_iff
  cases found : payload document with
  | error failure =>
      rw [found, Value.escapes_error_iff] at header
      change Escapes (.error failure : Except SnapshotFailure Value) ↔ _
      rw [Value.escapes_error_iff]
      constructor
      · exact fun escapes => .incomparableVersion (header.mp escapes)
      · rintro (noNumber | ⟨found', _⟩ | ⟨found', _, _, _⟩)
        · exact header.mpr noNumber
        all_goals
          rw [found] at found'
          cases found'
  | ok part =>
      rw [found] at header
      change Escapes (Value.restore part >>= asDatabase) ↔ _
      rw [escapes_bind_asDatabase_iff, escapes_restore_iff]
      constructor
      · rintro (deep | ⟨shallow, tagged, meets, bad⟩)
        · exact .tooDeep found deep
        · exact .badTag found shallow meets bad
      · rintro (noNumber | ⟨found', deep⟩ | ⟨found', shallow, meets, bad⟩)
        · exact absurd (header.mpr noNumber) (Value.not_escapes_ok part)
        all_goals
          rw [found] at found'
          cases found'
        · exact Or.inl deep
        · exact Or.inr ⟨shallow, _, meets, bad⟩

/-- Loading a text fails untold. -/
theorem escapes_loadText_iff
    {text : String} :
    Escapes (loadText text) ↔ FailsUntold text := by
  rw [FailsUntold]
  cases read : Json.read text with
  | error failure =>
      rw [loadText_of_unread read, Value.escapes_error_iff]
      cases failure <;> simp [SnapshotFailure.isReported]
  | ok document =>
      rw [loadText_of_read read, escapes_document_iff]
      simp

/--
A text is loaded as a database or refused by a failure that is told to the user, unless it is too
deep, its version is no number, or restoring comes upon a tag of the wrong type.
-/
theorem loaded_or_told_iff
    {text : String} :
    ((∃ fields, loadText text = .ok (.object .database fields)) ∨
      ∃ failure, loadText text = .error failure ∧ failure.isReported = true) ↔
        ¬FailsUntold text := by
  rw [← escapes_loadText_iff]
  cases loaded : loadText text with
  | error failure => simp
  | ok database =>
      rcases loadText_eq_ok_iff.mp loaded with ⟨_, _, _, _, _, _, fields, rfl⟩
      simp

/-- A version that is a text cannot be compared with the supported one, and the run ends. -/
theorem not_loaded_or_told_of_textVersion :
    ∃ text, Json.read text = .ok (.object [("version", .text "2"), ("database", .object [
        (Value.classTag, .text "Database"), ("name", .text "shop"),
        ("dialect", .object [(Value.memberTag, .text "Dialect.MYSQL")])])]) ∧
      ¬((∃ fields, loadText text = .ok (.object .database fields)) ∨
        ∃ failure, loadText text = .error failure ∧ failure.isReported = true) := by
  have dialectWritable := Json.IsWritable.texts [(Value.memberTag, "Dialect.MYSQL")]
    (List.nodup_singleton _)
  have databaseWritable : (Json.object [(Value.classTag, .text "Database"), ("name", .text "shop"),
      ("dialect", .object [(Value.memberTag, .text "Dialect.MYSQL")])]).IsWritable := by
    refine .object (by decide) ?_
    rw [List.forall_mem_cons, List.forall_mem_cons, List.forall_mem_singleton]
    exact ⟨.text _, .text _, dialectWritable⟩
  have writable : (Json.object [("version", .text "2"), ("database", .object [
      (Value.classTag, .text "Database"), ("name", .text "shop"),
      ("dialect", .object [(Value.memberTag, .text "Dialect.MYSQL")])])]).IsWritable := by
    refine .object (by simp) ?_
    rw [List.forall_mem_cons, List.forall_mem_singleton]
    exact ⟨.text _, databaseWritable⟩
  have read := Json.read_indented writable (by decide)
  refine ⟨_, read, ?_⟩
  rw [loadText_of_read read]
  rintro (⟨fields, loaded⟩ | ⟨failure, refused, told⟩)
  · cases loaded
  · cases refused
    cases told

end Snapshot

end SchemaDelta
