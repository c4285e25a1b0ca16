import SchemaDelta.Proofs.Snapshot.RoundTrip

/-!
# Keeping what was loaded

Whatever text is loaded, its database is written as a text that is loaded as an equal database and is
written again when that one is, with two exceptions: an object inside a plain record cannot be
written, and a stored form that is too deep cannot be restored.
-/

namespace SchemaDelta.Snapshot

/-- The part of a document that holds the database is the document or in it. -/
private theorem isWritable_payload
    {document part : Json}
    (found : payload document = .ok part)
    (writable : document.IsWritable) :
    part.IsWritable := by
  unfold payload at found
  split at found
  · cases found
    exact writable
  · rename_i database held
    dsimp only at found
    split at found
    · cases found
    · cases found
    · cases found
      cases writable with
      | @object fields distinct each =>
          change fields.lookup "database" = some part at held
          exact each _ ((Keyed.lookup_eq_some_iff_mem distinct).mp held)
      | _ => cases held

/--
A database is written as a text that is loaded as an equal database, and that one is written as the
same text.
-/
def IsKept
    (database : Value) : Prop :=
  ∃ text again, storeText database = .ok text ∧ loadText text = .ok again ∧
    (database == again) = true ∧ storeText again = .ok text

/-- The stored form of a database has more lists and objects inside one another than are restored. -/
def StoresTooDeep
    (database : Value) : Prop :=
  ∃ plain, database.toPlain.toJson? = some plain ∧ Value.deepestNesting < plain.depth

private theorem exists_fields_of_equal
    {fields : List (String × Value)}
    {again : Value}
    (same : Value.equal (.object .database fields) again = true) :
    ∃ fields', again = .object .database fields' := by
  cases again with
  | object kind fields' =>
      rw [Value.equal, Bool.and_eq_true, beq_iff_eq] at same
      exact ⟨fields', same.1 ▸ rfl⟩
  | _ => cases same

private theorem storeText_of_toJson?
    {database : Value}
    {plain : Json}
    (stored : database.toPlain.toJson? = some plain) :
    storeText database =
      .ok (Json.object [("version", .int version), ("database", plain)]).indented := by
  rw [storeText, store, stored]
  rfl

/--
Whatever is loaded is kept, unless an object stands inside a plain record in it or its stored form is
too deep.
-/
theorem isKept_iff_of_loadText
    {text : String}
    {database : Value}
    (loaded : loadText text = .ok database) :
    IsKept database ↔ ¬database.BuriesObject ∧ ¬StoresTooDeep database := by
  rcases loadText_eq_ok_iff.mp loaded with
    ⟨document, part, read, found, fits, restored, fields, rfl⟩
  have partWritable := isWritable_payload found (Json.isWritable_of_read read).1
  have isRestored := (Value.isRestored_of_ofPlain partWritable restored).mono
    (Nat.succ_le_succ fits)
  rw [← Value.toJson?_toPlain_eq_none_iff]
  cases stored : (Value.object .database fields).toPlain.toJson? with
  | none => simp [IsKept, storeText, store, stored, Except.map]
  | some plain =>
      have reloads := Value.reloads_of_toPlain isRestored stored
      have writes := storeText_of_toJson? stored
      have reads := read_wrapped reloads.writable
        (Nat.lt_of_le_of_lt reloads.depth_le (by decide))
      constructor
      · rintro ⟨text, again, written, loadedAgain, _, _⟩
        rw [writes] at written
        cases written
        refine ⟨Option.some_ne_none plain, ?_⟩
        rintro ⟨_, stored', deep⟩
        rw [stored] at stored'
        cases stored'
        rcases loadText_eq_ok_iff.mp loadedAgain with ⟨_, _, read', found', shallow, _⟩
        rw [reads] at read'
        cases read'
        cases found'
        exact Nat.not_lt.mpr shallow deep
      · rintro ⟨_, shallow⟩
        have fitsAgain : plain.depth ≤ Value.deepestNesting :=
          Nat.le_of_not_lt fun deep => shallow ⟨plain, stored, deep⟩
        rcases reloads.exists_again with ⟨again, restoredAgain, same, storedAgain⟩
        exact ⟨_, again, writes, loadText_eq_ok_iff.mpr ⟨_, plain, reads, payload_wrapped plain,
          fitsAgain, restoredAgain, exists_fields_of_equal same⟩, same,
          storeText_of_toJson? storedAgain⟩

/-- The stored form of a database that has a record with one entry for a name. -/
def labelledDocument
    (label : Json) : Json :=
  .object [(Value.classTag, .text "Database"), ("name", .object [("label", label)]),
    ("dialect", .object [(Value.memberTag, .text "Dialect.POSTGRESQL")])]

/-- A database that has a record with one entry for a name. -/
def labelledDatabase
    (label : Value) : Value :=
  .filled .database [
    ("name", .record [("label", label)]), ("dialect", .member (.dialect .postgreSql))]

private theorem loadText_labelled
    {document : Json}
    {label : Value}
    (writable : document.IsWritable)
    (fits : document.depth ≤ 1)
    (restored : Value.ofPlain document = .ok label) :
    loadText (Json.object [("version", .int version),
      ("database", labelledDocument document)]).indented = .ok (labelledDatabase label) := by
  have labelledWritable : (labelledDocument document).IsWritable := by
    refine .object (by simp [Value.classTag]) ?_
    rw [List.forall_mem_cons, List.forall_mem_cons, List.forall_mem_singleton]
    exact ⟨.text _, .object (List.nodup_singleton _) (List.forall_mem_singleton.mpr writable),
      Json.IsWritable.texts [(Value.memberTag, "Dialect.POSTGRESQL")] (List.nodup_singleton _)⟩
  have depth : (labelledDocument document).depth ≤ 3 := by
    simp only [labelledDocument, Json.depth, Json.fieldsDepth]
    omega
  have name : Value.ofPlain (.object [("label", document)]) = .ok (.record [("label", label)]) :=
    Value.ofPlain_object_eq_ok_iff.mpr
      (Or.inr ⟨rfl, none, [("label", label)], rfl, .cons ⟨rfl, restored⟩ .nil, rfl⟩)
  have whole : Value.ofPlain (labelledDocument document) = .ok (labelledDatabase label) :=
    Value.ofPlain_object_eq_ok_iff.mpr (Or.inr ⟨rfl, some .database,
      [(Value.classTag, .text "Database"), ("name", .record [("label", label)]),
        ("dialect", .member (.dialect .postgreSql))], rfl,
      .cons ⟨rfl, rfl⟩ (.cons ⟨rfl, name⟩ (.cons ⟨rfl, rfl⟩ .nil)), rfl⟩)
  exact loadText_eq_ok_iff.mpr ⟨_, labelledDocument document,
    read_wrapped labelledWritable (Nat.lt_of_le_of_lt depth (by decide)), payload_wrapped _,
    depth.trans (by decide), whole, _, rfl⟩

/-- A member inside a record comes back as a text that is equal to it. -/
theorem isKept_of_labelledMember :
    IsKept (labelledDatabase (.member (.dialect .mySql))) := by
  have tagWritable := Json.IsWritable.texts [(Value.memberTag, "Dialect.MYSQL")]
    (List.nodup_singleton _)
  refine (isKept_iff_of_loadText (loadText_labelled tagWritable le_rfl rfl)).mpr ⟨?_, ?_⟩
  · rw [← Value.toJson?_toPlain_eq_none_iff]
    exact Option.some_ne_none _
  · rintro ⟨plain, stored, deep⟩
    cases stored
    exact absurd deep (by decide)

/-- An object inside a record is loaded, but cannot be written. -/
theorem not_isKept_of_labelledColumn :
    ∃ database, loadText (Json.object [("version", .int version), ("database", labelledDocument
      (.object [(Value.classTag, .text "Column"), ("name", .text "c"),
        ("data_type", .text "int")]))]).indented = .ok database ∧
      storeText database = .error .unwritableObject ∧ ¬IsKept database := by
  have columnWritable := Json.IsWritable.texts
    [(Value.classTag, "Column"), ("name", "c"), ("data_type", "int")] (by decide)
  refine ⟨_, loadText_labelled columnWritable le_rfl rfl, rfl, ?_⟩
  rintro ⟨text, _, written, _⟩
  cases written

end SchemaDelta.Snapshot
