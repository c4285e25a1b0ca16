import SchemaDelta.Proofs.Snapshot.Storing

/-!
# Round trip of typed databases

A typed database is restored from its stored form exactly: the same classes, the same members and
the same values in all fields.  Its stored form is never too deep.
-/

namespace SchemaDelta

/-! ## Depth of stored forms -/

/-- The greatest depth of the stored objects of a class. -/
def ObjectClass.nesting : ObjectClass → Nat
  | database => 6
  | schemaObject => 4
  | table => 4
  | postgreSqlTable => 4
  | view => 4
  | postgreSqlView => 4
  | _ => 2

/-- The greatest depth of the stored items of a type. -/
def ItemType.nesting : ItemType → Nat
  | .object kind => kind.nesting
  | .dialect => 1
  | .action => 1
  | .indexKind => 1
  | _ => 0

/-- The greatest depth of what is stored in a field of a type. -/
def FieldType.nesting
    (type : FieldType) : Nat :=
  type.item.nesting + if type.isList then 1 else 0

theorem ObjectClass.nesting_of_mem_fields
    {kind : ObjectClass}
    {info : FieldInfo}
    (member : info ∈ kind.fields) :
    info.type.nesting + 1 ≤ kind.nesting := by
  have checked : ∀ kind : ObjectClass,
      (kind.fields.all fun info => decide (info.type.nesting + 1 ≤ kind.nesting)) = true := by
    intro kind
    cases kind <;> decide
  exact of_decide_eq_true (List.all_eq_true.mp (checked kind) info member)

theorem ObjectClass.nesting_le_of_isA
    {kind general : ObjectClass}
    (kind_isA : kind.isA general = true) :
    kind.nesting ≤ general.nesting := by
  have checked : ∀ kind : ObjectClass,
      (all.all fun general => !kind.isA general || decide (kind.nesting ≤ general.nesting)) =
        true := by
    intro kind
    cases kind <;> decide
  have holds := List.all_eq_true.mp (checked kind) general (mem_all general)
  rw [kind_isA] at holds
  exact of_decide_eq_true holds

namespace Value

/-- A value is restored from its stored form, which lies within a depth. -/
def ReturnsWithin
    (bound : Nat)
    (value : Value) : Prop :=
  ∃ document, value.toPlain.toJson? = some document ∧ ofPlain document = .ok value ∧
    document.depth ≤ bound

theorem ReturnsWithin.mono
    {bound bound' : Nat}
    {value : Value}
    (returns : value.ReturnsWithin bound)
    (within : bound ≤ bound') :
    value.ReturnsWithin bound' := by
  rcases returns with ⟨document, stored, restored, fits⟩
  exact ⟨document, stored, restored, fits.trans within⟩

private theorem returnsWithin_list
    {bound : Nat}
    {items : List Value}
    (each : ∀ item ∈ items, item.ReturnsWithin bound) :
    (list items).ReturnsWithin (bound + 1) := by
  rcases exists_forall₂ each with ⟨documents, paired⟩
  refine ⟨.list documents, ?_, ?_, ?_⟩
  · rw [toPlain, toPlainItems_eq_map, toJson?, toJsonItems?_eq_some_iff.mpr
      (List.forall₂_map_left_iff.mpr (paired.imp fun _ _ held => held.1))]
    rfl
  · exact ofPlain_list_eq_ok_iff.mpr ⟨items, rfl, paired.flip.imp fun _ _ held => held.2.1⟩
  · refine Nat.succ_le_succ (Json.itemsDepth_le_iff.mpr fun document member => ?_)
    rcases exists_of_mem_right paired member with ⟨_, _, _, _, fits⟩
    exact fits

private theorem returnsWithin_object
    {bound : Nat}
    {kind : ObjectClass}
    {fields : List (String × Value)}
    (named : fields.map Prod.fst = kind.fields.map (·.name))
    (each : ∀ field ∈ fields, field.2.ReturnsWithin bound) :
    (object kind fields).ReturnsWithin (bound + 1) := by
  have eachField : ∀ field ∈ fields, ∃ document : String × Json, field.1 = document.1 ∧
      field.2.toPlain.toJson? = some document.2 ∧ ofPlain document.2 = .ok field.2 ∧
        document.2.depth ≤ bound := by
    intro field member
    rcases each field member with ⟨document, returns⟩
    exact ⟨(field.1, document), rfl, returns⟩
  rcases exists_forall₂ eachField with ⟨documents, paired⟩
  refine ⟨.object ((classTag, .text kind.name) :: documents), ?_, ?_, ?_⟩
  · exact toJson?_object_iff.mpr ⟨documents, rfl, paired.imp fun _ _ held => ⟨held.1, held.2.1⟩⟩
  · exact ofPlain_object (paired.flip.imp fun _ _ held => ⟨held.1.symm, held.2.2.1⟩) named
  · refine Nat.succ_le_succ (Json.fieldsDepth_le_iff.mpr ?_)
    rw [List.forall_mem_cons]
    refine ⟨Nat.zero_le _, fun document member => ?_⟩
    rcases exists_of_mem_right paired member with ⟨_, _, _, _, _, fits⟩
    exact fits

/-- What is of a declared type is restored from its stored form. -/
theorem returnsWithin_of_conforms
    {value : Value}
    {type : FieldType}
    (conform : value.conforms type = true) :
    value.ReturnsWithin type.nesting := by
  induction value using partsInduction generalizing type with
  | null => exact ⟨.null, rfl, rfl, Nat.zero_le _⟩
  | bool value => exact ⟨.bool value, rfl, rfl, Nat.zero_le _⟩
  | int value => exact ⟨.int value, rfl, rfl, Nat.zero_le _⟩
  | float value => exact ⟨.float value, rfl, rfl, Nat.zero_le _⟩
  | text value => exact ⟨.text value, rfl, rfl, Nat.zero_le _⟩
  | member known =>
      refine ⟨.object [(memberTag, .text known.qualifiedName)], rfl,
        ofMemberTag_qualifiedName known, ?_⟩
      have single : 1 ≤ type.item.nesting := by
        simp only [conforms, Bool.and_eq_true] at conform
        cases known <;> cases item : type.item <;>
          simp [item, ItemType.admits, ItemType.nesting] at conform ⊢
      exact single.trans (Nat.le_add_right _ _)
  | list items ih =>
      simp only [conforms, Bool.and_eq_true] at conform
      rw [FieldType.nesting, if_pos conform.1]
      exact returnsWithin_list fun item member =>
        (ih item member (allConform_iff.mp conform.2 item member))
  | record fields _ => simp [conforms, ItemType.admits] at conform
  | object kind fields ih =>
      simp only [conforms] at conform
      split at conform
      · rename_i general ofClass
        rw [Bool.and_eq_true, Bool.and_eq_true] at conform
        rcases conform with ⟨⟨_, kind_isA⟩, fieldsConform⟩
        have positive : 1 ≤ kind.nesting := by cases kind <;> decide
        have each : ∀ field ∈ fields, field.2.ReturnsWithin (kind.nesting - 1) := by
          intro field member
          rcases exists_info_of_mem_fields fieldsConform member with
            ⟨info, infoMember, _, heldConforms⟩
          exact (ih field member heldConforms).mono
            (Nat.le_sub_one_of_lt (ObjectClass.nesting_of_mem_fields infoMember))
        have returns := returnsWithin_object (names_of_fieldsConform fieldsConform) each
        rw [Nat.sub_add_cancel positive] at returns
        refine returns.mono ((ObjectClass.nesting_le_of_isA kind_isA).trans ?_)
        rw [FieldType.nesting, ofClass]
        exact Nat.le_add_right _ _
      · cases conform

end Value

/-! ## Snapshots -/

namespace Snapshot

/-- A database object is of the class of databases itself and has the fields of it. -/
private theorem exists_fields
    {database : Value}
    (typed : database.isTyped .database = true) :
    ∃ fields, database = .object .database fields ∧
      fields.map Prod.fst = ObjectClass.database.fields.map (·.name) := by
  rcases Value.isTyped_iff.mp typed with ⟨kind, fields, rfl, kind_isA, conform⟩
  obtain rfl : kind = .database := by
    cases kind <;> first | rfl | exact absurd kind_isA (by decide)
  exact ⟨fields, rfl, Value.names_of_fieldsConform conform⟩

/-- The header of a written document leads to what is stored behind it. -/
theorem payload_wrapped
    (plain : Json) :
    payload (.object [("version", .int version), ("database", plain)]) = .ok plain :=
  rfl

/-- The text of a written document is read back. -/
theorem read_wrapped
    {plain : Json}
    (writable : plain.IsWritable)
    (fits : plain.depth < Json.deepestNesting) :
    Json.read (Json.object [("version", .int version), ("database", plain)]).indented =
      .ok (.object [("version", .int version), ("database", plain)]) := by
  refine Json.read_indented (.object (by simp) ?_) (Nat.succ_le_of_lt (Nat.lt_of_le_of_lt
    (Json.fieldsDepth_le_iff.mpr ?_) fits))
  all_goals rw [List.forall_mem_cons, List.forall_mem_singleton]
  · exact ⟨.int (by decide), writable⟩
  · exact ⟨Nat.zero_le _, le_rfl⟩

/-- The stored form of a database object is all of a document without a header. -/
theorem payload_plain
    {fields : List (String × Value)}
    {plain : Json}
    (named : fields.map Prod.fst = ObjectClass.database.fields.map (·.name))
    (stored : (Value.object .database fields).toPlain.toJson? = some plain) :
    payload plain = .ok plain := by
  rcases Value.toJson?_object_iff.mp stored with ⟨documents, rfl, paired⟩
  have names : documents.map Prod.fst = ObjectClass.database.fields.map (·.name) :=
    (Value.forall₂_eq_iff.mp (paired.imp fun _ _ held => held.1)).symm.trans named
  have absent : documents.lookup "database" = none := by
    rw [Keyed.lookup_eq_none_iff_not_mem, names]
    decide
  have noHeader : (Json.object ((Value.classTag, .text ObjectClass.database.name) ::
      documents)).field? "database" = none := absent
  rw [payload, noHeader]

/--
A typed database is restored from its stored form, with a header and without: every object with its
class, every member and every value.  The texts of both documents are loaded as the database, too,
if they are read as the documents from which they were written.
-/
theorem roundTrip_of_isTyped
    {database : Value}
    (typed : database.isTyped .database = true) :
    ∃ plain wrapped, database.toPlain.toJson? = some plain ∧ Value.ofPlain plain = .ok database ∧
      store database = .ok wrapped ∧ load wrapped = .ok database ∧ load plain = .ok database ∧
      storeText database = .ok wrapped.indented ∧
      (Json.read wrapped.indented = .ok wrapped → loadText wrapped.indented = .ok database) ∧
      (Json.read plain.indented = .ok plain → loadText plain.indented = .ok database) := by
  rcases Value.returnsWithin_of_conforms typed with ⟨plain, stored, restored, fits⟩
  rcases exists_fields typed with ⟨fields, rfl, named⟩
  have bare := payload_plain named stored
  have shallow : plain.depth ≤ Value.deepestNesting := fits.trans (by decide)
  have loads : ∀ document, payload document = .ok plain →
      load document = .ok (.object .database fields) ∧
        (Json.read document.indented = .ok document →
          loadText document.indented = .ok (.object .database fields)) := by
    intro document found
    constructor
    · rw [load, found, Attempt.bind_eq_ok_iff]
      exact ⟨plain, rfl, Attempt.bind_eq_ok_iff.mpr ⟨_, restored, rfl⟩⟩
    · exact fun read =>
        loadText_eq_ok_iff.mpr ⟨document, plain, read, found, shallow, restored, fields, rfl⟩
  have storedOk : store (.object .database fields) =
      .ok (.object [("version", .int version), ("database", plain)]) := by
    rw [store, stored]
  rcases loads _ (payload_wrapped plain) with ⟨loadsWrapped, loadsWrappedText⟩
  rcases loads plain bare with ⟨loadsPlain, loadsPlainText⟩
  exact ⟨plain, _, stored, restored, storedOk, loadsWrapped, loadsPlain,
    by rw [storeText, storedOk]; rfl, loadsWrappedText, loadsPlainText⟩

/-- The foreign key by which orders reference items. -/
private def itemReference : Value :=
  .plainForeignKey "orders" "fk_item" "item_id" "items" "id" .cascade

/-- A table with a primary key that another table references. -/
private def itemsTable : Value :=
  .plainTable "items" [.plainColumn "id" "integer" 1] [.plainIndex "items" "pk" "id" true] []
    [itemReference]

/-- A table with a foreign key. -/
private def ordersTable : Value :=
  .plainTable "orders" [.plainColumn "item_id" "integer" 1] [] [itemReference] []

/-- A database of two tables, one of which references the other. -/
private def referencingDatabase : Value :=
  .plainDatabase "shop" [itemsTable, ordersTable]

private theorem isTyped_referencingDatabase :
    referencingDatabase.isTyped .database = true := by
  have columnTyped (name : String) : ∀ column ∈ [Value.plainColumn name "integer" 1],
      column.isTyped .column = true :=
    List.forall_mem_singleton.mpr (Value.isTyped_plainColumn name "integer" 1)
  have referenceTyped : ∀ row ∈ [itemReference], row.isTyped .foreignKey = true :=
    List.forall_mem_singleton.mpr (Value.isTyped_plainForeignKey _ _ _ _ _ _)
  refine Value.isTyped_plainDatabase "shop" ?_
  rw [List.forall_mem_cons, List.forall_mem_singleton]
  exact ⟨Value.isTyped_plainTable "items" (columnTyped "id")
      (List.forall_mem_singleton.mpr (Value.isTyped_plainIndex _ _ _ _)) (by simp) referenceTyped,
    Value.isTyped_plainTable "orders" (columnTyped "item_id") (by simp) referenceTyped (by simp)⟩

private theorem isRestored_referencingDatabase :
    referencingDatabase.IsRestored 6 := by
  have one : Value.IsRestored 1 (.int 1) := .int 1 (by decide)
  have action : ∀ rule, Value.IsRestored 1 (.member (.action rule)) := fun rule => .member 0 _
  have dialect : Value.IsRestored 5 (.member (.dialect .postgreSql)) := .member 4 _
  have column (name : String) : (Value.plainColumn name "integer" 1).IsRestored 2 :=
    Value.isRestored_filled _ (by simp [one, Value.IsRestored.text])
  have index : (Value.plainIndex "items" "pk" "id" true).IsRestored 2 :=
    Value.isRestored_filled _ (by simp [one, Value.IsRestored.text, Value.IsRestored.bool])
  have reference : itemReference.IsRestored 2 :=
    Value.isRestored_filled _ (by simp [one, action, Value.IsRestored.text])
  have single : ∀ {row : Value}, row.IsRestored 2 → (Value.list [row]).IsRestored 3 :=
    fun held => .list (List.forall_mem_singleton.mpr held)
  have none : (Value.list []).IsRestored 3 := .list (List.forall_mem_nil _)
  have items : itemsTable.IsRestored 4 :=
    Value.isRestored_filled _
      (by simp [single, none, column, index, reference, Value.IsRestored.text])
  have orders : ordersTable.IsRestored 4 :=
    Value.isRestored_filled _ (by simp [single, none, column, reference, Value.IsRestored.text])
  have tables : (Value.list [itemsTable, ordersTable]).IsRestored 5 := .list (by simp [items, orders])
  exact Value.isRestored_filled _ (by simp [dialect, tables, Value.IsRestored.text])

/-- Tables, keys and the members of their actions are all restored, also from the written text. -/
theorem roundTrip_of_referencingDatabase :
    ∃ wrapped, store referencingDatabase = .ok wrapped ∧
      load wrapped = .ok referencingDatabase ∧
        loadText wrapped.indented = .ok referencingDatabase := by
  rcases roundTrip_of_isTyped isTyped_referencingDatabase with
    ⟨plain, wrapped, plainStored, _, stored, loaded, _, _, loadedText, _⟩
  refine ⟨wrapped, stored, loaded, loadedText ?_⟩
  have reloads := Value.reloads_of_toPlain isRestored_referencingDatabase plainStored
  rw [store, plainStored] at stored
  cases stored
  exact read_wrapped reloads.writable (reloads.depth_le.trans_lt (by decide))

end Snapshot

end SchemaDelta
