import SchemaDelta.Proofs.Ddl.ForeignKeyText
import SchemaDelta.Proofs.Migration.KeyDrop

/-!
# Statements about foreign keys

The script of an action that drops or adds foreign keys has one statement for each of them, which
starts with the table and the name of the key.
-/

namespace SchemaDelta

open Attempt (bind_eq_ok_iff ensures_bind ensures_pure)
open Value (rowGroups groupName groupNames)

/-! ## Scripts of several statements -/

/-- If there is a script, it has one statement for each of some items. -/
def Attempt.Lists
    {α : Type}
    (states : α → String → Prop)
    (items : List α)
    (script : Script) : Prop :=
  Attempt.Ensures
    (fun text => ∃ texts, List.Forall₂ states items texts ∧ text = String.join texts) script

namespace Attempt

variable {α β : Type} {states : α → String → Prop}

/-- Scripts that are joined list the items of all of them. -/
theorem lists_join
    {parts : List β}
    {script : β → Script}
    {items : β → List α}
    (lists : ∀ part ∈ parts, Lists states (items part) (script part)) :
    Lists states (parts.flatMap items) (do return String.join (← parts.mapM script)) := by
  induction parts with
  | nil =>
      intro text textOk
      cases textOk
      exact ⟨[], List.Forall₂.nil, rfl⟩
  | cons part parts ih =>
      intro text textOk
      rcases bind_eq_ok_iff.mp textOk with ⟨texts, textsOk, equal⟩
      cases equal
      rw [List.mapM_cons] at textsOk
      rcases bind_eq_ok_iff.mp textsOk with ⟨first, firstOk, restRun⟩
      rcases bind_eq_ok_iff.mp restRun with ⟨rest, restOk, equal⟩
      cases equal
      rcases lists part List.mem_cons_self first firstOk with ⟨firstTexts, firstStated, rfl⟩
      obtain ⟨restTexts, restStated, joined⟩ :=
        ih (fun other member => lists other (List.mem_cons_of_mem part member)) (String.join rest)
          (by rw [restOk]; rfl)
      refine ⟨firstTexts ++ restTexts, List.rel_append firstStated restStated, ?_⟩
      rw [String.join_cons, joined, String.join_append]

/-- A script by groups has one statement for each group. -/
theorem lists_groupScripts
    {groups : List (List Value)}
    {statement : Value → List Value → Script}
    {item : List Value → α}
    (stated : ∀ group ∈ groups,
      Ensures (states (item group)) (statement (group.headD .null) group)) :
    Lists states (groups.map item) (groupScripts groups statement) := by
  rw [List.map_eq_flatMap]
  apply lists_join
  intro group member text textOk
  exact ⟨[text], List.Forall₂.cons (stated group member text textOk) List.Forall₂.nil,
    by rw [String.join_cons, String.join_nil, String.append_empty]⟩

end Attempt

/-! ## Statements -/

namespace Dialect

variable (dialect : Dialect) (options : Options)

/-- The statement that drops a foreign key. -/
def dropStatement
    (key : ForeignKeyName) : String :=
  "ALTER TABLE " ++ dialect.tableText options key.1 key.2.1 ++
    (if dialect = .mySql then " DROP FOREIGN KEY " else " DROP CONSTRAINT ") ++
    dialect.quote key.2.2 ++ ";\n" ++ dialect.batchEnd

/-- How the statement starts that adds a foreign key. -/
def addOpening
    (key : ForeignKeyName) : String :=
  let altering := "ALTER TABLE " ++ dialect.tableText options key.1 key.2.1
  match dialect with
  | .microsoftSql => altering ++ " WITH CHECK ADD CONSTRAINT " ++ dialect.quote key.2.2
  | .mySql => altering ++ "\n" ++ "ADD CONSTRAINT " ++ dialect.quote key.2.2
  | .postgreSql => altering ++ "\n" ++ "ADD CONSTRAINT " ++ dialect.quote key.2.2

/-- A statement that adds a foreign key, whatever it says about its columns and rules. -/
def Adds
    (key : ForeignKeyName)
    (text : String) : Prop :=
  ∃ rest, text = dialect.addOpening options key ++ rest

variable {rows : List Value}

private theorem quoteName_ok
    {row : Value}
    (typed : row.isTyped .foreignKey = true) :
    dialect.quotePart row "name" = .ok (dialect.quote (row.letters "name")) :=
  quotePart_ok typed ObjectClass.foreignKey_declares_name

/-- Foreign keys are dropped without failure, by one statement for each name. -/
theorem dropForeignKeys_ok
    (typed : ∀ row ∈ rows, row.isTyped .foreignKey = true) :
    dialect.statements.dropForeignKeys options (.list rows) =
      .ok (String.join ((Value.namesDropped rows).map (dialect.dropStatement options))) := by
  have sameTexts : (groupNames rows).map (dialect.namedDrop options .foreignKey rows) =
      (Value.namesDropped rows).map (dialect.dropStatement options) := by
    rw [← Value.map_groupName_rowGroups, Value.namesDropped, List.map_map, List.map_map]
    refine List.map_congr_left fun group member => ?_
    rw [Function.comp_apply, namedDrop, Value.leadingRow, Value.namedRows_groupName member]
    cases dialect <;> rfl
  rw [← sameTexts]
  exact dialect.dropKeys_ok options .foreignKey typed

/-- Foreign keys are dropped by one statement each. -/
theorem lists_dropForeignKeys
    (typed : ∀ row ∈ rows, row.isTyped .foreignKey = true) :
    Attempt.Lists (fun key text => text = dialect.dropStatement options key)
      (Value.namesDropped rows) (dialect.statements.dropForeignKeys options (.list rows)) := by
  rw [dialect.dropForeignKeys_ok options typed]
  rintro _ ⟨⟩
  refine ⟨_, ?_, rfl⟩
  exact List.forall₂_map_right_iff.mpr (List.forall₂_same.mpr fun _ _ => rfl)

variable {dialect options} in
private theorem adds_append
    {key : ForeignKeyName}
    {text : String}
    (adds : dialect.Adds options key text)
    (more : String) :
    dialect.Adds options key (text ++ more) := by
  rcases adds with ⟨rest, rfl⟩
  exact ⟨rest ++ more, String.append_assoc ..⟩

variable {dialect options} in
theorem ne_empty_of_adds
    {key : ForeignKeyName}
    {text : String}
    (adds : dialect.Adds options key text) :
    text ≠ "" := by
  rcases adds with ⟨rest, rfl⟩
  cases dialect with
  | microsoftSql => simp [addOpening]
  | mySql => simp [addOpening]
  | postgreSql => simp [addOpening]

private theorem adds_addOpening
    (key : ForeignKeyName) :
    dialect.Adds options key (dialect.addOpening options key) :=
  ⟨"", (String.append_empty).symm⟩

/-- The statement that adds a foreign key starts with the table and the name of the key. -/
private theorem adds_addForeignKey
    {table first : Value}
    {group : List Value}
    {owner : String × String}
    (typed : first.isTyped .foreignKey = true)
    (named : dialect.objectName options table = .ok (dialect.tableText options owner.1 owner.2)) :
    Attempt.Ensures (dialect.Adds options (owner.1, owner.2, first.letters "name"))
      (dialect.addForeignKey options table first group) := by
  cases dialect with
  | microsoftSql =>
      simp only [addForeignKey, MicrosoftSql.addForeignKey, MicrosoftSql.dialect, named,
        quoteName_ok _ typed, Attempt.ok_bind]
      refine ensures_bind fun columns => ensures_bind fun referenced => ensures_bind fun _ =>
        ensures_bind fun _ => ensures_bind fun _ => ensures_bind fun _ => ensures_bind fun _ =>
          ensures_pure ?_
      have opening : "ALTER TABLE " ++ microsoftSql.tableText options owner.1 owner.2 ++
          " WITH CHECK ADD CONSTRAINT " ++ microsoftSql.quote (first.letters "name") =
            microsoftSql.addOpening options (owner.1, owner.2, first.letters "name") := rfl
      rw [opening]
      repeat with_reducible refine adds_append ?_ _
      exact adds_addOpening .microsoftSql options _
  | mySql =>
      simp only [addForeignKey, MySql.addForeignKey, MySql.dialect, MySql.alterTable, named,
        quoteName_ok _ typed, Attempt.ok_bind, Attempt.pure_eq_ok]
      refine ensures_bind fun columns => ensures_bind fun referenced => ensures_bind fun _ =>
        ensures_bind fun _ => ensures_bind fun _ => ensures_bind fun _ => ensures_bind fun _ =>
          ensures_pure ?_
      have opening : "ALTER TABLE " ++ mySql.tableText options owner.1 owner.2 ++ "\n" ++
          "ADD CONSTRAINT " ++ mySql.quote (first.letters "name") =
            mySql.addOpening options (owner.1, owner.2, first.letters "name") := rfl
      rw [opening]
      repeat with_reducible refine adds_append ?_ _
      exact adds_addOpening .mySql options _
  | postgreSql =>
      simp only [addForeignKey, PostgreSql.addForeignKey, PostgreSql.dialect,
        PostgreSql.alterTable, named, quoteName_ok _ typed, Attempt.ok_bind, Attempt.pure_eq_ok]
      refine ensures_bind fun _ => ensures_bind fun columns => ensures_bind fun referenced =>
        ensures_bind fun _ => ensures_bind fun _ => ensures_bind fun _ => ensures_bind fun _ =>
          ensures_bind fun _ => ensures_bind fun _ => ensures_bind fun _ => ensures_bind fun _ =>
            ensures_bind fun _ => ensures_pure ?_
      have opening : "ALTER TABLE " ++ postgreSql.tableText options owner.1 owner.2 ++ "\n" ++
          "ADD CONSTRAINT " ++ postgreSql.quote (first.letters "name") =
            postgreSql.addOpening options (owner.1, owner.2, first.letters "name") := rfl
      rw [opening]
      repeat with_reducible refine adds_append ?_ _
      exact adds_addOpening .postgreSql options _

/-- Foreign keys of a table are added by one statement each. -/
theorem lists_addForeignKeys
    {table : Value}
    {owner : String × String}
    (typed : ∀ row ∈ rows, row.isTyped .foreignKey = true)
    (named : dialect.objectName options table = .ok (dialect.tableText options owner.1 owner.2)) :
    Attempt.Lists (dialect.Adds options) (Value.namesAddedTo owner rows)
      (dialect.statements.addForeignKeys options table (.list rows)) := by
  have names : Value.namesAddedTo owner rows =
      (rowGroups rows).map fun group => (owner.1, owner.2, groupName group) := by
    rw [Value.namesAddedTo, ← Value.map_groupName_rowGroups, List.map_map]
    rfl
  rw [names, dialect.addForeignKeys_eq typed named]
  exact Attempt.lists_groupScripts fun group member =>
    dialect.adds_addForeignKey options (Value.headD_isTyped typed member) named

end Dialect

/-! ## Foreign keys of several tables -/

namespace Scripter

variable {scripter : Scripter} {rows : List Value}

private theorem owner_ok
    {row : Value}
    (typed : row.isTyped .foreignKey = true) :
    owner row = .ok (Value.nameKey row.ownerName) := by
  rw [owner, Value.part_text_of_isTyped typed ObjectClass.foreignKey_declares_table_schema,
    Attempt.ok_bind, Value.part_text_of_isTyped typed ObjectClass.foreignKey_declares_table_name]
  rfl

/-- Rows are put under the tables that they belong to without failure. -/
theorem ownerGroups_ok
    (typed : ∀ row ∈ rows, row.isTyped .foreignKey = true) :
    ownerGroups rows =
      .ok ((Value.ownerNames rows).map fun owner =>
        (Value.nameKey owner, Value.rowsOwnedBy rows owner)) := by
  have owned :
      (rows.mapM fun row => do return (← (← owner row).asKey, row)) =
        .ok (rows.map fun row => (Value.nameKey row.ownerName, row)) := by
    apply Attempt.mapM_ok
    intro row member
    rw [owner_ok (typed row member)]
    rfl
  have keys :
      Keyed.firstByKey id ((rows.map fun row => (Value.nameKey row.ownerName, row)).map (·.1)) =
        (Keyed.firstByKey id (rows.map Value.ownerName)).map Value.nameKey := by
    rw [← Value.firstByKey_nameKey, List.map_map, List.map_map]
    rfl
  have groups : ∀ owner : String × String,
      ((rows.map fun row => (Value.nameKey row.ownerName, row)).filter
          fun entry => entry.1 == Value.nameKey owner).map (·.2) =
        Value.rowsOwnedBy rows owner := by
    intro owner
    rw [List.filter_map, List.map_map]
    refine (List.map_id _).trans (List.filter_congr fun row _ => ?_)
    exact Value.nameKey_beq row.ownerName owner
  rw [ownerGroups, owned, Attempt.ok_bind]
  dsimp only
  rw [keys, List.map_map]
  refine (Value.sortedBy_ok Prod.fst (fun _ _ => rfl) ?_).trans ?_
  · intro left leftMember right rightMember
    rcases List.mem_map.mp leftMember with ⟨leftOwner, _, rfl⟩
    rcases List.mem_map.mp rightMember with ⟨rightOwner, _, rfl⟩
    exact Value.isComparable_texts ..
  · rw [Value.sortedOn_map]
    exact congrArg Except.ok (List.map_congr_left fun owner _ =>
      congrArg (Prod.mk (Value.nameKey owner)) (groups owner))

/-- Foreign keys are added to the tables they name by one statement each. -/
theorem lists_addForeignKeys
    (typed : ∀ row ∈ rows, row.isTyped .foreignKey = true) :
    Attempt.Lists (scripter.dialect.Adds scripter.options) (Value.namesAdded rows)
      (scripter.addForeignKeys (.list rows)) := by
  rw [addForeignKeys, Value.items, Attempt.ok_bind, ownerGroups_ok typed, Attempt.ok_bind,
    List.mapM_map]
  apply Attempt.lists_join
  intro owner _
  refine scripter.dialect.lists_addForeignKeys scripter.options
    (fun row member => typed row (List.mem_filter.mp member).1) ?_
  exact scripter.dialect.qualifiedName_text scripter.options owner.1 owner.2

/-- The script that adds foreign keys is not empty. -/
theorem speaks_addForeignKeys
    (typed : ∀ row ∈ rows, row.isTyped .foreignKey = true)
    (notEmpty : rows ≠ []) :
    Attempt.Speaks (scripter.addForeignKeys (.list rows)) := by
  rintro _ scripted rfl
  rcases lists_addForeignKeys typed _ scripted with ⟨texts, stated, joined⟩
  rcases List.exists_mem_of_ne_nil rows notEmpty with ⟨row, member⟩
  have named : row.foreignKeyName ∈ Value.namesAdded rows :=
    Value.mem_namesAdded_iff.mpr ⟨row, member, rfl⟩
  generalize Value.namesAdded rows = names at stated named
  cases stated with
  | nil => cases named
  | cons adds others =>
      rw [String.join_cons] at joined
      exact Dialect.ne_empty_of_adds adds (String.append_eq_empty_iff.mp joined.symm).1

end Scripter

/-! ## Actions -/

namespace MigrationAction

variable {scripter : Scripter} {rows : List Value} {table : Value}

/-- The script of an action has one statement for each foreign key that it drops or adds. -/
structure StatesForeignKeys
    (action : MigrationAction)
    (scripter : Scripter) : Prop where
  drops : action.drops ≠ [] →
    Attempt.Lists (fun key text => text = scripter.dialect.dropStatement scripter.options key)
      action.drops (action.script scripter).result
  adds : action.adds ≠ [] →
    Attempt.Lists (scripter.dialect.Adds scripter.options) action.adds
      (action.script scripter).result

theorem statesForeignKeys_dropForeignKeys
    (typed : ∀ row ∈ rows, row.isTyped .foreignKey = true) :
    (dropForeignKeys rows).StatesForeignKeys scripter where
  drops _ := scripter.dialect.lists_dropForeignKeys scripter.options typed
  adds some := absurd rfl some

theorem statesForeignKeys_addForeignKeys
    (typed : ∀ row ∈ rows, row.isTyped .foreignKey = true) :
    (addForeignKeys rows).StatesForeignKeys scripter where
  drops some := absurd rfl some
  adds _ := Scripter.lists_addForeignKeys typed

theorem statesForeignKeys_addTableForeignKeys
    (typed : table.isTyped .table = true) :
    (addTableForeignKeys table).StatesForeignKeys scripter where
  drops some := absurd rfl some
  adds _ := by
    have schemaRead := Value.part_text_of_isTyped typed ObjectClass.table_declares_schema
    have nameRead := Value.part_text_of_isTyped typed ObjectClass.table_declares_name
    have rowsRead := Value.part_rows_of_isTyped typed ObjectClass.table_declares_foreign_keys
    have scripted : ((addTableForeignKeys table).script scripter).result =
        scripter.dialect.statements.addForeignKeys scripter.options table
          (.list (table.rows "foreign_keys")) := by
      simp only [script, scriptedTable, Scripter.guardedObject, Scripting.result_bind,
        Scripting.result_liftM, schemaRead, nameRead, Attempt.ok_bind, Scripting.result_guarded,
        Scripter.tableForeignKeys, rowsRead]
      rfl
    rw [scripted]
    exact scripter.dialect.lists_addForeignKeys scripter.options
      (fun row member => Value.foreignKey_isTyped typed member) (Dialect.objectName_ok typed)

end MigrationAction

end SchemaDelta
