import SchemaDelta.Proofs.Ddl.Alteration
import SchemaDelta.Proofs.Ddl.QualifiedName
import SchemaDelta.Proofs.Migration.Contents
import SchemaDelta.Proofs.Migration.KeyDrop

/-!
# The tables that drops alter

A key is created under the name of the table that is scripted, but it is dropped from the table that
the first of its rows names.  An alteration puts the foreign keys of its target on the target before
it drops them.  The rows of primary keys and check constraints stay as they are, and so do those of
foreign keys that are dropped with a table or because they reference it.
-/

namespace SchemaDelta

open Attempt (bind_eq_ok_iff)
open Value (groupNames leadingRow)

/-! ## Names in front of blanks -/

namespace Dialect

variable {dialect : Dialect} {options : Options} {schema name otherSchema otherName : String}

/-- A name of a table is told by the letters up to the blank behind it. -/
theorem eq_of_tableText_append_eq
    {rest otherRest : String}
    (same : dialect.tableText options schema name ++ (" " ++ rest) =
      dialect.tableText options otherSchema otherName ++ (" " ++ otherRest)) :
    (options.useSchemaName = true → schema = otherSchema) ∧ name = otherName := by
  have blank := endsQualified_blank dialect
  cases qualifies : options.useSchemaName with
  | true =>
      have read := readQualified_tableText qualifies schema name (blank rest)
      have otherRead := readQualified_tableText qualifies otherSchema otherName (blank otherRest)
      rw [same, otherRead, Option.some.injEq, Prod.mk.injEq, Prod.mk.injEq] at read
      rcases read with ⟨⟨sameSchema, sameName⟩, _⟩
      exact ⟨fun _ => (String.toList_inj.mp sameSchema).symm, (String.toList_inj.mp sameName).symm⟩
  | false =>
      have alone : ∀ schema name : String,
          dialect.tableText options schema name = dialect.quote name := by
        intro schema name
        rw [tableText, qualifies, Bool.false_and, if_neg Bool.false_ne_true]
      rw [alone, alone] at same
      have read := readQuoted_quote (blank rest).quote name
      have otherRead := readQuoted_quote (blank otherRest).quote otherName
      rw [← String.toList_append, same, String.toList_append, otherRead, Option.some.injEq,
        Prod.mk.injEq] at read
      exact ⟨fun impossible => absurd impossible Bool.false_ne_true,
        (String.toList_inj.mp read.1).symm⟩

theorem tableText_eq_of_append_eq
    {rest otherRest : String}
    (same : dialect.tableText options schema name ++ (" " ++ rest) =
      dialect.tableText options otherSchema otherName ++ (" " ++ otherRest)) :
    dialect.tableText options schema name = dialect.tableText options otherSchema otherName := by
  rcases eq_of_tableText_append_eq same with ⟨sameSchema, rfl⟩
  cases qualifies : options.useSchemaName with
  | true => rw [sameSchema qualifies]
  | false => simp only [tableText, qualifies, Bool.false_and, Bool.false_eq_true, if_false]

end Dialect

/-! ## Rows that name their table -/

namespace KeySort

/-- The rows of a table. -/
def rowsOf
    (table : Value) : KeySort → List Value
  | primaryKey => table.primaryRows
  | check => table.rows "constraints"
  | foreignKey => table.rows "foreign_keys"

/-- The rows that changes drop. -/
def droppedBy
    (changes : TableChanges) : KeySort → List Value
  | primaryKey => changes.dropPrimaryKeys
  | check => changes.dropChecks
  | foreignKey => changes.dropForeignKeys

end KeySort

namespace Value

variable {table row : Value}

/-- A row of a table names the table, or none. -/
def NamesNoOther
    (table row : Value) : Prop :=
  row.ownerName = table.fullName ∨ row.ownerName = ("", "")

/-- The rows of the keys of a table name the table, or none. -/
def OwnsKeys
    (table : Value) : Prop :=
  ∀ sort : KeySort, ∀ row ∈ sort.rowsOf table, table.NamesNoOther row

/-- A row of a foreign key of a table, as it is or put on the table. -/
def HasForeignKeyRow
    (table row : Value) : Prop :=
  ∃ own ∈ table.rows "foreign_keys", row = own ∨ row = table.onTable own

/-- All rows with the name of a row are rows of one table. -/
def TellsTable
    (rows : List Value)
    (row : Value) : Prop :=
  ∀ other ∈ rows, other.letters "name" = row.letters "name" → other.ownerName = row.ownerName

/-- A row that names no other table names the table that it is put on. -/
theorem ownerName_onTable
    (typed : row.isTyped .foreignKey = true)
    (names : table.NamesNoOther row) :
    (table.onTable row).ownerName = table.fullName := by
  unfold onTable
  split
  · generalize partsEq : [("table_schema", table.get "schema"), ("table_name", table.get "name")] =
      parts
    have schema : (row.withParts parts).letters "table_schema" = table.letters "schema" := by
      rw [letters, get_withParts typed ObjectClass.foreignKey_declares_table_schema, ← partsEq]
      rfl
    have name : (row.withParts parts).letters "table_name" = table.letters "name" := by
      rw [letters, get_withParts typed ObjectClass.foreignKey_declares_table_name, ← partsEq]
      rfl
    rw [ownerName, schema, name, fullName]
  · rename_i named
    rcases names with own | none
    · exact own
    · have empty : row.letters "table_name" = "" := congrArg Prod.snd none
      rw [empty] at named
      exact absurd rfl named

theorem HasForeignKeyRow.namesNoOther
    (has : table.HasForeignKeyRow row)
    (typed : table.isTyped .table = true)
    (owns : table.OwnsKeys) :
    table.NamesNoOther row := by
  rcases has with ⟨own, member, same | same⟩
  · exact same ▸ owns .foreignKey own member
  · rw [same]
    exact Or.inl (ownerName_onTable (foreignKey_isTyped typed member)
      (owns .foreignKey own member))

end Value

/-! ## Statements that alter a table -/

namespace Scripter

variable {scripter : Scripter} {source table row : Value} {sort : KeySort} {rows : List Value}
  {name text : String}

/-- A statement alters a table under the name under which it is created and gets its keys. -/
def Alters
    (scripter : Scripter)
    (table : Value)
    (statement : String) : Prop :=
  ∃ name rest, scripter.objectName table = .ok name ∧
    statement = "ALTER TABLE " ++ name ++ (" " ++ rest)

/-- The statement that drops the key of some rows with a name. -/
def namedDrop
    (scripter : Scripter)
    (sort : KeySort)
    (rows : List Value)
    (name : String) : String :=
  scripter.dialect.namedDrop scripter.options sort rows name

/-- The statements that drop the keys of some rows, one for each name. -/
def dropText
    (scripter : Scripter)
    (sort : KeySort)
    (rows : List Value) : String :=
  String.join ((groupNames rows).map (scripter.namedDrop sort rows))

/-- A drop alters a table exactly when the first of the rows names it by the same text. -/
private theorem alters_namedDrop_iff_tableText
    (typed : table.isTyped .table = true) :
    scripter.Alters table (scripter.namedDrop sort rows name) ↔
      scripter.dialect.tableText scripter.options (leadingRow rows name).ownerName.1
          (leadingRow rows name).ownerName.2 =
        scripter.dialect.tableText scripter.options (table.letters "schema")
          (table.letters "name") := by
  have named : scripter.objectName table = .ok (scripter.dialect.tableText scripter.options
      (table.letters "schema") (table.letters "name")) := Dialect.objectName_ok typed
  have words : ∃ rest, scripter.dialect.dropWords sort = " " ++ rest := by
    refine ⟨String.ofList ((scripter.dialect.dropWords sort).toList.drop 1), ?_⟩
    cases scripter.dialect <;> cases sort <;> decide
  rcases words with ⟨words, isWords⟩
  have split : scripter.namedDrop sort rows name = "ALTER TABLE " ++
      (scripter.dialect.tableText scripter.options (leadingRow rows name).ownerName.1
          (leadingRow rows name).ownerName.2 ++
        (" " ++ (words ++ (scripter.dialect.droppedName sort name ++
          (";\n" ++ scripter.dialect.batchEnd))))) := by
    simp only [namedDrop, Dialect.namedDrop, Dialect.keyDrop, isWords, String.append_assoc]
  rw [split]
  constructor
  · rintro ⟨given, rest, givenOk, same⟩
    rw [named, Except.ok.injEq] at givenOk
    rw [← givenOk, String.append_assoc, String.append_right_inj] at same
    exact Dialect.tableText_eq_of_append_eq same
  · intro same
    exact ⟨_, _, named, by rw [same, String.append_assoc]⟩

/--
If the first of the rows with a name names no other table than one that has a name, the drop alters
the table exactly when the row names it.
-/
theorem alters_namedDrop_iff
    (typed : table.isTyped .table = true)
    (named : table.letters "name" ≠ "")
    (names : table.NamesNoOther (leadingRow rows name)) :
    scripter.Alters table (scripter.namedDrop sort rows name) ↔
      (leadingRow rows name).ownerName = table.fullName := by
  rw [alters_namedDrop_iff_tableText typed]
  rcases names with own | none
  · rw [own]
    exact iff_of_true rfl rfl
  · rw [none]
    have differs : ("", "") ≠ table.fullName := fun same => named (congrArg Prod.snd same).symm
    refine iff_of_false (fun same => ?_) differs
    have written := congrArg (fun name => name ++ (" " ++ "")) same
    exact named (Dialect.eq_of_tableText_append_eq written).2.symm

/-- The foreign keys of a table among rows are dropped from it exactly if their rows name it. -/
def DropsAsNamed
    (scripter : Scripter)
    (table : Value)
    (rows : List Value) : Prop :=
  ∀ row ∈ rows, table.HasForeignKeyRow row → Value.TellsTable rows row →
    (scripter.Alters table (scripter.namedDrop .foreignKey rows (row.letters "name")) ↔
      row.ownerName = table.fullName)

theorem dropsAsNamed
    (typed : table.isTyped .table = true)
    (named : table.letters "name" ≠ "")
    (owns : table.OwnsKeys)
    (rows : List Value) :
    scripter.DropsAsNamed table rows := by
  intro row member has tells
  rcases Value.mem_leadingRow member with ⟨leads, sameName⟩
  have sameOwner : (leadingRow rows (row.letters "name")).ownerName = row.ownerName :=
    tells _ leads sameName
  have names := has.namesNoOther typed owns
  rw [Value.NamesNoOther, ← sameOwner] at names
  rw [alters_namedDrop_iff typed named names, sameOwner]

/-! ## Alterations -/

theorem alterSteps_append_ok
    {steps others : List AlterStep}
    (scripted : scripter.alterSteps table (steps ++ others) = .ok text) :
    ∃ first second, scripter.alterSteps table steps = .ok first ∧
      scripter.alterSteps table others = .ok second ∧ text = first ++ second := by
  rcases bind_eq_ok_iff.mp scripted with ⟨texts, textsOk, equal⟩
  cases equal
  rw [List.mapM_append] at textsOk
  rcases bind_eq_ok_iff.mp textsOk with ⟨first, firstOk, restRun⟩
  rcases bind_eq_ok_iff.mp restRun with ⟨second, secondOk, equal⟩
  cases equal
  refine ⟨String.join first, String.join second, ?_, ?_, String.join_append⟩
  · rw [alterSteps, firstOk]
    rfl
  · rw [alterSteps, secondOk]
    rfl

/-- A step that drops keys says how each of them is dropped, and there is none without rows. -/
theorem alterSteps_onRows
    {make : List Value → AlterStep}
    (drops : scripter.alterStep table (make rows) =
      scripter.dialect.dropKeys scripter.options rows sort)
    (rowsTyped : ∀ row ∈ rows, row.isTyped sort.rowClass = true) :
    scripter.alterSteps table (AlterStep.onRows make rows) =
      .ok (scripter.dropText sort rows) := by
  cases rows with
  | nil => rfl
  | cons row rows =>
      rw [Dialect.dropKeys_ok _ _ _ rowsTyped] at drops
      have single : scripter.alterSteps table (AlterStep.onRows make (row :: rows)) = (do
          return String.join [← scripter.alterStep table (make (row :: rows))]) := by
        simp [AlterStep.onRows, alterSteps]
      rw [single, drops]
      have joined : String.join [scripter.dropText sort (row :: rows)] =
          scripter.dropText sort (row :: rows) := by
        rw [String.join_cons, String.join_nil, String.append_empty]
      exact congrArg Except.ok joined

/--
The script of an alteration, with the drops of keys among the texts of the other steps: the change
of the parent, the drops of indexes, the changes of columns and the additions.
-/
def SplitsAtDrops
    (scripter : Scripter)
    (source table : Value)
    (changes : TableChanges)
    (includeForeignKeys : Bool)
    (text : String) : Prop :=
  ∃ inheritance parentText indexText changeText,
    inheritanceSteps source table = .ok inheritance ∧
    scripter.alterSteps table inheritance = .ok parentText ∧
    scripter.alterSteps table (AlterStep.onRows .dropIndexes changes.dropIndexes) =
      .ok indexText ∧
    scripter.alterSteps table (changes.columnSteps ++ changes.keyAdditions includeForeignKeys) =
      .ok changeText ∧
    text = parentText ++
      ((if includeForeignKeys then scripter.dropText .foreignKey changes.dropForeignKeys else "") ++
        indexText ++ scripter.dropText .check changes.dropChecks ++
        scripter.dropText .primaryKey changes.dropPrimaryKeys) ++ changeText

private theorem splitsAtDrops
    {changes : TableChanges}
    {includeForeignKeys : Bool}
    (typed : table.isTyped .table = true)
    (changesOk : scripter.tableChanges source table = .ok changes)
    (droppedTyped : ∀ sort : KeySort, ∀ row ∈ sort.droppedBy changes,
      row.isTyped sort.rowClass = true)
    (altered : scripter.alterTable source table includeForeignKeys = .ok text) :
    scripter.SplitsAtDrops source table changes includeForeignKeys text := by
  have split := altered
  rw [alterTable, changesOk, Attempt.ok_bind] at split
  rcases bind_eq_ok_iff.mp split with ⟨inheritance, inheritanceOk, _⟩
  rw [scripter.alterTable_eq_alterSteps typed changesOk inheritanceOk] at altered
  rcases alterSteps_append_ok altered with ⟨front, changeText, frontOk, changeOk, rfl⟩
  rcases alterSteps_append_ok frontOk with ⟨parentText, keyText, parentOk, keysOk, rfl⟩
  rw [TableChanges.keyDrops] at keysOk
  rcases alterSteps_append_ok keysOk with ⟨others, primaryText, othersOk, primaryOk, rfl⟩
  rcases alterSteps_append_ok othersOk with ⟨first, checkText, firstOk, checkOk, rfl⟩
  rcases alterSteps_append_ok firstOk with ⟨foreignText, indexText, foreignOk, indexOk, rfl⟩
  have primaryIs : scripter.dropText .primaryKey changes.dropPrimaryKeys = primaryText :=
    Except.ok.inj ((alterSteps_onRows rfl (droppedTyped .primaryKey)).symm.trans primaryOk)
  have checkIs : scripter.dropText .check changes.dropChecks = checkText :=
    Except.ok.inj ((alterSteps_onRows rfl (droppedTyped .check)).symm.trans checkOk)
  have foreignIs : (if includeForeignKeys then
      scripter.dropText .foreignKey changes.dropForeignKeys else "") = foreignText := by
    cases includeForeignKeys with
    | true =>
        exact Except.ok.inj
          ((alterSteps_onRows rfl (droppedTyped .foreignKey)).symm.trans foreignOk)
    | false => exact Except.ok.inj foreignOk
  refine ⟨inheritance, parentText, indexText, changeText, inheritanceOk, parentOk, indexOk,
    changeOk, ?_⟩
  rw [primaryIs, checkIs, foreignIs]

end Scripter

namespace TableChanges

variable (dialect : Dialect) (source : Value) {table : Value}

/-- The primary keys and check constraints that planned changes drop are those of the table. -/
theorem mem_rowsOf_of_mem_droppedBy
    {byPosition scripted : List Value}
    {sort : KeySort}
    (notForeign : sort ≠ .foreignKey)
    {row : Value}
    (member : row ∈ sort.droppedBy (planned dialect source table byPosition scripted)) :
    row ∈ sort.rowsOf table := by
  cases sort with
  | primaryKey => exact Dialect.mem_of_mem_droppedGroups member
  | check => exact Dialect.mem_of_mem_droppedGroups member
  | foreignKey => exact absurd rfl notForeign

theorem droppedBy_isTyped
    (typed : table.isTyped .table = true)
    (byPosition scripted : List Value)
    (sort : KeySort) :
    ∀ row ∈ sort.droppedBy (planned dialect source table byPosition scripted),
      row.isTyped sort.rowClass = true := by
  intro row member
  cases sort with
  | primaryKey => exact Value.primaryRow_isTyped typed (Dialect.mem_of_mem_droppedGroups member)
  | check => exact Value.constraint_isTyped typed (Dialect.mem_of_mem_droppedGroups member)
  | foreignKey =>
      rcases List.mem_append.mp ((Keyed.firstByKey_sublist _ _).subset member) with own | inbound
      · rcases List.mem_map.mp own with ⟨held, heldMember, rfl⟩
        exact Value.isTyped_onTable
          (Value.foreignKey_isTyped typed (Dialect.mem_of_mem_droppedGroups heldMember)) typed
      · exact inboundRows_isTyped dialect typed row inbound

end TableChanges

namespace Scripter

variable {scripter : Scripter} {source table : Value} {text : String}

/--
The drops of keys in the script of an alteration.  A primary key or a check constraint is dropped
from the target exactly if the first row of its name names the target; a foreign key that the
alteration changes itself is dropped from the target, whatever its rows name.
-/
structure AltersTarget
    (scripter : Scripter)
    (source target : Value)
    (changes : TableChanges)
    (includeForeignKeys : Bool)
    (text : String) : Prop where
  splits : scripter.SplitsAtDrops source target changes includeForeignKeys text
  keys : ∀ sort : KeySort, sort ≠ .foreignKey → ∀ row ∈ sort.droppedBy changes,
    (scripter.Alters target
        (scripter.namedDrop sort (sort.droppedBy changes) (row.letters "name")) ↔
      (leadingRow (sort.droppedBy changes) (row.letters "name")).ownerName = target.fullName)
  changedForeignKeys : ∀ own ∈ target.rows "foreign_keys",
    target.onTable own ∈ changes.dropForeignKeys →
    Value.TellsTable changes.dropForeignKeys (target.onTable own) →
      scripter.Alters target (scripter.namedDrop .foreignKey changes.dropForeignKeys
        ((target.onTable own).letters "name"))
  foreignKeys : scripter.DropsAsNamed target changes.dropForeignKeys

private theorem exists_altersTarget
    {includeForeignKeys : Bool}
    (typed : table.isTyped .table = true)
    (named : table.letters "name" ≠ "")
    (owns : table.OwnsKeys)
    (sourceTyped : source.isTyped .table = true)
    (scripted : (scripter.scriptTable includeForeignKeys source table).result = .ok text) :
    ∃ changes, scripter.tableChanges source table = .ok changes ∧
      scripter.AltersTarget source table changes includeForeignKeys text := by
  rcases TableChanges.between_ok scripter.dialect scripter.options sourceTyped typed with
    ⟨byPosition, columns, _, _, changesOk⟩
  rw [scripter.result_scriptTable sourceTyped typed] at scripted
  have droppedTyped :=
    TableChanges.droppedBy_isTyped scripter.dialect source typed byPosition columns
  refine ⟨_, changesOk, ⟨splitsAtDrops typed changesOk droppedTyped scripted, ?_, ?_,
    dropsAsNamed typed named owns _⟩⟩
  · intro sort notForeign row member
    apply alters_namedDrop_iff typed named
    exact owns sort _ (TableChanges.mem_rowsOf_of_mem_droppedBy scripter.dialect source notForeign
      (Value.mem_leadingRow member).1)
  · intro own ownMember dropped tells
    have ownTyped := Value.foreignKey_isTyped typed ownMember
    exact (dropsAsNamed typed named owns _ _ dropped ⟨own, ownMember, Or.inr rfl⟩ tells).mpr
      (Value.ownerName_onTable ownTyped (owns .foreignKey own ownMember))

/-- Foreign keys are dropped by the text of their drops. -/
theorem dropForeignKeys_ok
    {rows : List Value}
    (rowsTyped : ∀ row ∈ rows, row.isTyped .foreignKey = true) :
    scripter.dropForeignKeys (.list rows) = .ok (scripter.dropText .foreignKey rows) :=
  scripter.dialect.dropKeys_ok scripter.options .foreignKey rowsTyped

/-- A table is dropped after the foreign keys that reference it. -/
private theorem exists_dropTable
    {includeForeignKeys : Bool}
    (typed : table.isTyped .table = true)
    (scripted : (scripter.scriptTable includeForeignKeys .null table).result = .ok text) :
    ∃ dropping, scripter.statements.dropTable scripter.options table = .ok dropping ∧
      text = scripter.dropText .foreignKey (table.rows "referencing_foreign_keys") ++ dropping := by
  have dropped : scripter.dropTable table true = .ok text := by
    rw [scriptTable, scriptPair, Value.isNull_of_isTyped typed] at scripted
    exact scripted
  rw [dropTable, Value.required_ok typed, Attempt.ok_bind, if_pos rfl,
    Value.part_rows_of_isTyped typed ObjectClass.table_declares_referencing_foreign_keys,
    Attempt.ok_bind] at dropped
  have rowsTyped : ∀ row ∈ table.rows "referencing_foreign_keys",
      row.isTyped .foreignKey = true := fun _ => Value.referencingForeignKey_isTyped typed
  generalize table.rows "referencing_foreign_keys" = rows at dropped rowsTyped ⊢
  cases rows with
  | nil =>
      have none : ¬(Value.list []).isTruthy = true := Bool.false_ne_true
      rw [if_neg none, Attempt.pure_eq_ok, Attempt.ok_bind] at dropped
      rcases bind_eq_ok_iff.mp dropped with ⟨dropping, droppingOk, equal⟩
      cases equal
      exact ⟨dropping, droppingOk, rfl⟩
  | cons row rows =>
      have some : (Value.list (row :: rows)).isTruthy = true := rfl
      rw [if_pos some, dropForeignKeys_ok rowsTyped, Attempt.ok_bind] at dropped
      rcases bind_eq_ok_iff.mp dropped with ⟨dropping, droppingOk, equal⟩
      cases equal
      exact ⟨dropping, droppingOk, rfl⟩

private theorem mem_of_mem_dropTable
    {migration : Migration}
    {runs : Phase → Bool}
    {contents : PlanContents}
    (listed : .dropTable table ∈
      (Phase.all.filter runs).flatMap (migration.actionsIn contents)) :
    runs .drops = true ∧ table ∈ contents.droppedTables := by
  have drops : ∀ rows, .dropTable table ∉ Migration.actionOn .dropForeignKeys rows :=
    fun rows => Migration.not_mem_actionOn fun _ => nofun
  have adds : ∀ rows, .dropTable table ∉ Migration.actionOn .addForeignKeys rows :=
    fun rows => Migration.not_mem_actionOn fun _ => nofun
  rcases Migration.exists_phase_of_mem listed with ⟨phase, included, inPhase⟩
  cases phase with
  | drops => exact ⟨included, by simpa [Migration.actionsIn, drops] using inPhase⟩
  | _ => simp [Migration.actionsIn, drops, adds] at inPhase

/-- A migration drops the foreign keys of a table under the identities that their rows have. -/
structure PlansDrops
    (migration : Migration)
    (table : Value)
    (actions : List MigrationAction) : Prop where
  /-- The foreign keys of the table are dropped from it exactly if their rows name it. -/
  foreignKeys : ∀ rows, .dropForeignKeys rows ∈ actions →
    ((MigrationAction.dropForeignKeys rows).script migration.scripter).result =
        .ok (migration.scripter.dropText .foreignKey rows) ∧
      migration.scripter.DropsAsNamed table rows
  /-- If the table is dropped, each of its foreign keys is. -/
  all : .dropTable table ∈ actions → ∀ row ∈ table.rows "foreign_keys",
    ∃ rows, .dropForeignKeys rows ∈ actions ∧ ∃ other ∈ rows,
      migration.scripter.dialect.identityOf other = migration.scripter.dialect.identityOf row

private theorem plansDrops
    {migration : Migration}
    {runs : Phase → Bool}
    {contents : PlanContents}
    (typed : table.isTyped .table = true)
    (named : table.letters "name" ≠ "")
    (owns : table.OwnsKeys)
    (migrationTyped : migration.IsTyped)
    (collects : migration.CollectsIn runs contents) :
    PlansDrops migration table
      ((Phase.all.filter runs).flatMap (migration.actionsIn contents)) where
  foreignKeys rows listed := ⟨dropForeignKeys_ok
    (migrationTyped.isTyped_of_mem_dropForeignKeys collects listed),
      dropsAsNamed typed named owns rows⟩
  all listed row member := by
    rcases mem_of_mem_dropTable listed with ⟨included, isDropped⟩
    have linked : row ∈ contents.droppedTables.flatMap Value.linkedRows :=
      List.mem_flatMap.mpr ⟨table, isDropped, List.mem_append_left _ member⟩
    rcases Keyed.exists_mem_firstByKey migration.scripter.dialect.identityOf linked with
      ⟨other, otherMember, same⟩
    have kept : other ∈ contents.droppedRows := by
      rw [collects.droppedRows]
      exact otherMember
    refine ⟨contents.droppedRows, Migration.mem_flatMap_actionsIn included ?_, other, kept, same⟩
    simp [Migration.actionsIn, Migration.mem_actionOn .dropForeignKeys kept]

/--
Where rows of keys name the table that they are of, or none, the drops of these keys alter the table
as far as the rows name it.  In an alteration the foreign keys that change alter the table in any
case; primary keys and check constraints do so exactly if the first row of their name names it.
Foreign keys that are dropped with a table, or because they reference it, alter it exactly if their
rows name it, as long as no foreign key of another table that is dropped with them has their name.
-/
theorem drops_alter_table_iff
    (scripter : Scripter)
    (typed : table.isTyped .table = true)
    (named : table.letters "name" ≠ "")
    (owns : table.OwnsKeys) :
    (∀ source includeForeignKeys text, source.isTyped .table = true →
      (scripter.scriptTable includeForeignKeys source table).result = .ok text →
        ∃ changes, scripter.tableChanges source table = .ok changes ∧
          scripter.AltersTarget source table changes includeForeignKeys text) ∧
    (∀ includeForeignKeys text,
      (scripter.scriptTable includeForeignKeys .null table).result = .ok text →
        ∃ dropping, scripter.statements.dropTable scripter.options table = .ok dropping ∧
          text = scripter.dropText .foreignKey (table.rows "referencing_foreign_keys") ++
            dropping ∧
          scripter.DropsAsNamed table (table.rows "referencing_foreign_keys")) ∧
    ∀ (generator : Generator) script, generator.migration.IsTyped →
      generator.generate.1.result = .ok script →
        ∃ plan dropped,
          generator.migration.planPhases generator.migration.phases [] = .ok (plan, dropped) ∧
          generator.migration.Writes plan script ∧
          PlansDrops generator.migration table plan.actions := by
  refine ⟨?altered, ?dropped, ?migrated⟩
  case altered =>
    intro source includeForeignKeys text sourceTyped scripted
    exact exists_altersTarget typed named owns sourceTyped scripted
  case dropped =>
    intro includeForeignKeys text scripted
    rcases exists_dropTable typed scripted with ⟨dropping, droppingOk, whole⟩
    exact ⟨dropping, droppingOk, whole, dropsAsNamed typed named owns _⟩
  case migrated =>
    intro generator script migrationTyped generated
    rcases Generator.exists_plan_of_generate generated with ⟨plan, dropped, planned, writes⟩
    rcases migrationTyped.exists_contentsIn planned with ⟨contents, collects, phases⟩
    refine ⟨plan, dropped, planned, writes, ?_⟩
    rw [Migration.actions_eq_of_phases phases]
    exact plansDrops typed named owns migrationTyped collects

/-! ## Keys of one table -/

/-- The row of a foreign key that names no table. -/
private def openForeignKey : Value :=
  .filled .postgreSqlForeignKey [
    ("name", .text "fk"), ("schema", .text "public"), ("column_name", .text "id"),
    ("ordinal_position", .int 1), ("referenced_table_schema", .text "public"),
    ("referenced_table_name", .text "o"), ("referenced_column_name", .text "id")]

/-- The row of a primary key that names no table. -/
private def openPrimaryKey : Value :=
  .filled .postgreSqlIndex [
    ("name", .text "pk"), ("schema", .text "public"), ("column_name", .text "id"),
    ("ordinal_position", .int 1), ("is_unique", .bool true), ("is_primary_key", .bool true)]

/-- A table with a column and with rows of indexes and foreign keys. -/
private def tableWith
    (indexes foreignKeys : List Value) : Value :=
  .plainTable "t" [.plainColumn "id" "integer" 1] indexes foreignKeys []

private theorem tableWith_isTyped
    {indexes foreignKeys : List Value}
    (indexesTyped : ∀ row ∈ indexes, row.isTyped .index = true)
    (foreignKeysTyped : ∀ row ∈ foreignKeys, row.isTyped .foreignKey = true) :
    (tableWith indexes foreignKeys).isTyped .table = true :=
  Value.isTyped_plainTable "t" (List.forall_mem_singleton.mpr (Value.isTyped_plainColumn ..))
    indexesTyped foreignKeysTyped (fun _ => List.not_mem_nil.elim)

/-- A table whose primary key names it and whose foreign key names no table. -/
private def keyedTable : Value :=
  tableWith [.plainIndex "t" "pk" "id" true] [openForeignKey]

/-- What names the table, and what is put on the table, is dropped from it. -/
theorem drops_alter_keyedTable :
    keyedTable.isTyped .table = true ∧ keyedTable.letters "name" ≠ "" ∧ keyedTable.OwnsKeys ∧
      ((Scripter.mk .postgreSql {}).scriptTable true (tableWith [] []) keyedTable).result =
        .ok ("ALTER TABLE \"public\".\"t\" DROP CONSTRAINT \"fk\";\n" ++
          "ALTER TABLE \"public\".\"t\" DROP CONSTRAINT \"pk\";\n") ∧
      (Scripter.mk .postgreSql {}).Alters keyedTable
        "ALTER TABLE \"public\".\"t\" DROP CONSTRAINT \"fk\";\n" ∧
      (Scripter.mk .postgreSql {}).Alters keyedTable
        "ALTER TABLE \"public\".\"t\" DROP CONSTRAINT \"pk\";\n" := by
  have typed : keyedTable.isTyped .table = true :=
    tableWith_isTyped (List.forall_mem_singleton.mpr (Value.isTyped_plainIndex ..))
      (List.forall_mem_singleton.mpr (Value.isTyped_filled rfl rfl))
  have bareTyped : (tableWith [] []).isTyped .table = true :=
    tableWith_isTyped (fun _ => List.not_mem_nil.elim) (fun _ => List.not_mem_nil.elim)
  have named : keyedTable.letters "name" ≠ "" := by decide
  have owns : keyedTable.OwnsKeys := by
    intro sort
    cases sort with
    | primaryKey => exact List.forall_mem_singleton.mpr (Or.inl rfl)
    | check => exact fun _ => List.not_mem_nil.elim
    | foreignKey => exact List.forall_mem_singleton.mpr (Or.inr rfl)
  have scripted : ((Scripter.mk .postgreSql {}).scriptTable true (tableWith [] [])
      keyedTable).result = .ok ("ALTER TABLE \"public\".\"t\" DROP CONSTRAINT \"fk\";\n" ++
        "ALTER TABLE \"public\".\"t\" DROP CONSTRAINT \"pk\";\n") := by
    rfl
  rcases (drops_alter_table_iff (Scripter.mk .postgreSql {}) typed named owns).1 _ true _ bareTyped
    scripted with ⟨changes, changesOk, alters⟩
  have dropped : changes.dropPrimaryKeys = [.plainIndex "t" "pk" "id" true] ∧
      changes.dropForeignKeys = [keyedTable.onTable openForeignKey] := by
    cases changesOk
    exact ⟨rfl, rfl⟩
  refine ⟨typed, named, owns, scripted, ?foreign, ?primary⟩
  case foreign =>
    have ofForeign := alters.changedForeignKeys openForeignKey List.mem_cons_self
    rw [dropped.2] at ofForeign
    exact ofForeign List.mem_cons_self (List.forall_mem_singleton.mpr fun _ => rfl)
  case primary =>
    have ofPrimary := alters.keys .primaryKey (by decide) (.plainIndex "t" "pk" "id" true)
    rw [KeySort.droppedBy, dropped.1] at ofPrimary
    exact (ofPrimary List.mem_cons_self).mpr rfl

/-- A primary key that names no table is dropped from a table without a name. -/
theorem drops_alter_no_table :
    (tableWith [openPrimaryKey] []).isTyped .table = true ∧
      (tableWith [openPrimaryKey] []).OwnsKeys ∧
      (Scripter.mk .postgreSql {}).objectName (tableWith [openPrimaryKey] []) =
        .ok "\"public\".\"t\"" ∧
      ((Scripter.mk .postgreSql {}).scriptTable true (tableWith [] [])
        (tableWith [openPrimaryKey] [])).result =
          .ok "ALTER TABLE \"\" DROP CONSTRAINT \"pk\";\n" ∧
      ¬(Scripter.mk .postgreSql {}).Alters (tableWith [openPrimaryKey] [])
        "ALTER TABLE \"\" DROP CONSTRAINT \"pk\";\n" := by
  have typed : (tableWith [openPrimaryKey] []).isTyped .table = true :=
    tableWith_isTyped (List.forall_mem_singleton.mpr (Value.isTyped_filled rfl rfl))
      (fun _ => List.not_mem_nil.elim)
  have owns : (tableWith [openPrimaryKey] []).OwnsKeys := by
    intro sort
    cases sort with
    | primaryKey => exact List.forall_mem_singleton.mpr (Or.inr rfl)
    | check => exact fun _ => List.not_mem_nil.elim
    | foreignKey => exact fun _ => List.not_mem_nil.elim
  refine ⟨typed, owns, rfl, rfl, ?_⟩
  have leads : (leadingRow [openPrimaryKey] "pk").ownerName = ("", "") := rfl
  have differs : ("", "") ≠ (tableWith [openPrimaryKey] []).fullName := by decide
  have alters_iff : (Scripter.mk .postgreSql {}).Alters (tableWith [openPrimaryKey] [])
      ((Scripter.mk .postgreSql {}).namedDrop .primaryKey [openPrimaryKey] "pk") ↔
        (leadingRow [openPrimaryKey] "pk").ownerName =
          (tableWith [openPrimaryKey] []).fullName :=
    alters_namedDrop_iff typed (by decide) (Or.inr leads)
  intro alters
  exact differs (leads.symm.trans (alters_iff.mp alters))

end Scripter

end SchemaDelta
