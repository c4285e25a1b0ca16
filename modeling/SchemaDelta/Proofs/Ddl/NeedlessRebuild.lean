import SchemaDelta.Proofs.Ddl.KeyRebuild

/-!
# Keys that are rebuilt for nothing

A column is redefined as soon as any of its fields differs, while its statement is empty if the
dialect sees no change.  So a key is rebuilt for the sake of nothing exactly where it has a row on a
redefined column and no row on a column with a statement, and tables that differ in nothing that a
dialect sees have an empty script exactly where no key has a row on a redefined column.
-/

namespace SchemaDelta

open Value (rowGroups)

/-! ## Tables that differ in the definitions of columns -/

namespace Dialect

/-- No key of a table has a row on a column; foreign keys count where they are altered. -/
structure LeavesKeys
    (dialect : Dialect)
    (includeForeignKeys : Bool)
    (table : Value)
    (key : String) : Prop where
  indexes : dialect.CoversNone [key] table.secondaryRows
  primaryKeys : dialect.CoversNone [key] table.primaryRows
  foreignKeys : includeForeignKeys = true → dialect.CoversNone [key] (table.rows "foreign_keys")

/--
Two tables differ in nothing but the definitions of their columns: they have one parent, their
groups agree, and every column has a counterpart.
-/
structure DiffersInColumns
    (dialect : Dialect)
    (source target : Value) : Prop where
  sameParent : Scripter.inheritanceSteps source target = .ok []
  indexes : dialect.GroupsAgree source.secondaryRows target.secondaryRows
  primaryKeys : dialect.GroupsAgree source.primaryRows target.primaryRows
  checks : dialect.GroupsAgree (source.rows "constraints") (target.rows "constraints")
  foreignKeys : dialect.GroupsAgree (source.rows "foreign_keys") (target.rows "foreign_keys")
  noneLost : dialect.unmatched source (target.rows "columns") = []
  noneAdded : dialect.unmatched target (source.rows "columns") = []

variable {dialect : Dialect} {rows others : List Value} {touched : List String}

/-- Between groups that agree no row is dropped exactly when none covers a touched column. -/
private theorem droppedRows_eq_nil_iff_of_agree
    (areRows : ∀ row ∈ rows, row.IsRow)
    (otherRows : ∀ row ∈ others, row.IsRow)
    (agree : dialect.GroupsAgree rows others) :
    (dialect.droppedGroups touched rows others).flatten = [] ↔
      dialect.CoversNone touched others :=
  TableChanges.flatten_eq_nil_iff.trans
    (droppedGroups_eq_nil_iff_of_agree areRows otherRows agree)

/-- Between groups that agree no row is added either when none covers a touched column. -/
private theorem addedRows_eq_nil_of_agree
    (areRows : ∀ row ∈ rows, row.IsRow)
    (otherRows : ∀ row ∈ others, row.IsRow)
    (agree : dialect.GroupsAgree rows others)
    (untouched : dialect.CoversNone touched others) :
    (dialect.addedGroups touched rows others).flatten = [] :=
  TableChanges.flatten_eq_nil_iff.mpr (addedGroups_eq_nil areRows otherRows agree untouched)

private theorem coversNone_iff_forall
    (rows : List Value) :
    dialect.CoversNone touched rows ↔ ∀ key ∈ touched, dialect.CoversNone [key] rows := by
  constructor
  · intro none key member entry entryMember row rowMember same
    obtain rfl := List.mem_singleton.mp same
    exact none entry entryMember row rowMember member
  · intro none entry entryMember row rowMember member
    exact none _ member entry entryMember row rowMember (List.mem_singleton.mpr rfl)

end Dialect

namespace TableChanges

variable {dialect : Dialect} {source target : Value} {byPosition scripted : List Value}
variable {includeForeignKeys : Bool}

private theorem constraints_areRows
    {table : Value}
    (typed : table.isTyped .table = true) :
    ∀ row ∈ table.rows "constraints", row.IsRow :=
  fun _ member => Value.isRow_of_constraint (Value.constraint_isTyped typed member)

private theorem foreignKeys_areRows
    {table : Value}
    (typed : table.isTyped .table = true) :
    ∀ row ∈ table.rows "foreign_keys", row.IsRow :=
  fun _ member => Value.isRow_of_foreignKey (Value.foreignKey_isTyped typed member)

/-- The touched columns of a table are left by its keys exactly when every one of them is. -/
private theorem leavesKeys_iff_forall
    {touched : List String} :
    dialect.CoversNone touched target.secondaryRows ∧
        dialect.CoversNone touched target.primaryRows ∧
        (includeForeignKeys = true → dialect.CoversNone touched (target.rows "foreign_keys")) ↔
      ∀ key ∈ touched, dialect.LeavesKeys includeForeignKeys target key := by
  rw [Dialect.coversNone_iff_forall target.secondaryRows,
    Dialect.coversNone_iff_forall target.primaryRows,
    Dialect.coversNone_iff_forall (target.rows "foreign_keys")]
  constructor
  · rintro ⟨indexes, primaryKeys, foreignKeys⟩ key member
    exact ⟨indexes key member, primaryKeys key member,
      fun included => foreignKeys included key member⟩
  · intro leaves
    exact ⟨fun key member => (leaves key member).indexes,
      fun key member => (leaves key member).primaryKeys,
      fun included key member => (leaves key member).foreignKeys included⟩

/-- Between tables that differ in columns no row is dropped exactly where keys leave the columns. -/
private theorem planned_drops_eq_nil_iff_of_differsInColumns
    (sourceTyped : source.isTyped .table = true)
    (targetTyped : target.isTyped .table = true)
    (differs : dialect.DiffersInColumns source target)
    (touched : List String)
    (isTouched : touchedNames dialect (dialect.unmatched source byPosition)
      (scripted.filterMap (dialect.alteredBy? target)) = touched) :
    ((includeForeignKeys = true →
        (planned dialect source target byPosition scripted).dropForeignKeys = []) ∧
      (planned dialect source target byPosition scripted).dropIndexes = [] ∧
      (planned dialect source target byPosition scripted).dropChecks = [] ∧
      (planned dialect source target byPosition scripted).dropPrimaryKeys = []) ↔
      ∀ key ∈ touched, dialect.LeavesKeys includeForeignKeys target key := by
  have indexes :
      (dialect.droppedGroups touched source.secondaryRows target.secondaryRows).flatten = [] ↔
        dialect.CoversNone touched target.secondaryRows :=
    Dialect.droppedRows_eq_nil_iff_of_agree (KeyKind.index.rows_isRow sourceTyped)
      (KeyKind.index.rows_isRow targetTyped) differs.indexes
  have primaryKeys :
      (dialect.droppedGroups touched source.primaryRows target.primaryRows).flatten = [] ↔
        dialect.CoversNone touched target.primaryRows :=
    Dialect.droppedRows_eq_nil_iff_of_agree (KeyKind.primaryKey.rows_isRow sourceTyped)
      (KeyKind.primaryKey.rows_isRow targetTyped) differs.primaryKeys
  have checks :
      (dialect.droppedGroups [] (source.rows "constraints") (target.rows "constraints")).flatten =
        [] :=
    (Dialect.droppedRows_eq_nil_iff_of_agree (constraints_areRows sourceTyped)
      (constraints_areRows targetTyped) differs.checks).mpr (coversNone_nil _)
  have foreignKeys :
      (dialect.droppedGroups touched (source.rows "foreign_keys")
          (target.rows "foreign_keys")).flatten = [] ↔
        dialect.CoversNone touched (target.rows "foreign_keys") :=
    Dialect.droppedRows_eq_nil_iff_of_agree (foreignKeys_areRows sourceTyped)
      (foreignKeys_areRows targetTyped) differs.foreignKeys
  rw [← leavesKeys_iff_forall, ← indexes, ← primaryKeys, ← foreignKeys]
  simp only [planned, isTouched, checks, uniqueRows_eq_nil_iff, List.append_eq_nil_iff,
    List.map_eq_nil_iff]
  constructor
  · rintro ⟨foreignKeysNone, indexesNone, _, primaryKeysNone⟩
    exact ⟨indexesNone, primaryKeysNone, fun included => (foreignKeysNone included).1⟩
  · rintro ⟨indexesNone, primaryKeysNone, foreignKeysNone⟩
    refine ⟨fun included => ⟨foreignKeysNone included, ?_⟩, indexesNone, trivial, primaryKeysNone⟩
    rw [indexesNone, primaryKeysNone]
    exact inboundRows_nil dialect

/-- Nothing is added then either. -/
private theorem planned_keyAdditions_eq_nil
    (sourceTyped : source.isTyped .table = true)
    (targetTyped : target.isTyped .table = true)
    (differs : dialect.DiffersInColumns source target)
    {touched : List String}
    (isTouched : touchedNames dialect (dialect.unmatched source byPosition)
      (scripted.filterMap (dialect.alteredBy? target)) = touched)
    (leaves : ∀ key ∈ touched, dialect.LeavesKeys includeForeignKeys target key) :
    (planned dialect source target byPosition scripted).keyAdditions includeForeignKeys = [] := by
  rcases leavesKeys_iff_forall.mpr leaves with ⟨indexesLeft, primaryKeysLeft, foreignKeysLeft⟩
  have indexes : (planned dialect source target byPosition scripted).addIndexes = [] := by
    rw [planned, isTouched]
    exact Dialect.addedRows_eq_nil_of_agree (KeyKind.index.rows_isRow sourceTyped)
      (KeyKind.index.rows_isRow targetTyped) differs.indexes indexesLeft
  have primaryKeys : (planned dialect source target byPosition scripted).addPrimaryKeys = [] := by
    rw [planned, isTouched]
    exact Dialect.addedRows_eq_nil_of_agree (KeyKind.primaryKey.rows_isRow sourceTyped)
      (KeyKind.primaryKey.rows_isRow targetTyped) differs.primaryKeys primaryKeysLeft
  have checks : (planned dialect source target byPosition scripted).addChecks = [] :=
    Dialect.addedRows_eq_nil_of_agree (constraints_areRows sourceTyped)
      (constraints_areRows targetTyped) differs.checks (coversNone_nil _)
  have foreignKeys : includeForeignKeys = true →
      (planned dialect source target byPosition scripted).addForeignKeys = [] := by
    intro included
    have own := Dialect.addedRows_eq_nil_of_agree (foreignKeys_areRows sourceTyped)
      (foreignKeys_areRows targetTyped) differs.foreignKeys (foreignKeysLeft included)
    have noneReturns : ∀ inbound, dialect.returningRows source inbound [] = [] := by
      simp [Dialect.returningRows, Dialect.referencingGroups, Dialect.columnKeys]
    simp only [planned, isTouched] at indexes primaryKeys ⊢
    rw [own, indexes, primaryKeys, List.append_nil, noneReturns]
    rfl
  rw [keyAdditions, indexes, primaryKeys, checks]
  cases includeForeignKeys with
  | true =>
      rw [foreignKeys rfl]
      rfl
  | false => rfl

end TableChanges

namespace Scripter

variable {scripter : Scripter} {source target : Value}

/-- The columns of tables that differ in columns are only altered. -/
private theorem forall_columnSteps_iff
    (sourceTyped : source.isTyped .table = true)
    (targetTyped : target.isTyped .table = true)
    {byPosition scripted : List Value}
    (scriptedPerm : scripted.Perm (source.rows "columns"))
    (noneLost : scripter.dialect.unmatched source byPosition = [])
    (noneAdded : scripter.dialect.unmatched target scripted = []) :
    (∀ step ∈ (TableChanges.planned scripter.dialect source target byPosition
        scripted).columnSteps, scripter.alterStep target step = .ok "") ↔
      ∀ key left right, scripter.dialect.RedefinesColumn source target key left right →
        scripter.dialect.SeesNoChange scripter.options left right := by
  rw [TableChanges.planned_columnSteps noneLost noneAdded, List.forall_mem_map]
  constructor
  · intro silent key left right redefines
    obtain rfl := redefines.named
    rcases redefines.typed sourceTyped targetTyped with ⟨leftTyped, rightTyped⟩
    have altered :=
      (TableChanges.mem_altered_iff_redefines sourceTyped targetTyped scriptedPerm).mpr redefines
    exact (Dialect.alterColumn_eq_empty_iff targetTyped leftTyped rightTyped).mp
      (silent (left, right) altered)
  · rintro unseen ⟨left, right⟩ altered
    have redefines :=
      (TableChanges.mem_altered_iff_redefines sourceTyped targetTyped scriptedPerm).mp altered
    rcases redefines.typed sourceTyped targetTyped with ⟨leftTyped, rightTyped⟩
    exact (Dialect.alterColumn_eq_empty_iff targetTyped leftTyped rightTyped).mpr
      (unseen _ left right redefines)

/--
An alteration between tables that differ in columns is empty exactly when the dialect sees no change
in any column that is redefined, and no key has a row on such a column.
-/
theorem alterTable_eq_empty_iff_of_differsInColumns
    (sourceTyped : source.isTyped .table = true)
    (targetTyped : target.isTyped .table = true)
    (differs : scripter.dialect.DiffersInColumns source target)
    (includeForeignKeys : Bool) :
    scripter.alterTable source target includeForeignKeys = .ok "" ↔
      ∀ key left right, scripter.dialect.RedefinesColumn source target key left right →
        scripter.dialect.SeesNoChange scripter.options left right ∧
          scripter.dialect.LeavesKeys includeForeignKeys target key := by
  rcases TableChanges.between_ok scripter.dialect scripter.options sourceTyped targetTyped with
    ⟨byPosition, scripted, byPositionPerm, scriptedPerm, changesOk⟩
  rcases TableChanges.planned_rows source target targetTyped byPosition scripted with
    ⟨indexRows, checkRows, primaryRows, foreignKeyRows⟩
  have noneLost : scripter.dialect.unmatched source byPosition = [] :=
    List.perm_nil.mp (differs.noneLost ▸ byPositionPerm.filter _)
  have noneAdded : scripter.dialect.unmatched target scripted = [] :=
    List.perm_nil.mp (differs.noneAdded ▸ scriptedPerm.filter _)
  rw [scripter.alterTable_eq_alterSteps targetTyped changesOk differs.sameParent,
    alterSteps_eq_empty_iff, List.nil_append, List.forall_mem_append, List.forall_mem_append,
    scripter.forall_keyDrops_iff_of_include includeForeignKeys indexRows checkRows primaryRows
      foreignKeyRows,
    TableChanges.planned_drops_eq_nil_iff_of_differsInColumns sourceTyped targetTyped differs _ rfl,
    forall_columnSteps_iff sourceTyped targetTyped scriptedPerm noneLost noneAdded]
  have touched_iff : ∀ key, key ∈ TableChanges.touchedNames scripter.dialect
      (scripter.dialect.unmatched source byPosition)
      (scripted.filterMap (scripter.dialect.alteredBy? target)) ↔
        ∃ left right, scripter.dialect.RedefinesColumn source target key left right :=
    fun _ => TableChanges.mem_touchedNames_iff_redefines sourceTyped targetTyped byPositionPerm
      scriptedPerm noneLost
  constructor
  · rintro ⟨leaves, unseen, _⟩ key left right redefines
    exact ⟨unseen key left right redefines,
      leaves key ((touched_iff key).mpr ⟨left, right, redefines⟩)⟩
  · intro quiet
    have leaves : ∀ key ∈ TableChanges.touchedNames scripter.dialect
        (scripter.dialect.unmatched source byPosition)
        (scripted.filterMap (scripter.dialect.alteredBy? target)),
          scripter.dialect.LeavesKeys includeForeignKeys target key := by
      intro key member
      rcases (touched_iff key).mp member with ⟨left, right, redefines⟩
      exact (quiet key left right redefines).2
    refine ⟨leaves, fun key left right redefines => (quiet key left right redefines).1, ?_⟩
    rw [TableChanges.planned_keyAdditions_eq_nil sourceTyped targetTyped differs rfl leaves]
    exact fun _ => List.not_mem_nil.elim

/--
A key or an index that both tables have is dropped and added again without a statement for one of
its columns exactly where it has a row on a redefined column in which the dialect sees no change and
none on a column that it sees is lost or redefined.  An alteration between tables that differ in
columns says nothing exactly when the dialect sees no change in them and no key has a row on one.
-/
theorem scriptTable_rebuilds_iff
    (scripter : Scripter)
    (sourceTyped : source.isTyped .table = true)
    (targetTyped : target.isTyped .table = true)
    (includeForeignKeys : Bool) :
    (∀ script, (scripter.scriptTable includeForeignKeys source target).result = .ok script →
      ∀ kind : KeyKind, ∀ group ∈ rowGroups (kind.rows source),
        group ∈ rowGroups (kind.rows target) →
          ((scripter.Rebuilds source target script kind group →
              scripter.dialect.HasRowOn (scripter.WritesColumn source target script) group) ↔
            (scripter.dialect.SharesGroup source target kind group →
              scripter.dialect.HasRowOn
                (scripter.dialect.MissesColumn scripter.options source target) group →
              scripter.dialect.HasRowOn
                (scripter.dialect.SeesColumn scripter.options source target) group))) ∧
      (scripter.dialect.DiffersInColumns source target →
        ((scripter.scriptTable includeForeignKeys source target).result = .ok "" ↔
          ∀ key left right, scripter.dialect.RedefinesColumn source target key left right →
            scripter.dialect.SeesNoChange scripter.options left right ∧
              scripter.dialect.LeavesKeys includeForeignKeys target key)) := by
  rw [scripter.result_scriptTable sourceTyped targetTyped]
  refine ⟨fun script altered kind group inSource inTarget => ?_, fun differs =>
    alterTable_eq_empty_iff_of_differsInColumns sourceTyped targetTyped differs includeForeignKeys⟩
  rw [rebuilds_iff sourceTyped targetTyped altered inSource inTarget,
    Dialect.hasRowOn_iff (writesColumn_iff sourceTyped targetTyped altered), and_imp]
  refine imp_congr_right fun _ => ⟨fun covered missed => covered ?_, fun covered taken => ?_⟩
  · rcases missed with ⟨row, member, left, right, redefines, _⟩
    exact ⟨row, member, _, .alter redefines⟩
  · rcases taken with ⟨row, member, _, loses | @⟨left, right, redefines⟩⟩
    · exact ⟨row, member, .lost loses⟩
    · by_cases unseen : scripter.dialect.SeesNoChange scripter.options left right
      · exact covered ⟨row, member, left, right, redefines, unseen⟩
      · exact ⟨row, member, .redefined redefines unseen⟩

/-- A text column with the order in which its letters are compared. -/
private def wordColumn
    (name collation : String)
    (position : Int) : Value :=
  .filled .postgreSqlColumn [
    ("name", .text name), ("data_type", .text "text"), ("collation_name", .text collation),
    ("ordinal_position", .int position)]

/-- Words with a key on the first column, and the orders of both columns. -/
private def words
    (idCollation noteCollation : String) : Value :=
  .plainTable "t" [wordColumn "id" idCollation 1, wordColumn "note" noteCollation 2]
    [.plainIndex "t" "pk" "id" true] [] []

private theorem words_isTyped
    (idCollation noteCollation : String) :
    (words idCollation noteCollation).isTyped .table = true := by
  have columnsTyped : ∀ column ∈ [wordColumn "id" idCollation 1, wordColumn "note" noteCollation 2],
      column.isTyped .column = true := by
    rw [List.forall_mem_cons, List.forall_mem_singleton]
    exact ⟨Value.isTyped_filled rfl rfl, Value.isTyped_filled rfl rfl⟩
  have rowsTyped : ∀ row ∈ [Value.plainIndex "t" "pk" "id" true], row.isTyped .index = true :=
    List.forall_mem_singleton.mpr (Value.isTyped_plainIndex ..)
  exact Value.isTyped_plainTable "t" columnsTyped rowsTyped (fun _ => List.not_mem_nil.elim)
    (fun _ => List.not_mem_nil.elim)

/-- Scripts of PostgreSQL that leave collations out. -/
private def withoutCollations : Scripter where
  dialect := .postgreSql
  options := { ignoreCollation := true }

private theorem words_differInColumns
    (source target : String × String) :
    Dialect.postgreSql.DiffersInColumns (words source.1 source.2) (words target.1 target.2) where
  sameParent := rfl
  indexes _ := rfl
  primaryKeys _ := rfl
  checks _ := rfl
  foreignKeys _ := rfl
  noneLost := rfl
  noneAdded := rfl

private theorem wordColumn_seesNoChange
    (name : String)
    (position : Int)
    (collation other : String) :
    Dialect.postgreSql.SeesNoChange withoutCollations.options (wordColumn name collation position)
      (wordColumn name other position) where
  compares := nofun
  generation := ⟨rfl, rfl⟩
  type := ⟨.text "text", rfl, rfl⟩
  nullability := rfl
  defaultValue := rfl

/-- Another order of a column beside the key is no reason for a statement or to rebuild the key. -/
theorem scriptTable_of_collationBesideKey :
    (withoutCollations.scriptTable true (words "C" "a") (words "C" "b")).result = .ok "" ∧
      ∀ group ∈ rowGroups (words "C" "a").primaryRows,
        group ∈ rowGroups (words "C" "b").primaryRows →
        withoutCollations.Rebuilds (words "C" "a") (words "C" "b") "" .primaryKey group →
          Dialect.postgreSql.HasRowOn
            (withoutCollations.WritesColumn (words "C" "a") (words "C" "b") "") group := by
  have quiet : ∀ key left right,
      Dialect.postgreSql.RedefinesColumn (words "C" "a") (words "C" "b") key left right →
        Dialect.postgreSql.SeesNoChange withoutCollations.options left right ∧
          Dialect.postgreSql.LeavesKeys true (words "C" "b") key := by
    rintro key left right ⟨member, rfl, found, differ⟩
    change left ∈ [wordColumn "id" "C" 1, wordColumn "note" "a" 2] at member
    rcases List.mem_cons.mp member with rfl | member
    · cases found
      exact (differ rfl).elim
    · obtain rfl := List.mem_singleton.mp member
      cases found
      refine ⟨wordColumn_seesNoChange "note" 2 "a" "b", ?_, ?_, fun _ => ?_⟩
      · unfold Dialect.CoversNone
        decide +kernel
      · unfold Dialect.CoversNone
        decide +kernel
      · unfold Dialect.CoversNone
        decide +kernel
  have rebuilds := scriptTable_rebuilds_iff withoutCollations (words_isTyped "C" "a")
    (words_isTyped "C" "b") true
  have silent := (rebuilds.2 (words_differInColumns ("C", "a") ("C", "b"))).mpr quiet
  refine ⟨silent, fun group inSource inTarget => ?_⟩
  refine (rebuilds.1 "" silent .primaryKey group inSource inTarget).mpr ?_
  rintro ⟨key, _, held⟩ ⟨row, member, left, right, redefines, _⟩
  exact ((quiet _ left right redefines).2.primaryKeys _ held row member
    (List.mem_singleton.mpr rfl)).elim

/--
Another order of the column of a key is left out of the definition of the column, and there is no
statement for the column, yet the key is dropped and added again.
-/
theorem scriptTable_of_collationOfKey :
    (words "a" "C").isTyped .table = true ∧ (words "b" "C").isTyped .table = true ∧
      Dialect.postgreSql.DiffersInColumns (words "a" "C") (words "b" "C") ∧
      (∀ collation ∈ ["a", "b"],
        PostgreSql.columnDefinition withoutCollations.options (wordColumn "id" collation 1) =
          .ok "\"id\" text NULL") ∧
      (withoutCollations.scriptTable true (words "a" "C") (words "b" "C")).result =
        .ok ("ALTER TABLE \"public\".\"t\" DROP CONSTRAINT \"pk\";\n" ++
          "ALTER TABLE \"public\".\"t\"\nADD CONSTRAINT \"pk\" PRIMARY KEY (\"id\");\n\n") ∧
      ∃ group ∈ rowGroups (words "a" "C").primaryRows,
        group ∈ rowGroups (words "b" "C").primaryRows ∧
        ∀ script, (withoutCollations.scriptTable true (words "a" "C") (words "b" "C")).result =
            .ok script →
          withoutCollations.Rebuilds (words "a" "C") (words "b" "C") script .primaryKey group ∧
            ¬Dialect.postgreSql.HasRowOn
              (withoutCollations.WritesColumn (words "a" "C") (words "b" "C") script) group := by
  refine ⟨words_isTyped "a" "C", words_isTyped "b" "C",
    words_differInColumns ("a", "C") ("b", "C"), ?_, by decide +kernel,
    [.plainIndex "t" "pk" "id" true], List.mem_singleton.mpr rfl, List.mem_singleton.mpr rfl, ?_⟩
  · rw [List.forall_mem_cons, List.forall_mem_singleton]
    exact ⟨rfl, rfl⟩
  intro script altered
  rw [withoutCollations.result_scriptTable (words_isTyped "a" "C") (words_isTyped "b" "C")]
    at altered
  constructor
  · refine (rebuilds_iff (words_isTyped "a" "C") (words_isTyped "b" "C") altered
      (List.mem_singleton.mpr rfl) (List.mem_singleton.mpr rfl)).mpr
      ⟨⟨"pk", List.mem_singleton.mpr rfl, List.mem_singleton.mpr rfl⟩, _,
        List.mem_singleton.mpr rfl, _, .alter ⟨List.mem_cons_self, rfl, rfl, ?_⟩⟩
    intro same
    have sameCollation : Value.text "a" = .text "b" := congrArg (Value.get · "collation_name") same
    exact absurd (Value.text.inj sameCollation) (by decide)
  · rw [Dialect.hasRowOn_iff
      (writesColumn_iff (words_isTyped "a" "C") (words_isTyped "b" "C") altered)]
    rintro ⟨row, rowMember, loses | ⟨⟨member, named, found, _⟩, seen⟩⟩
    · obtain rfl := List.mem_singleton.mp rowMember
      cases loses.missing
    · obtain rfl := List.mem_singleton.mp rowMember
      change _ ∈ [wordColumn "id" "a" 1, wordColumn "note" "C" 2] at member
      rcases List.mem_cons.mp member with rfl | member
      · cases found
        exact seen (wordColumn_seesNoChange "id" 1 "a" "b")
      · obtain rfl := List.mem_singleton.mp member
        exact absurd named (by decide +kernel)

end Scripter

end SchemaDelta
