import SchemaDelta.Proofs.Ddl.Scripting
import SchemaDelta.Proofs.Ddl.Statements
import SchemaDelta.Proofs.Ddl.Table
import SchemaDelta.Proofs.Value.Filled
import SchemaDelta.Proofs.Value.Replacing

/-!
# Indexes of views

A view is created and dropped with its indexes, and altered without them: the alteration of a view is
the same whatever indexes either side has.  So an index that is new or different is created by the
alteration only if its statement happens to stand in what is written about the view itself.
-/

namespace SchemaDelta

open Attempt (bind_eq_ok_iff)

/-! ## Parts of texts -/

/-- A text stands somewhere in another one. -/
def IsPartOf
    (part text : String) : Prop :=
  part.toList <:+: text.toList

namespace IsPartOf

theorem refl
    (text : String) :
    IsPartOf text text :=
  List.infix_rfl

theorem trans
    {part middle text : String}
    (first : IsPartOf part middle)
    (second : IsPartOf middle text) :
    IsPartOf part text :=
  List.IsInfix.trans first second

/-- What stands in a text stands in it behind other texts. -/
theorem append_left
    {part text : String}
    (inside : IsPartOf part text)
    (before : String) :
    IsPartOf part (before ++ text) := by
  rw [IsPartOf, String.toList_append]
  exact List.IsInfix.trans inside (List.suffix_append ..).isInfix

/-- What stands in a text stands in it in front of other texts. -/
theorem append_right
    {part text : String}
    (inside : IsPartOf part text)
    (behind : String) :
    IsPartOf part (text ++ behind) := by
  rw [IsPartOf, String.toList_append]
  exact List.IsInfix.trans inside (List.prefix_append ..).isInfix

/-- Each of some texts stands in all of them together. -/
theorem of_mem
    {part : String}
    {texts : List String}
    (member : part ∈ texts) :
    IsPartOf part (String.join texts) := by
  induction texts with
  | nil => cases member
  | cons text texts ih =>
      rw [String.join_cons]
      rcases List.mem_cons.mp member with rfl | later
      · exact (refl part).append_right _
      · exact (ih later).append_left _

end IsPartOf

/-! ## Groups of index rows -/

namespace Dialect

/-- The groups of index rows for which a dialect writes a statement, in the order of the statements. -/
def indexGroups
    (dialect : Dialect)
    (rows : List Value) : List (List Value) :=
  match dialect with
  | microsoftSql => Value.groupsOf (MicrosoftSql.clusteredFirst rows)
  | mySql => Value.rowGroups rows
  | postgreSql => Value.rowGroups rows

/-- Indexes are created group by group. -/
theorem mapM_createIndex_of_createIndexes
    {dialect : Dialect}
    {options : Options}
    {owner : Value}
    {rows : List Value}
    {text : String}
    (areRows : ∀ row ∈ rows, row.IsRow)
    (created : dialect.statements.createIndexes options owner (.list rows) = .ok text) :
    ∃ texts, (dialect.indexGroups rows).mapM (dialect.createIndex options owner) = .ok texts ∧
      text = String.join texts := by
  have joined : ∀ {groups : List (List Value)} {statement : Value → List Value → Script},
      groupScripts groups statement = .ok text →
        ∃ texts, (groups.mapM fun group => statement (group.headD .null) group) = .ok texts ∧
          text = String.join texts := by
    intro groups statement scripted
    rcases bind_eq_ok_iff.mp scripted with ⟨texts, textsOk, equal⟩
    cases equal
    exact ⟨texts, textsOk, rfl⟩
  cases dialect with
  | microsoftSql =>
      change MicrosoftSql.createIndexes options owner (.list rows) = .ok text at created
      rw [MicrosoftSql.createIndexes_eq options owner areRows] at created
      rcases bind_eq_ok_iff.mp created with ⟨_, _, scripted⟩
      exact joined scripted
  | mySql =>
      change (do groupScripts (← (Value.list rows).groups) (MySql.createIndex options owner)) =
        Except.ok text at created
      rw [Value.groups_ok areRows] at created
      exact joined created
  | postgreSql =>
      change (do groupScripts (← (Value.list rows).groups) (PostgreSql.createIndex options owner)) =
        Except.ok text at created
      rw [Value.groups_ok areRows] at created
      exact joined created

/-- Every statement that creates an index says so. -/
theorem isPartOf_createIndex
    {dialect : Dialect}
    {options : Options}
    {owner : Value}
    {group : List Value}
    {statement : String}
    (created : dialect.createIndex options owner group = .ok statement) :
    IsPartOf "INDEX " statement := by
  have word : ∀ before behind : String, IsPartOf "INDEX " (before ++ ("INDEX " ++ behind)) :=
    fun before behind => ((IsPartOf.refl "INDEX ").append_right behind).append_left before
  cases dialect with
  | microsoftSql =>
      simp only [createIndex, MicrosoftSql.createIndex, bind_eq_ok_iff] at created
      rcases created with ⟨type, typeOk, words, wordsOk, quoted, quotedOk, owner, ownerOk, columns,
        columnsOk, condition, conditionOk, equal⟩
      rw [Attempt.pure_eq_ok, Except.ok.injEq] at equal
      rw [← equal]
      simp only [String.append_assoc]
      exact (word _ _).append_left "CREATE "
  | mySql =>
      simp only [createIndex, MySql.createIndex, bind_eq_ok_iff] at created
      rcases created with ⟨_, _, given, givenOk, method, methodOk, created⟩
      split at created
      · cases created
      · simp only [bind_eq_ok_iff] at created
        rcases created with ⟨unique, uniqueOk, quoted, quotedOk, owner, ownerOk, columns, columnsOk,
          equal⟩
        rw [Attempt.pure_eq_ok, Except.ok.injEq] at equal
        rw [← equal]
        simp only [String.append_assoc]
        exact (word _ _).append_left "CREATE "
  | postgreSql =>
      simp only [createIndex, PostgreSql.createIndex, bind_eq_ok_iff] at created
      rcases created with ⟨_, _, method, methodOk, words?, wordsOk, created⟩
      split at created
      · cases created
      · simp only [bind_eq_ok_iff] at created
        rcases created with ⟨unique, uniqueOk, quoted, quotedOk, owner, ownerOk, columns, columnsOk,
          condition, conditionOk, equal⟩
        rw [Attempt.pure_eq_ok, Except.ok.injEq] at equal
        rw [← equal]
        simp only [String.append_assoc]
        exact (word _ _).append_left "CREATE "

end Dialect

/-! ## Views without their indexes -/

namespace Value

/-- A view as it is without its indexes. -/
def withoutIndexes
    (view : Value) : Value :=
  view.withParts [("indexes", .list [])]

/-- All other parts of a view are what they are with its indexes. -/
theorem part_withoutIndexes
    {view : Value}
    {name : String}
    (differs : name ≠ "indexes") :
    view.withoutIndexes.part name = view.part name :=
  part_withParts (List.lookup_eq_none_iff.mpr (by simpa using differs))

theorem isNull_withoutIndexes
    (view : Value) :
    view.withoutIndexes.isNull = view.isNull := by
  cases view <;> rfl

theorem required_withoutIndexes
    (view : Value)
    (argument : String) :
    view.withoutIndexes.required argument = view.required argument := by
  rw [required, required, isNull_withoutIndexes]

theorem expect_withoutIndexes
    (dialect : Dialect)
    (kind : ObjectClass)
    (view : Value) :
    dialect.expect kind view.withoutIndexes = dialect.expect kind view := by
  cases view <;> rfl

theorem objectName_withoutIndexes
    (dialect : Dialect)
    (options : Options)
    (view : Value) :
    dialect.objectName options view.withoutIndexes = dialect.objectName options view := by
  rw [Dialect.objectName, Dialect.objectName, required_withoutIndexes,
    part_withoutIndexes (by decide), part_withoutIndexes (by decide)]

end Value

/-- The alteration of a view reads nothing of the indexes of either side. -/
private theorem alterView_withoutIndexes
    (dialect : Dialect)
    (options : Options)
    (source target : Value) :
    dialect.statements.alterView options source.withoutIndexes target.withoutIndexes =
      dialect.statements.alterView options source target := by
  have definition : source.withoutIndexes.part "view_definition" = source.part "view_definition" :=
    Value.part_withoutIndexes (by decide)
  have named := Value.objectName_withoutIndexes dialect options source
  have targetNamed := Value.objectName_withoutIndexes dialect options target
  cases dialect with
  | microsoftSql =>
      change MicrosoftSql.ModuleKind.alter .view options _ _ =
        MicrosoftSql.ModuleKind.alter .view options source target
      simp only [MicrosoftSql.ModuleKind.alter, MicrosoftSql.ModuleKind.drop,
        MicrosoftSql.ModuleKind.create, MicrosoftSql.ModuleKind.spelling, MicrosoftSql.createModule,
        MicrosoftSql.dropObject, Value.partText, definition, targetNamed]
  | mySql =>
      change Scripting.ofResult (MySql.viewStatement "ALTER" options _) =
        Scripting.ofResult (MySql.viewStatement "ALTER" options source)
      simp only [MySql.viewStatement, Value.partText, definition, named]
  | postgreSql =>
      have checked : source.withoutIndexes.part "check_option" = source.part "check_option" :=
        Value.part_withoutIndexes (by decide)
      have accepted := Value.expect_withoutIndexes .postgreSql .postgreSqlView source
      change Scripting.ofResult (recreate (PostgreSql.dropObject "VIEW" options _)
          (PostgreSql.createView options _)) =
        Scripting.ofResult (recreate (PostgreSql.dropObject "VIEW" options target)
          (PostgreSql.createView options source))
      simp only [PostgreSql.createView, PostgreSql.dropObject, definition, checked, accepted, named,
        targetNamed]

namespace Scripter

/-- A view with a counterpart is altered as if neither side had indexes. -/
theorem scriptView_withoutIndexes
    (scripter : Scripter)
    {source target : Value}
    (sourceGiven : source.isNull = false)
    (targetGiven : target.isNull = false) :
    scripter.scriptView source.withoutIndexes target.withoutIndexes =
      scripter.scriptView source target := by
  simp only [scriptView, scriptPair, Value.isNull_withoutIndexes, sourceGiven, targetGiven]
  exact alterView_withoutIndexes scripter.dialect scripter.options source target

/-- A view that can be created can replace a typed view. -/
private theorem exists_alterView
    {dialect : Dialect}
    {options : Options}
    {source target : Value}
    {creation : String}
    (targetTyped : target.isTyped .view = true)
    (created : dialect.statements.createView options source = .ok creation) :
    ∃ script, (dialect.statements.alterView options source target).result = .ok script := by
  have nameOk : dialect.objectName options target = _ :=
    Dialect.objectName_ok_of_declares targetTyped (by decide) (by decide)
  cases dialect with
  | microsoftSql =>
      change MicrosoftSql.createModule "view_definition" source = .ok creation at created
      change ∃ script, (MicrosoftSql.ModuleKind.alter .view options source target).result =
        .ok script
      have dropped : MicrosoftSql.ModuleKind.drop .view options target =
          .ok ("DROP VIEW " ++ Dialect.tableText .microsoftSql options (target.letters "schema")
            (target.letters "name") ++ ";\n" ++ MicrosoftSql.batchEnd) := by
        rw [MicrosoftSql.ModuleKind.drop, MicrosoftSql.dropObject, nameOk]
        rfl
      have sourceCreated : MicrosoftSql.ModuleKind.create .view source = .ok creation := created
      rcases bind_eq_ok_iff.mp created with ⟨letters, lettersOk, _⟩
      rcases bind_eq_ok_iff.mp lettersOk with ⟨definition, definitionOk, textOk⟩
      have read : source.part (MicrosoftSql.ModuleKind.spelling .view).1 = .ok definition :=
        definitionOk
      simp only [MicrosoftSql.ModuleKind.alter, Scripting.result_bind, Scripting.result_liftM, read,
        dropped, sourceCreated, textOk, Attempt.ok_bind]
      cases MicrosoftSql.alteringDefinition? .view letters with
      | none => exact ⟨_, rfl⟩
      | some altering => exact ⟨_, rfl⟩
  | mySql =>
      change MySql.viewStatement "CREATE" options source = .ok creation at created
      change ∃ script, MySql.viewStatement "ALTER" options source = .ok script
      rcases bind_eq_ok_iff.mp created with ⟨sourceName, sourceNameOk, run⟩
      rcases bind_eq_ok_iff.mp run with ⟨definition, definitionOk, _⟩
      rw [MySql.viewStatement, sourceNameOk, definitionOk]
      exact ⟨_, rfl⟩
  | postgreSql =>
      change PostgreSql.createView options source = .ok creation at created
      change ∃ script, recreate (PostgreSql.dropObject "VIEW" options target)
        (PostgreSql.createView options source) = .ok script
      rw [recreate, PostgreSql.dropObject, nameOk, created]
      exact ⟨_, rfl⟩

/-- An index of the source is new, or the target has other rows under its name. -/
def ChangesIndex
    (scripter : Scripter)
    (source target : Value)
    (group : List Value) : Prop :=
  group ∈ scripter.dialect.indexGroups (source.rows "indexes") ∧
    group ∉ scripter.dialect.indexGroups (target.rows "indexes")

/-- A script has the statement of every index of the source that is new or different. -/
def CreatesChangedIndexes
    (scripter : Scripter)
    (source target : Value)
    (script : String) : Prop :=
  ∀ group, scripter.ChangesIndex source target group →
    ∀ statement, scripter.dialect.createIndex scripter.options source group = .ok statement →
      IsPartOf statement script

/-- A view is created with the statement of each of its indexes. -/
theorem exists_createIndex_of_createView
    {scripter : Scripter}
    {view : Value}
    {creation : String}
    (typed : view.isTyped .view = true)
    (created : scripter.createView view = .ok creation)
    {group : List Value}
    (member : group ∈ scripter.dialect.indexGroups (view.rows "indexes")) :
    ∃ statement, scripter.dialect.createIndex scripter.options view group = .ok statement ∧
      IsPartOf statement creation := by
  rcases bind_eq_ok_iff.mp created with ⟨_, _, run⟩
  rcases bind_eq_ok_iff.mp run with ⟨body, bodyOk, run⟩
  rw [Value.part_rows_of_isTyped typed ObjectClass.view_declares_indexes, Attempt.ok_bind] at run
  have areRows : ∀ row ∈ view.rows "indexes", row.IsRow := fun row rowMember =>
    Value.isRow_of_index
      (Value.isTyped_of_mem_rows typed ObjectClass.view_declares_indexes rowMember)
  cases empty : (view.rows "indexes").isEmpty with
  | true =>
      rw [List.isEmpty_iff.mp empty] at member
      cases dialect : scripter.dialect <;> rw [dialect] at member <;> cases member
  | false =>
      have truthy : (Value.list (view.rows "indexes")).isTruthy = true := by
        rw [Value.isTruthy, empty]
        rfl
      rw [truthy, Bool.not_true, if_neg Bool.false_ne_true] at run
      rcases bind_eq_ok_iff.mp run with ⟨text, textOk, equal⟩
      rw [Attempt.pure_eq_ok, Except.ok.injEq] at equal
      rcases Dialect.mapM_createIndex_of_createIndexes areRows textOk with ⟨texts, textsOk, rfl⟩
      rcases Attempt.exists_mem_of_mapM textsOk group member with ⟨statement, listed, statementOk⟩
      refine ⟨statement, statementOk, ?_⟩
      rw [← equal]
      exact (IsPartOf.of_mem listed).append_left _

/--
A view with a counterpart is altered whenever it can be created, and the alteration is the one of the
views without their indexes.  So unless the words of the view itself speak of an index, the statements
of the new and different indexes are all in the alteration only where there are none of them.
-/
theorem scriptView_createsChangedIndexes_iff
    {scripter : Scripter}
    {source target : Value}
    {creation : String}
    (sourceTyped : source.isTyped .view = true)
    (targetTyped : target.isTyped .view = true)
    (created : scripter.createView source = .ok creation) :
    (∀ group, scripter.ChangesIndex source target group →
        ∃ statement, scripter.dialect.createIndex scripter.options source group = .ok statement ∧
          IsPartOf statement creation) ∧
      ∃ script,
        (scripter.scriptView source target).result = .ok script ∧
          scripter.scriptView source target =
            scripter.scriptView source.withoutIndexes target.withoutIndexes ∧
          (¬IsPartOf "INDEX " script →
            (scripter.CreatesChangedIndexes source target script ↔
              ∀ group, ¬scripter.ChangesIndex source target group)) := by
  have rendered := fun group (changes : scripter.ChangesIndex source target group) =>
    exists_createIndex_of_createView sourceTyped created changes.1
  have sourceGiven := Value.isNull_of_isTyped sourceTyped
  have targetGiven := Value.isNull_of_isTyped targetTyped
  have altered : ∃ script, (scripter.scriptView source target).result = .ok script := by
    rcases bind_eq_ok_iff.mp created with ⟨_, _, run⟩
    rcases bind_eq_ok_iff.mp run with ⟨body, bodyOk, _⟩
    simp only [scriptView, scriptPair, sourceGiven, targetGiven]
    exact exists_alterView targetTyped bodyOk
  rcases altered with ⟨script, scriptOk⟩
  refine ⟨rendered, script, scriptOk,
    (scriptView_withoutIndexes scripter sourceGiven targetGiven).symm, fun silent => ?_⟩
  constructor
  · intro creates group changes
    rcases rendered group changes with ⟨statement, statementOk, _⟩
    apply silent
    exact (Dialect.isPartOf_createIndex statementOk).trans
      (creates group changes statement statementOk)
  · intro unchanged group changes
    exact (unchanged group changes).elim

/-- A view of one column with what it is selected from and index rows. -/
private def selectingView
    (selected : String)
    (rows : List Value) : Value :=
  .filled .view [
    ("name", .text "v"), ("schema", .text "dbo"),
    ("view_definition", .text ("CREATE VIEW dbo.v WITH SCHEMABINDING AS SELECT " ++ selected)),
    ("indexes", .list rows)]

/-- The one row of a clustered index of the view. -/
private def clusteredRow : Value :=
  .filled .microsoftSqlIndex [
    ("name", .text "ix"), ("schema", .text "dbo"), ("table_schema", .text "dbo"),
    ("table_name", .text "v"), ("column_name", .text "x"), ("ordinal_position", .int 1),
    ("is_unique", .bool true), ("type", .member (.indexKind .clustered))]

private theorem rows_selectingView
    (selected : String)
    (rows : List Value) :
    (selectingView selected rows).rows "indexes" = rows := by
  rfl

private theorem createView_selectingView :
    createView { dialect := .microsoftSql } (selectingView "x FROM dbo.t" [clusteredRow]) =
      .ok ("CREATE VIEW dbo.v WITH SCHEMABINDING AS SELECT x FROM dbo.t\nGO\n\n" ++
        bannerComment "Indexes" ++
        "\nCREATE UNIQUE CLUSTERED INDEX [ix] ON [dbo].[v]([x])\nGO\n\n") := by
  decide +kernel

/-- A view whose definition differs and whose index is on both sides needs no further statement. -/
theorem scriptView_createsChangedIndexes_of_sameIndex :
    (scriptView { dialect := .microsoftSql } (selectingView "x FROM dbo.t" [clusteredRow])
        (selectingView "x FROM dbo.u" [clusteredRow])).result =
        .ok "ALTER VIEW dbo.v WITH SCHEMABINDING AS SELECT x FROM dbo.t\nGO\n" ∧
      CreatesChangedIndexes { dialect := .microsoftSql }
        (selectingView "x FROM dbo.t" [clusteredRow]) (selectingView "x FROM dbo.u" [clusteredRow])
        "ALTER VIEW dbo.v WITH SCHEMABINDING AS SELECT x FROM dbo.t\nGO\n" := by
  have typed : ∀ selected, (selectingView selected [clusteredRow]).isTyped .view = true :=
    fun selected => Value.isTyped_filled rfl rfl
  have altered : (scriptView { dialect := .microsoftSql }
      (selectingView "x FROM dbo.t" [clusteredRow])
      (selectingView "x FROM dbo.u" [clusteredRow])).result =
        .ok "ALTER VIEW dbo.v WITH SCHEMABINDING AS SELECT x FROM dbo.t\nGO\n" := by
    decide +kernel
  rcases scriptView_createsChangedIndexes_iff (typed "x FROM dbo.t") (typed "x FROM dbo.u")
      createView_selectingView with ⟨_, script, scriptOk, _, creates_iff⟩
  obtain rfl := Except.ok.inj (altered.symm.trans scriptOk)
  refine ⟨altered, (creates_iff ?_).mpr ?_⟩
  · unfold IsPartOf
    decide +kernel
  · rintro group ⟨member, other⟩
    rw [rows_selectingView] at member other
    exact other member

/-- An index that only the source has is created with the view and left out where it is altered. -/
theorem scriptView_of_newIndex :
    (selectingView "x FROM dbo.t" [clusteredRow]).isTyped .view = true ∧
      (selectingView "x FROM dbo.t" []).isTyped .view = true ∧
      createView { dialect := .microsoftSql } (selectingView "x FROM dbo.t" [clusteredRow]) =
        .ok ("CREATE VIEW dbo.v WITH SCHEMABINDING AS SELECT x FROM dbo.t\nGO\n\n" ++
          bannerComment "Indexes" ++
          "\nCREATE UNIQUE CLUSTERED INDEX [ix] ON [dbo].[v]([x])\nGO\n\n") ∧
      createView { dialect := .microsoftSql } (selectingView "x FROM dbo.t" []) =
        .ok "CREATE VIEW dbo.v WITH SCHEMABINDING AS SELECT x FROM dbo.t\nGO\n" ∧
      (scriptView { dialect := .microsoftSql } (selectingView "x FROM dbo.t" [clusteredRow])
          (selectingView "x FROM dbo.t" [])).result =
        .ok "ALTER VIEW dbo.v WITH SCHEMABINDING AS SELECT x FROM dbo.t\nGO\n" ∧
      ¬CreatesChangedIndexes { dialect := .microsoftSql }
        (selectingView "x FROM dbo.t" [clusteredRow]) (selectingView "x FROM dbo.t" [])
        "ALTER VIEW dbo.v WITH SCHEMABINDING AS SELECT x FROM dbo.t\nGO\n" := by
  refine ⟨Value.isTyped_filled rfl rfl, Value.isTyped_filled rfl rfl, createView_selectingView,
    by decide +kernel, by decide +kernel, fun creates => ?_⟩
  have isNew : ChangesIndex { dialect := .microsoftSql }
      (selectingView "x FROM dbo.t" [clusteredRow]) (selectingView "x FROM dbo.t" [])
      [clusteredRow] :=
    ⟨List.mem_singleton_self _, List.not_mem_nil⟩
  have statement : Dialect.createIndex .microsoftSql {}
      (selectingView "x FROM dbo.t" [clusteredRow]) [clusteredRow] =
        .ok "CREATE UNIQUE CLUSTERED INDEX [ix] ON [dbo].[v]([x])\nGO\n\n" := by
    decide +kernel
  have written := creates _ isNew _ statement
  revert written
  unfold IsPartOf
  decide +kernel

end Scripter

end SchemaDelta
