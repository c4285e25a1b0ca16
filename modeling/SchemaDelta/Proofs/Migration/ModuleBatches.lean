import SchemaDelta.Proofs.Migration.FullScript
import SchemaDelta.Proofs.Text.Batches

/-!
# Modules in batches of their own

In the full script of a Microsoft SQL database the definition of every function, procedure, trigger
and view stands alone between two separators.  Every statement and every part of the script is
whole lines, so that the separators stand on lines of their own.
-/

namespace SchemaDelta

open Attempt (Ensures ensures_bind ensures_pure bind_eq_ok_iff)
open Text (IsWhole Isolates LineConvention endLine)
open Value (listing sortedOn)

/-! ## Statements of whole lines -/

/-- A script that, if there is one, is whole lines without a definition. -/
private abbrev IsFiller
    (script : Script) : Prop :=
  Ensures (Isolates []) script

private theorem isFiller_pure_lineFeed
    (text : String) :
    IsFiller (pure (text ++ "\n")) :=
  ensures_pure (.of_isWhole (Or.inr ⟨text, rfl⟩))

/-- Definitions of several scripts stand in the scripts one behind the other. -/
private theorem ensures_flatten
    {α : Type}
    {items : List α}
    {definitions : List (List String)}
    {scriptOf : α → Script}
    (each : List.Forall₂ (fun item definitions => Ensures (Isolates definitions) (scriptOf item))
      items definitions) :
    Ensures (Isolates definitions.flatten) (do return String.join (← items.mapM scriptOf)) := by
  have joined : Ensures (fun texts => Isolates definitions.flatten (String.join texts))
      (items.mapM scriptOf) := by
    induction each with
    | nil =>
        rintro _ ⟨⟩
        exact .nothing
    | cons first _ ih =>
        rw [List.mapM_cons]
        refine first.bind fun text isolates => ih.bind fun texts others => ensures_pure ?_
        rw [List.flatten_cons, String.join_cons]
        exact isolates.append others
  exact joined.bind fun _ => ensures_pure

private theorem ensures_flatMap
    {α : Type}
    {items : List α}
    {definitionsOf : α → List String}
    {scriptOf : α → Script}
    (each : ∀ item ∈ items, Ensures (Isolates (definitionsOf item)) (scriptOf item)) :
    Ensures (Isolates (items.flatMap definitionsOf))
      (do return String.join (← items.mapM scriptOf)) := by
  rw [List.flatMap_def]
  exact ensures_flatten (List.forall₂_map_right_iff.mpr (List.forall₂_same.mpr each))

private theorem flatMap_nothing
    {α : Type}
    (items : List α) :
    (items.flatMap fun _ => ([] : List String)) = [] :=
  List.flatMap_eq_nil_iff.mpr fun _ _ => rfl

private theorem isFiller_groupScripts
    {statement : Value → List Value → Script}
    (filler : ∀ row group, IsFiller (statement row group))
    (groups : List (List Value)) :
    IsFiller (groupScripts groups statement) := by
  have together : Ensures (Isolates (groups.flatMap fun _ => [])) (groupScripts groups statement) :=
    ensures_flatMap fun group _ => filler (group.headD .null) group
  rwa [flatMap_nothing] at together

namespace MicrosoftSql

/-! Whatever a statement reads, it ends with a line feed. -/

variable {options : Options}

private theorem isFiller_addPrimaryKeys
    (table rows : Value) :
    IsFiller (addPrimaryKeys options table rows) := by
  refine ensures_bind fun groups => isFiller_groupScripts (fun key group => ?_) groups
  repeat refine ensures_bind fun _ => ?_
  exact isFiller_pure_lineFeed _

private theorem isFiller_addChecks
    (table rows : Value) :
    IsFiller (addChecks options table rows) := by
  refine ensures_bind fun groups => isFiller_groupScripts (fun check group => ?_) groups
  repeat refine ensures_bind fun _ => ?_
  exact isFiller_pure_lineFeed _

private theorem isFiller_addForeignKeys
    (table rows : Value) :
    IsFiller (addForeignKeys options table rows) := by
  refine ensures_bind fun _ => ensures_bind fun groups =>
    isFiller_groupScripts (fun key group => ?_) groups
  repeat refine ensures_bind fun _ => ?_
  exact isFiller_pure_lineFeed _

private theorem isFiller_createIndexes
    (owner rows : Value) :
    IsFiller (createIndexes options owner rows) := by
  refine ensures_bind fun _ => ensures_bind fun _ => ensures_bind fun _ => ensures_bind fun _ =>
    ensures_bind fun groups => isFiller_groupScripts (fun row group => ?_) groups
  repeat refine ensures_bind fun _ => ?_
  exact isFiller_pure_lineFeed _

/-- The batch of a definition is the definition up to a final line feed. -/
theorem definitionBatch_eq
    (definition : String) :
    definitionBatch definition = endLine definition ++ batchEnd :=
  rfl

end MicrosoftSql

/-! ## Definitions of modules -/

/-- The definitions of the functions, procedures, triggers and views of a database. -/
def Value.moduleDefinitions
    (database : Value) : List String :=
  (database.objectsIn .functions).map (·.letters "definition") ++
    (database.objectsIn .procedures).map (·.letters "definition") ++
    (database.objectsIn .triggers).map (·.letters "definition") ++
    (database.objectsIn .views).map (·.letters "view_definition")

/-- The definitions in the parts of a full script; types, sequences, tables and keys have none. -/
private def definitionsInParts
    (database : Value) : List (List String) :=
  let definitions := fun objects : List Value =>
    (sortedOn listing objects).flatMap fun object => [object.letters "definition"]
  [[], [], [], definitions (database.objectsIn .functions),
    definitions (database.objectsIn .procedures),
    (sortedOn listing (database.rows "tables")).flatMap fun table =>
      definitions (table.rows "triggers"),
    [], [],
    (sortedOn listing (database.objectsIn .views)).flatMap fun view =>
      [view.letters "view_definition"]]

private theorem definitionsInParts_perm
    (database : Value) :
    (definitionsInParts database).flatten.Perm database.moduleDefinitions := by
  have listed : ∀ objects definitionPart,
      ((sortedOn listing objects).flatMap fun object : Value =>
        [object.letters definitionPart]).Perm (objects.map (·.letters definitionPart)) := by
    intro objects definitionPart
    rw [List.map_eq_flatMap]
    exact (Value.sortedOn_perm listing objects).flatMap_right _
  have triggers : ((sortedOn listing (database.rows "tables")).flatMap fun table =>
      (sortedOn listing (table.rows "triggers")).flatMap fun trigger =>
        [trigger.letters "definition"]).Perm
      ((database.objectsIn .triggers).map (·.letters "definition")) := by
    rw [Value.objectsIn, List.map_flatMap]
    exact (Value.sortedOn_perm listing _).flatMap fun table _ => listed _ _
  simp only [definitionsInParts, Value.moduleDefinitions, List.flatten_cons, List.flatten_nil,
    List.append_nil, List.nil_append, ← List.append_assoc]
  exact (((listed _ _).append (listed _ _)).append triggers).append (listed _ _)

/-! ## Parts and scripts of single objects -/

/-- Under a heading stand the definitions of all objects; what is left out has none. -/
private theorem ScriptPart.isolates_text
    {items : List Value}
    {definitionsOf : Value → List String}
    {scriptOf : Value → Scripting String}
    {isWanted : Bool}
    (heading : String)
    (isolates : ∀ item ∈ items, Ensures (Isolates (definitionsOf item)) (scriptOf item).result)
    (wanted : ∀ item ∈ items, definitionsOf item ≠ [] → isWanted = true) :
    Ensures (Isolates (items.flatMap definitionsOf))
      (ScriptPart.text (.ok ⟨heading, isWanted, items.map scriptOf⟩)).result := by
  rw [ScriptPart.result_text]
  cases isWanted with
  | true =>
      have headed : IsWhole (bannerComment heading ++ "\n") := Or.inr ⟨_, rfl⟩
      have ended : IsWhole "\n" := Or.inr ⟨"", rfl⟩
      have together := (ensures_flatMap isolates).bind fun texts inner =>
        ensures_pure ((Isolates.filler headed inner).append (.of_isWhole ended))
      rw [if_pos rfl, List.mapM_map]
      simp only [bind_assoc, pure_bind, List.append_nil] at together
      exact together
  | false =>
      have nothing : items.flatMap definitionsOf = [] :=
        List.flatMap_eq_nil_iff.mpr fun item member => by
          by_contra something
          exact Bool.false_ne_true (wanted item member something)
      rw [nothing]
      exact ensures_pure .nothing

/-- Under a heading stand the definitions of the objects of a collection. -/
private theorem ScriptPart.isolates_ofCollection
    {objects : List Value}
    {definitionsOf : Value → List String}
    {scriptOf : Value → Scripting String}
    (heading : String)
    (typed : ∀ object ∈ objects, object.isTyped .schemaObject = true)
    (isolates : ∀ object ∈ objects,
      Ensures (Isolates (definitionsOf object)) (scriptOf object).result) :
    Ensures (Isolates ((sortedOn listing objects).flatMap definitionsOf))
      (ScriptPart.text (ScriptPart.ofCollection heading (.list objects) scriptOf)).result := by
  rw [ScriptPart.ofCollection_ok heading typed]
  refine isolates_text heading (fun object member => isolates object (Value.mem_sortedOn.mp member))
    fun object member _ => ?_
  rw [Bool.not_eq_true', List.isEmpty_eq_false_iff_exists_mem]
  exact ⟨object, Value.mem_sortedOn.mp member⟩

namespace Scripter

variable {scripter : Scripter} {object table view database : Value}

/-- The script of an object and its line feed hold no definition. -/
private theorem isFiller_objectLines
    (kind : String)
    (typed : object.isTyped .schemaObject = true)
    (script : Script) :
    IsFiller (objectLines kind object script).result := by
  rw [result_objectLines kind typed]
  exact ensures_bind fun text => isFiller_pure_lineFeed text

/-- The objects of a kind and their line feeds hold no definition. -/
private theorem isFiller_collection
    {kind : ObjectKind}
    (heading word : String)
    (typed : database.isTyped .database = true)
    (scriptOf : Value → Script) :
    IsFiller (ScriptPart.text (ScriptPart.ofCollection heading (.list (database.objectsIn kind))
      fun object => objectLines word object (scriptOf object))).result := by
  have objects : ∀ object ∈ database.objectsIn kind, object.isTyped .schemaObject = true :=
    fun object member => Value.isTyped_schemaObject (Value.isTyped_of_mem_objectsIn typed member)
  rw [IsFiller, ← flatMap_nothing (sortedOn listing _)]
  exact ScriptPart.isolates_ofCollection heading objects fun object member =>
    isFiller_objectLines word (objects object member) _

private theorem isFiller_tablePart
    {tables : List Value}
    (typed : ∀ table ∈ tables, table.isTyped .table = true) :
    IsFiller (ScriptPart.text (scripter.tablePart tables)).result := by
  cases sorted : scripter.dialect.sortTables false (.list tables) with
  | error failure =>
      rw [tablePart, sorted]
      exact Attempt.ensures_error
  | ok created =>
      have listed := (Dialect.sortTables_subperm typed sorted).subset
      rw [tablePart, sorted, Attempt.ok_bind, IsFiller, ← flatMap_nothing created]
      exact ScriptPart.isolates_text _ (fun table member => isFiller_objectLines "table"
        (Value.isTyped_of_isWithin (typed table (listed member)) (by decide)) _)
        fun _ _ some => absurd rfl some

section MicrosoftSql

variable (isMicrosoftSql : scripter.dialect = .microsoftSql)

include isMicrosoftSql

private theorem statements_eq :
    scripter.statements = MicrosoftSql.statements := by
  rw [statements, isMicrosoftSql]
  rfl

/-- A module stands in a batch of its own. -/
private theorem isolates_moduleLines
    {kind : ObjectClass}
    (word definitionPart : String)
    (typed : object.isTyped kind = true)
    (isObject : kind.isWithin .schemaObject = true)
    (declared : kind.declares definitionPart .text = true) :
    Ensures (Isolates [object.letters definitionPart]) (scripter.moduleLines word object
      (MicrosoftSql.createModule definitionPart object)).result := by
  have read : object.partText definitionPart = .ok (object.letters definitionPart) := by
    rw [Value.partText, Value.part_text_of_isTyped typed declared]
    rfl
  have isolates : ∀ definition, Isolates [definition]
      (MicrosoftSql.batchEnd ++ (MicrosoftSql.definitionBatch definition ++ "\n")) := by
    intro definition
    rw [MicrosoftSql.definitionBatch_eq, String.append_assoc]
    exact .batch (.of_isWhole (Or.inr ⟨"", rfl⟩))
  rw [result_moduleLines word (Value.isTyped_of_isWithin typed isObject),
    MicrosoftSql.createModule, read, isMicrosoftSql]
  exact ensures_pure (isolates _)

/-- Behind the batch of a view stand its indexes. -/
private theorem isolates_viewLines
    (typed : view.isTyped .view = true) :
    Ensures (Isolates [view.letters "view_definition"]) (scripter.viewLines view).result := by
  have created := isolates_moduleLines isMicrosoftSql "view" "view_definition" typed (by decide)
    (by decide)
  rw [result_viewLines typed, statements_eq isMicrosoftSql]
  refine created.bind fun text isolates => Attempt.ensures_ite (ensures_pure isolates) ?_
  exact (MicrosoftSql.isFiller_createIndexes view _).bind fun indexes filler =>
    ensures_pure (isolates.append filler)

/-- The triggers of a table stand in batches of their own. -/
private theorem isolates_triggerLines
    (typed : table.isTyped .table = true) :
    Ensures (Isolates ((sortedOn listing (table.rows "triggers")).flatMap fun trigger =>
      [trigger.letters "definition"])) (scripter.triggerLines table).result := by
  rw [result_triggerLines typed, statements_eq isMicrosoftSql]
  refine ensures_flatMap fun trigger member => ?_
  have triggerTyped := Value.isTyped_of_mem_rows typed ObjectClass.table_declares_triggers
    (Value.mem_sortedOn.mp member)
  exact isolates_moduleLines isMicrosoftSql "trigger" "definition" triggerTyped (by decide)
    (by decide)

private theorem isFiller_tableKeys
    (typed : table.isTyped .table = true) :
    IsFiller (guardedObject "table" table (scripter.tableKeysAndIndexes table)).result := by
  rw [result_guardedObject "table" (Value.isTyped_of_isWithin typed (by decide)),
    tableKeysAndIndexes, statements_eq isMicrosoftSql]
  refine ensures_bind fun keys => (MicrosoftSql.isFiller_addPrimaryKeys table keys).bind
    fun keyText keyFiller => ensures_bind fun checks =>
      (MicrosoftSql.isFiller_addChecks table checks).bind fun checkText checkFiller =>
        ensures_bind fun indexes => (MicrosoftSql.isFiller_createIndexes table indexes).bind
          fun indexText indexFiller => ?_
  exact ensures_pure ((keyFiller.append checkFiller).append indexFiller)

private theorem isFiller_tableForeignKeys
    (typed : table.isTyped .table = true) :
    IsFiller (guardedObject "table" table (scripter.tableForeignKeys table)).result := by
  rw [result_guardedObject "table" (Value.isTyped_of_isWithin typed (by decide)),
    tableForeignKeys, statements_eq isMicrosoftSql]
  exact ensures_bind fun keys => MicrosoftSql.isFiller_addForeignKeys table keys

/-- The modules of a kind stand in batches of their own. -/
private theorem isolates_modules
    {kind : ObjectKind}
    (heading word : String)
    (typed : database.isTyped .database = true)
    (isObject : kind.objectClass.isWithin .schemaObject = true)
    (declared : kind.objectClass.declares "definition" .text = true) :
    Ensures (Isolates ((sortedOn listing (database.objectsIn kind)).flatMap fun module =>
      [module.letters "definition"]))
      (ScriptPart.text (ScriptPart.ofCollection heading (.list (database.objectsIn kind))
        fun module => scripter.moduleLines word module
          (MicrosoftSql.createModule "definition" module))).result := by
  have modules : ∀ module ∈ database.objectsIn kind, module.isTyped kind.objectClass = true :=
    fun module member => Value.isTyped_of_mem_objectsIn typed member
  exact ScriptPart.isolates_ofCollection heading
    (fun module member => Value.isTyped_schemaObject (modules module member))
    fun module member => isolates_moduleLines isMicrosoftSql word "definition"
      (modules module member) isObject declared

section Tables

variable {tables : List Value} (typed : ∀ table ∈ tables, table.isTyped .table = true)

include typed

private theorem isolates_triggerPart :
    Ensures (Isolates (tables.flatMap fun table =>
      (sortedOn listing (table.rows "triggers")).flatMap fun trigger =>
        [trigger.letters "definition"]))
      (ScriptPart.text (scripter.triggerPart tables)).result := by
  rw [triggerPart_ok typed]
  refine ScriptPart.isolates_text _
    (fun table member => isolates_triggerLines isMicrosoftSql (typed table member))
    fun table member some => List.any_eq_true.mpr ⟨table, member, ?_⟩
  by_contra none
  rw [Bool.not_eq_true, Bool.not_eq_false', List.isEmpty_iff] at none
  rw [none] at some
  exact some rfl

private theorem isFiller_keyPart :
    IsFiller (ScriptPart.text (scripter.keyPart tables)).result := by
  rw [keyPart_ok typed, IsFiller, ← flatMap_nothing tables]
  exact ScriptPart.isolates_text _
    (fun table member => isFiller_tableKeys isMicrosoftSql (typed table member))
    fun _ _ some => absurd rfl some

private theorem isFiller_foreignKeyPart :
    IsFiller (ScriptPart.text (scripter.foreignKeyPart tables)).result := by
  rw [foreignKeyPart_ok typed, IsFiller, ← flatMap_nothing tables]
  exact ScriptPart.isolates_text _
    (fun table member => isFiller_tableForeignKeys isMicrosoftSql (typed table member))
    fun _ _ some => absurd rfl some

end Tables

/-! ## Full scripts -/

/-- A full script has every definition in a batch of its own. -/
private theorem isolates_fullScript
    (typed : database.isTyped .database = true) :
    Ensures (Isolates (definitionsInParts database).flatten)
      (scripter.fullScript database).result := by
  have tablesTyped : ∀ table ∈ sortedOn listing (database.rows "tables"),
      table.isTyped .table = true :=
    fun table member => Value.isTyped_of_mem_rows typed (by decide) (Value.mem_sortedOn.mp member)
  have types : IsFiller (ScriptPart.text (scripter.typePart database)).result := by
    rw [typePart_ok typed]
    exact isFiller_collection "User Defined Types" "type" typed _
  have sequences : IsFiller (ScriptPart.text (scripter.sequencePart database)).result := by
    rw [sequencePart_ok typed]
    exact isFiller_collection "Sequences" "sequence" typed _
  have functions := isolates_modules isMicrosoftSql "Functions" "function" typed
    (show ObjectKind.functions.objectClass.isWithin _ = true by decide) (by decide)
  have procedures := isolates_modules isMicrosoftSql "Stored Procedures" "stored procedure" typed
    (show ObjectKind.procedures.objectClass.isWithin _ = true by decide) (by decide)
  have views : Ensures (Isolates ((sortedOn listing (database.objectsIn .views)).flatMap
      fun view => [view.letters "view_definition"]))
      (ScriptPart.text (scripter.viewPart database)).result := by
    have viewsTyped : ∀ view ∈ database.objectsIn .views, view.isTyped .view = true :=
      fun view member => Value.isTyped_of_mem_objectsIn typed member
    rw [viewPart_ok typed]
    exact ScriptPart.isolates_ofCollection "Views"
      (fun view member => Value.isTyped_of_isWithin (viewsTyped view member) (by decide))
      fun view member => isolates_viewLines isMicrosoftSql (viewsTyped view member)
  rw [result_fullScript typed, fullParts, functionPart_ok typed, procedurePart_ok typed,
    statements_eq isMicrosoftSql]
  exact ensures_flatten (.cons types (.cons sequences (.cons (isFiller_tablePart tablesTyped)
    (.cons functions (.cons procedures (.cons (isolates_triggerPart isMicrosoftSql tablesTyped)
      (.cons (isFiller_keyPart isMicrosoftSql tablesTyped)
        (.cons (isFiller_foreignKeyPart isMicrosoftSql tablesTyped) (.cons views .nil)))))))))

/--
If the full script of a Microsoft SQL database is split at its separator lines, every definition of
a function, procedure, trigger or view without such a line is a batch of its own, up to a final line
feed.
-/
theorem moduleDefinitions_subperm_batches
    (convention : LineConvention)
    (typed : database.isTyped .database = true)
    {script : String}
    (scripted : (scripter.fullScript database).result = .ok script) :
    ((database.moduleDefinitions.filter convention.lacksSeparator).map endLine).Subperm
      (convention.batches script) := by
  have isolates := isolates_fullScript isMicrosoftSql typed script scripted
  exact ((((definitionsInParts_perm database).filter _).map endLine).symm.subperm).trans
    (isolates.sublist_batches convention).subperm

end MicrosoftSql

/-- A function, a procedure that holds a separator, a trigger and a view with an index. -/
private def moduleDatabase : Value :=
  let named (name : String) : List (String × Value) :=
    [("name", .text name), ("schema", .text "dbo")]
  let defined (name definition : String) : List (String × Value) :=
    named name ++ [("definition", .text definition)]
  .filled .database [
    ("name", .text "d"), ("dialect", .member (.dialect .microsoftSql)),
    ("tables", .list [.filled .table (named "t" ++ [
      ("columns", .list [.filled .microsoftSqlColumn [
        ("name", .text "id"), ("data_type", .text "int"), ("ordinal_position", .int 1)]]),
      ("triggers", .list [.filled .trigger (defined "touch" "CREATE TRIGGER touch\n")])])]),
    ("functions", .list [.filled .function (defined "f" "CREATE FUNCTION f\r\nGOTO")]),
    ("stored_procedures", .list [
      .filled .storedProcedure (defined "p" "CREATE PROCEDURE p\nGO\nSELECT 1")]),
    ("views", .list [.filled .view (named "v" ++ [
      ("view_definition", .text "CREATE VIEW v"),
      ("indexes", .list [.filled .microsoftSqlIndex (named "i" ++ [
        ("column_name", .text "id"), ("ordinal_position", .int 1)])])])])]

/-- The definitions that hold no separator are batches of their own, whatever ends a line. -/
theorem batches_of_moduleDatabase :
    ∃ script, (fullScript { dialect := .microsoftSql } moduleDatabase).result = .ok script ∧
      ∀ convention ∈ [LineConvention.lineFeeds, LineConvention.boundaries],
        ["CREATE FUNCTION f\r\nGOTO\n", "CREATE TRIGGER touch\n", "CREATE VIEW v\n"].Subperm
          (convention.batches script) := by
  have typed : moduleDatabase.isTyped .database = true := by decide +kernel
  have scripts : (fullScript { dialect := .microsoftSql }
      moduleDatabase).result.toOption.isSome = true := by
    decide +kernel
  have definitions : ∀ convention ∈ [LineConvention.lineFeeds, LineConvention.boundaries],
      (moduleDatabase.moduleDefinitions.filter convention.lacksSeparator).map endLine =
        ["CREATE FUNCTION f\r\nGOTO\n", "CREATE TRIGGER touch\n", "CREATE VIEW v\n"] := by
    rw [List.forall_mem_cons, List.forall_mem_singleton]
    decide +kernel
  rcases Attempt.exists_ok_of_isSome scripts with ⟨script, scripted, _⟩
  refine ⟨script, scripted, fun convention member => ?_⟩
  rw [← definitions convention member]
  exact moduleDefinitions_subperm_batches rfl convention typed scripted

end Scripter

end SchemaDelta
