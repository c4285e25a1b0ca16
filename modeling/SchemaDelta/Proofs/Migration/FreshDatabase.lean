import SchemaDelta.Proofs.Migration.Contents
import SchemaDelta.Proofs.Migration.FreshPlan

/-!
# Migrations into databases without objects

A migration into a database that has no objects says what the full script of its source says, in an
order of its own.  It fails by scripting where the full script does.
-/

namespace SchemaDelta

open Attempt (bind_eq_ok_iff exists_ok_of_isSome)
open Value (listing sortedOn)

/--
A script creates a database: it is made of the texts of all statements about the objects of the
database, in some order.
-/
def Scripter.Creates
    (scripter : Scripter)
    (database : Value)
    (script : String) : Prop :=
  ∃ all texts, scripter.statementTexts (.list (database.rows "data_types"))
      database.objectStatements = .ok all ∧
    texts.Perm all ∧ scripter.dialect.MadeOf texts script

/-- The phase is about tables in the order of their creation. -/
def Phase.needsTables : Phase → Bool
  | tables | constraints | foreignKeys => true
  | _ => false

namespace Migration

/-! ## Statements of phases -/

/-- The statements about the paired objects of a kind. -/
def pairedStatements
    (migration : Migration)
    (kind : ObjectKind) : List ObjectStatement :=
  (migration.paired kind).flatMap fun object => object.statementsAs kind

/-- The statements of the parts of a phase, given the tables in the order of their creation. -/
def partStatements
    (migration : Migration)
    (tables : List Value) : Phase → List (List ObjectStatement)
  | .drops => [[], [], [], [], [], [], []]
  | .types => [migration.pairedStatements .dataTypes, migration.pairedStatements .sequences]
  | .tables => [tables.flatMap fun table => table.statementsAs .tables, []]
  | .constraints => [tables.flatMap Value.keyStatements]
  | .foreignKeys => [tables.flatMap Value.foreignKeyStatements, []]
  | .programmability => [
    migration.pairedStatements .functions, migration.pairedStatements .procedures,
    migration.pairedStatements .triggers, migration.pairedStatements .views]

/-- The statements of all parts, given the tables in the order of their creation. -/
def createdStatements
    (migration : Migration)
    (tables : List Value) : List ObjectStatement :=
  Phase.all.flatMap fun phase => (migration.partStatements tables phase).flatten

/-- The statements that come before the functions. -/
private def statementsBefore
    (migration : Migration)
    (tables : List Value) : List ObjectStatement :=
  migration.pairedStatements .dataTypes ++ migration.pairedStatements .sequences ++
    (tables.flatMap fun table => table.statementsAs .tables) ++
      tables.flatMap Value.keyStatements ++ tables.flatMap Value.foreignKeyStatements

/-- The statements that come behind the functions. -/
private def statementsBehind
    (migration : Migration) : List ObjectStatement :=
  migration.pairedStatements .procedures ++ migration.pairedStatements .triggers ++
    migration.pairedStatements .views

/-- The statements about a kind; tables stand in the order of their creation. -/
private def statementsInMigration
    (migration : Migration)
    (tables : List Value) : ObjectKind → List ObjectStatement
  | .tables => tables.flatMap fun table => table.statementsAs .tables
  | kind => migration.pairedStatements kind

/-- The heading of a phase consists of comments and an empty line. -/
private theorem madeOf_phaseHeading
    (dialect : Dialect)
    (phase : Phase) :
    dialect.MadeOf [] (Text.ofLines (phaseHeading phase)) := by
  have banner : dialect.Filler (bannerLine ++ "\n") := .comment (by decide)
  have title : dialect.Filler
      ("-- PHASE " ++ toString phase.number ++ ": " ++ phase.title ++ "\n") := by
    have oneLine : '\n' ∉ ("PHASE " ++ toString phase.number ++ ": " ++ phase.title).toList := by
      cases phase <;> decide
    have marked : "-- PHASE " = "-- " ++ "PHASE " := by decide
    have filler : dialect.Filler _ := .comment oneLine
    simpa only [marked, String.append_assoc] using filler
  simp only [phaseHeading, headingLines, List.cons_append, List.nil_append, Text.ofLines_cons,
    Text.ofLines_nil]
  exact .filler banner (.filler title (.filler banner (Dialect.madeOf_filler .lineBreak)))

variable {migration : Migration}

private theorem rendersLines_of_planned
    {types : Value}
    {part : Part}
    {items : List Value}
    {activity things : String}
    {action : Value → MigrationAction}
    {statementsOf : Value → List ObjectStatement}
    (planned : part [] = .ok (MigrationSection.ofItems activity things items action))
    (activityPlain : '\n' ∉ activity.toList)
    (thingsPlain : '\n' ∉ things.toList)
    (renders : ∀ item ∈ items, migration.scripter.RendersLines types (statementsOf item)
      ((action item).lines migration.scripter).result) :
    migration.scripter.RendersLines types (items.flatMap statementsOf)
      (migration.partLines part) := by
  rw [partLines, planned]
  exact rendersLines_ofItems activityPlain thingsPlain renders

private theorem rendersLines_of_nothing
    {types : Value}
    {part : Part}
    (planned : part [] = .ok []) :
    migration.scripter.RendersLines types [] (migration.partLines part) := by
  rw [partLines, planned]
  exact Scripter.rendersLines_of_madeOf .nothing

/-- Statements that only some items have. -/
private theorem flatMap_filter
    {statementsOf : Value → List ObjectStatement}
    {test : Value → Bool}
    (items : List Value) :
    (items.filter test).flatMap statementsOf =
      items.flatMap fun item => if test item then statementsOf item else [] := by
  induction items with
  | nil => rfl
  | cons item items ih =>
      rw [List.filter_cons, List.flatMap_cons]
      split
      · rw [List.flatMap_cons, ih]
      · rw [ih, List.nil_append]

/-- Items of which only some are acted on have statements where they are acted on. -/
private theorem rendersLines_of_filtered
    {types : Value}
    {part : Part}
    {items : List Value}
    {test : Value → Bool}
    {activity things : String}
    {action : Value → MigrationAction}
    {statementsOf : Value → List ObjectStatement}
    (planned : part [] =
      .ok (MigrationSection.ofItems activity things (items.filter test) action))
    (activityPlain : '\n' ∉ activity.toList)
    (thingsPlain : '\n' ∉ things.toList)
    (renders : ∀ item ∈ items, migration.scripter.RendersLines types (statementsOf item)
      ((action item).lines migration.scripter).result) :
    migration.scripter.RendersLines types
      (items.flatMap fun item => if test item then statementsOf item else [])
      (migration.partLines part) := by
  rw [← flatMap_filter]
  exact rendersLines_of_planned planned activityPlain thingsPlain fun item member =>
    renders item (List.mem_of_mem_filter member)

private theorem createdStatements_eq
    (tables : List Value) :
    migration.createdStatements tables = migration.statementsBefore tables ++
      (migration.pairedStatements .functions ++ migration.statementsBehind) := by
  simp only [createdStatements, statementsBefore, statementsBehind, partStatements, Phase.all,
    List.flatten_cons, List.flatten_nil, List.flatMap_cons, List.flatMap_nil, List.append_nil,
    List.nil_append, List.append_assoc]

private theorem isFunction_of_mem_before
    (tables : List Value) :
    ∀ statement ∈ migration.statementsBefore tables, statement.isFunction = false := by
  simp only [statementsBefore, List.forall_mem_append]
  exact ⟨⟨⟨⟨Value.isFunction_of_mem_flatMap (by decide) _,
    Value.isFunction_of_mem_flatMap (by decide) _⟩,
    Value.isFunction_of_mem_flatMap (by decide) _⟩, Value.isFunction_of_mem_flatMap_keys _⟩,
    Value.isFunction_of_mem_flatMap_foreignKeys _⟩

private theorem isFunction_of_mem_behind :
    ∀ statement ∈ migration.statementsBehind, statement.isFunction = false := by
  simp only [statementsBehind, List.forall_mem_append]
  exact ⟨⟨Value.isFunction_of_mem_flatMap (by decide) _,
    Value.isFunction_of_mem_flatMap (by decide) _⟩, Value.isFunction_of_mem_flatMap (by decide) _⟩

namespace IsFresh

variable (fresh : migration.IsFresh)

include fresh

/-- The parts of a phase render their statements. -/
private theorem rendersLines_parts
    {tables : List Value}
    (phase : Phase)
    (created : phase.needsTables = true → migration.newTables = .ok tables) :
    List.Forall₂ (fun statements part => migration.scripter.RendersLines
        migration.sourceTypes statements (migration.partLines part))
      (migration.partStatements tables phase) (migration.parts phase) := by
  have tablesTyped : phase.needsTables = true → ∀ table ∈ tables, table.isTyped .table = true :=
    fun needs table member => tables_isTyped fresh.source table
      ((fresh.newTables_subperm (created needs)).subset member)
  have creates : ∀ kind, ∀ object ∈ migration.paired kind,
      migration.scripter.RendersLines migration.sourceTypes (object.statementsAs kind)
        ((MigrationAction.creating migration.sourceTypes kind object).lines
          migration.scripter).result :=
    fun kind object member =>
      Scripter.rendersLines_creating (fresh.isTyped_of_mem_paired object member)
  have drop : ∀ kind action, migration.scripter.RendersLines migration.sourceTypes []
      (migration.partLines (migration.dropPart kind action)) :=
    fun kind action => rendersLines_of_nothing (fresh.dropPart_eq kind action)
  cases phase with
  | drops =>
      exact .cons (drop .views _) (.cons (drop .triggers _) (.cons (drop .procedures _)
        (.cons (rendersLines_of_nothing fresh.dropFunctionPart_eq)
          (.cons (rendersLines_of_nothing fresh.dropTablePart_eq)
            (.cons (drop .sequences _) (.cons (drop .dataTypes _) .nil))))))
  | types =>
      exact .cons (rendersLines_of_planned fresh.typePart_eq (by decide) (by decide) (creates _))
        (.cons (rendersLines_of_planned fresh.sequencePart_eq (by decide) (by decide) (creates _))
          .nil)
  | tables =>
      refine .cons
        (rendersLines_of_planned (newTablePart_eq (created rfl)) (by decide) (by decide) ?_)
        (.cons (rendersLines_of_nothing fresh.alterTablePart_eq) .nil)
      exact fun table member => Scripter.rendersLines_creating (tablesTyped rfl table member)
  | constraints =>
      refine .cons ?_ .nil
      exact rendersLines_of_filtered (fresh.newKeyPart_eq (created rfl)) (by decide) (by decide)
        fun table member => Scripter.rendersLines_addKeysAndIndexes (tablesTyped rfl table member)
  | foreignKeys =>
      refine .cons ?_ (.cons (rendersLines_of_nothing fresh.addedForeignKeyPart_eq) .nil)
      exact rendersLines_of_filtered (fresh.newForeignKeyPart_eq (created rfl)) (by decide)
        (by decide) fun table member =>
          Scripter.rendersLines_addTableForeignKeys (tablesTyped rfl table member)
  | programmability =>
      exact .cons (rendersLines_of_planned (fresh.programmabilityPart_eq .functions rfl)
          (by decide) (by decide) (creates _))
        (.cons (rendersLines_of_planned (fresh.programmabilityPart_eq .procedures rfl)
            (by decide) (by decide) (creates _))
          (.cons (rendersLines_of_planned (fresh.programmabilityPart_eq .triggers rfl)
              (by decide) (by decide) (creates _))
            (.cons (rendersLines_of_planned (fresh.programmabilityPart_eq .views rfl)
              (by decide) (by decide) (creates _)) .nil)))

/-- The phases render the statements of their parts. -/
private theorem rendersLines_phase
    (tables : List Value)
    (phase : Phase)
    (created : phase.needsTables = true → migration.newTables = .ok tables) :
    migration.scripter.RendersLines migration.sourceTypes
      (migration.partStatements tables phase).flatten (migration.phaseLines phase) := by
  have parts := fresh.rendersLines_parts phase created
  have lines := Scripter.rendersLines_flatten (List.forall₂_map_right_iff.mpr parts)
  rw [List.mapM_map] at lines
  have together := lines.headed (madeOf_phaseHeading _ phase)
  simp only [bind_assoc, pure_bind] at together
  exact together

/-! ## Statements of all phases -/

private theorem pairedStatements_perm
    (kind : ObjectKind) :
    (migration.pairedStatements kind).Perm
      ((migration.source.objectsIn kind).flatMap fun object => object.statementsAs kind) :=
  (fresh.paired_perm kind).flatMap_right _

/-- A migration says all there is to say about its source, in an order of its own. -/
private theorem createdStatements_perm
    {tables : List Value}
    (created : tables.Perm (migration.source.rows "tables")) :
    (migration.createdStatements tables).Perm migration.source.objectStatements := by
  have kinds : ∀ kind, (migration.statementsInMigration tables kind).Perm
      ((migration.source.objectsIn kind).flatMap fun object => object.statementsAs kind) := by
    intro kind
    cases kind with
    | tables => exact created.flatMap_right _
    | _ => exact fresh.pairedStatements_perm _
  refine .trans ?_ (Value.perm_objectStatements kinds (created.flatMap_right Value.keyStatements)
    (created.flatMap_right Value.foreignKeyStatements))
  simp only [createdStatements, partStatements, Phase.all, ObjectKind.all, List.flatten_cons,
    List.flatten_nil, List.flatMap_cons, List.flatMap_nil, List.append_nil, List.nil_append,
    statementsInMigration]
  simp only [← Multiset.coe_eq_coe, ← Multiset.coe_add]
  ac_rfl

private theorem rendersLines_phases
    {tables : List Value}
    (created : migration.newTables = .ok tables) :
    migration.scripter.RendersLines migration.sourceTypes (migration.createdStatements tables)
      (do return (← Phase.all.mapM migration.phaseLines).flatten) :=
  Scripter.rendersLines_flatMap fun phase _ =>
    fresh.rendersLines_phase tables phase fun _ => created

/-! ## Order of tables -/

private theorem nodup_fullNames :
    ((migration.source.rows "tables").map Value.fullName).Nodup :=
  Dialect.TellsTablesApart.nodup_fullNames (fresh.distinct .tables)

/-- Full scripts and migrations create tables in the same order. -/
private theorem newTables_eq_listed :
    migration.newTables = migration.scripter.dialect.sortTables false
      (.list (sortedOn listing (migration.source.rows "tables"))) := by
  rw [fresh.newTables_eq, Dialect.sortTables_congr (tables_isTyped fresh.source)
    fresh.nodup_fullNames (Value.sortedOn_perm listing _)]

private theorem newTables_perm
    {tables : List Value}
    (created : migration.newTables = .ok tables) :
    tables.Perm (migration.source.rows "tables") := by
  rw [fresh.newTables_eq] at created
  exact Dialect.sortTables_perm (tables_isTyped fresh.source) fresh.nodup_fullNames created

/-! ## Failures -/

private theorem sourceTypes_isTyped :
    ∀ type ∈ migration.source.rows "data_types", type.isTyped .dataType = true :=
  fun _ member =>
    Value.isTyped_of_mem_rows fresh.source ObjectClass.database_declares_data_types member

/-- Statements that create no functions fail only by scripting. -/
private theorem failsByScripting_statementText
    {statement : ObjectStatement}
    (typed : statement.IsTyped)
    (usual : migration.scripter.dialect = .postgreSql → statement.isFunction = false) :
    Attempt.FailsByScripting
      (migration.scripter.statementText migration.sourceTypes statement) :=
  Scripter.failsByScripting_statementText fresh.sourceTypes_isTyped typed usual

/-- What a full script says before the functions a migration says before them, too. -/
private theorem exists_fullStatements_eq
    (tables : List Value) :
    ∃ early late, migration.source.fullStatements tables = early ++
        (Value.listedStatements .functions (migration.source.objectsIn .functions) ++ late) ∧
      early ⊆ migration.statementsBefore tables := by
  have paired : ∀ kind, Value.listedStatements kind (migration.source.objectsIn kind) ⊆
      migration.pairedStatements kind := fun kind =>
    ((Value.listedStatements_perm kind _).trans (fresh.pairedStatements_perm kind).symm).subset
  have full : ∃ late, migration.source.fullStatements tables =
      (Value.listedStatements .dataTypes (migration.source.objectsIn .dataTypes) ++
        Value.listedStatements .sequences (migration.source.objectsIn .sequences) ++
          tables.flatMap fun table => table.statementsAs .tables) ++
        (Value.listedStatements .functions (migration.source.objectsIn .functions) ++ late) := by
    simp only [Value.fullStatements, List.flatten_cons, List.append_assoc]
    exact ⟨_, rfl⟩
  rcases full with ⟨late, full⟩
  refine ⟨_, late, full, fun statement member => ?_⟩
  simp only [statementsBefore, List.mem_append] at member ⊢
  rcases member with (ofTypes | ofSequences) | ofTables
  · exact .inl (.inl (.inl (.inl (paired _ ofTypes))))
  · exact .inl (.inl (.inl (.inr (paired _ ofSequences))))
  · exact .inl (.inl (.inr ofTables))

/-- What a full script fails by tells by what a migration fails. -/
private theorem isScripting_of_statementTexts
    {tables : List Value}
    (created : migration.newTables = .ok tables)
    {failure other : ScriptFailure}
    (failed : migration.scripter.statementTexts migration.sourceTypes
      (migration.source.fullStatements tables) = .error failure)
    (isScripting : failure.isScripting = true)
    (otherFailed : migration.scripter.statementTexts migration.sourceTypes
      (migration.createdStatements tables) = .error other) :
    other.isScripting = true := by
  have typed : ∀ statement ∈ migration.createdStatements tables, statement.IsTyped :=
    fun statement member => Value.isTyped_of_mem_objectStatements fresh.source
      ((fresh.createdStatements_perm (fresh.newTables_perm created)).subset member)
  by_cases isPostgreSql : migration.scripter.dialect = .postgreSql
  · -- Only functions can fail in other ways, and both scripts have them in the order of names.
    have functions : migration.pairedStatements .functions =
        Value.listedStatements .functions (migration.source.objectsIn .functions) := by
      rw [pairedStatements, fresh.paired_eq_listed isPostgreSql]
      rfl
    rcases fresh.exists_fullStatements_eq tables with ⟨early, late, full, subset⟩
    rw [full] at failed
    rw [createdStatements_eq, functions] at otherFailed typed
    have usual : ∀ {statements : List ObjectStatement},
        (∀ statement ∈ statements, statement.IsTyped) →
        (∀ statement ∈ statements, statement.isFunction = false) →
        ∀ statement ∈ statements, Attempt.FailsByScripting
          (migration.scripter.statementText migration.sourceTypes statement) :=
      fun typed usual statement member =>
        fresh.failsByScripting_statementText (typed statement member)
          fun _ => usual statement member
    rcases List.forall_mem_append.mp typed with ⟨typedBefore, typedRest⟩
    exact Attempt.isScripting_of_shared subset (usual typedBefore (isFunction_of_mem_before tables))
      (usual (List.forall_mem_append.mp typedRest).2 isFunction_of_mem_behind)
      failed isScripting otherFailed
  · exact Attempt.failsByScripting_mapM (fun statement member =>
      fresh.failsByScripting_statementText (typed statement member)
        fun impossible => absurd impossible isPostgreSql) other otherFailed

/-! ## Scripts -/

/-- A migration runs all its phases under the opening lines. -/
private theorem result_generate
    (dropped : List Value) :
    ∃ line opening, migration.preamble = .ok (line :: opening) ∧
      (Generator.generate ⟨migration, dropped⟩).1.result = (do
        let phases ← Phase.all.mapM migration.phaseLines
        return Text.ofLines (line :: opening) ++ Text.ofLines phases.flatten) := by
  rcases Value.exists_dialect fresh.target with ⟨dialect, dialectRead, _⟩
  have sourceName : migration.source.part "name" = .ok (.text (migration.source.letters "name")) :=
    Value.part_text_of_isTyped fresh.source (by decide)
  have targetName : migration.target.part "name" = .ok (.text (migration.target.letters "name")) :=
    Value.part_text_of_isTyped fresh.target (by decide)
  have dialectNamed : ∃ name, dialectValue migration.target = .ok name := by
    rw [dialectValue, dialectRead]
    cases dialect <;> exact ⟨_, rfl⟩
  rcases dialectNamed with ⟨name, dialectOk⟩
  have begins : ∃ lines, migration.preamble = .ok (bannerLine :: lines) := by
    rw [preamble, sourceName, targetName, dialectOk]
    exact ⟨_, rfl⟩
  rcases begins with ⟨lines, opening⟩
  refine ⟨_, _, opening, ?_⟩
  rw [result_generate_of_isQuiet fresh.checkDialects_ok fresh.isQuiet_of_mem_parts, opening,
    phases_eq_all fresh.complete]
  simp only [Attempt.ok_bind, List.cons_append, Text.intercalate_lineBreak]
  simp only [← List.cons_append, Text.ofLines_append]

/-- Tables without an order of creation end a migration as a failure of scripting. -/
private theorem fails_of_newTables
    {failure : ScriptFailure}
    (failed : migration.newTables = .error failure) :
    ∃ other, Phase.all.mapM migration.phaseLines = .error other ∧ other.isScripting = true := by
  have paired : ∀ kind, kind ≠ .functions → ∀ statement ∈ migration.pairedStatements kind,
      Attempt.FailsByScripting
        (migration.scripter.statementText migration.sourceTypes statement) := by
    intro kind other statement member
    refine fresh.failsByScripting_statementText ?_ fun _ =>
      Value.isFunction_of_mem_flatMap other _ statement member
    rcases List.mem_flatMap.mp member with ⟨object, held, said⟩
    exact Value.isTyped_of_mem_statementsAs (fresh.isTyped_of_mem_paired object held) said
  have drops : Attempt.FailsByScripting (migration.phaseLines .drops) :=
    (fresh.rendersLines_phase [] .drops nofun).failsByScripting
      (Attempt.failsByScripting_ok [])
  have types : Attempt.FailsByScripting (migration.phaseLines .types) := by
    refine (fresh.rendersLines_phase [] .types nofun).failsByScripting
      (Attempt.failsByScripting_mapM ?_)
    simp only [partStatements, List.flatten_cons, List.flatten_nil, List.append_nil,
      List.forall_mem_append]
    exact ⟨paired .dataTypes (by decide), paired .sequences (by decide)⟩
  have unresolved : failure.isScripting = true := by
    rw [fresh.newTables_eq] at failed
    rw [ScriptFailure.isScripting, Dialect.family_of_sortTables (tables_isTyped fresh.source)
      fresh.nodup_fullNames failed]
  have tables : migration.phaseLines .tables = .error failure := by
    simp only [phaseLines, parts, tableParts, List.mapM_cons, partLines, newTablePart, failed]
    rfl
  have fails : Attempt.FailsByScripting (Phase.all.mapM migration.phaseLines) := by
    rw [Phase.all, List.mapM_cons, List.mapM_cons, List.mapM_cons, tables]
    exact drops.andThen fun _ => (types.andThen fun _ =>
      Attempt.FailsByScripting.map (Attempt.failsByScripting_error unresolved)).map
  cases run : Phase.all.mapM migration.phaseLines with
  | error other => exact ⟨other, rfl, fails other run⟩
  | ok lines =>
      rcases Attempt.exists_ok_of_mapM run .tables (by decide) with ⟨_, impossible⟩
      cases tables.symm.trans impossible

/-- What a migration writes where the full script of its source can be written. -/
private theorem exists_script
    (dropped : List Value)
    {full : String}
    (scripted : (migration.scripter.fullScript migration.source).result = .ok full) :
    migration.scripter.Creates migration.source full ∧
      ∃ opening script, migration.preamble = .ok opening ∧
        (Generator.generate ⟨migration, dropped⟩).1.result =
          .ok (Text.ofLines opening ++ script) ∧
        migration.scripter.Creates migration.source script := by
  rcases Scripter.exists_sortTables_of_fullScript fresh.source scripted with ⟨tables, sorted⟩
  have created : migration.newTables = .ok tables := fresh.newTables_eq_listed.trans sorted
  have inOrder := fresh.newTables_perm created
  have rendersFull := Scripter.renders_fullScript fresh.source sorted
  cases run : migration.scripter.statementTexts migration.sourceTypes
      (migration.source.fullStatements tables) with
  | error failure => cases (rendersFull.fails failure run).symm.trans scripted
  | ok texts =>
      rcases rendersFull.succeeds texts run with ⟨text, textOk, made⟩
      cases textOk.symm.trans scripted
      have fullPerm := Value.fullStatements_perm inOrder
      rcases Attempt.exists_mapM_ok_of_perm run fullPerm.symm with ⟨all, allOk, allPerm⟩
      rcases Attempt.exists_mapM_ok_of_perm allOk (fresh.createdStatements_perm inOrder) with
        ⟨others, othersOk, othersPerm⟩
      rcases (fresh.rendersLines_phases created).succeeds others othersOk with
        ⟨script, scriptOk, scriptMade⟩
      rcases fresh.result_generate dropped with ⟨line, opening, openingOk, generated⟩
      rcases bind_eq_ok_iff.mp scriptOk with ⟨lines, linesOk, equal⟩
      cases equal
      rcases bind_eq_ok_iff.mp linesOk with ⟨phases, phasesOk, equal⟩
      cases equal
      rw [phasesOk] at generated
      exact ⟨⟨all, texts, allOk, allPerm.symm, made⟩, line :: opening, _, openingOk, generated,
        all, others, allOk, othersPerm, scriptMade⟩

/-- Where the full script of its source fails by scripting, a migration does so, too. -/
private theorem exists_failure
    (dropped : List Value)
    {failure : ScriptFailure}
    (failed : (migration.scripter.fullScript migration.source).result = .error failure)
    (isScripting : failure.isScripting = true) :
    ∃ other, (Generator.generate ⟨migration, dropped⟩).1.result = .error other ∧
      other.isScripting = true := by
  rcases fresh.result_generate dropped with ⟨line, opening, openingOk, generated⟩
  have phasesFail : ∃ other, Phase.all.mapM migration.phaseLines = .error other ∧
      other.isScripting = true := by
    cases created : migration.newTables with
    | error reason => exact fresh.fails_of_newTables created
    | ok tables =>
        have sorted := fresh.newTables_eq_listed.symm.trans created
        have rendersFull := Scripter.renders_fullScript fresh.source sorted
        cases run : migration.scripter.statementTexts migration.sourceTypes
            (migration.source.fullStatements tables) with
        | ok texts =>
            rcases rendersFull.succeeds texts run with ⟨text, textOk, _⟩
            cases textOk.symm.trans failed
        | error reason =>
            cases (rendersFull.fails reason run).symm.trans failed
            have inOrder := fresh.newTables_perm created
            have perm := (Value.fullStatements_perm inOrder).trans
              (fresh.createdStatements_perm inOrder).symm
            cases otherRun : migration.scripter.statementTexts migration.sourceTypes
                (migration.createdStatements tables) with
            | ok others =>
                rcases Attempt.exists_mapM_ok_of_perm otherRun perm with ⟨texts, fullOk, _⟩
                cases run.symm.trans fullOk
            | error other =>
                have ended := (fresh.rendersLines_phases created).fails other otherRun
                refine ⟨other, ?_,
                  fresh.isScripting_of_statementTexts created run isScripting otherRun⟩
                cases phasesRun : Phase.all.mapM migration.phaseLines with
                | ok phases =>
                    rw [phasesRun] at ended
                    cases ended
                | error reason =>
                    rw [phasesRun] at ended
                    cases ended
                    rfl
  rcases phasesFail with ⟨other, phasesOther, otherScripting⟩
  rw [phasesOther] at generated
  exact ⟨other, generated, otherScripting⟩

end IsFresh

end Migration

/-! ## Main result -/

namespace Generator

/--
A migration of all phases into a database of the same dialect that has no objects agrees with the
full script of its source, whose objects have names of their own.  If there is a full script, the
migration succeeds, and what it writes under its opening lines is made of the same texts of
statements, up to their order, to comments, to separators of batches and to line feeds at the end of
texts.  If the full script fails by scripting, so does the migration.
-/
theorem creates_source_in_vacant_target
    (scripter : Scripter)
    {source target : Value}
    (sourceTyped : source.isTyped .database = true)
    (targetTyped : target.isTyped .database = true)
    (sourceDialect : source.get "dialect" = .member (.dialect scripter.dialect))
    (targetDialect : target.get "dialect" = .member (.dialect scripter.dialect))
    (vacant : target.IsVacant)
    (distinct : ∀ kind, ((source.objectsIn kind).map scripter.dialect.nameOf).Nodup)
    (dropped : List Value) :
    ∃ comparison, (Comparison.between source target).result = .ok comparison ∧
      let generator : Generator := ⟨⟨source, target, comparison, scripter, fun _ => true⟩, dropped⟩
      (∀ full, (scripter.fullScript source).result = .ok full →
        scripter.Creates source full ∧
          ∃ opening script, generator.migration.preamble = .ok opening ∧
            generator.generate.1.result = .ok (Text.ofLines opening ++ script) ∧
              scripter.Creates source script) ∧
        ∀ failure, (scripter.fullScript source).result = .error failure →
          failure.isScripting = true →
            ∃ other, generator.generate.1.result = .error other ∧ other.isScripting = true := by
  have compared := Comparison.between_ok sourceTyped targetTyped
  refine ⟨_, compared, ?_⟩
  have fresh : Migration.IsFresh ⟨source, target, _, scripter, fun _ => true⟩ :=
    ⟨⟨sourceTyped, targetTyped, compared⟩, sourceDialect, targetDialect, vacant, distinct,
      fun _ => rfl⟩
  exact ⟨fun full scripted => fresh.exists_script dropped scripted,
    fun failure failed isScripting => fresh.exists_failure dropped failed isScripting⟩

/-- Two tables with a key and a foreign key are created as in their full script. -/
theorem creates_source_in_vacant_target_linked :
    ∃ full comparison opening script,
      (Scripter.fullScript { dialect := .postgreSql }
        (.plainDatabase "s" (linkedTables "integer" "o"))).result = .ok full ∧
      (Comparison.between (.plainDatabase "s" (linkedTables "integer" "o"))
        (.plainDatabase "d" [])).result = .ok comparison ∧
      (generate ⟨⟨.plainDatabase "s" (linkedTables "integer" "o"), .plainDatabase "d" [],
        comparison, { dialect := .postgreSql }, fun _ => true⟩, []⟩).1.result =
          .ok (Text.ofLines opening ++ script) ∧
      Scripter.Creates { dialect := .postgreSql }
        (.plainDatabase "s" (linkedTables "integer" "o")) full ∧
      Scripter.Creates { dialect := .postgreSql }
        (.plainDatabase "s" (linkedTables "integer" "o")) script := by
  have vacant : (Value.plainDatabase "d" []).IsVacant := fun kind => by cases kind <;> rfl
  have distinct : ∀ kind, (((Value.plainDatabase "s" (linkedTables "integer" "o")).objectsIn
      kind).map Dialect.postgreSql.nameOf).Nodup := fun kind => by cases kind <;> decide
  have scripts : (Scripter.fullScript { dialect := .postgreSql }
      (.plainDatabase "s" (linkedTables "integer" "o"))).result.toOption.isSome = true := by
    decide +kernel
  rcases exists_ok_of_isSome scripts with ⟨full, scripted, _⟩
  rcases creates_source_in_vacant_target { dialect := .postgreSql }
      (linkedTables_isTyped "s" "integer" "o")
      (Value.isTyped_plainDatabase "d" (List.forall_mem_nil _)) rfl rfl vacant distinct [] with
    ⟨comparison, compared, succeeds, _⟩
  rcases succeeds full scripted with ⟨fullMade, opening, script, _, generated, made⟩
  exact ⟨full, comparison, opening, script, scripted, compared, generated, fullMade, made⟩

end Generator

end SchemaDelta
