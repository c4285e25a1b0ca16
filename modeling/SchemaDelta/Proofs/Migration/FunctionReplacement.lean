import SchemaDelta.Proofs.Ddl.Rearrangement
import SchemaDelta.Proofs.Migration.FunctionSignature

/-!
# Replaced functions

A function that differs is dropped by its signature in the target and created as the source has it.
Both are scripted among the types of the two databases together, those of the source in front.  Ids
belong to a database, so an id of the target may name a type of the source; then another function is
dropped than the one that the target has.
-/

namespace SchemaDelta

open Attempt (bind_eq_ok_iff)
open MigrationSection (actionsOf)

namespace Migration

variable {migration : Migration}

/-! ## Lines of phases -/

/-- A line of a script stands among the lines that are planned for a phase. -/
def ShowsIn
    (migration : Migration)
    (phase : Phase)
    (line script : String) : Prop :=
  ∃ plan dropped sections lines,
    migration.planPhases migration.phases [] = .ok (plan, dropped) ∧
      migration.Writes plan script ∧ (phase, sections) ∈ plan ∧
        migration.sectionLines sections = .ok lines ∧ line ∈ lines

/-- The sections of a plan with lines have lines. -/
private theorem exists_sectionLines_of_planLines
    {plan : MigrationPlan}
    {lines : List String}
    (linesOk : migration.planLines plan = .ok lines)
    {phase : Phase}
    {sections : List MigrationSection}
    (member : (phase, sections) ∈ plan) :
    ∃ own, migration.sectionLines sections = .ok own := by
  induction plan generalizing lines with
  | nil => cases member
  | cons entry plan ih =>
      rcases bind_eq_ok_iff.mp linesOk with ⟨own, ownOk, restRun⟩
      rcases bind_eq_ok_iff.mp restRun with ⟨rest, restOk, _⟩
      rcases List.mem_cons.mp member with rfl | later
      · exact ⟨own, ownOk⟩
      · exact ih restOk later

/-- The lines of sections are those of the actions in them, among others. -/
private theorem exists_lines_of_sectionLines
    {sections : List MigrationSection}
    {lines : List String}
    (linesOk : migration.sectionLines sections = .ok lines)
    {action : MigrationAction}
    (member : action ∈ actionsOf sections) :
    ∃ own, (action.lines migration.scripter).result = .ok own ∧ own ⊆ lines := by
  rcases bind_eq_ok_iff.mp linesOk with ⟨perSection, perSectionOk, equal⟩
  cases equal
  rcases List.mem_flatMap.mp member with ⟨part, partMember, actionMember⟩
  rcases Attempt.exists_mem_of_mapM perSectionOk part partMember with
    ⟨partLines, partListed, partOk⟩
  rw [MigrationSection.lines, Scripting.result_bind, Scripting.result_mapM] at partOk
  rcases bind_eq_ok_iff.mp partOk with ⟨perAction, perActionOk, equal⟩
  cases equal
  rcases Attempt.exists_mem_of_mapM perActionOk action actionMember with ⟨own, ownListed, ownOk⟩
  refine ⟨own, ownOk, fun line lineMember => List.mem_flatten.mpr ⟨_, partListed, ?_⟩⟩
  have inAction : line ∈ perAction.flatten := List.mem_flatten.mpr ⟨own, ownListed, lineMember⟩
  exact List.mem_append_left _ (List.mem_cons_of_mem _ inAction)

/-! ## Replacements -/

/-- The statements that drop a function among some types and create another one among others. -/
def ReplacesAmong
    (migration : Migration)
    (targetTypes sourceTypes source target : Value)
    (dropping creating : String) : Prop :=
  migration.scripter.dropFunction targetTypes target = .ok dropping ∧
    migration.scripter.createFunction sourceTypes source = .ok creating

/-- Each database resolves the signature of its own function. -/
def ReplacesApart
    (migration : Migration) : (source target : Value) → (dropping creating : String) → Prop :=
  migration.ReplacesAmong (typesOf [migration.target]) (typesOf [migration.source])

/-- The types of both databases resolve the signatures of both functions. -/
def ReplacesTogether
    (migration : Migration) : (source target : Value) → (dropping creating : String) → Prop :=
  migration.ReplacesAmong (typesOf [migration.source, migration.target])
    (typesOf [migration.source, migration.target])

/--
The types of both databases name the ids in the signature of a replaced function as the target does,
and those in the signature of the one that replaces it as the source does.
-/
def NamesSignaturesAlike
    (migration : Migration)
    (source target : Value) : Prop :=
  PostgreSql.NamesAlike (typesOf [migration.source, migration.target])
      (typesOf [migration.target]) target.inputTypeIds ∧
    PostgreSql.NamesAlike (typesOf [migration.source, migration.target])
      (typesOf [migration.source]) source.signatureTypeIds

section Replacement

variable {source target : Value}

/-- Functions that are paired as different are functions. -/
private theorem IsTyped.isTyped_of_differing
    (typed : migration.IsTyped)
    (differs : .different source target ∈ migration.comparison.pairings .functions) :
    source.isTyped .function = true ∧ target.isTyped .function = true := by
  rcases Comparison.isOf_of_mem_pairings typed.compared differs with
    ⟨sources, targets, sourcesOk, targetsOk, sourceMember, targetMember, _⟩
  exact ⟨Value.isTyped_of_mem_objectsOf typed.source sourcesOk source sourceMember,
    Value.isTyped_of_mem_objectsOf typed.target targetsOk target targetMember⟩

/-- The script of a function that differs drops the target and creates the source. -/
private theorem script_changeFunction_ok
    {scripter : Scripter}
    (onPostgreSql : scripter.dialect = .postgreSql)
    (sourceTyped : source.isTyped .function = true)
    (targetTyped : target.isTyped .function = true)
    {types : Value}
    {text : String}
    (scripted : ((MigrationAction.changeFunction types (.different source target)).script
      scripter).result = .ok text) :
    ∃ dropping creating, scripter.dropFunction types target = .ok dropping ∧
      scripter.createFunction types source = .ok creating ∧
        text = dropAndCreate dropping creating := by
  rw [MigrationAction.script, MigrationAction.scriptedPair, Scripting.result_guarded] at scripted
  rcases Value.isTyped_iff.mp sourceTyped with ⟨_, _, rfl, _, _⟩
  rcases Value.isTyped_iff.mp targetTyped with ⟨_, _, rfl, _, _⟩
  rcases scripter with ⟨dialect, options⟩
  cases onPostgreSql
  rcases bind_eq_ok_iff.mp scripted with ⟨dropping, droppingOk, creatingRun⟩
  rcases bind_eq_ok_iff.mp creatingRun with ⟨creating, creatingOk, equal⟩
  exact ⟨dropping, creating, droppingOk, creatingOk, (Except.ok.inj equal).symm⟩

/-- In the sixth phase a script replaces every function that differs. -/
private theorem IsTyped.exists_replacesTogether
    (typed : migration.IsTyped)
    (onPostgreSql : migration.scripter.dialect = .postgreSql)
    (runs : migration.includes .programmability = true)
    (differs : .different source target ∈ migration.comparison.pairings .functions)
    {plan : MigrationPlan}
    {final : List Value}
    {script : String}
    (planned : migration.planPhases migration.phases [] = .ok (plan, final))
    (writes : migration.Writes plan script) :
    ∃ dropping creating, migration.ReplacesTogether source target dropping creating ∧
      migration.ShowsIn .programmability
        (Text.trimLineFeeds (dropAndCreate dropping creating)) script := by
  rcases typed.exists_contentsIn planned with ⟨contents, _, phases⟩
  rcases exists_sections_of_phases phases runs with ⟨sections, planMember, actions⟩
  have changed : .different source target ∈ migration.changed .functions :=
    List.mem_filter.mpr ⟨differs, rfl⟩
  have member : .changeFunction (typesOf [migration.source, migration.target])
      (.different source target) ∈ actionsOf sections := by
    rw [actions]
    simp only [actionsIn, List.mem_append]
    exact .inl (.inl (.inl (List.mem_map_of_mem changed)))
  rcases id writes with ⟨_, lines, _, linesOk, _⟩
  rcases exists_sectionLines_of_planLines linesOk planMember with ⟨sectionLines, sectionLinesOk⟩
  rcases exists_lines_of_sectionLines sectionLinesOk member with ⟨own, ownOk, ownLines⟩
  rw [MigrationAction.lines, Scripting.result_bind] at ownOk
  rcases bind_eq_ok_iff.mp ownOk with ⟨text, textOk, equal⟩
  cases equal
  rcases typed.isTyped_of_differing differs with ⟨sourceTyped, targetTyped⟩
  rcases script_changeFunction_ok onPostgreSql sourceTyped targetTyped textOk with
    ⟨dropping, creating, droppingOk, creatingOk, rfl⟩
  exact ⟨dropping, creating, ⟨droppingOk, creatingOk⟩, plan, final, sections, sectionLines, planned,
    writes, planMember, sectionLinesOk, ownLines (List.mem_singleton_self _)⟩

private theorem typesOf_one
    (database : Value) :
    typesOf [database] = .list (database.rows "data_types") :=
  congrArg Value.list (List.flatMap_singleton _ _)

private theorem typesOf_two
    (database other : Value) :
    typesOf [database, other] =
      .list (database.rows "data_types" ++ other.rows "data_types") := by
  simp [typesOf]

private theorem dropFunction_eq
    {scripter : Scripter}
    (onPostgreSql : scripter.dialect = .postgreSql)
    {function : Value}
    (typed : function.isTyped .function = true)
    (types : Value) :
    scripter.dropFunction types function =
      PostgreSql.dropFunction scripter.options types function := by
  rcases scripter with ⟨dialect, options⟩
  cases onPostgreSql
  rw [Scripter.dropFunction, Value.required_ok typed]
  rfl

private theorem createFunction_eq
    {scripter : Scripter}
    (onPostgreSql : scripter.dialect = .postgreSql)
    {function : Value}
    (typed : function.isTyped .function = true)
    (types : Value) :
    scripter.createFunction types function =
      PostgreSql.createFunction scripter.options types function := by
  rcases scripter with ⟨dialect, options⟩
  cases onPostgreSql
  rw [Scripter.createFunction, Value.required_ok typed]
  rfl

/-- Functions that are replaced are functions of PostgreSQL. -/
private theorem ReplacesTogether.isTyped
    (onPostgreSql : migration.scripter.dialect = .postgreSql)
    (sourceTyped : source.isTyped .function = true)
    (targetTyped : target.isTyped .function = true)
    {dropping creating : String}
    (together : migration.ReplacesTogether source target dropping creating) :
    source.isTyped .postgreSqlFunction = true ∧ target.isTyped .postgreSqlFunction = true := by
  rcases together with ⟨dropped, created⟩
  rw [dropFunction_eq onPostgreSql targetTyped] at dropped
  rw [createFunction_eq onPostgreSql sourceTyped] at created
  rcases bind_eq_ok_iff.mp dropped with ⟨_, dropExpected, _⟩
  rcases bind_eq_ok_iff.mp created with ⟨_, createExpected, _⟩
  exact ⟨Value.isTyped_of_isA sourceTyped (Dialect.expect_ok_iff.mp createExpected),
    Value.isTyped_of_isA targetTyped (Dialect.expect_ok_iff.mp dropExpected)⟩

/-- Statements among the types of both databases are those of each where names are alike. -/
private theorem ReplacesTogether.apart
    (onPostgreSql : migration.scripter.dialect = .postgreSql)
    (sourceTyped : source.isTyped .function = true)
    (targetTyped : target.isTyped .function = true)
    {dropping creating : String}
    (together : migration.ReplacesTogether source target dropping creating)
    (alike : migration.NamesSignaturesAlike source target) :
    migration.ReplacesApart source target dropping creating := by
  rcases together.isTyped onPostgreSql sourceTyped targetTyped with ⟨sourceOwn, targetOwn⟩
  rcases together with ⟨dropped, created⟩
  unfold ReplacesApart ReplacesAmong
  rw [dropFunction_eq onPostgreSql targetTyped] at dropped ⊢
  rw [createFunction_eq onPostgreSql sourceTyped] at created ⊢
  exact ⟨(PostgreSql.dropFunction_of_namesAlike targetOwn _ alike.1).symm.trans dropped,
    (PostgreSql.createFunction_of_namesAlike sourceOwn _ alike.2).symm.trans created⟩

/--
Statements among the types of both databases are those of each only where names are alike, if no
name can be taken for more than one.
-/
private theorem ReplacesTogether.namesAlike
    (typed : migration.IsTyped)
    (onPostgreSql : migration.scripter.dialect = .postgreSql)
    (sourceTyped : source.isTyped .function = true)
    (targetTyped : target.isTyped .function = true)
    {dropping creating : String}
    (together : migration.ReplacesTogether source target dropping creating)
    (listable : Value.HaveListableNames
      (migration.source.rows "data_types" ++ migration.target.rows "data_types"))
    (apart : migration.ReplacesApart source target dropping creating) :
    migration.NamesSignaturesAlike source target := by
  rcases together.isTyped onPostgreSql sourceTyped targetTyped with ⟨sourceOwn, targetOwn⟩
  rcases together with ⟨dropped, created⟩
  rcases apart with ⟨apartDropped, apartCreated⟩
  rw [dropFunction_eq onPostgreSql targetTyped] at dropped apartDropped
  rw [createFunction_eq onPostgreSql sourceTyped] at created apartCreated
  rw [typesOf_two] at dropped created
  rw [typesOf_one] at apartDropped apartCreated
  have sourceTypes : ∀ type ∈ migration.source.rows "data_types", type.isTyped .dataType = true :=
    fun _ => Value.isTyped_of_mem_rows typed.source ObjectClass.database_declares_data_types
  have targetTypes : ∀ type ∈ migration.target.rows "data_types", type.isTyped .dataType = true :=
    fun _ => Value.isTyped_of_mem_rows typed.target ObjectClass.database_declares_data_types
  have allTypes := List.forall_mem_append.mpr ⟨sourceTypes, targetTypes⟩
  rcases List.forall_mem_append.mp listable with ⟨sourceListable, targetListable⟩
  rw [NamesSignaturesAlike, typesOf_two, typesOf_one, typesOf_one]
  exact ⟨PostgreSql.namesAlike_of_dropFunction allTypes listable targetTypes targetListable
      targetOwn dropped apartDropped,
    PostgreSql.namesAlike_of_createFunction allTypes listable sourceTypes sourceListable
      sourceOwn created apartCreated⟩

end Replacement

end Migration

namespace Generator

/--
In the sixth phase a script of PostgreSQL replaces each function that differs by statements that
resolve the signatures among the types of both databases.  They are the statements that resolve each
signature in its own database where its ids have the same names there, and only where they have, as
long as no name of a type can be taken for more than one.
-/
theorem replacesApart_iff_namesSignaturesAlike
    {generator : Generator}
    {script : String}
    {source target : Value}
    (typed : generator.migration.IsTyped)
    (onPostgreSql : generator.migration.scripter.dialect = .postgreSql)
    (runs : generator.migration.includes .programmability = true)
    (differs : .different source target ∈ generator.migration.comparison.pairings .functions)
    (generated : generator.generate.1.result = .ok script) :
    ∃ dropping creating,
      generator.migration.ReplacesTogether source target dropping creating ∧
        generator.migration.ShowsIn .programmability
          (Text.trimLineFeeds (dropAndCreate dropping creating)) script ∧
        (generator.migration.NamesSignaturesAlike source target →
          generator.migration.ReplacesApart source target dropping creating) ∧
        (Value.HaveListableNames (generator.migration.source.rows "data_types" ++
            generator.migration.target.rows "data_types") →
          generator.migration.ReplacesApart source target dropping creating →
            generator.migration.NamesSignaturesAlike source target) := by
  rcases exists_plan_of_generate generated with ⟨plan, final, planned, writes⟩
  rcases typed.isTyped_of_differing differs with ⟨sourceTyped, targetTyped⟩
  rcases typed.exists_replacesTogether onPostgreSql runs differs planned writes with
    ⟨dropping, creating, together, shown⟩
  exact ⟨dropping, creating, together, shown,
    together.apart onPostgreSql sourceTyped targetTyped,
    together.namesAlike typed onPostgreSql sourceTyped targetTyped⟩

/-- Enumerated types of one label, each with an id. -/
private def enumerated
    (types : List (String × Int)) : List Value :=
  types.map fun (name, typeId) => .filled .postgreSqlDataTypeEnumerated [
    ("name", .text name), ("schema", .text "public"), ("type_id", .int typeId),
    ("labels", .list [.text "a"])]

/-- A function from a type to itself. -/
private def endofunction
    (typeId : Int)
    (definition : String) : Value :=
  .filled .postgreSqlFunction [
    ("name", .text "f"), ("schema", .text "public"), ("definition", .text definition),
    ("return_type", .int typeId), ("external_language", .text "sql"),
    ("arg_types", .list [.int typeId])]

/-- The migration of a function on a type, between databases that each have an id for the type. -/
private def replacingFunction
    (sourceTypes targetTypes : List (String × Int))
    (source target : Value) : Generator :=
  between (databaseWith "s" sourceTypes source) (databaseWith "d" targetTypes target)
where
  databaseWith
      (name : String)
      (types : List (String × Int))
      (function : Value) : Value :=
    .filled .database [
      ("name", .text name), ("dialect", .member (.dialect .postgreSql)),
      ("data_types", .list (enumerated types)), ("functions", .list [function])]

/-- A type has different ids in the two databases, none of which is the id of another type. -/
private def renumbered : Generator :=
  replacingFunction [("mood", 50001)] [("mood", 60001)] (endofunction 50001 "SELECT 1")
    (endofunction 60001 "SELECT 2")

private theorem renumbered_isTyped : renumbered.migration.IsTyped :=
  between_isTyped (Value.isTyped_filled rfl rfl) (Value.isTyped_filled rfl rfl) rfl

private theorem renumbered_differs :
    .different (endofunction 50001 "SELECT 1") (endofunction 60001 "SELECT 2") ∈
      renumbered.migration.comparison.pairings .functions :=
  List.mem_singleton_self _

private theorem renumbered_namesSignaturesAlike :
    renumbered.migration.NamesSignaturesAlike (endofunction 50001 "SELECT 1")
      (endofunction 60001 "SELECT 2") := by
  constructor
  · exact List.forall_mem_singleton.mpr rfl
  · rw [Migration.typesOf_two, Migration.typesOf_one]
    refine PostgreSql.namesAlike_append (fun type => Value.isTyped_of_mem_rows
      renumbered_isTyped.source ObjectClass.database_declares_data_types) ?_
    have resolves : PostgreSql.Resolves (renumbered.migration.source.rows "data_types")
        (.int 50001) :=
      ⟨_, rfl, fun isArray => nomatch isArray⟩
    exact List.forall_mem_cons.mpr ⟨resolves, List.forall_mem_singleton.mpr resolves⟩

/-- A function on a renumbered type is dropped and created as each database knows it. -/
theorem replacesApart_of_renumberedType :
    ∃ script dropping creating, renumbered.generate.1.result = .ok script ∧
      renumbered.migration.ReplacesApart (endofunction 50001 "SELECT 1")
        (endofunction 60001 "SELECT 2") dropping creating ∧
        renumbered.migration.ShowsIn .programmability
          (Text.trimLineFeeds (dropAndCreate dropping creating)) script := by
  have generates : renumbered.generate.1.result.toOption.isSome = true := by
    decide +kernel
  rcases Attempt.exists_ok_of_isSome generates with ⟨script, generated, _⟩
  rcases replacesApart_iff_namesSignaturesAlike renumbered_isTyped rfl rfl renumbered_differs
    generated with ⟨dropping, creating, _, shown, apart, _⟩
  exact ⟨script, dropping, creating, generated, apart renumbered_namesSignaturesAlike, shown⟩

/-- Two types have each the id in one database that the other one has in the other database. -/
private def swapped : Generator :=
  replacingFunction [("color", 50001), ("mood", 50002)] [("mood", 50001), ("color", 50002)]
    (endofunction 50002 "SELECT 1") (endofunction 50001 "SELECT 2")

private theorem swapped_isTyped : swapped.migration.IsTyped :=
  between_isTyped (Value.isTyped_filled rfl rfl) (Value.isTyped_filled rfl rfl) rfl

/-- Of a function on a type with a swapped id another overload is dropped. -/
theorem replacesTogether_of_swappedIds :
    (swapped.migration.IsTyped ∧
      PostgreSql.TellsTypesApart (swapped.migration.source.rows "data_types") ∧
      PostgreSql.TellsTypesApart (swapped.migration.target.rows "data_types") ∧
      .different (endofunction 50002 "SELECT 1") (endofunction 50001 "SELECT 2") ∈
        swapped.migration.comparison.pairings .functions) ∧
    ∃ script creating, swapped.generate.1.result = .ok script ∧
      swapped.migration.ShowsIn .programmability (Text.trimLineFeeds
        (dropAndCreate "DROP FUNCTION \"public\".\"f\"(color);\n" creating)) script ∧
      swapped.migration.scripter.dropFunction (Migration.typesOf [swapped.migration.target])
        (endofunction 50001 "SELECT 2") = .ok "DROP FUNCTION \"public\".\"f\"(mood);\n" := by
  have differs : .different (endofunction 50002 "SELECT 1") (endofunction 50001 "SELECT 2") ∈
      swapped.migration.comparison.pairings .functions :=
    List.mem_singleton_self _
  refine ⟨⟨swapped_isTyped, by decide, by decide, differs⟩, ?_⟩
  have generates : swapped.generate.1.result.toOption.isSome = true := by
    decide +kernel
  rcases Attempt.exists_ok_of_isSome generates with ⟨script, generated, _⟩
  rcases exists_plan_of_generate generated with ⟨plan, final, planned, writes⟩
  rcases swapped_isTyped.exists_replacesTogether rfl rfl differs planned writes with
    ⟨dropping, creating, together, shown⟩
  have dropped : swapped.migration.scripter.dropFunction
      (Migration.typesOf [swapped.migration.source, swapped.migration.target])
      (endofunction 50001 "SELECT 2") = .ok "DROP FUNCTION \"public\".\"f\"(color);\n" :=
    rfl
  obtain rfl := Except.ok.inj (dropped.symm.trans together.1)
  exact ⟨script, creating, generated, shown, rfl⟩

end Generator

end SchemaDelta
