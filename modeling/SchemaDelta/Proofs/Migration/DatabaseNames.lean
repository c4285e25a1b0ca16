import SchemaDelta.Proofs.Comparison.OuterJoin
import SchemaDelta.Proofs.Migration.Contents
import SchemaDelta.Proofs.Migration.Lines
import SchemaDelta.Text.Lines

/-!
# Names of databases in scripts

The names of the databases stand in comments at the start of a script and nowhere else.  They stand
there as they are, so what follows a line break in a name is outside of the comment.  Two migrations
that differ in these names alone have scripts with the same statements exactly when the names have
the same lines outside of the comments, as all names of a single line do.
-/

namespace SchemaDelta

open Attempt (bind_eq_ok_iff exists_ok_of_isSome)

/-! ## Lines outside of comments -/

namespace Text

/-- The letter that ends lines in every dialect. -/
def isLineFeed
    (letter : Char) : Bool :=
  letter == '\n'

theorem isLineEnd_of_isLineFeed
    (letter : Char)
    (ending : isLineFeed letter = true) :
    isLineEnd letter = true := by
  rw [beq_iff_eq.mp ending]
  rfl

/-- A line that starts with two hyphens is a comment. -/
def isComment
    (line : List Char) : Bool :=
  ['-', '-'].isPrefixOf line

/-- The lines of a script that are no comments, given the letters that end lines. -/
def statementLines
    (isEnd : Char → Bool)
    (script : String) : List (List Char) :=
  (script.toList.splitOnP isEnd).filter fun line => !isComment line

/-- Of the lines of a name those behind the first one that are no comments. -/
def exposedLines
    (isEnd : Char → Bool)
    (name : String) : List (List Char) :=
  (name.toList.splitOnP isEnd).tail.filter fun line => !isComment line

variable {isEnd : Char → Bool}

/-- A name of a single line exposes nothing. -/
theorem exposedLines_eq_nil
    {name : String}
    (single : ∀ letter ∈ name.toList, isEnd letter = false) :
    exposedLines isEnd name = [] := by
  rw [exposedLines, List.splitOnP_eq_singleton single]
  rfl

/-- Lines are told apart where a line break stands. -/
theorem statementLines_ofLines
    (lineBreak : isEnd '\n' = true)
    (lines : List String) :
    statementLines isEnd (ofLines lines) = lines.flatMap (statementLines isEnd) ++ [[]] := by
  induction lines with
  | nil => simp [statementLines, isComment]
  | cons line lines ih =>
      have split : (ofLines (line :: lines)).toList =
          line.toList ++ '\n' :: (ofLines lines).toList := by
        simp
      rw [List.flatMap_cons, List.append_assoc, ← ih, statementLines, split,
        List.splitOnP_append_cons line.toList (ofLines lines).toList lineBreak, List.filter_append]
      rfl

/-- Letters that end no line stand in the first line of what follows them. -/
private theorem splitOnP_append
    {opening : List Char}
    (plain : ∀ letter ∈ opening, isEnd letter = false)
    (letters : List Char) :
    (opening ++ letters).splitOnP isEnd =
      (letters.splitOnP isEnd).modifyHead (opening ++ ·) := by
  induction opening with
  | nil => exact (congrFun List.modifyHead_id _).symm
  | cons letter opening ih =>
      have inside := plain letter List.mem_cons_self
      rw [List.cons_append, List.splitOnP_cons_eq_if_modifyHead, if_neg (by simp [inside]),
        ih fun other member => plain other (List.mem_cons_of_mem letter member),
        List.modifyHead_modifyHead]
      rfl

/-- Behind the start of a comment a name shows what it exposes. -/
theorem statementLines_comment
    (opening : String)
    (plain : ∀ letter ∈ opening.toList, isEnd letter = false)
    (starts : ['-', '-'] <+: opening.toList)
    (name : String) :
    statementLines isEnd (opening ++ name) = exposedLines isEnd name := by
  rcases List.exists_cons_of_ne_nil (List.splitOnP_ne_nil isEnd name.toList) with
    ⟨first, others, split⟩
  have hidden : isComment (opening.toList ++ first) = true :=
    List.isPrefixOf_iff_prefix.mpr (starts.trans (List.prefix_append ..))
  rw [statementLines, exposedLines, String.toList_append, splitOnP_append plain, split,
    List.modifyHead_cons, List.filter_cons_of_neg (by simp [hidden]), List.tail_cons]

end Text

/-! ## Databases that differ by name -/

theorem ObjectClass.database_declares_name :
    ObjectClass.database.declares "name" .text = true := by
  decide

namespace Value

/-- Two databases have the same parts, except for their names. -/
def AlikeButName
    (left right : Value) : Prop :=
  ∀ field, field ≠ "name" → left.part field = right.part field

variable {left right : Value}

private theorem isA_of_isTyped
    {value : Value}
    {kind : ObjectClass}
    (typed : value.isTyped kind = true) :
    value.isA kind = true := by
  rcases isTyped_iff.mp typed with ⟨_, _, rfl, special_isA, _⟩
  exact special_isA

theorem AlikeButName.partItems
    (alike : left.AlikeButName right)
    {field : String}
    (differs : field ≠ "name") :
    left.partItems field = right.partItems field := by
  rw [Value.partItems, Value.partItems, alike field differs]

theorem AlikeButName.objectsOf
    (alike : left.AlikeButName right)
    (leftTyped : left.isTyped .database = true)
    (rightTyped : right.isTyped .database = true)
    (kind : ObjectKind) :
    left.objectsOf kind = right.objectsOf kind := by
  cases kind with
  | dataTypes =>
      rw [Value.objectsOf, Value.objectsOf, userTypes, userTypes, isA_of_isTyped leftTyped,
        isA_of_isTyped rightTyped, alike.partItems (by decide)]
      rfl
  | triggers =>
      rw [Value.objectsOf, Value.objectsOf, allTriggers, allTriggers, alike.partItems (by decide)]
  | _ => exact alike.partItems (by decide)

end Value

/-- Databases that differ by name alone are compared alike. -/
theorem Comparison.between_of_alikeButName
    {source target otherSource otherTarget : Value}
    (sources : source.AlikeButName otherSource)
    (targets : target.AlikeButName otherTarget)
    (sourceTyped : source.isTyped .database = true)
    (targetTyped : target.isTyped .database = true)
    (otherSourceTyped : otherSource.isTyped .database = true)
    (otherTargetTyped : otherTarget.isTyped .database = true) :
    Comparison.between source target = Comparison.between otherSource otherTarget := by
  have named : ∀ {database : Value}, database.isTyped .database = true →
      ∃ name, database.part "name" = .ok name := fun typed =>
    ⟨_, Value.part_text_of_isTyped typed ObjectClass.database_declares_name⟩
  rcases named sourceTyped with ⟨_, sourceNamed⟩
  rcases named targetTyped with ⟨_, targetNamed⟩
  rcases named otherSourceTyped with ⟨_, otherSourceNamed⟩
  rcases named otherTargetTyped with ⟨_, otherTargetNamed⟩
  simp only [between, sourceNamed, targetNamed, otherSourceNamed, otherTargetNamed,
    sources "dialect" (by decide), targets "dialect" (by decide),
    sources.objectsOf sourceTyped otherSourceTyped, targets.objectsOf targetTyped otherTargetTyped]
  rfl

/-! ## Migrations that differ by names -/

namespace Migration

/-- Two migrations have the same settings, between databases that differ by name alone. -/
structure AlikeButNames
    (left right : Migration) : Prop where
  source : left.source.AlikeButName right.source
  target : left.target.AlikeButName right.target
  scripter : left.scripter = right.scripter
  includes : left.includes = right.includes

variable {left right : Migration}

theorem AlikeButNames.comparison
    (alike : left.AlikeButNames right)
    (leftTyped : left.IsTyped)
    (rightTyped : right.IsTyped) :
    left.comparison = right.comparison := by
  have same := Comparison.between_of_alikeButName alike.source alike.target leftTyped.source
    leftTyped.target rightTyped.source rightTyped.target
  have compared := leftTyped.compared
  rw [same, rightTyped.compared] at compared
  exact (Except.ok.inj compared).symm

section Parts

variable {source target otherSource otherTarget : Value}
variable {comparison : Comparison} {scripter : Scripter} {includes : Phase → Bool}

private theorem newTables_congr
    (tables : source.part "tables" = otherSource.part "tables") :
    newTables ⟨source, target, comparison, scripter, includes⟩ =
      newTables ⟨otherSource, otherTarget, comparison, scripter, includes⟩ := by
  simp only [newTables, tables]
  rfl

private theorem dropTablePart_congr
    (tables : target.part "tables" = otherTarget.part "tables") :
    dropTablePart ⟨source, target, comparison, scripter, includes⟩ =
      dropTablePart ⟨otherSource, otherTarget, comparison, scripter, includes⟩ := by
  funext dropped
  simp only [dropTablePart, droppedTables, tables]
  rfl

private theorem dropFunctionPart_congr
    (types : target.part "data_types" = otherTarget.part "data_types") :
    dropFunctionPart ⟨source, target, comparison, scripter, includes⟩ =
      dropFunctionPart ⟨otherSource, otherTarget, comparison, scripter, includes⟩ := by
  funext dropped
  simp only [dropFunctionPart, types]
  rfl

private theorem typePart_congr
    (types : source.part "data_types" = otherSource.part "data_types") :
    typePart ⟨source, target, comparison, scripter, includes⟩ =
      typePart ⟨otherSource, otherTarget, comparison, scripter, includes⟩ := by
  funext dropped
  simp only [typePart, types]
  rfl

private theorem programmabilityParts_congr
    (sourceTypes : source.part "data_types" = otherSource.part "data_types")
    (targetTypes : target.part "data_types" = otherTarget.part "data_types") :
    programmabilityParts ⟨source, target, comparison, scripter, includes⟩ =
      programmabilityParts ⟨otherSource, otherTarget, comparison, scripter, includes⟩ := by
  have types :
      allTypes ⟨source, target, comparison, scripter, includes⟩ =
        allTypes ⟨otherSource, otherTarget, comparison, scripter, includes⟩ := by
    simp only [allTypes, sourceTypes, targetTypes]
  have part : ∀ kind action,
      programmabilityPart ⟨source, target, comparison, scripter, includes⟩ kind action =
        programmabilityPart ⟨otherSource, otherTarget, comparison, scripter, includes⟩ kind
          action := by
    intro kind action
    funext dropped
    simp only [programmabilityPart, types]
    rfl
  simp only [programmabilityParts, part]

end Parts

/-- The parts of a phase do not depend on the names. -/
private theorem AlikeButNames.parts
    (alike : left.AlikeButNames right)
    (compared : left.comparison = right.comparison)
    (phase : Phase) :
    left.parts phase = right.parts phase := by
  rcases left with ⟨source, target, comparison, scripter, includes⟩
  rcases right with ⟨otherSource, otherTarget, otherComparison, otherScripter, otherIncludes⟩
  rcases alike with ⟨sources, targets, rfl, rfl⟩
  obtain rfl : comparison = otherComparison := compared
  have tables : newTables ⟨source, target, comparison, scripter, includes⟩ =
      newTables ⟨otherSource, otherTarget, comparison, scripter, includes⟩ :=
    newTables_congr (sources "tables" (by decide))
  cases phase with
  | drops =>
      rw [Migration.parts, Migration.parts, dropParts, dropParts,
        dropFunctionPart_congr (targets "data_types" (by decide)),
        dropTablePart_congr (targets "tables" (by decide))]
      rfl
  | types =>
      rw [Migration.parts, Migration.parts, typeParts, typeParts,
        typePart_congr (sources "data_types" (by decide))]
      rfl
  | tables =>
      have part : newTablePart ⟨source, target, comparison, scripter, includes⟩ =
          newTablePart ⟨otherSource, otherTarget, comparison, scripter, includes⟩ := by
        funext dropped
        simp only [newTablePart, tables]
      rw [Migration.parts, Migration.parts, tableParts, tableParts, part]
      rfl
  | constraints =>
      have part : newKeyPart ⟨source, target, comparison, scripter, includes⟩ =
          newKeyPart ⟨otherSource, otherTarget, comparison, scripter, includes⟩ := by
        funext dropped
        simp only [newKeyPart, tables]
      rw [Migration.parts, Migration.parts, constraintParts, constraintParts, part]
  | foreignKeys =>
      have part : newForeignKeyPart ⟨source, target, comparison, scripter, includes⟩ =
          newForeignKeyPart ⟨otherSource, otherTarget, comparison, scripter, includes⟩ := by
        funext dropped
        simp only [newForeignKeyPart, tables]
      rw [Migration.parts, Migration.parts, foreignKeyParts, foreignKeyParts, part]
      rfl
  | programmability =>
      exact programmabilityParts_congr (sources "data_types" (by decide))
        (targets "data_types" (by decide))

private theorem AlikeButNames.runPhase
    (alike : left.AlikeButNames right)
    (compared : left.comparison = right.comparison)
    (phase : Phase) :
    left.runPhase phase = right.runPhase phase := by
  have runPart : left.runPart = right.runPart := by
    funext part dropped
    simp only [Migration.runPart, planPart, alike.scripter]
  rw [Migration.runPhase, Migration.runPhase, alike.parts compared, runPart]

private theorem dialectValue_congr
    {database other : Value}
    (alike : database.AlikeButName other) :
    dialectValue database = dialectValue other := by
  rw [dialectValue, dialectValue, alike "dialect" (by decide)]

private theorem AlikeButNames.checkDialects
    (alike : left.AlikeButNames right) :
    left.checkDialects = right.checkDialects := by
  simp only [Migration.checkDialects, alike.source "dialect" (by decide),
    alike.target "dialect" (by decide), dialectValue_congr alike.source,
    dialectValue_congr alike.target, alike.scripter]

/-! ## Names at the start of scripts -/

/-- The lines at the start of a script, given the names of the databases and the dialect. -/
def openingLines
    (sourceName targetName dialect : String) : List String :=
  headingLines [
    "-- SQL Schema Compare - Deployment Script",
    "-- Source Database: " ++ sourceName,
    "-- Target Database: " ++ targetName,
    "-- Dialect: " ++ dialect]

/-- What the names of the databases expose at the start of a script. -/
def exposedLines
    (migration : Migration)
    (isEnd : Char → Bool) : List (List Char) :=
  Text.exposedLines isEnd (migration.source.letters "name") ++
    Text.exposedLines isEnd (migration.target.letters "name")

/-- The names of both databases are of a single line. -/
def HasSingleLineNames
    (migration : Migration)
    (isEnd : Char → Bool) : Prop :=
  ∀ database ∈ [migration.source, migration.target],
    ∀ letter ∈ (database.letters "name").toList, isEnd letter = false

theorem exposedLines_eq_nil
    {migration : Migration}
    {isEnd : Char → Bool}
    (single : migration.HasSingleLineNames isEnd) :
    migration.exposedLines isEnd = [] := by
  rw [exposedLines, Text.exposedLines_eq_nil (single migration.source (by simp)),
    Text.exposedLines_eq_nil (single migration.target (by simp)), List.append_nil]

theorem preamble_eq
    {migration : Migration}
    (typed : migration.IsTyped) :
    migration.preamble = do
      return openingLines (migration.source.letters "name") (migration.target.letters "name")
        (← dialectValue migration.target) := by
  rw [preamble, Value.part_text_of_isTyped typed.source ObjectClass.database_declares_name,
    Attempt.ok_bind, Value.part_text_of_isTyped typed.target ObjectClass.database_declares_name,
    Attempt.ok_bind]
  rfl

/-- At the start of a script stand what the names expose and an empty line. -/
private theorem statementLines_opening
    (isEnd : Char → Bool)
    (lineBreak : isEnd '\n' = true)
    (ends : ∀ letter, isEnd letter = true → Text.isLineEnd letter = true)
    (sourceName targetName dialect : String)
    (lines : List String) :
    Text.statementLines isEnd (Text.ofLines (openingLines sourceName targetName dialect ++ lines)) =
      Text.exposedLines isEnd sourceName ++ Text.exposedLines isEnd targetName ++
        (Text.exposedLines isEnd dialect ++ ([] :: lines.flatMap (Text.statementLines isEnd)) ++
          [[]]) := by
  have plain : ∀ opening : String, (opening.toList.all fun letter => !Text.isLineEnd letter) →
      ∀ letter ∈ opening.toList, isEnd letter = false := by
    intro opening noEnd letter member
    have inside := List.all_eq_true.mp noEnd letter member
    refine Bool.eq_false_iff.mpr fun ending => ?_
    rw [ends letter ending] at inside
    cases inside
  have comment := fun opening noEnd =>
    Text.statementLines_comment opening (plain opening noEnd)
  have banner : Text.statementLines isEnd bannerLine = [] := by
    have shown := comment bannerLine (by decide) (by decide) ""
    rwa [String.append_empty] at shown
  have title : Text.statementLines isEnd "-- SQL Schema Compare - Deployment Script" = [] := by
    have shown := comment "-- SQL Schema Compare - Deployment Script" (by decide) (by decide) ""
    rwa [String.append_empty] at shown
  have empty : Text.statementLines isEnd "" = [[]] := rfl
  simp only [Text.statementLines_ofLines lineBreak, openingLines, headingLines, List.cons_append,
    List.nil_append, List.flatMap_cons, banner, title, empty,
    comment "-- Source Database: " (by decide) (by decide),
    comment "-- Target Database: " (by decide) (by decide),
    comment "-- Dialect: " (by decide) (by decide), List.append_assoc]

end Migration

namespace Generator

variable {generator : Generator}

/-- A script has the names of the databases at its start. -/
theorem result_generate
    (typed : generator.migration.IsTyped)
    (checked : generator.migration.checkDialects = .ok ()) :
    generator.generate.1.result = do
      let dialect ← Migration.dialectValue generator.migration.target
      let lines ← (Migration.Run.sequence
        (generator.migration.phases.map generator.migration.runPhase) []).1.result
      return Text.ofLines (Migration.openingLines (generator.migration.source.letters "name")
        (generator.migration.target.letters "name") dialect ++ lines) := by
  simp only [generate, checked, forget, Migration.run, Scripting.result_bind,
    Scripting.result_pure, Migration.Run.sequence, Migration.Run.ofLines, Scripting.ofResult,
    Migration.preamble_eq typed]
  cases Migration.dialectValue generator.migration.target with
  | error failure => rfl
  | ok dialect =>
      simp only [Attempt.ok_bind, Attempt.pure_eq_ok]
      cases (Migration.Run.sequence
        (generator.migration.phases.map generator.migration.runPhase) []).1.result with
      | error failure => rfl
      | ok lines => exact congrArg Except.ok (Text.intercalate_lineBreak _ _)

/-- Scripts of migrations that differ by names alone have these at their start and agree else. -/
theorem generate_of_alikeButNames
    {left right : Generator}
    (leftTyped : left.migration.IsTyped)
    (rightTyped : right.migration.IsTyped)
    (alike : left.migration.AlikeButNames right.migration) :
    (∃ failure, left.generate.1.result = .error failure ∧
        right.generate.1.result = .error failure) ∨
      ∃ dialect lines,
        left.generate.1.result = .ok (Text.ofLines
          (Migration.openingLines (left.migration.source.letters "name")
            (left.migration.target.letters "name") dialect ++ lines)) ∧
        right.generate.1.result = .ok (Text.ofLines
          (Migration.openingLines (right.migration.source.letters "name")
            (right.migration.target.letters "name") dialect ++ lines)) := by
  have sameChecks := alike.checkDialects
  cases checked : left.migration.checkDialects with
  | error failure =>
      rw [checked] at sameChecks
      exact Or.inl ⟨failure, by simp only [generate, checked]; rfl,
        by simp only [generate, ← sameChecks]; rfl⟩
  | ok _ =>
      rw [checked] at sameChecks
      have sameDialect := Migration.dialectValue_congr alike.target
      have samePhases : left.migration.phases = right.migration.phases := by
        rw [Migration.phases, Migration.phases, alike.includes]
      have sameRuns : left.migration.runPhase = right.migration.runPhase :=
        funext (alike.runPhase (alike.comparison leftTyped rightTyped))
      rw [result_generate leftTyped checked, result_generate rightTyped sameChecks.symm,
        ← sameDialect, ← samePhases, ← sameRuns]
      cases Migration.dialectValue left.migration.target with
      | error failure => exact Or.inl ⟨failure, rfl, rfl⟩
      | ok dialect =>
          cases (Migration.Run.sequence
            (left.migration.phases.map left.migration.runPhase) []).1.result with
          | error failure => exact Or.inl ⟨failure, rfl, rfl⟩
          | ok lines => exact Or.inr ⟨dialect, lines, rfl, rfl⟩

/--
Two migrations that differ by the names of their databases alone fail alike, or both give a script.
The scripts have the same lines outside of comments exactly when the names expose the same lines, as
names of a single line do.
-/
theorem statementLines_eq_iff_exposedLines_eq
    {left right : Generator}
    (leftTyped : left.migration.IsTyped)
    (rightTyped : right.migration.IsTyped)
    (alike : left.migration.AlikeButNames right.migration)
    (isEnd : Char → Bool)
    (lineBreak : isEnd '\n' = true)
    (ends : ∀ letter, isEnd letter = true → Text.isLineEnd letter = true) :
    (∃ failure, left.generate.1.result = .error failure ∧
        right.generate.1.result = .error failure) ∨
      ∃ script other, left.generate.1.result = .ok script ∧ right.generate.1.result = .ok other ∧
        (Text.statementLines isEnd script = Text.statementLines isEnd other ↔
          left.migration.exposedLines isEnd = right.migration.exposedLines isEnd) ∧
        (left.migration.HasSingleLineNames isEnd → right.migration.HasSingleLineNames isEnd →
          Text.statementLines isEnd script = Text.statementLines isEnd other) := by
  refine (generate_of_alikeButNames leftTyped rightTyped alike).imp_right ?_
  rintro ⟨dialect, lines, generated, otherGenerated⟩
  refine ⟨_, _, generated, otherGenerated, ?_⟩
  rw [Migration.statementLines_opening isEnd lineBreak ends,
    Migration.statementLines_opening isEnd lineBreak ends, List.append_cancel_right_eq]
  refine ⟨Iff.rfl, fun single otherSingle => ?_⟩
  exact (Migration.exposedLines_eq_nil single).trans
    (Migration.exposedLines_eq_nil otherSingle).symm

/-- The migration that creates a table, between databases with names. -/
private def creatingBetween
    (sourceName targetName : String) : Generator :=
  between (.plainDatabase sourceName [.plainTable "t" [.plainColumn "id" "integer" 1] [] [] []])
    (.plainDatabase targetName [])

private theorem creatingBetween_isTyped
    (sourceName targetName : String) :
    (creatingBetween sourceName targetName).migration.IsTyped := by
  have none : ∀ {kind : ObjectClass}, ∀ row ∈ ([] : List Value), row.isTyped kind = true :=
    fun _ => List.not_mem_nil.elim
  refine between_isTyped ?_ (Value.isTyped_plainDatabase _ none) rfl
  refine Value.isTyped_plainDatabase _ (List.forall_mem_singleton.mpr ?_)
  exact Value.isTyped_plainTable "t" (List.forall_mem_singleton.mpr
    (Value.isTyped_plainColumn "id" "integer" 1)) none none none

private theorem plainDatabase_alikeButName
    (name other : String)
    (tables : List Value) :
    (Value.plainDatabase name tables).AlikeButName (.plainDatabase other tables) := by
  intro field differs
  rw [Value.plainDatabase, Value.plainDatabase, Value.part_filled_cons_of_ne differs,
    Value.part_filled_cons_of_ne differs]

private theorem creatingBetween_alikeButNames
    (sourceName targetName otherSourceName otherTargetName : String) :
    (creatingBetween sourceName targetName).migration.AlikeButNames
      (creatingBetween otherSourceName otherTargetName).migration where
  source := plainDatabase_alikeButName sourceName otherSourceName _
  target := plainDatabase_alikeButName targetName otherTargetName _
  scripter := rfl
  includes := rfl

private theorem creatingBetween_hasSingleLineNames
    {sourceName targetName : String}
    {isEnd : Char → Bool}
    (source : sourceName.toList.any isEnd = false)
    (target : targetName.toList.any isEnd = false) :
    (creatingBetween sourceName targetName).migration.HasSingleLineNames isEnd := by
  have noEnd : ∀ {name : String}, name.toList.any isEnd = false →
      ∀ letter ∈ name.toList, isEnd letter = false := fun none letter member =>
    Bool.not_eq_true _ ▸ List.any_eq_false.mp none letter member
  exact List.forall_mem_cons.mpr ⟨noEnd source, List.forall_mem_singleton.mpr (noEnd target)⟩

/-- Names of a single line leave the statements as they are. -/
theorem statementLines_eq_of_singleLineNames :
    ∃ script other,
      (creatingBetween "s" "d").generate.1.result = .ok script ∧
        (creatingBetween "shop; DROP" "--").generate.1.result = .ok other ∧
        Text.statementLines Text.isLineFeed script = Text.statementLines Text.isLineFeed other := by
  have alternatives := statementLines_eq_iff_exposedLines_eq (creatingBetween_isTyped "s" "d")
    (creatingBetween_isTyped "shop; DROP" "--") (creatingBetween_alikeButNames ..)
    Text.isLineFeed rfl Text.isLineEnd_of_isLineFeed
  have generates : (creatingBetween "s" "d").generate.1.result.toOption.isSome = true := by
    decide +kernel
  rcases exists_ok_of_isSome generates with ⟨script, generated, _⟩
  rcases alternatives with ⟨failure, failed, _⟩ | ⟨own, other, ownOk, otherOk, _, same⟩
  · rw [generated] at failed
    cases failed
  · exact ⟨own, other, ownOk, otherOk,
      same (creatingBetween_hasSingleLineNames rfl rfl)
        (creatingBetween_hasSingleLineNames rfl rfl)⟩

/-- What follows a line break in a name is a statement of the script. -/
theorem statementLines_of_brokenName :
    ((creatingBetween "s" "d").migration.IsTyped ∧
      (creatingBetween "s\nDROP TABLE t;" "d").migration.IsTyped ∧
      (creatingBetween "s" "d").migration.AlikeButNames
        (creatingBetween "s\nDROP TABLE t;" "d").migration) ∧
    ∃ script other,
      (creatingBetween "s" "d").generate.1.result = .ok script ∧
        (creatingBetween "s\nDROP TABLE t;" "d").generate.1.result = .ok other ∧
        Text.statementLines Text.isLineFeed script ≠ Text.statementLines Text.isLineFeed other ∧
        "DROP TABLE t;".toList ∈ Text.statementLines Text.isLineFeed other := by
  refine ⟨⟨creatingBetween_isTyped .., creatingBetween_isTyped ..,
    creatingBetween_alikeButNames ..⟩, ?_⟩
  have generates : (creatingBetween "s" "d").generate.1.result.toOption.isSome = true := by
    decide +kernel
  rcases exists_ok_of_isSome generates with ⟨script, generated, _⟩
  rcases generate_of_alikeButNames (creatingBetween_isTyped "s" "d")
      (creatingBetween_isTyped "s\nDROP TABLE t;" "d") (creatingBetween_alikeButNames ..) with
    ⟨failure, failed, _⟩ | ⟨dialect, lines, generated, otherGenerated⟩
  · rw [generated] at failed
    cases failed
  · have opened := Migration.statementLines_opening Text.isLineFeed rfl Text.isLineEnd_of_isLineFeed
    refine ⟨_, _, generated, otherGenerated, ?_, ?_⟩
    · rw [opened, opened, Ne, List.append_cancel_right_eq]
      decide +kernel
    · rw [opened]
      exact List.mem_append_left _ (by decide +kernel)

end Generator

end SchemaDelta
