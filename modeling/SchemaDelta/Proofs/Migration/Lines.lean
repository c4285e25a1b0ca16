import Mathlib.Data.List.DropRight
import SchemaDelta.Proofs.Migration.FullScript
import SchemaDelta.Proofs.Migration.Planning

/-!
# Lines that render statements

Migrations are lists of lines.  The line of an action that creates an object renders the statements
about the object, and so do sections of such actions under their heading.
-/

namespace SchemaDelta

/-! ## Texts of lines -/

namespace Text

/-- The text of lines, each of which ends with a line break. -/
def ofLines
    (lines : List String) : String :=
  String.join (lines.map fun line => line ++ "\n")

@[simp]
theorem ofLines_nil : ofLines [] = "" :=
  rfl

@[simp]
theorem ofLines_cons
    (line : String)
    (lines : List String) :
    ofLines (line :: lines) = line ++ "\n" ++ ofLines lines := by
  rw [ofLines, List.map_cons, String.join_cons, ofLines]

@[simp]
theorem ofLines_append
    (lines others : List String) :
    ofLines (lines ++ others) = ofLines lines ++ ofLines others := by
  induction lines with
  | nil => exact String.empty_append.symm
  | cons line lines ih =>
      rw [List.cons_append, ofLines_cons, ofLines_cons, ih]
      simp only [String.append_assoc]

theorem ofLines_flatten
    (blocks : List (List String)) :
    ofLines blocks.flatten = String.join (blocks.map ofLines) := by
  induction blocks with
  | nil => rfl
  | cons block blocks ih =>
      rw [List.flatten_cons, ofLines_append, ih, List.map_cons, String.join_cons]

/-- Lines with line breaks between them and one behind them. -/
theorem intercalate_lineBreak
    (line : String)
    (lines : List String) :
    "\n".intercalate (line :: lines) ++ "\n" = ofLines (line :: lines) := by
  induction lines generalizing line with
  | nil => rfl
  | cons next lines ih =>
      rw [String.intercalate_cons_cons, String.append_assoc, ih, ofLines_cons line]

/-! ## Line feeds at the end -/

@[simp]
theorem trimLineFeeds_trimLineFeeds
    (text : String) :
    trimLineFeeds (trimLineFeeds text) = trimLineFeeds text := by
  have twice : dropEndWhile (· == '\n') (dropEndWhile (· == '\n') text.toList) =
      dropEndWhile (· == '\n') text.toList :=
    List.rdropWhile_idempotent (· == '\n') text.toList
  rw [trimLineFeeds, trimLineFeeds, String.toList_ofList, twice]

/-- Only if nothing is left of the last text, something is taken from the one before it. -/
theorem trimLineFeeds_append
    (text last : String) :
    trimLineFeeds (text ++ last) =
      if trimLineFeeds last = "" then trimLineFeeds text else text ++ trimLineFeeds last := by
  have nothing : trimLineFeeds last = "" ↔
      (last.toList.reverse.dropWhile (· == '\n')).isEmpty = true := by
    rw [trimLineFeeds, dropEndWhile, String.ofList_eq_empty_iff, List.reverse_eq_nil_iff,
      List.isEmpty_iff]
  simp only [nothing]
  rw [trimLineFeeds, dropEndWhile, String.toList_append, List.reverse_append,
    List.dropWhile_append]
  split
  · rfl
  · rw [List.reverse_append, List.reverse_reverse, String.ofList_append, String.ofList_toList]
    rfl

/-- A banner ends in no line feed. -/
private theorem trimLineFeeds_banner
    (text heading : String) :
    trimLineFeeds (text ++ bannerComment heading) = text ++ bannerComment heading := by
  have closed : trimLineFeeds " ******/" = " ******/" := by decide
  rw [bannerComment, ← String.append_assoc, trimLineFeeds_append, closed, if_neg (by decide)]

/-- Under a heading, all but line feeds stays of a text. -/
private theorem trimLineFeeds_headed
    (first second heading : String) :
    trimLineFeeds (first ++ "\n" ++ bannerComment heading ++ "\n" ++ second) =
      first ++ "\n" ++ bannerComment heading ++
        if trimLineFeeds second = "" then "" else "\n" ++ trimLineFeeds second := by
  have lineBreak : trimLineFeeds "\n" = "" := by decide
  rw [trimLineFeeds_append]
  split
  · rw [trimLineFeeds_append, lineBreak, if_pos rfl, trimLineFeeds_banner, String.append_empty]
  · rw [String.append_assoc]

end Text

namespace Dialect

/-- The line of a text is made of the text. -/
theorem madeOf_line
    (dialect : Dialect)
    (text : String) :
    dialect.MadeOf [text] (Text.trimLineFeeds text ++ "\n") :=
  .text (Text.trimLineFeeds_trimLineFeeds text) (madeOf_filler .lineBreak)

/-- The line of two texts under one another, the second under a heading. -/
theorem madeOf_headedLine
    (dialect : Dialect)
    (first second : String)
    {heading : String}
    (unclosed : '*' ∉ heading.toList) :
    dialect.MadeOf [first, second]
      (Text.trimLineFeeds (first ++ "\n" ++ bannerComment heading ++ "\n" ++ second) ++ "\n") := by
  have headed : dialect.MadeOf [first] (first ++ ("\n" ++ (bannerComment heading ++ "\n"))) :=
    .text rfl (.filler .lineBreak (madeOf_filler (.banner unclosed)))
  rw [Text.trimLineFeeds_headed]
  split
  · rename_i nothing
    have last : dialect.MadeOf [second] ("" ++ "") := .text nothing.symm .nothing
    simpa only [String.append_assoc, String.append_empty, List.singleton_append] using
      headed.append last
  · simpa only [String.append_assoc, List.singleton_append] using
      headed.append (dialect.madeOf_line second)

end Dialect

/-! ## Lines -/

namespace Scripter

variable {scripter : Scripter} {types : Value} {statements : List ObjectStatement}

/-- Lines render statements when their text does. -/
def RendersLines
    (scripter : Scripter)
    (types : Value)
    (statements : List ObjectStatement)
    (lines : Attempt (List String)) : Prop :=
  scripter.Renders types statements (do return Text.ofLines (← lines))

private theorem join_ofLines
    (blocks : List (Attempt (List String))) :
    (do return String.join (← blocks.mapM fun lines => do return Text.ofLines (← lines)) : Script) =
      do return Text.ofLines (← blocks.mapM id).flatten := by
  have together : (blocks.mapM fun lines => do return Text.ofLines (← lines) : Attempt _) =
      (do return (← blocks.mapM id).map Text.ofLines) := by
    induction blocks with
    | nil => rfl
    | cons lines blocks ih =>
        simp only [List.mapM_cons, ih, id_eq, bind_assoc, pure_bind, List.map_cons]
  rw [together]
  simp only [bind_assoc, pure_bind, Text.ofLines_flatten]

/-- Blocks of lines one behind the other render the statements of all of them. -/
theorem rendersLines_flatten
    {grouped : List (List ObjectStatement)}
    {blocks : List (Attempt (List String))}
    (renders : List.Forall₂ (scripter.RendersLines types) grouped blocks) :
    scripter.RendersLines types grouped.flatten (do return (← blocks.mapM id).flatten) := by
  have together : scripter.Renders types grouped.flatten (do
      return String.join (← blocks.mapM fun lines => do return Text.ofLines (← lines))) :=
    renders_flatten renders
  rw [join_ofLines] at together
  simpa only [RendersLines, bind_assoc, pure_bind] using together

/-- The lines of items one behind the other render their statements. -/
theorem rendersLines_flatMap
    {α : Type}
    {items : List α}
    {statementsOf : α → List ObjectStatement}
    {linesOf : α → Attempt (List String)}
    (renders : ∀ item ∈ items, scripter.RendersLines types (statementsOf item) (linesOf item)) :
    scripter.RendersLines types (items.flatMap statementsOf) (do
      return (← items.mapM linesOf).flatten) := by
  have together : scripter.RendersLines types (items.map statementsOf).flatten (do
      return (← (items.map linesOf).mapM id).flatten) := by
    refine rendersLines_flatten ?_
    rw [List.forall₂_map_left_iff, List.forall₂_map_right_iff, List.forall₂_same]
    exact renders
  rwa [List.mapM_map, ← List.flatMap_def] at together

/-- Lines that are made without failure of no statements. -/
theorem rendersLines_of_madeOf
    {lines : List String}
    (made : scripter.dialect.MadeOf [] (Text.ofLines lines)) :
    scripter.RendersLines types [] (.ok lines) :=
  renders_of_madeOf made

/-- Lines of comments in front of others do not count. -/
theorem RendersLines.headed
    {heading : List String}
    {lines : Attempt (List String)}
    (renders : scripter.RendersLines types statements lines)
    (made : scripter.dialect.MadeOf [] (Text.ofLines heading)) :
    scripter.RendersLines types statements (do return heading ++ (← lines)) := by
  have together := (renders_of_madeOf made).append renders
  rw [List.nil_append] at together
  simpa only [RendersLines, Attempt.ok_bind, bind_assoc, pure_bind, Text.ofLines_append] using
    together

/-- Lines that render statements fail as these do. -/
theorem RendersLines.failsByScripting
    {lines : Attempt (List String)}
    (renders : scripter.RendersLines types statements lines)
    (fails : Attempt.FailsByScripting (scripter.statementTexts types statements)) :
    Attempt.FailsByScripting lines := by
  rintro failure rfl
  cases run : scripter.statementTexts types statements with
  | ok texts =>
      rcases renders.succeeds texts run with ⟨text, impossible, _⟩
      cases impossible
  | error other =>
      cases renders.fails other run
      exact fails failure run

/-! ## Actions -/

/-- The line of an action that scripts one statement. -/
private theorem rendersLines_of_script
    {action : MigrationAction}
    {statement : ObjectStatement}
    (scripted : (action.script scripter).result = scripter.statementText types statement)
    (shown : ∀ text, action.linesOf text = [Text.trimLineFeeds text]) :
    scripter.RendersLines types [statement] (action.lines scripter).result := by
  have lines : (action.lines scripter).result = (do
      return [Text.trimLineFeeds (← scripter.statementText types statement)]) := by
    simp only [MigrationAction.lines, Scripting.result_bind, scripted, Scripting.result_pure,
      shown, Attempt.pure_eq_ok]
  rw [RendersLines, lines]
  simp only [bind_assoc, pure_bind]
  exact renders_map fun text => by
    simpa using scripter.dialect.madeOf_line text

/-- The script of a pairing that only the source has is the one that creates it. -/
private theorem result_scriptedPair
    {kind : ObjectClass}
    {object : Value}
    (typed : object.isTyped kind = true)
    (objectKind : ObjectKind)
    (create drop : Value → Scripting String)
    (alter : Value → Value → Scripting String) :
    (MigrationAction.scriptedPair objectKind (.onlySource object)
      (scriptPair create drop alter)).result = (create object).result := by
  rcases Value.isTyped_iff.mp typed with ⟨special, fields, rfl, _, _⟩
  rw [MigrationAction.scriptedPair, Scripting.result_guarded]
  rfl

end Scripter

/-- The action that creates an object which only the source of a migration has. -/
def MigrationAction.creating
    (types : Value) : ObjectKind → Value → MigrationAction
  | .dataTypes, type => .changeType types (.onlySource type)
  | .sequences, sequence => .changeSequence (.onlySource sequence)
  | .tables, table => .createTable table
  | .views, view => .changeView (.onlySource view)
  | .functions, function => .changeFunction types (.onlySource function)
  | .procedures, procedure => .changeProcedure (.onlySource procedure)
  | .triggers, trigger => .changeTrigger (.onlySource trigger)

namespace Scripter

variable {scripter : Scripter} {types object : Value}

/-- A view is followed by its indexes under a heading. -/
private theorem rendersLines_creatingView
    (typed : object.isTyped .view = true) :
    scripter.RendersLines types (object.statementsAs .views)
      ((MigrationAction.creating types .views object).lines scripter).result := by
  have scripted : ((MigrationAction.creating types .views object).script scripter).result =
      scripter.createView object :=
    result_scriptedPair typed ..
  have shown : ∀ text, (MigrationAction.creating types .views object).linesOf text =
    [Text.trimLineFeeds text] := fun _ => rfl
  have rows := Value.part_rows_of_isTyped typed ObjectClass.view_declares_indexes
  have truthy : (Value.list (object.rows "indexes")).isTruthy =
    !(object.rows "indexes").isEmpty := rfl
  unfold Value.statementsAs
  cases none : (object.rows "indexes").isEmpty with
  | true =>
      rw [if_pos rfl]
      refine rendersLines_of_script (scripted.trans ?_) shown
      rw [createView, Value.required_ok typed, Attempt.ok_bind, rows]
      simp only [Attempt.ok_bind, truthy, none, Bool.not_true, Bool.not_false, if_true]
      exact bind_pure _
  | false =>
      rw [if_neg Bool.false_ne_true]
      have together : scripter.Renders types [.create .views object, .createIndexes object] (do
          return Text.trimLineFeeds ((← scripter.statementText types (.create .views object)) ++
            "\n" ++ bannerComment "Indexes" ++ "\n" ++
              (← scripter.statementText types (.createIndexes object))) ++ "\n") :=
        renders_map_pair fun text other =>
          scripter.dialect.madeOf_headedLine text other (by decide)
      simp only [statementText, rows, Attempt.ok_bind] at together
      simp only [RendersLines, MigrationAction.lines, Scripting.result_bind, scripted, createView,
        Value.required_ok typed, rows, truthy, none, Attempt.ok_bind, Scripting.result_pure, shown,
        Bool.not_true, Bool.not_false, Bool.false_eq_true, if_false, bind_assoc,
        Text.ofLines_cons, Text.ofLines_nil, String.append_empty, Attempt.pure_eq_ok]
      exact together

/-- The lines that create an object render the statements about it. -/
theorem rendersLines_creating
    {kind : ObjectKind}
    (typed : object.isTyped kind.objectClass = true) :
    scripter.RendersLines types (object.statementsAs kind)
      ((MigrationAction.creating types kind object).lines scripter).result := by
  cases kind with
  | dataTypes =>
      refine rendersLines_of_script ((result_scriptedPair typed ..).trans ?_) fun _ => rfl
      rw [Scripting.result_liftM, createType, Value.required_ok typed, Attempt.ok_bind]
      rfl
  | sequences =>
      refine rendersLines_of_script ((result_scriptedPair typed ..).trans ?_) fun _ => rfl
      rw [Scripting.result_liftM, createSequence, Value.required_ok typed, Attempt.ok_bind]
      rfl
  | tables =>
      refine rendersLines_of_script ?_ fun _ => rfl
      exact result_guardedObject _ (Value.isTyped_of_isWithin typed (by decide)) _
  | views => exact rendersLines_creatingView typed
  | functions =>
      refine rendersLines_of_script ((result_scriptedPair typed ..).trans ?_) fun _ => rfl
      rw [Scripting.result_liftM, createFunction, Value.required_ok typed, Attempt.ok_bind]
      rfl
  | procedures =>
      refine rendersLines_of_script ((result_scriptedPair typed ..).trans ?_) fun _ => rfl
      rw [Scripting.result_liftM, createProcedure, Value.required_ok typed, Attempt.ok_bind]
      rfl
  | triggers =>
      refine rendersLines_of_script ((result_scriptedPair typed ..).trans ?_) fun _ => rfl
      rw [Scripting.result_liftM, createTrigger, Value.required_ok typed, Attempt.ok_bind]
      rfl

theorem rendersLines_addKeysAndIndexes
    (typed : object.isTyped .table = true) :
    scripter.RendersLines types [.addKeys object]
      ((MigrationAction.addKeysAndIndexes object).lines scripter).result :=
  rendersLines_of_script
    (result_guardedObject _ (Value.isTyped_of_isWithin typed (by decide)) _) fun _ => rfl

theorem rendersLines_addTableForeignKeys
    (typed : object.isTyped .table = true) :
    scripter.RendersLines types [.addForeignKeys object]
      ((MigrationAction.addTableForeignKeys object).lines scripter).result :=
  rendersLines_of_script
    (result_guardedObject _ (Value.isTyped_of_isWithin typed (by decide)) _) fun _ => rfl

end Scripter

/-! ## Sections -/

/-- The heading of a section is a comment of one line. -/
private theorem isFiller_heading
    {dialect : Dialect}
    {activity things : String}
    (activityPlain : '\n' ∉ activity.toList)
    (thingsPlain : '\n' ∉ things.toList)
    (count : Nat) :
    dialect.Filler ("-- " ++ activity ++ " " ++ toString count ++ " " ++ things ++ "\n") := by
  have digits : '\n' ∉ Nat.toDigits 10 count := by
    intro member
    exact absurd (Nat.isDigit_of_mem_toDigits (by decide) (by decide) member) (by decide)
  have oneLine : '\n' ∉ (activity ++ " " ++ toString count ++ " " ++ things).toList := by
    simp [activityPlain, thingsPlain, digits]
  have filler : dialect.Filler _ := .comment oneLine
  simpa only [String.append_assoc] using filler

namespace Migration

variable {migration : Migration} {types : Value}

/-- A section with an action for every item renders the statements about all of them. -/
theorem rendersLines_ofItems
    {α : Type}
    {items : List α}
    {statementsOf : α → List ObjectStatement}
    {action : α → MigrationAction}
    {activity things : String}
    (activityPlain : '\n' ∉ activity.toList)
    (thingsPlain : '\n' ∉ things.toList)
    (renders : ∀ item ∈ items, migration.scripter.RendersLines types (statementsOf item)
      ((action item).lines migration.scripter).result) :
    migration.scripter.RendersLines types (items.flatMap statementsOf)
      (migration.sectionLines (MigrationSection.ofItems activity things items action)) := by
  cases items with
  | nil => exact Scripter.rendersLines_of_madeOf .nothing
  | cons first others =>
      have body := Scripter.rendersLines_flatMap renders
      have headed : migration.scripter.dialect.MadeOf [] ("-- " ++ activity ++ " " ++
          toString (first :: others).length ++ " " ++ things ++ "\n") :=
        Dialect.madeOf_filler (isFiller_heading activityPlain thingsPlain _)
      have together := body.between headed (Dialect.madeOf_filler .lineBreak)
      simp only [Scripter.RendersLines, sectionLines, MigrationSection.ofItems,
        MigrationSection.counted, MigrationSection.lines, List.length_cons, Nat.add_one_ne_zero,
        if_false, List.mapM_cons, List.mapM_nil, List.mapM_map, Scripting.result_bind,
        Scripting.result_mapM, Scripting.result_pure, bind_assoc, pure_bind] at together ⊢
      simp only [Attempt.ok_bind, List.flatten_cons, List.flatten_nil, List.append_nil,
        Text.ofLines_append, Text.ofLines_cons, Text.ofLines_nil, String.empty_append,
        String.append_empty] at together ⊢
      exact together

end Migration

end SchemaDelta
