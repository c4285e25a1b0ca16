import SchemaDelta.Proofs.Ddl.Scripting
import SchemaDelta.Proofs.Migration.ObjectStatement

/-!
# Scripts made of statements

A script is made of texts when it holds them in their order, with nothing but comments, separators
of batches and empty lines between them.  A way to script renders statements when it fails as the first
of them that fails, and gives a script that is made of their texts where none does.
-/

namespace SchemaDelta

open Attempt (bind_eq_ok_iff)

/-! ## Texts -/

namespace Dialect

/-- What may stand between the statements of a script. -/
inductive Filler
    (dialect : Dialect) : String → Prop where
  | lineBreak : dialect.Filler "\n"
  | batchEnd : dialect.Filler dialect.batchEnd
  /-- A comment that ends with its line. -/
  | comment
      {text : String}
      (oneLine : '\n' ∉ text.toList) :
      dialect.Filler ("-- " ++ text ++ "\n")
  /-- A comment that stands out; nothing in it closes it. -/
  | banner
      {text : String}
      (unclosed : '*' ∉ text.toList) :
      dialect.Filler (bannerComment text ++ "\n")

/--
A script is made of texts, which stand in it in their order with fillers between them.  The line
feeds at the end of a text do not count.
-/
inductive MadeOf
    (dialect : Dialect) : List String → String → Prop where
  | nothing : dialect.MadeOf [] ""
  | filler
      {filler script : String}
      {texts : List String}
      (isFiller : dialect.Filler filler)
      (rest : dialect.MadeOf texts script) :
      dialect.MadeOf texts (filler ++ script)
  | text
      {text written script : String}
      {texts : List String}
      (same : Text.trimLineFeeds written = Text.trimLineFeeds text)
      (rest : dialect.MadeOf texts script) :
      dialect.MadeOf (text :: texts) (written ++ script)

variable {dialect : Dialect} {texts others : List String} {filler text script other : String}

theorem madeOf_text
    (dialect : Dialect)
    (text : String) :
    dialect.MadeOf [text] text := by
  have made : dialect.MadeOf [text] (text ++ "") := .text rfl .nothing
  rwa [String.append_empty] at made

theorem madeOf_filler
    (isFiller : dialect.Filler filler) :
    dialect.MadeOf [] filler := by
  simpa using MadeOf.filler isFiller .nothing

theorem MadeOf.append
    (made : dialect.MadeOf texts script)
    (otherMade : dialect.MadeOf others other) :
    dialect.MadeOf (texts ++ others) (script ++ other) := by
  induction made with
  | nothing => simpa using otherMade
  | filler isFiller _ ih =>
      rw [String.append_assoc]
      exact .filler isFiller ih
  | text same _ ih =>
      rw [String.append_assoc]
      exact .text same ih

end Dialect

/-! ## Statements -/

namespace Scripter

variable {scripter : Scripter} {types : Value} {statements others : List ObjectStatement}
  {script other : Script} {filler : String}

/-- The texts of statements, if all of them can be scripted. -/
def statementTexts
    (scripter : Scripter)
    (types : Value)
    (statements : List ObjectStatement) : Attempt (List String) :=
  statements.mapM (scripter.statementText types)

/-- A script renders statements: it fails as the first that fails or is made of all their texts. -/
structure Renders
    (scripter : Scripter)
    (types : Value)
    (statements : List ObjectStatement)
    (script : Script) : Prop where
  fails : ∀ failure, scripter.statementTexts types statements = .error failure →
    script = .error failure
  succeeds : ∀ texts, scripter.statementTexts types statements = .ok texts →
    ∃ text, script = .ok text ∧ scripter.dialect.MadeOf texts text

/-- A script that is made without failure of no statements. -/
theorem renders_of_madeOf
    {text : String}
    (made : scripter.dialect.MadeOf [] text) :
    scripter.Renders types [] (.ok text) where
  fails := fun _ impossible => nomatch impossible
  succeeds := by
    rintro _ ⟨⟩
    exact ⟨text, rfl, made⟩

theorem renders_nothing :
    scripter.Renders types [] (.ok "") :=
  renders_of_madeOf .nothing

/-- What is made of the texts of statements. -/
private theorem renders_texts
    {written : List String → String}
    (made : ∀ texts, scripter.statementTexts types statements = .ok texts →
      scripter.dialect.MadeOf texts (written texts)) :
    scripter.Renders types statements (do
      return written (← scripter.statementTexts types statements)) where
  fails := by
    intro failure failed
    rw [failed]
    rfl
  succeeds := by
    intro texts succeeds
    rw [succeeds]
    exact ⟨written texts, rfl, made texts succeeds⟩

/-- What is made of the text of one statement. -/
theorem renders_map
    {statement : ObjectStatement}
    {written : String → String}
    (made : ∀ text, scripter.dialect.MadeOf [text] (written text)) :
    scripter.Renders types [statement] (do
      return written (← scripter.statementText types statement)) := by
  have alone : scripter.Renders types [statement] (do
      return written ((← scripter.statementTexts types [statement]).headD "")) := by
    refine renders_texts fun texts succeeds => ?_
    rcases bind_eq_ok_iff.mp succeeds with ⟨text, _, equal⟩
    cases equal
    exact made text
  simpa only [statementTexts, List.mapM_cons, List.mapM_nil, bind_assoc, pure_bind,
    List.headD_cons] using alone

/-- What is made of the texts of two statements. -/
theorem renders_map_pair
    {first second : ObjectStatement}
    {written : String → String → String}
    (made : ∀ text other, scripter.dialect.MadeOf [text, other] (written text other)) :
    scripter.Renders types [first, second] (do
      return written (← scripter.statementText types first)
        (← scripter.statementText types second)) := by
  have together : scripter.Renders types [first, second] (do
      let texts ← scripter.statementTexts types [first, second]
      return written (texts.headD "") (texts.getLastD "")) := by
    refine renders_texts fun texts succeeds => ?_
    rcases bind_eq_ok_iff.mp succeeds with ⟨text, _, rest⟩
    rcases bind_eq_ok_iff.mp rest with ⟨other, _, equal⟩
    cases equal
    exact made text other
  simpa only [statementTexts, List.mapM_cons, List.mapM_nil, bind_assoc, pure_bind,
    List.headD_cons, List.getLastD_cons, List.getLastD_nil] using together

theorem renders_statement
    (scripter : Scripter)
    (types : Value)
    (statement : ObjectStatement) :
    scripter.Renders types [statement] (scripter.statementText types statement) := by
  have alone : scripter.Renders types [statement]
      (scripter.statementText types statement >>= pure) :=
    renders_map fun text => Dialect.madeOf_text scripter.dialect text
  rwa [bind_pure] at alone

/-- What is made of the scripts of statements one behind the other. -/
theorem Renders.append
    (first : scripter.Renders types statements script)
    (second : scripter.Renders types others other) :
    scripter.Renders types (statements ++ others) (do return (← script) ++ (← other)) := by
  have together : scripter.statementTexts types (statements ++ others) = (do
      return (← scripter.statementTexts types statements) ++
        (← scripter.statementTexts types others)) :=
    List.mapM_append
  constructor
  · intro failure failed
    rw [together] at failed
    cases run : scripter.statementTexts types statements with
    | error reason =>
        rw [run] at failed
        cases failed
        rw [first.fails _ run]
        rfl
    | ok texts =>
        rw [run] at failed
        rcases first.succeeds texts run with ⟨text, textOk, _⟩
        rw [textOk]
        cases otherRun : scripter.statementTexts types others with
        | error reason =>
            rw [otherRun] at failed
            cases failed
            rw [second.fails _ otherRun]
            rfl
        | ok otherTexts =>
            rw [otherRun] at failed
            cases failed
  · intro texts succeeds
    rw [together] at succeeds
    rcases bind_eq_ok_iff.mp succeeds with ⟨firstTexts, firstOk, rest⟩
    rcases bind_eq_ok_iff.mp rest with ⟨otherTexts, othersOk, equal⟩
    cases equal
    rcases first.succeeds firstTexts firstOk with ⟨text, textOk, made⟩
    rcases second.succeeds otherTexts othersOk with ⟨otherText, otherTextOk, otherMade⟩
    rw [textOk, otherTextOk]
    exact ⟨text ++ otherText, rfl, made.append otherMade⟩

/-- Fillers in front of a script and behind it do not count. -/
theorem Renders.between
    {before after : String}
    (renders : scripter.Renders types statements script)
    (isBefore : scripter.dialect.MadeOf [] before)
    (isAfter : scripter.dialect.MadeOf [] after) :
    scripter.Renders types statements (do return before ++ (← script) ++ after) := by
  have ended : scripter.Renders types [] (.ok after) := renders_of_madeOf isAfter
  have together := ((renders_of_madeOf isBefore).append renders).append ended
  rw [List.nil_append, List.append_nil] at together
  cases script with
  | error failure => exact together
  | ok text => exact together

/-- Scripts one behind the other render the statements of all of them. -/
theorem renders_flatten
    {α : Type}
    {items : List α}
    {grouped : List (List ObjectStatement)}
    {scriptOf : α → Script}
    (renders : List.Forall₂
      (fun statements item => scripter.Renders types statements (scriptOf item)) grouped items) :
    scripter.Renders types grouped.flatten (do
      return String.join (← items.mapM scriptOf)) := by
  induction renders with
  | nil => exact renders_nothing
  | @cons statements item grouped items first _ ih =>
      have together := first.append ih
      rw [List.flatten_cons, List.mapM_cons]
      cases run : scriptOf item with
      | error failure =>
          rw [run] at together
          exact together
      | ok text =>
          rw [run] at together
          cases others : items.mapM scriptOf with
          | error failure =>
              rw [others] at together
              exact together
          | ok otherTexts =>
              rw [others] at together
              simp only [Attempt.ok_bind, Attempt.pure_eq_ok] at together ⊢
              rwa [String.join_cons]

/-- The scripts of items one behind the other render their statements. -/
theorem renders_flatMap
    {α : Type}
    {items : List α}
    {statementsOf : α → List ObjectStatement}
    {scriptOf : α → Script}
    (renders : ∀ item ∈ items, scripter.Renders types (statementsOf item) (scriptOf item)) :
    scripter.Renders types (items.flatMap statementsOf) (do
      return String.join (← items.mapM scriptOf)) := by
  rw [List.flatMap_def]
  exact renders_flatten (List.forall₂_map_left_iff.mpr (List.forall₂_same.mpr renders))

end Scripter

end SchemaDelta
