import Mathlib.Data.List.Basic
import SchemaDelta.Ddl.MicrosoftSql.Statements
import SchemaDelta.Text.Lines

/-!
# Batches of a text

A text is split into batches at its separator lines, those that say `GO` and nothing else.  Texts
are put together of whole lines, so that a definition between two separators is a batch of its own,
unless it holds a separator line itself.
-/

namespace SchemaDelta.Text

/-! ## Lines with their ends -/

/-- The word on the lines between batches. -/
def separatorWord : List Char :=
  ['G', 'O']

/-- Which letters end a line: a line feed does, the letters of the separator do not. -/
structure LineConvention where
  ends : Char → Bool
  lineFeed : ends '\n' = true
  separator : ∀ letter ∈ separatorWord, ends letter = false

namespace LineConvention

/-- Only a line feed ends a line. -/
def lineFeeds : LineConvention where
  ends := (· == '\n')
  lineFeed := rfl
  separator := List.forall_mem_cons.mpr ⟨rfl, List.forall_mem_singleton.mpr rfl⟩

/-- Every boundary of lines ends a line. -/
def boundaries : LineConvention where
  ends := isLineEnd
  lineFeed := rfl
  separator := List.forall_mem_cons.mpr ⟨rfl, List.forall_mem_singleton.mpr rfl⟩

variable {convention : LineConvention}

/--
The lines of letters, each with the letter that ends it.  A letter that ends no line is put in front
of the first line of what follows it.
-/
def keptLines
    (convention : LineConvention) : List Char → List (List Char)
  | [] => []
  | letter :: rest =>
    if convention.ends letter then [letter] :: convention.keptLines rest
    else
      match convention.keptLines rest with
      | [] => [[letter]]
      | line :: lines => (letter :: line) :: lines

/-- A line without its end. -/
def content
    (convention : LineConvention)
    (line : List Char) : List Char :=
  line.takeWhile fun letter => !convention.ends letter

/-- A line that says no more than the separator. -/
def isSeparator
    (convention : LineConvention)
    (line : List Char) : Bool :=
  convention.content line == separatorWord

/-- The letters of a text are those of its lines. -/
theorem flatten_keptLines
    (letters : List Char) :
    (convention.keptLines letters).flatten = letters := by
  induction letters with
  | nil => rfl
  | cons letter rest ih =>
      rw [keptLines]
      split
      · rw [List.flatten_cons, ih, List.singleton_append]
      · split
        · rename_i none
          rw [none] at ih
          rw [← ih]
          rfl
        · rename_i line lines held
          rw [held, List.flatten_cons] at ih
          rw [List.flatten_cons, List.cons_append, ih]

/-- Behind the end of a line other lines begin. -/
theorem keptLines_append_cons
    {last : Char}
    (isEnd : convention.ends last = true)
    (letters rest : List Char) :
    convention.keptLines (letters ++ last :: rest) =
      convention.keptLines (letters ++ [last]) ++ convention.keptLines rest := by
  induction letters with
  | nil => simp [keptLines, isEnd]
  | cons letter letters ih =>
      rw [List.cons_append, List.cons_append, keptLines, keptLines, ih]
      split
      · rw [List.cons_append]
      · cases held : convention.keptLines (letters ++ [last]) with
        | nil =>
            have letters := convention.flatten_keptLines (letters ++ [last])
            rw [held] at letters
            simp at letters
        | cons line lines => simp

/-- The separator stands on one line. -/
theorem keptLines_separator :
    convention.keptLines (separatorWord ++ ['\n']) = [separatorWord ++ ['\n']] := by
  have first : convention.ends 'G' = false := convention.separator _ (by decide)
  have second : convention.ends 'O' = false := convention.separator _ (by decide)
  simp [separatorWord, keptLines, first, second, convention.lineFeed]

theorem isSeparator_separator :
    convention.isSeparator (separatorWord ++ ['\n']) = true := by
  have first : convention.ends 'G' = false := convention.separator _ (by decide)
  have second : convention.ends 'O' = false := convention.separator _ (by decide)
  simp [isSeparator, content, separatorWord, first, second, convention.lineFeed]

/-- A line feed at the end of a text ends its last line or adds an empty one. -/
theorem content_keptLines_lineFeed
    (letters : List Char) :
    (convention.keptLines (letters ++ ['\n'])).map convention.content =
        (convention.keptLines letters).map convention.content ∨
      (convention.keptLines (letters ++ ['\n'])).map convention.content =
        (convention.keptLines letters).map convention.content ++ [[]] := by
  induction letters with
  | nil => exact Or.inr (by simp [keptLines, content, convention.lineFeed])
  | cons letter letters ih =>
      rw [List.cons_append, keptLines, keptLines]
      split
      · rw [List.map_cons, List.map_cons, List.cons_append, List.cons.injEq, List.cons.injEq]
        exact ih.imp (fun same => ⟨rfl, same⟩) fun longer => ⟨rfl, longer⟩
      · rename_i within
        have starts : ∀ line, convention.content (letter :: line) =
            letter :: convention.content line := by
          intro line
          simp [content, within]
        cases before : convention.keptLines letters with
        | nil =>
            have none : letters = [] := by
              rw [← convention.flatten_keptLines letters, before, List.flatten_nil]
            left
            simp [none, keptLines, content, within, convention.lineFeed]
        | cons line lines =>
            rw [before, List.map_cons] at ih
            cases after : convention.keptLines (letters ++ ['\n']) with
            | nil =>
                rw [after] at ih
                rcases ih with impossible | impossible <;> cases impossible
            | cons first others =>
                rw [after, List.map_cons, List.cons_append, List.cons.injEq, List.cons.injEq] at ih
                simp only [List.map_cons, List.cons_append, List.cons.injEq, starts, true_and]
                exact ih

/-! ## Batches -/

/-- The groups of lines with a separator line in front of them and one behind them. -/
def groups
    (convention : LineConvention)
    (lines : List (List Char)) : List (List (List Char)) :=
  (lines.splitOnP convention.isSeparator).tail.dropLast

/-- The batches of a text with a separator line in front of them and one behind them. -/
def batches
    (convention : LineConvention)
    (text : String) : List String :=
  (convention.groups (convention.keptLines text.toList)).map fun lines =>
    String.ofList lines.flatten

/-- No line of a text is a separator. -/
def lacksSeparator
    (convention : LineConvention)
    (text : String) : Bool :=
  (convention.keptLines text.toList).all fun line => !convention.isSeparator line

private theorem dropLast_tail_sublist
    {α : Type}
    (items : List α) :
    items.tail.dropLast.Sublist items.dropLast := by
  cases items with
  | nil => exact List.Sublist.slnil
  | cons first items =>
      cases items with
      | nil => exact List.Sublist.slnil
      | cons second items =>
          rw [List.tail_cons, List.dropLast_cons_cons]
          exact List.sublist_cons_self ..

/-- Lines in front of others leave the groups of those. -/
theorem groups_append_sublist
    (before lines : List (List Char)) :
    (convention.groups lines).Sublist (convention.groups (before ++ lines)) := by
  induction before with
  | nil => exact List.Sublist.refl _
  | cons line before ih =>
      refine ih.trans ?_
      rw [groups, groups, List.cons_append, List.splitOnP_cons_eq_if_modifyHead]
      split
      · exact dropLast_tail_sublist _
      · cases (before ++ lines).splitOnP convention.isSeparator with
        | nil => exact List.Sublist.slnil
        | cons group groups => exact List.Sublist.refl _

/-- Lines between two separators, none of which is a separator, are a group of their own. -/
theorem groups_between
    {separator closing : List Char}
    {inner : List (List Char)}
    (opens : convention.isSeparator separator = true)
    (closes : convention.isSeparator closing = true)
    (lacks : ∀ line ∈ inner, convention.isSeparator line = false)
    (lines : List (List Char)) :
    (inner :: convention.groups lines).Sublist
      (convention.groups (separator :: (inner ++ closing :: lines))) := by
  have split : (separator :: (inner ++ closing :: lines)).splitOnP convention.isSeparator =
      [] :: inner :: lines.splitOnP convention.isSeparator := by
    rw [List.splitOnP_cons_eq_if_modifyHead, if_pos opens,
      List.splitOnP_append_cons inner lines closes, List.splitOnP_eq_singleton lacks,
      List.singleton_append]
  rw [groups, groups, split, List.tail_cons,
    List.dropLast_cons_of_ne_nil (List.splitOnP_ne_nil _ lines)]
  exact (dropLast_tail_sublist _).cons_cons inner

end LineConvention

/-! ## Texts of whole lines -/

/-- A text that is empty or ends with a line feed. -/
def IsWhole
    (text : String) : Prop :=
  text = "" ∨ ∃ before, text = before ++ "\n"

/-- A text with a line feed at its end, which is added if it is not there. -/
def endLine
    (text : String) : String :=
  if text.toList.getLast? = some '\n' then text else text ++ "\n"

theorem isWhole_endLine
    (text : String) :
    IsWhole (endLine text) := by
  unfold endLine
  split
  · rename_i isEnd
    rcases List.getLast?_eq_some_iff.mp isEnd with ⟨before, letters⟩
    exact Or.inr ⟨String.ofList before, String.toList_injective (by simp [letters])⟩
  · exact Or.inr ⟨text, rfl⟩

namespace LineConvention

variable {convention : LineConvention}

/-- The lines behind whole lines are those of what follows. -/
theorem keptLines_append
    {text : String}
    (whole : IsWhole text)
    (rest : String) :
    convention.keptLines (text ++ rest).toList =
      convention.keptLines text.toList ++ convention.keptLines rest.toList := by
  rcases whole with rfl | ⟨before, rfl⟩
  · simp [keptLines]
  · have lineFeed : ("\n" : String).toList = ['\n'] := rfl
    rw [String.toList_append, String.toList_append, List.append_assoc, lineFeed,
      List.singleton_append, convention.keptLines_append_cons convention.lineFeed]

/-- The lines of a batch stand between two separators. -/
theorem keptLines_batch
    (definition text : String) :
    convention.keptLines (MicrosoftSql.batchEnd ++ (endLine definition ++
      (MicrosoftSql.batchEnd ++ text))).toList =
        (separatorWord ++ ['\n']) :: (convention.keptLines (endLine definition).toList ++
          (separatorWord ++ ['\n']) :: convention.keptLines text.toList) := by
  have separator : MicrosoftSql.batchEnd.toList = separatorWord ++ ['\n'] := rfl
  have whole : IsWhole MicrosoftSql.batchEnd := Or.inr ⟨"GO", rfl⟩
  rw [convention.keptLines_append whole, convention.keptLines_append (isWhole_endLine _),
    convention.keptLines_append whole, separator, convention.keptLines_separator]
  rfl

/-- Ending the last line makes no separator. -/
theorem lacksSeparator_endLine
    {text : String}
    (lacks : convention.lacksSeparator text = true) :
    ∀ line ∈ convention.keptLines (endLine text).toList, convention.isSeparator line = false := by
  have listed : ∀ content ∈ (convention.keptLines text.toList).map convention.content,
      content ≠ separatorWord := by
    intro content member
    rcases List.mem_map.mp member with ⟨line, lineMember, rfl⟩
    simpa [isSeparator] using List.all_eq_true.mp lacks line lineMember
  unfold endLine
  split
  · exact fun line member => by simpa using List.all_eq_true.mp lacks line member
  · intro line member
    have lineFeed : (text ++ "\n").toList = text.toList ++ ['\n'] := String.toList_append ..
    rw [lineFeed] at member
    have among := List.mem_map_of_mem (f := convention.content) member
    rw [isSeparator, beq_eq_false_iff_ne]
    rcases convention.content_keptLines_lineFeed text.toList with same | longer
    · exact listed _ (same ▸ among)
    · rw [longer] at among
      rcases List.mem_append.mp among with old | added
      · exact listed _ old
      · rw [List.mem_singleton.mp added]
        decide

end LineConvention

/-- Definitions stand in a text in this order, each between two separators, among whole lines. -/
inductive Isolates : List String → String → Prop where
  | nothing : Isolates [] ""
  | filler
      {filler text : String}
      {definitions : List String}
      (whole : IsWhole filler)
      (rest : Isolates definitions text) :
      Isolates definitions (filler ++ text)
  | batch
      {definition text : String}
      {definitions : List String}
      (rest : Isolates definitions text) :
      Isolates (definition :: definitions)
        (MicrosoftSql.batchEnd ++ (endLine definition ++ (MicrosoftSql.batchEnd ++ text)))

namespace Isolates

variable {definitions others : List String} {text other : String}

theorem of_isWhole
    (whole : IsWhole text) :
    Isolates [] text := by
  have isolates := Isolates.filler whole .nothing
  rwa [String.append_empty] at isolates

theorem append
    (isolates : Isolates definitions text)
    (otherIsolates : Isolates others other) :
    Isolates (definitions ++ others) (text ++ other) := by
  induction isolates with
  | nothing => simpa using otherIsolates
  | filler whole _ ih =>
      rw [String.append_assoc]
      exact .filler whole ih
  | batch _ ih =>
      rw [String.append_assoc, String.append_assoc, String.append_assoc]
      exact .batch ih

/-- Every definition without a separator line is a batch of its own, up to a final line feed. -/
theorem sublist_batches
    (isolates : Isolates definitions text)
    (convention : LineConvention) :
    ((definitions.filter convention.lacksSeparator).map endLine).Sublist
      (convention.batches text) := by
  induction isolates with
  | nothing => exact List.Sublist.slnil
  | @filler filler text definitions whole rest ih =>
      refine ih.trans ?_
      rw [LineConvention.batches, LineConvention.batches, convention.keptLines_append whole]
      exact (convention.groups_append_sublist _ _).map _
  | @batch definition text definitions rest ih =>
      rw [LineConvention.batches, convention.keptLines_batch]
      cases lacks : convention.lacksSeparator definition with
      | true =>
          have itself : String.ofList (convention.keptLines (endLine definition).toList).flatten =
              endLine definition := by
            rw [convention.flatten_keptLines, String.ofList_toList]
          have between := (convention.groups_between convention.isSeparator_separator
            convention.isSeparator_separator (convention.lacksSeparator_endLine lacks)
            (convention.keptLines text.toList)).map fun lines => String.ofList lines.flatten
          rw [List.map_cons, itself] at between
          rw [List.filter_cons_of_pos lacks, List.map_cons]
          exact (ih.cons_cons _).trans between
      | false =>
          rw [List.filter_cons_of_neg (by simp [lacks])]
          refine ih.trans (List.Sublist.map _ ?_)
          rw [← List.singleton_append, ← List.append_assoc, List.append_cons]
          exact convention.groups_append_sublist _ _

end Isolates

end SchemaDelta.Text
