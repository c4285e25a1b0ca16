import Mathlib.Logic.Relation
import SchemaDelta.Proofs.Ddl.ViewIndexes
import SchemaDelta.Proofs.Migration.FunctionSignature

/-!
# Members of types

Labels stand in a script between quotes and attributes between blanks, letter by letter.  So a
label that has in it what stands between two labels is read as two of them, and two attributes side
by side may share their letters in another way.  Types with one name have the same script exactly
when such steps lead from the members of one to those of the other.  Members that have in them none
of the marks behind a member are told from each other by the script.
-/

namespace SchemaDelta

open Attempt (bind_eq_ok_iff)

/-! ## Marks in texts -/

namespace Text

/-- The letters in front of the first place where a mark stands. -/
def beforeMark
    (mark : List Char) : List Char → List Char
  | [] => []
  | letter :: rest =>
    if mark.isPrefixOf (letter :: rest) then [] else letter :: beforeMark mark rest

variable {first letter : Char} {others letters rest : List Char}

private theorem not_prefix_append
    (free : ¬first :: others <:+: letters)
    (apart : letter ∉ others)
    (notEmpty : letters ≠ []) :
    ¬first :: others <+: letters ++ letter :: rest := by
  intro starts
  by_cases within : (first :: others).length ≤ letters.length
  · exact free ((List.prefix_of_prefix_length_le starts (List.prefix_append ..) within).isInfix)
  · -- The mark reaches behind the letters, so the letter there belongs to it.
    rcases List.exists_cons_of_ne_nil notEmpty with ⟨head, tail, rfl⟩
    rw [List.cons_append, List.cons_prefix_cons] at starts
    have reaches : tail.length < others.length := by
      simpa using within
    have atPlace : others[tail.length]? = some letter := by
      rcases starts.2 with ⟨behind, equal⟩
      have inFront : (others ++ behind)[tail.length]? = others[tail.length]? :=
        List.getElem?_append_left reaches
      rw [← inFront, equal]
      simp
    exact apart (List.mem_of_getElem? atPlace)

/-- No mark stands in letters without one, nor across their end where the next letter is not in the
rest of the mark. -/
theorem beforeMark_append
    (free : ¬first :: others <:+: letters)
    (apart : letter ∉ others) :
    beforeMark (first :: others) (letters ++ letter :: rest) =
      letters ++ beforeMark (first :: others) (letter :: rest) := by
  induction letters with
  | nil => rfl
  | cons head tail ih =>
      have notHere : (first :: others).isPrefixOf (head :: (tail ++ letter :: rest)) = false := by
        rw [Bool.eq_false_iff, Ne, List.isPrefixOf_iff_prefix]
        exact not_prefix_append free apart (List.cons_ne_nil head tail)
      have tailFree : ¬first :: others <:+: tail :=
        fun inside => free (inside.trans (List.suffix_cons head tail).isInfix)
      rw [List.cons_append, beforeMark, notHere, if_neg Bool.false_ne_true, ih tailFree,
        List.cons_append]

/-- What stands behind a mark makes no difference. -/
theorem beforeMark_append_mark
    (letters rest otherRest : List Char) :
    beforeMark (first :: others) (letters ++ (first :: others) ++ rest) =
      beforeMark (first :: others) (letters ++ (first :: others) ++ otherRest) := by
  induction letters with
  | nil =>
      have starts : ∀ rest, (first :: others).isPrefixOf (first :: (others ++ rest)) = true :=
        fun rest => List.isPrefixOf_iff_prefix.mpr (List.prefix_append ..)
      rw [List.nil_append, List.cons_append, List.cons_append, beforeMark, beforeMark, starts,
        starts, if_pos rfl, if_pos rfl]
  | cons head tail ih =>
      have sameStart : ∀ rest,
          (first :: others).isPrefixOf (head :: (tail ++ (first :: others) ++ rest)) =
            (first :: others).isPrefixOf (head :: (tail ++ (first :: others))) := by
        intro rest
        rw [Bool.eq_iff_iff, List.isPrefixOf_iff_prefix, List.isPrefixOf_iff_prefix]
        constructor
        · intro starts
          refine List.prefix_of_prefix_length_le starts
            (List.prefix_append (head :: (tail ++ (first :: others))) rest) ?_
          simp only [List.length_cons, List.length_append]
          omega
        · exact fun starts => starts.trans (List.prefix_append _ rest)
      rw [List.cons_append, List.cons_append, List.cons_append, beforeMark, beforeMark,
        sameStart rest, sameStart otherRest, ih]

end Text

namespace PostgreSql

variable {labels others names otherNames types : List String}

/-! ## Steps between lists -/

/-- Steps that keep a text lead to no other text. -/
private theorem eq_of_eqvGen
    {step : List String → List String → Prop}
    (text : List String → String)
    (keeps : ∀ labels others, step labels others → text labels = text others)
    (related : Relation.EqvGen step labels others) :
    text labels = text others := by
  induction related with
  | rel _ _ stepped => exact keeps _ _ stepped
  | refl => rfl
  | symm _ _ _ ih => exact ih.symm
  | trans _ _ _ _ _ first second => exact first.trans second

/-- What steps lead to in a list they lead to behind a further member. -/
private theorem eqvGen_cons
    {step longerStep : List String → List String → Prop}
    {first : String}
    (behind : ∀ {labels others : List String},
      step labels others → longerStep (first :: labels) (first :: others))
    (related : Relation.EqvGen step labels others) :
    Relation.EqvGen longerStep (first :: labels) (first :: others) := by
  induction related with
  | rel _ _ stepped => exact .rel _ _ (behind stepped)
  | refl => exact .refl _
  | symm _ _ _ ih => exact .symm _ _ ih
  | trans _ _ _ _ _ first second => exact .trans _ _ _ first second

/-! ## Lines of members -/

/-- What stands behind a member in front of the lines of the later ones. -/
def continued
    (later : String) : String :=
  if later = "" then "" else "," ++ later

private theorem memberLines_cons
    (member : String)
    (members : List String) :
    memberLines (member :: members) = "\n    " ++ (member ++ continued (memberLines members)) := by
  have lead : "\n" ++ indent = "\n    " := by
    decide
  cases members with
  | nil =>
      simp only [memberLines, continued, List.map_cons, List.map_nil, String.intercalate_singleton,
        String.intercalate_nil, if_pos, String.append_empty, lead]
  | cons next members =>
      have notEmpty : memberLines (next :: members) ≠ "" := by
        intro empty
        have letters := congrArg String.toList empty
        cases members <;> simp [memberLines, String.intercalate_cons_cons] at letters
      rw [continued, if_neg notEmpty]
      simp only [memberLines, List.map_cons, String.intercalate_cons_cons, String.append_assoc,
        ← lead]

/-! ## Labels -/

/-- The labels of an enumerated type as they are written. -/
def labelText
    (labels : List String) : String :=
  memberLines (labels.map fun label => "\x27" ++ label ++ "\x27")

/-- What stands between two labels. -/
def labelSeparator : String :=
  "\x27,\n    \x27"

/-- Two labels side by side are one label that has in it what stands between them. -/
inductive Merges : List String → List String → Prop
  | here (first second : String) (rest : List String) :
      Merges (first :: second :: rest) ((first ++ labelSeparator ++ second) :: rest)
  | there (label : String) {labels others : List String} :
      Merges labels others → Merges (label :: labels) (label :: others)

/-- What stands behind a label, up to the quote of the next one. -/
def labelEnd : String :=
  "\x27,\n    "

/-- No label has in it what stands behind a label. -/
def LabelsAreClosed
    (labels : List String) : Prop :=
  ∀ label ∈ labels, ¬IsPartOf labelEnd label

private theorem labelText_cons
    (label : String)
    (labels : List String) :
    labelText (label :: labels) =
      "\n    \x27" ++ (label ++ ("\x27" ++ continued (labelText labels))) := by
  have lead : "\n    \x27" = "\n    " ++ "\x27" := by
    decide
  simp only [labelText, List.map_cons, memberLines_cons, String.append_assoc, lead]

private theorem labelText_cons_ne_empty
    {label : String}
    {labels : List String} :
    labelText (label :: labels) ≠ labelText [] := by
  intro empty
  rw [labelText_cons] at empty
  simpa [labelText, memberLines] using congrArg String.toList empty

private theorem continued_labelText_cons
    (label : String)
    (labels : List String) :
    continued (labelText (label :: labels)) = "," ++ labelText (label :: labels) :=
  if_neg labelText_cons_ne_empty

/-- Labels merged into one are written like the labels. -/
theorem Merges.labelText_eq
    (merges : Merges labels others) :
    labelText labels = labelText others := by
  induction merges with
  | here first second rest =>
      have between : labelSeparator = "\x27" ++ ("," ++ "\n    \x27") := by
        decide
      rw [labelText_cons, continued_labelText_cons, labelText_cons, labelText_cons, between]
      simp only [String.append_assoc]
  | there label _ ih => rw [labelText_cons, labelText_cons, ih]

/-- All labels of a type can be merged into one. -/
private theorem exists_merged
    (label : String)
    (labels : List String) :
    ∃ merged, Relation.EqvGen Merges (label :: labels) [merged] := by
  induction labels generalizing label with
  | nil => exact ⟨label, .refl _⟩
  | cons next labels ih =>
      rcases ih next with ⟨merged, same⟩
      exact ⟨label ++ labelSeparator ++ merged,
        .trans _ _ _ (eqvGen_cons (.there label) same) (.rel _ _ (.here label merged []))⟩

/-- Labels are written alike exactly when merging leads from the ones to the others. -/
theorem labelText_eq_iff :
    labelText labels = labelText others ↔ Relation.EqvGen Merges labels others := by
  have keeps : ∀ labels others, Merges labels others → labelText labels = labelText others :=
    fun _ _ => Merges.labelText_eq
  constructor
  · intro same
    cases labels with
    | nil =>
        cases others with
        | nil => exact .refl _
        | cons label others => exact absurd same.symm labelText_cons_ne_empty
    | cons label labels =>
        cases others with
        | nil => exact absurd same labelText_cons_ne_empty
        | cons other others =>
            -- Merged into one label each, they are the same label.
            rcases exists_merged label labels with ⟨merged, leads⟩
            rcases exists_merged other others with ⟨otherMerged, otherLeads⟩
            have equal := (eq_of_eqvGen labelText keeps leads).symm.trans
              (same.trans (eq_of_eqvGen labelText keeps otherLeads))
            rw [labelText_cons, labelText_cons, String.append_right_inj,
              String.append_left_inj] at equal
            subst equal
            exact .trans _ _ _ leads (.symm _ _ otherLeads)
  · exact eq_of_eqvGen labelText keeps

/-- The mark behind a closed label is found no earlier than at the quote at its end. -/
private theorem beforeMark_label
    {label : String}
    (free : ¬IsPartOf labelEnd label)
    (behind : String) :
    Text.beforeMark labelEnd.toList (label ++ ("\x27" ++ behind)).toList =
      label.toList ++ Text.beforeMark labelEnd.toList ("\x27" ++ behind).toList := by
  have mark : labelEnd.toList = '\x27' :: ",\n    ".toList := by
    decide
  have quote : "\x27".toList = ['\x27'] := by
    decide
  rw [IsPartOf, mark] at free
  rw [String.toList_append, String.toList_append, quote, List.singleton_append, mark]
  exact Text.beforeMark_append free (by decide)

private theorem beforeMark_last :
    Text.beforeMark labelEnd.toList ("\x27" ++ continued (labelText [])).toList = ['\x27'] := by
  decide

private theorem beforeMark_continued
    (label : String)
    (labels : List String) :
    Text.beforeMark labelEnd.toList ("\x27" ++ continued (labelText (label :: labels))).toList =
      [] := by
  rw [continued_labelText_cons, labelText_cons]
  simp [Text.beforeMark, labelEnd]

/-- A closed label in front of others is not the last one of a list. -/
private theorem labelText_singleton_ne
    {label other next : String}
    (free : ¬IsPartOf labelEnd label)
    (otherFree : ¬IsPartOf labelEnd other) :
    labelText [label] ≠ labelText (other :: next :: others) := by
  intro same
  rw [labelText_cons label, labelText_cons other, String.append_right_inj] at same
  have before := congrArg (Text.beforeMark labelEnd.toList ∘ String.toList) same
  rw [Function.comp_apply, Function.comp_apply, beforeMark_label free, beforeMark_label otherFree,
    beforeMark_last, beforeMark_continued, List.append_nil] at before
  -- The last label would go on with the quote that is its end.
  have length := congrArg (fun text => text.toList.length) same
  simp [continued, labelText, memberLines, ← before] at length

/-- Closed labels are told from each other by the way they are written. -/
theorem eq_of_labelText_eq
    (closed : LabelsAreClosed labels)
    (otherClosed : LabelsAreClosed others)
    (same : labelText labels = labelText others) :
    labels = others := by
  induction labels generalizing others with
  | nil =>
      cases others with
      | nil => rfl
      | cons label others => exact absurd same.symm labelText_cons_ne_empty
  | cons label labels ih =>
      cases others with
      | nil => exact absurd same labelText_cons_ne_empty
      | cons other others =>
          rw [LabelsAreClosed, List.forall_mem_cons] at closed otherClosed
          cases labels with
          | nil =>
              cases others with
              | nil =>
                  rw [labelText_cons, labelText_cons, String.append_right_inj,
                    String.append_left_inj] at same
                  rw [same]
              | cons next others =>
                  exact absurd same (labelText_singleton_ne closed.1 otherClosed.1)
          | cons next labels =>
              cases others with
              | nil => exact absurd same.symm (labelText_singleton_ne otherClosed.1 closed.1)
              | cons otherNext others =>
                  rw [labelText_cons label, labelText_cons other, String.append_right_inj] at same
                  have before := congrArg (Text.beforeMark labelEnd.toList ∘ String.toList) same
                  rw [Function.comp_apply, Function.comp_apply, beforeMark_label closed.1,
                    beforeMark_label otherClosed.1, beforeMark_continued, beforeMark_continued,
                    List.append_nil, List.append_nil, String.toList_inj] at before
                  subst before
                  rw [String.append_right_inj, String.append_right_inj, continued_labelText_cons,
                    continued_labelText_cons, String.append_right_inj] at same
                  rw [ih closed.2 otherClosed.2 same]

/-! ## Attributes -/

/-- The attributes of a composite type as they are written, each with its type. -/
def attributeText
    (names types : List String) : String :=
  memberLines (names.zipWith (fun name type => name ++ " " ++ type) types)

/-- What stands between two names of attributes, the first of which has a type. -/
def attributeSeparator
    (type : String) : String :=
  " " ++ type ++ ",\n    "

/-- Two names side by side share their letters in another way, with the type between them. -/
inductive Shifts : List String → List String → List String → Prop
  | here (type next : String) (types : List String) {first second other otherSecond : String}
      (rest : List String) :
      first ++ attributeSeparator type ++ second =
          other ++ attributeSeparator type ++ otherSecond →
        Shifts (type :: next :: types) (first :: second :: rest) (other :: otherSecond :: rest)
  | there (type name : String) {types names others : List String} :
      Shifts types names others → Shifts (type :: types) (name :: names) (name :: others)

/-- What stands behind an attribute, up to the blanks in front of the next one. -/
def attributeEnd : String :=
  ",\n"

/-- No name has in it what stands behind an attribute. -/
def NamesAreClosed
    (names : List String) : Prop :=
  ∀ name ∈ names, ¬IsPartOf attributeEnd name

variable {type next : String}

private theorem attributeText_cons
    (name type : String)
    (names types : List String) :
    attributeText (name :: names) (type :: types) =
      "\n    " ++ (name ++ (" " ++ (type ++ continued (attributeText names types)))) := by
  simp only [attributeText, List.zipWith_cons_cons, memberLines_cons, String.append_assoc]

private theorem continued_attributeText_cons
    (name type : String)
    (names types : List String) :
    continued (attributeText (name :: names) (type :: types)) =
      "," ++ attributeText (name :: names) (type :: types) := by
  refine if_neg fun empty => ?_
  rw [attributeText_cons] at empty
  simpa using congrArg String.toList empty

/-- Two attributes with their separator in front of whatever follows. -/
private theorem attributeText_cons_cons
    (first second type next : String)
    (names types : List String) :
    attributeText (first :: second :: names) (type :: next :: types) =
      "\n    " ++ (first ++ (attributeSeparator type ++ (second ++
        (" " ++ (next ++ continued (attributeText names types)))))) := by
  have lead : ",\n    " = "," ++ "\n    " := by
    decide
  rw [attributeText_cons, continued_attributeText_cons, attributeText_cons, attributeSeparator,
    lead]
  simp only [String.append_assoc]

/-- Names that share their letters in another way are written alike. -/
theorem Shifts.attributeText_eq
    (shifts : Shifts types names otherNames) :
    attributeText names types = attributeText otherNames types := by
  induction shifts with
  | here type next types rest sameText =>
      have sameFront := congrArg
        (· ++ (" " ++ (next ++ continued (attributeText rest types)))) sameText
      simp only [String.append_assoc] at sameFront
      rw [attributeText_cons_cons, attributeText_cons_cons, sameFront]
  | there type name _ ih => rw [attributeText_cons, attributeText_cons, ih]

/-- Of two divisions of a text, one is behind the other. -/
private theorem exists_of_append_eq
    {first second other otherSecond : String}
    (same : first ++ second = other ++ otherSecond) :
    (∃ between, other = first ++ between ∧ second = between ++ otherSecond) ∨
      ∃ between, first = other ++ between ∧ otherSecond = between ++ second := by
  rw [← String.toList_inj, String.toList_append, String.toList_append,
    List.append_eq_append_iff] at same
  rcases same with ⟨between, left, right⟩ | ⟨between, left, right⟩
  · exact .inl ⟨String.ofList between, by simp [← String.toList_inj, left],
      by simp [← String.toList_inj, right]⟩
  · exact .inr ⟨String.ofList between, by simp [← String.toList_inj, left],
      by simp [← String.toList_inj, right]⟩

/-- What follows a separator begins with the letters that the separator is moved by. -/
private theorem exists_moved
    {separator between behind otherBehind : String}
    (same : separator ++ behind = between ++ (separator ++ otherBehind)) :
    ∃ moved, behind = moved ++ otherBehind ∧ separator ++ moved = between ++ separator := by
  rw [← String.append_assoc] at same
  rcases exists_of_append_eq same with ⟨moved, left, right⟩ | ⟨moved, left, right⟩
  · exact ⟨moved, right, left.symm⟩
  · -- A separator does not go on behind itself.
    have length := congrArg (fun text => text.toList.length) left
    simp only [String.toList_append, List.length_append] at length
    have noneBetween : between = "" := by
      rw [← String.toList_eq_nil_iff, ← List.length_eq_zero_iff]
      omega
    have noneMoved : moved = "" := by
      rw [← String.toList_eq_nil_iff, ← List.length_eq_zero_iff]
      omega
    subst noneBetween noneMoved
    exact ⟨"", by rw [right, String.empty_append, String.empty_append], by simp⟩

/-- A name that is longer by some letters gets them from the name behind it. -/
private theorem eqvGen_shifts_of_longer
    {first between second otherSecond next : String}
    (ih : ∀ {names otherNames : List String}, names.length = (next :: types).length →
      otherNames.length = (next :: types).length →
      attributeText names (next :: types) = attributeText otherNames (next :: types) →
        Relation.EqvGen (Shifts (next :: types)) names otherNames)
    (length : names.length = types.length)
    (otherLength : otherNames.length = types.length)
    (same : attributeText (first :: second :: names) (type :: next :: types) =
      attributeText ((first ++ between) :: otherSecond :: otherNames) (type :: next :: types)) :
    Relation.EqvGen (Shifts (type :: next :: types)) (first :: second :: names)
      ((first ++ between) :: otherSecond :: otherNames) := by
  rw [attributeText_cons_cons, attributeText_cons_cons] at same
  simp only [String.append_assoc, String.append_right_inj] at same
  rcases exists_moved same with ⟨moved, behind, around⟩
  have later : attributeText (second :: names) (next :: types) =
      attributeText ((moved ++ otherSecond) :: otherNames) (next :: types) := by
    rw [attributeText_cons, attributeText_cons, behind]
    simp only [String.append_assoc]
  refine .trans _ _ _ (eqvGen_cons (.there type first) (ih ?_ ?_ later))
    (.rel _ _ (.here type next types otherNames ?_))
  · rw [List.length_cons, List.length_cons, length]
  · rw [List.length_cons, List.length_cons, otherLength]
  · have shifted := congrArg (first ++ · ++ otherSecond) around
    simp only [String.append_assoc] at shifted ⊢
    exact shifted

/-- Names are written alike exactly when shifting letters leads from the ones to the others. -/
theorem attributeText_eq_iff
    (length : names.length = types.length)
    (otherLength : otherNames.length = types.length) :
    attributeText names types = attributeText otherNames types ↔
      Relation.EqvGen (Shifts types) names otherNames := by
  refine ⟨fun same => ?_,
    eq_of_eqvGen (attributeText · types) fun _ _ => Shifts.attributeText_eq⟩
  induction types generalizing names otherNames with
  | nil =>
      obtain rfl := List.length_eq_zero_iff.mp length
      obtain rfl := List.length_eq_zero_iff.mp otherLength
      exact .refl _
  | cons type types ih =>
      rcases List.exists_cons_of_length_eq_add_one length with ⟨first, names, rfl⟩
      rcases List.exists_cons_of_length_eq_add_one otherLength with ⟨other, otherNames, rfl⟩
      rw [List.length_cons, List.length_cons, Nat.add_right_cancel_iff] at length otherLength
      cases types with
      | nil =>
          obtain rfl := List.length_eq_zero_iff.mp length
          obtain rfl := List.length_eq_zero_iff.mp otherLength
          rw [attributeText_cons, attributeText_cons, String.append_right_inj,
            String.append_left_inj] at same
          subst same
          exact .refl _
      | cons next types =>
          rcases List.exists_cons_of_length_eq_add_one length with ⟨second, names, rfl⟩
          rcases List.exists_cons_of_length_eq_add_one otherLength with
            ⟨otherSecond, otherNames, rfl⟩
          rw [List.length_cons, List.length_cons, Nat.add_right_cancel_iff] at length otherLength
          have fronts := same
          rw [attributeText_cons_cons, attributeText_cons_cons, String.append_right_inj] at fronts
          rcases exists_of_append_eq fronts with ⟨between, rfl, _⟩ | ⟨between, rfl, _⟩
          · exact eqvGen_shifts_of_longer ih length otherLength same
          · exact .symm _ _ (eqvGen_shifts_of_longer ih otherLength length same.symm)

/-- The mark behind a closed name is found no earlier than behind its type. -/
private theorem beforeMark_name
    {name : String}
    (free : ¬IsPartOf attributeEnd name)
    (behind : String) :
    Text.beforeMark attributeEnd.toList (name ++ (" " ++ behind)).toList =
      name.toList ++ Text.beforeMark attributeEnd.toList (" " ++ behind).toList := by
  have mark : attributeEnd.toList = ',' :: "\n".toList := by
    decide
  have blank : " ".toList = [' '] := by
    decide
  rw [IsPartOf, mark] at free
  rw [String.toList_append, String.toList_append, blank, List.singleton_append, mark]
  exact Text.beforeMark_append free (by decide)

/-- Up to the mark behind a type it makes no difference which attributes follow. -/
private theorem beforeMark_type
    (second otherSecond : String) :
    Text.beforeMark attributeEnd.toList
        (" " ++ (type ++ continued (attributeText (second :: names) (next :: types)))).toList =
      Text.beforeMark attributeEnd.toList
        (" " ++ (type ++
          continued (attributeText (otherSecond :: otherNames) (next :: types)))).toList := by
  have divided : ∀ (second : String) (names : List String), ∃ behind,
      (" " ++ (type ++ continued (attributeText (second :: names) (next :: types)))).toList =
        (" " ++ type).toList ++ attributeEnd.toList ++ behind := by
    intro second names
    rw [continued_attributeText_cons, attributeText_cons]
    refine ⟨("    " ++ (second ++ (" " ++ (next ++ continued (attributeText names types))))).toList,
      ?_⟩
    simp [attributeEnd]
  rcases divided second names with ⟨behind, letters⟩
  rcases divided otherSecond otherNames with ⟨otherBehind, otherLetters⟩
  have mark : attributeEnd.toList = ',' :: "\n".toList := by
    decide
  rw [letters, otherLetters, mark]
  exact Text.beforeMark_append_mark (" " ++ type).toList behind otherBehind

/-- Closed names are told from each other by the way they are written. -/
theorem eq_of_attributeText_eq
    (length : names.length = types.length)
    (otherLength : otherNames.length = types.length)
    (closed : NamesAreClosed names)
    (otherClosed : NamesAreClosed otherNames)
    (same : attributeText names types = attributeText otherNames types) :
    names = otherNames := by
  induction types generalizing names otherNames with
  | nil =>
      obtain rfl := List.length_eq_zero_iff.mp length
      obtain rfl := List.length_eq_zero_iff.mp otherLength
      rfl
  | cons type types ih =>
      rcases List.exists_cons_of_length_eq_add_one length with ⟨name, names, rfl⟩
      rcases List.exists_cons_of_length_eq_add_one otherLength with ⟨other, otherNames, rfl⟩
      rw [List.length_cons, List.length_cons, Nat.add_right_cancel_iff] at length otherLength
      rw [NamesAreClosed, List.forall_mem_cons] at closed otherClosed
      rw [attributeText_cons, attributeText_cons, String.append_right_inj] at same
      cases types with
      | nil =>
          obtain rfl := List.length_eq_zero_iff.mp length
          obtain rfl := List.length_eq_zero_iff.mp otherLength
          rw [String.append_left_inj] at same
          rw [same]
      | cons next types =>
          rcases List.exists_cons_of_length_eq_add_one length with ⟨second, names, rfl⟩
          rcases List.exists_cons_of_length_eq_add_one otherLength with
            ⟨otherSecond, otherNames, rfl⟩
          have before := congrArg (Text.beforeMark attributeEnd.toList ∘ String.toList) same
          rw [Function.comp_apply, Function.comp_apply, beforeMark_name closed.1,
            beforeMark_name otherClosed.1, beforeMark_type second otherSecond,
            List.append_cancel_right_eq, String.toList_inj] at before
          subst before
          simp only [String.append_right_inj, continued_attributeText_cons] at same
          rw [ih length otherLength closed.2 otherClosed.2 same]

end PostgreSql

/-! ## Lists of texts -/

namespace Value

/-- The texts in a list of a typed object. -/
def texts
    (value : Value)
    (name : String) : List String :=
  (value.rows name).map display

variable {value other : Value} {kind : ObjectClass} {name : String}

/-- Lists of texts with the same texts are the same. -/
private theorem rows_eq_of_texts_eq
    (typed : value.isTyped kind = true)
    (otherTyped : other.isTyped kind = true)
    (declared : kind.declares name { item := .text, isList := true } = true)
    (same : value.texts name = other.texts name) :
    value.rows name = other.rows name := by
  have written : ∀ {value : Value}, value.isTyped kind = true →
      (value.texts name).map text = value.rows name := by
    intro value typed
    have conform := (part_of_isTyped typed declared).2
    rw [get_rows_of_isTyped typed declared] at conform
    have conformEach := allConform_iff.mp conform
    rw [texts, List.map_map]
    refine (List.map_congr_left fun row member => ?_).trans (List.map_id _)
    have isText := conformEach row member
    cases row with
    | text letters => rfl
    | object special fields =>
        rw [conforms] at isText
        cases isText
    | _ => cases isText
  rw [← written typed, ← written otherTyped, same]

end Value

/-! ## Scripts of types -/

namespace PostgreSql

variable {options : Options} {among type other : Value}

private theorem labelLines_ok
    (typed : type.isTyped .postgreSqlDataTypeEnumerated = true) :
    labelLines type = .ok (labelText (type.texts "labels")) := by
  have declared : ObjectClass.postgreSqlDataTypeEnumerated.declares "labels"
      { item := .text, isList := true } = true := by
    decide
  rw [labelLines, Value.partItems_of_isTyped typed declared, Attempt.ok_bind, labelText,
    Value.texts, List.map_map]
  rfl

private theorem mapM_attributes
    {names typeIds : List Value}
    (length : names.length = typeIds.length) :
    ((names.zip typeIds).mapM fun (name, typeId) => do
      return name.display ++ " " ++ (← typeName among typeId).display) = (do
        let types ← typeIds.mapM (typeName among)
        return (names.map Value.display).zipWith (fun name type => name ++ " " ++ type)
          (types.map Value.display) : Attempt (List String)) := by
  induction typeIds generalizing names with
  | nil =>
      obtain rfl := List.length_eq_zero_iff.mp length
      rfl
  | cons typeId typeIds ih =>
      rcases List.exists_cons_of_length_eq_add_one length with ⟨name, names, rfl⟩
      rw [List.length_cons, List.length_cons, Nat.add_right_cancel_iff] at length
      rw [List.zip_cons_cons, List.mapM_cons, List.mapM_cons, ih length]
      dsimp only
      cases typeName among typeId with
      | error failure => rfl
      | ok named =>
          cases typeIds.mapM (typeName among) <;> rfl

private theorem attributeLines_eq
    (typed : type.isTyped .postgreSqlDataTypeComposite = true)
    (length : (type.rows "attribute_names").length = (type.rows "attribute_type_ids").length) :
    attributeLines among type = (do
      let types ← (type.rows "attribute_type_ids").mapM (typeName among)
      return attributeText (type.texts "attribute_names") (types.map Value.display)) := by
  have hasNames : ObjectClass.postgreSqlDataTypeComposite.declares "attribute_names"
      { item := .text, isList := true } = true := by
    decide
  have hasTypes : ObjectClass.postgreSqlDataTypeComposite.declares "attribute_type_ids"
      { item := .int, isList := true } = true := by
    decide
  rw [attributeLines, Value.partItems_of_isTyped typed hasNames,
    Value.partItems_of_isTyped typed hasTypes, Attempt.ok_bind, Attempt.ok_bind,
    mapM_attributes length]
  cases (type.rows "attribute_type_ids").mapM (typeName among) <;> rfl

private theorem createType_enumerated
    (typed : type.isTyped .postgreSqlDataTypeEnumerated = true) :
    createType options among type =
      .ok ("CREATE TYPE " ++
        dialect.tableText options (type.letters "schema") (type.letters "name") ++ " AS ENUM (" ++
        labelText (type.texts "labels") ++ "\n);\n") := by
  have named : dialect.objectName options type = .ok (dialect.tableText options
      (type.letters "schema") (type.letters "name")) :=
    Dialect.objectName_ok_of_declares typed (by decide) (by decide)
  have lines := labelLines_ok typed
  rcases Value.isTyped_iff.mp typed with ⟨special, fields, rfl, isA, _⟩
  have only : special = .postgreSqlDataTypeEnumerated := by
    revert isA
    cases special <;> decide
  subst only
  rw [createType, named, Attempt.ok_bind]
  dsimp only
  rw [lines, Attempt.ok_bind]
  rfl

private theorem createType_composite
    (typed : type.isTyped .postgreSqlDataTypeComposite = true)
    (length : (type.rows "attribute_names").length = (type.rows "attribute_type_ids").length) :
    createType options among type = (do
      let types ← (type.rows "attribute_type_ids").mapM (typeName among)
      return "CREATE TYPE " ++
        dialect.tableText options (type.letters "schema") (type.letters "name") ++ " AS (" ++
        attributeText (type.texts "attribute_names") (types.map Value.display) ++ "\n);\n") := by
  have named : dialect.objectName options type = .ok (dialect.tableText options
      (type.letters "schema") (type.letters "name")) :=
    Dialect.objectName_ok_of_declares typed (by decide) (by decide)
  have lines : attributeLines among type = _ := attributeLines_eq typed length
  rcases Value.isTyped_iff.mp typed with ⟨special, fields, rfl, isA, _⟩
  have only : special = .postgreSqlDataTypeComposite := by
    revert isA
    cases special <;> decide
  subst only
  rw [createType, named, Attempt.ok_bind]
  dsimp only
  rw [lines]
  cases List.mapM (typeName among) _ <;> rfl

/-- Types with one name have the same script exactly when merging leads from the labels of one to
those of the other, or shifting from its attributes to those of the other, with the types that both
have.  Where labels and names of attributes are closed, they have the same script only if they have
the same members. -/
theorem createType_eq_iff
    (sameSchema : type.letters "schema" = other.letters "schema")
    (sameName : type.letters "name" = other.letters "name") :
    (type.isTyped .postgreSqlDataTypeEnumerated = true →
      other.isTyped .postgreSqlDataTypeEnumerated = true →
        ∃ script otherScript,
          createType options among type = .ok script ∧
          createType options among other = .ok otherScript ∧
          (script = otherScript ↔
            Relation.EqvGen Merges (type.texts "labels") (other.texts "labels")) ∧
          (LabelsAreClosed (type.texts "labels") → LabelsAreClosed (other.texts "labels") →
            script = otherScript → type.rows "labels" = other.rows "labels")) ∧
    (type.isTyped .postgreSqlDataTypeComposite = true →
      other.isTyped .postgreSqlDataTypeComposite = true →
      type.rows "attribute_type_ids" = other.rows "attribute_type_ids" →
      (type.rows "attribute_names").length = (type.rows "attribute_type_ids").length →
      (other.rows "attribute_names").length = (other.rows "attribute_type_ids").length →
        ∀ script, createType options among type = .ok script →
          ∃ types otherScript,
            (type.rows "attribute_type_ids").mapM (typeName among) = .ok types ∧
            createType options among other = .ok otherScript ∧
            (script = otherScript ↔
              Relation.EqvGen (Shifts (types.map Value.display)) (type.texts "attribute_names")
                (other.texts "attribute_names")) ∧
            (NamesAreClosed (type.texts "attribute_names") →
              NamesAreClosed (other.texts "attribute_names") →
                script = otherScript →
                  type.rows "attribute_names" = other.rows "attribute_names")) := by
  constructor
  · intro typed otherTyped
    have hasLabels : ObjectClass.postgreSqlDataTypeEnumerated.declares "labels"
        { item := .text, isList := true } = true := by
      decide
    refine ⟨_, _, createType_enumerated typed, createType_enumerated otherTyped, ?_,
      fun closed otherClosed same => ?_⟩
    · rw [sameSchema, sameName, String.append_left_inj, String.append_right_inj, labelText_eq_iff]
    · rw [sameSchema, sameName, String.append_left_inj, String.append_right_inj] at same
      exact Value.rows_eq_of_texts_eq typed otherTyped hasLabels
        (eq_of_labelText_eq closed otherClosed same)
  · intro typed otherTyped sameTypes length otherLength script scripted
    have hasNames : ObjectClass.postgreSqlDataTypeComposite.declares "attribute_names"
        { item := .text, isList := true } = true := by
      decide
    rw [createType_composite typed length] at scripted
    rcases bind_eq_ok_iff.mp scripted with ⟨types, typesOk, written⟩
    cases written
    have otherScripted : createType options among other = _ :=
      createType_composite otherTyped otherLength
    rw [← sameTypes, typesOk, Attempt.ok_bind] at otherScripted
    have count := Attempt.length_of_mapM typesOk
    have lengths : (type.texts "attribute_names").length = (types.map Value.display).length := by
      rw [Value.texts, List.length_map, List.length_map, length, count]
    have otherLengths :
        (other.texts "attribute_names").length = (types.map Value.display).length := by
      rw [Value.texts, List.length_map, List.length_map, otherLength, ← sameTypes, count]
    refine ⟨types, _, typesOk, otherScripted, ?_, fun closed otherClosed same => ?_⟩
    · rw [sameSchema, sameName, String.append_left_inj, String.append_right_inj,
        attributeText_eq_iff lengths otherLengths]
    · rw [sameSchema, sameName, String.append_left_inj, String.append_right_inj] at same
      exact Value.rows_eq_of_texts_eq typed otherTyped hasNames
        (eq_of_attributeText_eq lengths otherLengths closed otherClosed same)

/-- An enumerated type with labels. -/
private def enumerationOf
    (labels : List String) : Value :=
  .filled .postgreSqlDataTypeEnumerated [
    ("name", .text "e"), ("schema", .text "public"), ("labels", .list (labels.map .text))]

/-- A composite type with two attributes of one type. -/
private def pairOf
    (names : List String) : Value :=
  .filled .postgreSqlDataTypeComposite [
    ("name", .text "p"), ("schema", .text "public"),
    ("attribute_names", .list (names.map .text)),
    ("attribute_type_ids", .list [.int 25, .int 25])]

private def textType : Value :=
  .list [.filled .postgreSqlDataType [("name", .text "text"), ("type_id", .int 25)]]

/-- A quote in a label and a comma in a name leave members closed. -/
theorem createType_ne_of_closedMembers :
    (∃ script otherScript,
      createType {} textType (enumerationOf ["it\x27s", "b"]) = .ok script ∧
      createType {} textType (enumerationOf ["it\x27s, b"]) = .ok otherScript ∧
      script ≠ otherScript) ∧
    ∃ script otherScript,
      createType {} textType (pairOf ["a,b", "c"]) = .ok script ∧
      createType {} textType (pairOf ["a", "b,c"]) = .ok otherScript ∧
      script ≠ otherScript := by
  constructor
  · rcases (@createType_eq_iff {} textType (enumerationOf ["it\x27s", "b"])
        (enumerationOf ["it\x27s, b"]) rfl rfl).1 (Value.isTyped_filled rfl rfl)
        (Value.isTyped_filled rfl rfl) with
      ⟨script, otherScript, scriptOk, otherOk, _, told⟩
    refine ⟨script, otherScript, scriptOk, otherOk, fun same => ?_⟩
    have closed : LabelsAreClosed ((enumerationOf ["it\x27s", "b"]).texts "labels") := by
      unfold LabelsAreClosed IsPartOf
      decide +kernel
    have otherClosed : LabelsAreClosed ((enumerationOf ["it\x27s, b"]).texts "labels") := by
      unfold LabelsAreClosed IsPartOf
      decide +kernel
    exact absurd (congrArg (List.map Value.display) (told closed otherClosed same))
      (by decide +kernel)
  · have created : createType {} textType (pairOf ["a,b", "c"]) =
        .ok "CREATE TYPE \"public\".\"p\" AS (\n    a,b text,\n    c text\n);\n" := by
      decide +kernel
    rcases (@createType_eq_iff {} textType (pairOf ["a,b", "c"]) (pairOf ["a", "b,c"]) rfl rfl).2
        (Value.isTyped_filled rfl rfl)
        (Value.isTyped_filled rfl rfl) rfl rfl rfl _ created with
      ⟨_, otherScript, _, otherOk, _, told⟩
    refine ⟨_, otherScript, created, otherOk, fun same => ?_⟩
    have closed : NamesAreClosed ((pairOf ["a,b", "c"]).texts "attribute_names") := by
      unfold NamesAreClosed IsPartOf
      decide +kernel
    have otherClosed : NamesAreClosed ((pairOf ["a", "b,c"]).texts "attribute_names") := by
      unfold NamesAreClosed IsPartOf
      decide +kernel
    exact absurd (congrArg (List.map Value.display) (told closed otherClosed same))
      (by decide +kernel)

/-- One label is written like two and two attributes like two others, so that neither labels nor
attributes can be told from the script of a type. -/
theorem createType_of_openMembers :
    ((enumerationOf ["a\x27,\n    \x27b"]).isTyped .postgreSqlDataTypeEnumerated = true ∧
      (enumerationOf ["a", "b"]).isTyped .postgreSqlDataTypeEnumerated = true ∧
      createType {} textType (enumerationOf ["a\x27,\n    \x27b"]) =
        .ok "CREATE TYPE \"public\".\"e\" AS ENUM (\n    \x27a\x27,\n    \x27b\x27\n);\n" ∧
      createType {} textType (enumerationOf ["a", "b"]) =
        .ok "CREATE TYPE \"public\".\"e\" AS ENUM (\n    \x27a\x27,\n    \x27b\x27\n);\n" ∧
      (enumerationOf ["a\x27,\n    \x27b"]).rows "labels" ≠
        (enumerationOf ["a", "b"]).rows "labels") ∧
    (pairOf ["a text,\n    b", "c"]).isTyped .postgreSqlDataTypeComposite = true ∧
      (pairOf ["a", "b text,\n    c"]).isTyped .postgreSqlDataTypeComposite = true ∧
      createType {} textType (pairOf ["a text,\n    b", "c"]) =
        .ok "CREATE TYPE \"public\".\"p\" AS (\n    a text,\n    b text,\n    c text\n);\n" ∧
      createType {} textType (pairOf ["a", "b text,\n    c"]) =
        .ok "CREATE TYPE \"public\".\"p\" AS (\n    a text,\n    b text,\n    c text\n);\n" ∧
      (pairOf ["a text,\n    b", "c"]).rows "attribute_names" ≠
        (pairOf ["a", "b text,\n    c"]).rows "attribute_names" := by
  refine ⟨⟨Value.isTyped_filled rfl rfl, Value.isTyped_filled rfl rfl, by decide +kernel,
    by decide +kernel, fun same => ?_⟩, Value.isTyped_filled rfl rfl, Value.isTyped_filled rfl rfl,
    by decide +kernel, by decide +kernel, fun same => ?_⟩
  · exact absurd (congrArg (List.map Value.display) same) (by decide +kernel)
  · exact absurd (congrArg (List.map Value.display) same) (by decide +kernel)

end PostgreSql

end SchemaDelta
