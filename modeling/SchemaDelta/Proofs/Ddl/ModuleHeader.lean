import Mathlib.Data.List.Infix
import SchemaDelta.Proofs.Ddl.HeaderWords

/-!
# Headers of module definitions, as a grammar

A header is found in exactly those definitions that start with white space and comments, the first
words and the word for the kind, where a block comment may go on to any of its closings.  The header
that is found is the one whose comments all end at their first closing, if there is one.
-/

namespace SchemaDelta.MicrosoftSql

/-! ## The grammar -/

/-- White space and comments, the bodies of block comments being of a certain form. -/
inductive IsLead (allowed : List Char → Prop) : List Char → Prop
  | nil : IsLead allowed []
  | blank
      {letter : Char}
      {rest : List Char}
      (isBlank : Text.isBlank letter = true)
      (later : IsLead allowed rest) :
      IsLead allowed (letter :: rest)
  | line
      {line rest : List Char}
      (oneLine : '\n' ∉ line)
      (later : IsLead allowed rest) :
      IsLead allowed ('-' :: '-' :: (line ++ '\n' :: rest))
  | comment
      {body rest : List Char}
      (isAllowed : allowed body)
      (later : IsLead allowed rest) :
      IsLead allowed ('/' :: '*' :: (body ++ '*' :: '/' :: rest))

/-- The body of a block comment that ends at its first closing. -/
def HasNoClosing
    (body : List Char) : Prop :=
  ¬['*', '/'] <:+: body

instance : DecidablePred HasNoClosing :=
  fun _ => inferInstanceAs (Decidable (¬_))

/-- Any body of a block comment, which may have closings in it. -/
def MayHaveClosings
    (_body : List Char) : Prop :=
  True

/-- A definition cut into what precedes its header, the words of the header and the rest. -/
structure Headed
    (allowed : List Char → Prop)
    (kind : ModuleKind)
    (definition lead creation word rest : List Char) : Prop where
  isLead : IsLead allowed lead
  isCreation : IsCreation creation
  isKindWord : IsKindWord kind word
  wordEnds : Text.atWordEnd rest = true
  split : definition = lead ++ (creation ++ (word ++ rest))

/-- A definition has a header. -/
def HasHeader
    (allowed : List Char → Prop)
    (kind : ModuleKind)
    (definition : String) : Prop :=
  ∃ lead creation word rest, Headed allowed kind definition.toList lead creation word rest

/--
Altering a definition replaces the first words of its header and nothing else, and is refused exactly
where there is no header.
-/
def RewritesHeader
    (allowed : List Char → Prop)
    (kind : ModuleKind)
    (definition : String) : Prop :=
  (∀ altering, alteringDefinition? kind definition = some altering →
    ∃ lead creation word rest, Headed allowed kind definition.toList lead creation word rest ∧
      altering = String.ofList (lead ++ "ALTER ".toList ++ word ++ rest)) ∧
    (alteringDefinition? kind definition = none ↔ ¬HasHeader allowed kind definition)

variable {allowed : List Char → Prop} {kind : ModuleKind} {definition : String}
  {text lead creation word rest : List Char}

theorem IsLead.mono
    {isOther : List Char → Prop}
    (within : ∀ body, allowed body → isOther body)
    (isLead : IsLead allowed lead) :
    IsLead isOther lead := by
  induction isLead with
  | nil => exact .nil
  | blank isBlank _ later => exact .blank isBlank later
  | line oneLine _ later => exact .line oneLine later
  | comment isAllowed _ later => exact .comment (within _ isAllowed) later

theorem HasHeader.mono
    {isOther : List Char → Prop}
    (within : ∀ body, allowed body → isOther body)
    (hasHeader : HasHeader allowed kind definition) :
    HasHeader isOther kind definition := by
  rcases hasHeader with ⟨lead, creation, word, rest, headed⟩
  exact ⟨lead, creation, word, rest, headed.isLead.mono within, headed.isCreation,
    headed.isKindWord, headed.wordEnds, headed.split⟩

/-! ## Comments -/

private theorem head?_map_tails
    {α : Type}
    (find : List Char → Option α)
    (text : List Char) :
    (text.tails.map find).head?.join = find text := by
  cases text <;> rfl

/-- The headers found from every place of a text are those of its ends. -/
theorem headersFrom_eq
    (kind : ModuleKind)
    (text : List Char) :
    headersFrom kind text = text.tails.map (header? kind) := by
  induction text with
  | nil => rfl
  | cons letter text ih =>
      rw [List.tails_cons, List.map_cons, ← ih]
      rfl

/-- The header behind a line is the one that its end is followed by. -/
private theorem afterLine?_append
    {line : List Char}
    (oneLine : '\n' ∉ line)
    (rest : List Char) :
    afterLine? (line ++ '\n' :: rest) ((line ++ '\n' :: rest).tails.map (header? kind)) =
      header? kind rest := by
  induction line with
  | nil => exact head?_map_tails (header? kind) rest
  | cons letter line ih =>
      rw [List.mem_cons, not_or] at oneLine
      rw [List.cons_append, List.tails_cons, List.map_cons, afterLine?, if_neg (Ne.symm oneLine.1)]
      exact ih oneLine.2

private theorem exists_line_of_afterLine?
    {header : Header}
    (found : afterLine? text (text.tails.map (header? kind)) = some header) :
    ∃ line rest, '\n' ∉ line ∧ text = line ++ '\n' :: rest ∧ header? kind rest = some header := by
  induction text with
  | nil => cases found
  | cons letter text ih =>
      rw [List.tails_cons, List.map_cons, afterLine?] at found
      split at found
      · rename_i ends
        subst ends
        rw [head?_map_tails] at found
        exact ⟨[], text, List.not_mem_nil, rfl, found⟩
      · rename_i goesOn
        rcases ih found with ⟨line, rest, oneLine, rfl, foundBehind⟩
        refine ⟨letter :: line, rest, ?_, rfl, foundBehind⟩
        rw [List.mem_cons, not_or]
        exact ⟨Ne.symm goesOn, oneLine⟩

/-- Letters that do not close a comment are passed one by one. -/
private theorem afterComment?_cons
    {letter : Char}
    (noClosing : ¬(letter = '*' ∧ text.head? = some '/')) :
    afterComment? (letter :: text) ((letter :: text).tails.map (header? kind)) =
      afterComment? text (text.tails.map (header? kind)) := by
  rw [List.tails_cons, List.map_cons]
  conv_lhs => unfold afterComment?
  split
  · rename_i text _ _ found letters _
    rw [List.cons.injEq] at letters
    rcases letters with ⟨rfl, rfl⟩
    exact absurd ⟨rfl, rfl⟩ noClosing
  · rename_i letters others
    rw [List.cons.injEq] at letters others
    rcases letters with ⟨rfl, rfl⟩
    rcases others with ⟨rfl, rfl⟩
    rfl
  · rename_i missing
    exact (missing _ _ _ _ rfl rfl).elim

/-- At a closing the comment ends if a header follows, and goes on otherwise. -/
private theorem afterComment?_closing
    (text : List Char) :
    afterComment? ('*' :: '/' :: text) (('*' :: '/' :: text).tails.map (header? kind)) =
      (header? kind text).or (afterComment? text (text.tails.map (header? kind))) := by
  rw [List.tails_cons, List.map_cons, List.tails_cons, List.map_cons, afterComment?,
    head?_map_tails]
  cases header? kind text <;> rfl

/-- Behind a comment without a closing in it stands the header that its end is followed by. -/
private theorem afterComment?_append
    {body : List Char}
    {header : Header}
    (noClosing : HasNoClosing body)
    (found : header? kind rest = some header) :
    afterComment? (body ++ '*' :: '/' :: rest)
      ((body ++ '*' :: '/' :: rest).tails.map (header? kind)) = some header := by
  induction body with
  | nil => rw [List.nil_append, afterComment?_closing, found, Option.some_or]
  | cons letter body ih =>
      have laterNoClosing : HasNoClosing body := fun closing =>
        noClosing (closing.trans (List.infix_cons List.infix_rfl))
      rw [List.cons_append, afterComment?_cons, ih laterNoClosing]
      rintro ⟨rfl, slash⟩
      cases body with
      | nil => cases slash
      | cons next body =>
          cases slash
          exact noClosing ⟨[], body, rfl⟩

/-- If a header follows some closing of a comment, a header is found behind the comment. -/
private theorem isSome_afterComment?
    (found : (header? kind rest).isSome = true) :
    ∀ body : List Char, (afterComment? (body ++ '*' :: '/' :: rest)
      ((body ++ '*' :: '/' :: rest).tails.map (header? kind))).isSome = true
  | [] => by rw [List.nil_append, afterComment?_closing, Option.isSome_or, found, Bool.true_or]
  | [letter] => by
      rw [List.singleton_append, afterComment?_cons (by simp)]
      exact isSome_afterComment? found []
  | letter :: next :: body => by
      by_cases closing : letter = '*' ∧ next = '/'
      · rcases closing with ⟨rfl, rfl⟩
        rw [List.cons_append, List.cons_append, afterComment?_closing, Option.isSome_or,
          isSome_afterComment? found body, Bool.or_true]
      · rw [List.cons_append, afterComment?_cons (by simpa using closing)]
        exact isSome_afterComment? found (next :: body)

/-- What is found behind a comment is the header that follows one of its closings. -/
private theorem exists_body_of_afterComment?
    {header : Header} :
    ∀ {text : List Char}, afterComment? text (text.tails.map (header? kind)) = some header →
      ∃ body rest, text = body ++ '*' :: '/' :: rest ∧ header? kind rest = some header
  | [], found => by cases found
  | [letter], found => by
      rw [afterComment?_cons (by simp)] at found
      cases found
  | letter :: next :: text, found => by
      by_cases closing : letter = '*' ∧ next = '/'
      · rcases closing with ⟨rfl, rfl⟩
        rw [afterComment?_closing] at found
        rcases Option.or_eq_some_iff.mp found with here | ⟨_, later⟩
        · exact ⟨[], text, rfl, here⟩
        · rcases exists_body_of_afterComment? later with ⟨body, rest, rfl, foundBehind⟩
          exact ⟨'*' :: '/' :: body, rest, rfl, foundBehind⟩
      · rw [afterComment?_cons (by simpa using closing)] at found
        rcases exists_body_of_afterComment? found with ⟨body, rest, split, foundBehind⟩
        exact ⟨letter :: body, rest, by rw [split, List.cons_append], foundBehind⟩

/-! ## Headers -/

/-- The header at the start of a text, behind white space and comments. -/
theorem header?_cons
    (kind : ModuleKind)
    (letter : Char)
    (text : List Char) :
    header? kind (letter :: text) =
      if Text.isBlank letter then header? kind text
      else
        match letter, text with
        | '-', '-' :: line => afterLine? line (line.tails.map (header? kind))
        | '/', '*' :: comment => afterComment? comment (comment.tails.map (header? kind))
        | _, _ =>
          (createClause? kind (letter :: text)).map fun (kindWord, rest) =>
            ⟨text.length + 1, kindWord, rest⟩ := by
  conv_lhs => unfold header? headersFrom
  rw [List.head?_cons, Option.join_some]
  split
  · rfl
  · split
    · rw [headersFrom_eq, List.tails_cons]
      rfl
    · rw [headersFrom_eq, List.tails_cons]
      rfl
    · grind

private theorem header?_blank
    {letter : Char}
    (isBlank : Text.isBlank letter = true)
    (text : List Char) :
    header? kind (letter :: text) = header? kind text := by
  rw [header?_cons, if_pos isBlank]

private theorem header?_line
    {line : List Char}
    (oneLine : '\n' ∉ line)
    (rest : List Char) :
    header? kind ('-' :: '-' :: (line ++ '\n' :: rest)) = header? kind rest := by
  rw [header?_cons, if_neg (by decide)]
  exact afterLine?_append oneLine rest

private theorem header?_comment
    (comment : List Char) :
    header? kind ('/' :: '*' :: comment) =
      afterComment? comment (comment.tails.map (header? kind)) := by
  rw [header?_cons, if_neg (by decide)]
  rfl

/-- Where the first words stand at the start, the header is found there. -/
private theorem header?_of_isCreation
    (isCreation : IsCreation creation)
    (isKindWord : IsKindWord kind word)
    (wordEnds : Text.atWordEnd rest = true) :
    header? kind (creation ++ (word ++ rest)) =
      some ⟨(creation ++ (word ++ rest)).length, word, rest⟩ := by
  have clause := createClause?_append isCreation isKindWord wordEnds
  rcases isCreation.exists_cons with ⟨first, others, rfl, isLetter⟩
  rw [List.cons_append] at clause ⊢
  rw [header?_cons, isBlank_of_isLetterOf (by decide) isLetter, if_neg Bool.false_ne_true]
  split
  · cases isLetter
  · cases isLetter
  · rw [clause]
    rfl

/-- A header whose comments all end at their first closing is the one that is found. -/
theorem header?_of_headed
    (headed : Headed HasNoClosing kind text lead creation word rest) :
    header? kind text = some ⟨(creation ++ (word ++ rest)).length, word, rest⟩ := by
  rcases headed with ⟨isLead, isCreation, isKindWord, wordEnds, rfl⟩
  induction isLead with
  | nil => exact header?_of_isCreation isCreation isKindWord wordEnds
  | blank isBlank _ ih => rw [List.cons_append, header?_blank isBlank, ih]
  | line oneLine _ ih =>
      rw [List.cons_append, List.cons_append, List.append_assoc, List.cons_append,
        header?_line oneLine, ih]
  | comment noClosing _ ih =>
      rw [List.cons_append, List.cons_append, List.append_assoc, List.cons_append,
        List.cons_append, header?_comment, afterComment?_append noClosing ih]

/-- Where there is a header, whatever its comments, one is found. -/
private theorem isSome_header?
    (headed : Headed MayHaveClosings kind text lead creation word rest) :
    (header? kind text).isSome = true := by
  rcases headed with ⟨isLead, isCreation, isKindWord, wordEnds, rfl⟩
  induction isLead with
  | nil =>
      rw [List.nil_append, header?_of_isCreation isCreation isKindWord wordEnds]
      rfl
  | blank isBlank _ ih => rwa [List.cons_append, header?_blank isBlank]
  | line oneLine _ ih =>
      rwa [List.cons_append, List.cons_append, List.append_assoc, List.cons_append,
        header?_line oneLine]
  | @comment body later _ _ ih =>
      rw [List.cons_append, List.cons_append, List.append_assoc, List.cons_append,
        List.cons_append, header?_comment]
      exact isSome_afterComment? ih body

/-- White space and comments may be put in front of a definition with a header. -/
private theorem Headed.behind
    (headed : Headed allowed kind text lead creation word rest)
    (front : List Char)
    (isLead : IsLead allowed (front ++ lead)) :
    Headed allowed kind (front ++ text) (front ++ lead) creation word rest where
  isLead := isLead
  isCreation := headed.isCreation
  isKindWord := headed.isKindWord
  wordEnds := headed.wordEnds
  split := by rw [headed.split, List.append_assoc]

/-- What is found is a header, behind white space and comments. -/
private theorem exists_headed_of_header?
    {header : Header}
    (found : header? kind text = some header) :
    ∃ lead creation, Headed MayHaveClosings kind text lead creation header.kindWord header.rest ∧
      header.remaining = (creation ++ (header.kindWord ++ header.rest)).length := by
  -- Comments are passed at once, so the induction is on the length of the text.
  induction size : text.length using Nat.strong_induction_on generalizing text with
  | _ length ih =>
  subst size
  cases text with
  | nil => cases found
  | cons letter text =>
      rw [header?_cons] at found
      split at found
      · rename_i isBlank
        rcases ih text.length (Nat.lt_succ_self _) found rfl with
          ⟨lead, creation, headed, remaining⟩
        exact ⟨letter :: lead, creation, headed.behind [letter] (.blank isBlank headed.isLead),
          remaining⟩
      · split at found
        · rename_i line _
          rcases exists_line_of_afterLine? found with ⟨line, rest, oneLine, rfl, foundBehind⟩
          rcases ih rest.length (by simp; omega) foundBehind rfl with
            ⟨lead, creation, headed, remaining⟩
          refine ⟨'-' :: '-' :: (line ++ '\n' :: lead), creation, ?_, remaining⟩
          have behind := headed.behind ('-' :: '-' :: (line ++ ['\n']))
          simp only [List.cons_append, List.append_assoc, List.nil_append] at behind
          exact behind (.line oneLine headed.isLead)
        · rcases exists_body_of_afterComment? found with ⟨body, rest, rfl, foundBehind⟩
          rcases ih rest.length (by simp; omega) foundBehind rfl with
            ⟨lead, creation, headed, remaining⟩
          refine ⟨'/' :: '*' :: (body ++ '*' :: '/' :: lead), creation, ?_, remaining⟩
          have behind := headed.behind ('/' :: '*' :: (body ++ ['*', '/']))
          simp only [List.cons_append, List.append_assoc, List.nil_append] at behind
          exact behind (.comment trivial headed.isLead)
        · rcases Option.map_eq_some_iff.mp found with ⟨⟨word, rest⟩, clause, equal⟩
          cases equal
          rcases exists_creation_of_createClause? clause with
            ⟨creation, isCreation, isKindWord, wordEnds, split⟩
          refine ⟨[], creation, ⟨.nil, isCreation, isKindWord, wordEnds, split⟩, ?_⟩
          rw [← split]
          rfl

/-! ## Altering definitions -/

private theorem alteringDefinition?_of_header?
    (split : definition.toList = lead ++ (creation ++ (word ++ rest)))
    (found : header? kind definition.toList =
      some ⟨(creation ++ (word ++ rest)).length, word, rest⟩) :
    alteringDefinition? kind definition =
      some (String.ofList (lead ++ "ALTER ".toList ++ word ++ rest)) := by
  have kept : definition.toList.take
      (definition.toList.length - (creation ++ (word ++ rest)).length) = lead := by
    rw [split, List.length_append, Nat.add_sub_cancel]
    exact List.take_left
  simp only [alteringDefinition?, found, Option.map_some, kept]

/-- Altering replaces the first words, where block comments may go on to any of their closings. -/
private theorem rewritesHeader_mayHaveClosings
    (kind : ModuleKind)
    (definition : String) :
    RewritesHeader MayHaveClosings kind definition := by
  constructor
  · intro altering altered
    rcases Option.map_eq_some_iff.mp altered with ⟨header, found, rfl⟩
    rcases exists_headed_of_header? found with ⟨lead, creation, headed, remaining⟩
    refine ⟨lead, creation, header.kindWord, header.rest, headed, ?_⟩
    have whole : header =
        ⟨(creation ++ (header.kindWord ++ header.rest)).length, header.kindWord, header.rest⟩ := by
      rw [← remaining]
    have rewritten := alteringDefinition?_of_header? headed.split (found.trans (congrArg some whole))
    exact Option.some.inj (altered.symm.trans rewritten)
  · constructor
    · rintro refused ⟨lead, creation, word, rest, headed⟩
      have isFound := isSome_header? headed
      rw [Option.map_eq_none_iff.mp refused] at isFound
      cases isFound
    · intro headless
      refine Option.map_eq_none_iff.mpr ?_
      cases found : header? kind definition.toList with
      | none => rfl
      | some header =>
          rcases exists_headed_of_header? found with ⟨lead, creation, headed, _⟩
          exact absurd ⟨lead, creation, _, _, headed⟩ headless

/--
Altering a definition replaces the first words of a header behind white space and comments, and is
refused exactly where there is none, if block comments may go on to any of their closings.  With
comments that end at their first closing this is so exactly where the definition has a header behind
such comments, or none behind any.
-/
theorem rewritesHeader_iff
    (kind : ModuleKind)
    (definition : String) :
    RewritesHeader MayHaveClosings kind definition ∧
      (RewritesHeader HasNoClosing kind definition ↔
        (HasHeader MayHaveClosings kind definition → HasHeader HasNoClosing kind definition)) := by
  have rewrites := rewritesHeader_mayHaveClosings kind definition
  refine ⟨rewrites, ?_⟩
  constructor
  · rintro ⟨_, refused_iff⟩ hasHeader
    by_contra headless
    exact rewrites.2.mp (refused_iff.mpr headless) hasHeader
  · intro keeps
    constructor
    · intro altering altered
      have hasHeader : HasHeader MayHaveClosings kind definition := by
        by_contra headless
        rw [rewrites.2.mpr headless] at altered
        cases altered
      rcases keeps hasHeader with ⟨lead, creation, word, rest, headed⟩
      have rewritten := alteringDefinition?_of_header? headed.split (header?_of_headed headed)
      exact ⟨lead, creation, word, rest, headed,
        Option.some.inj (altered.symm.trans rewritten)⟩
    · rw [rewrites.2]
      constructor
      · intro headless hasHeader
        exact headless (hasHeader.mono fun _ _ => trivial)
      · intro headless hasHeader
        exact headless (keeps hasHeader)

/-! ## A comment that goes on behind its first closing -/

/-- What stands behind the start of a definition with a header, if that is no comment. -/
private theorem Headed.tail
    {letter : Char}
    (headed : Headed allowed kind (letter :: text) lead creation word rest)
    (noLine : letter ≠ '-')
    (noComment : letter ≠ '/') :
    isLetterOf 'C' letter = true ∨
      Text.isBlank letter = true ∧ ∃ later, Headed allowed kind text later creation word rest := by
  rcases headed with ⟨isLead, isCreation, isKindWord, wordEnds, split⟩
  cases isLead with
  | nil =>
      rcases isCreation.exists_cons with ⟨first, others, rfl, isLetter⟩
      cases split
      exact Or.inl isLetter
  | blank isBlank later =>
      rw [List.cons_append, List.cons.injEq] at split
      rcases split with ⟨rfl, rfl⟩
      exact Or.inr ⟨isBlank, _, later, isCreation, isKindWord, wordEnds, rfl⟩
  | line => exact absurd (List.cons.inj split).1 noLine
  | comment => exact absurd (List.cons.inj split).1 noComment

private theorem eq_nil_of_closing
    {body more rest otherRest : List Char}
    (noClosing : HasNoClosing (body ++ more))
    (same : '*' :: '/' :: rest = more ++ '*' :: '/' :: otherRest) :
    more = [] := by
  match more with
  | [] => rfl
  | [letter] => cases same
  | letter :: next :: more =>
      rw [List.cons_append, List.cons_append, List.cons.injEq, List.cons.injEq] at same
      rcases same with ⟨rfl, rfl, _⟩
      exact absurd ⟨body, more, by simp⟩ noClosing

/-- A comment that ends at its first closing ends at no other one. -/
private theorem eq_of_closing
    {body other rest otherRest : List Char}
    (noClosing : HasNoClosing body)
    (otherNoClosing : HasNoClosing other)
    (same : body ++ '*' :: '/' :: rest = other ++ '*' :: '/' :: otherRest) :
    body = other := by
  rcases List.append_eq_append_iff.mp same with ⟨more, rfl, closing⟩ | ⟨more, rfl, closing⟩
  · rw [eq_nil_of_closing otherNoClosing closing, List.append_nil]
  · rw [eq_nil_of_closing noClosing closing, List.append_nil]

/-- A statement between two comments, in front of the first words of a view. -/
private def reopened : String :=
  "/* a */ DROP TABLE t; /* b */ CREATE VIEW dbo.v AS SELECT 1 AS x"

private theorem not_hasHeader_reopened :
    ¬HasHeader HasNoClosing .view reopened := by
  rintro ⟨lead, creation, word, rest, isLead, isCreation, isKindWord, wordEnds, split⟩
  obtain ⟨statement, letters⟩ : ∃ statement, reopened.toList =
      '/' :: '*' :: ([' ', 'a', ' '] ++ '*' :: '/' :: ' ' :: 'D' :: statement) :=
    ⟨_, rfl⟩
  rw [letters] at split
  cases isLead with
  | nil =>
      rcases isCreation.exists_cons with ⟨first, others, rfl, isLetter⟩
      cases (List.cons.inj split).1
      cases isLetter
  | blank isBlank _ =>
      cases (List.cons.inj split).1
      cases isBlank
  | line => cases (List.cons.inj split).1
  | @comment body later noClosing isLead =>
      have same : [' ', 'a', ' '] ++ '*' :: '/' :: ' ' :: 'D' :: statement =
          body ++ '*' :: '/' :: (later ++ (creation ++ (word ++ rest))) := by
        simpa using split
      obtain rfl := eq_of_closing (by decide) noClosing same
      rw [List.append_cancel_left_eq, List.cons.injEq, List.cons.injEq] at same
      have headed : Headed HasNoClosing .view (' ' :: 'D' :: statement) later creation word rest :=
        ⟨isLead, isCreation, isKindWord, wordEnds, same.2.2⟩
      rcases headed.tail (by decide) (by decide) with isLetter | ⟨_, _, behind⟩
      · cases isLetter
      · rcases behind.tail (by decide) (by decide) with isLetter | ⟨isBlank, _⟩
        · cases isLetter
        · cases isBlank

/-- A statement in front of the first words is taken for a part of the comment before it. -/
theorem alteringDefinition?_of_reopenedComment :
    alteringDefinition? .view reopened =
        some "/* a */ DROP TABLE t; /* b */ ALTER VIEW dbo.v AS SELECT 1 AS x" ∧
      ¬HasHeader HasNoClosing .view reopened ∧ ¬RewritesHeader HasNoClosing .view reopened := by
  have altered : alteringDefinition? .view reopened =
      some "/* a */ DROP TABLE t; /* b */ ALTER VIEW dbo.v AS SELECT 1 AS x" := by
    decide +kernel
  have refuses : ¬RewritesHeader HasNoClosing .view reopened := by
    rintro ⟨_, refused_iff⟩
    have refused := refused_iff.mpr not_hasHeader_reopened
    rw [altered] at refused
    exact Option.some_ne_none _ refused
  exact ⟨altered, not_hasHeader_reopened, refuses⟩

end SchemaDelta.MicrosoftSql
