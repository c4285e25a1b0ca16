import Mathlib.Data.List.Forall2
import SchemaDelta.Ddl.MicrosoftSql.Header

/-!
# Words of headers, as a grammar

The first words of a header and the word for its kind are found in exactly those texts that start
with them.  No other way to cut such a text into words exists: keywords are made of word characters,
and white space or a word boundary ends them.
-/

namespace SchemaDelta.MicrosoftSql

/-- Letters spell a keyword in some case. -/
def Spells
    (keyword letters : List Char) : Prop :=
  List.Forall₂ (fun wanted letter => isLetterOf wanted letter = true) keyword letters

/-- White space, at least one character of it. -/
def IsGap
    (letters : List Char) : Prop :=
  letters ≠ [] ∧ ∀ letter ∈ letters, Text.isBlank letter = true

/-- `CREATE` or `CREATE OR ALTER` with the white space behind it. -/
inductive IsCreation : List Char → Prop
  | plain
      {create gap : List Char}
      (spelled : Spells "CREATE".toList create)
      (isGap : IsGap gap) :
      IsCreation (create ++ gap)
  | orAlter
      {create gap or orGap alter alterGap : List Char}
      (spelled : Spells "CREATE".toList create)
      (isGap : IsGap gap)
      (orSpelled : Spells "OR".toList or)
      (isOrGap : IsGap orGap)
      (alterSpelled : Spells "ALTER".toList alter)
      (isAlterGap : IsGap alterGap) :
      IsCreation (create ++ (gap ++ (or ++ (orGap ++ (alter ++ alterGap)))))

/-- A word for a kind of module. -/
def IsKindWord
    (kind : ModuleKind)
    (letters : List Char) : Prop :=
  ∃ keyword ∈ kind.keywords, Spells keyword letters

variable {kind : ModuleKind} {text creation word rest : List Char}

/-! ## Letters of keywords -/

/-- The letters that keywords are made of. -/
def keywordLetters : List Char :=
  "ACDEFGILNOPRTUVW".toList

/-- A letter of a keyword is the letter itself in one of the two cases, or a Turkish letter. -/
private theorem forall_of_isLetterOf
    (test : Char → Char → Bool)
    (upper : (keywordLetters.all fun wanted => test wanted wanted) = true)
    (lower : (keywordLetters.all fun wanted => test wanted wanted.toLower) = true)
    (dotless : test 'I' 'ı' = true)
    (dotted : test 'I' 'İ' = true)
    {wanted letter : Char}
    (member : wanted ∈ keywordLetters)
    (isLetter : isLetterOf wanted letter = true) :
    test wanted letter = true := by
  simp only [isLetterOf, Bool.or_eq_true, Bool.and_eq_true, beq_iff_eq] at isLetter
  rcases isLetter with (rfl | rfl) | ⟨rfl, rfl | rfl⟩
  · exact List.all_eq_true.mp upper _ member
  · exact List.all_eq_true.mp lower _ member
  · exact dotless
  · exact dotted

private theorem isWord_of_isLetterOf
    {wanted letter : Char}
    (member : wanted ∈ keywordLetters)
    (isLetter : isLetterOf wanted letter = true) :
    Text.isWord letter = true :=
  forall_of_isLetterOf (fun _ letter => Text.isWord letter) (by decide) (by decide)
    (by decide +kernel) (by decide +kernel) member isLetter

theorem isBlank_of_isLetterOf
    {wanted letter : Char}
    (member : wanted ∈ keywordLetters)
    (isLetter : isLetterOf wanted letter = true) :
    Text.isBlank letter = false :=
  Bool.not_eq_true' _ ▸ forall_of_isLetterOf (fun _ letter => !Text.isBlank letter) (by decide)
    (by decide) (by decide) (by decide) member isLetter

/-- A letter spells one letter of keywords only. -/
private theorem eq_of_isLetterOf
    {wanted other letter : Char}
    (member : wanted ∈ keywordLetters)
    (otherMember : other ∈ keywordLetters)
    (isLetter : isLetterOf wanted letter = true)
    (isOther : isLetterOf other letter = true) :
    wanted = other := by
  have same := forall_of_isLetterOf
    (fun wanted letter => keywordLetters.all fun other => !isLetterOf other letter || wanted == other)
    (by decide +kernel) (by decide +kernel) (by decide) (by decide) member isLetter
  have sameOther := List.all_eq_true.mp same other otherMember
  rw [isOther, Bool.not_true, Bool.false_or, beq_iff_eq] at sameOther
  exact sameOther

/-- All letters of a keyword are letters that keywords are made of. -/
private def IsKeyword
    (keyword : List Char) : Prop :=
  keyword ≠ [] ∧ keyword.all keywordLetters.contains = true

private instance : DecidablePred IsKeyword :=
  fun _ => inferInstanceAs (Decidable (_ ∧ _))

private theorem IsKeyword.mem
    {keyword : List Char}
    (isKeyword : IsKeyword keyword) :
    ∀ wanted ∈ keyword, wanted ∈ keywordLetters :=
  fun wanted member => List.contains_iff_mem.mp (List.all_eq_true.mp isKeyword.2 wanted member)

private theorem isKeyword_of_mem_keywords
    {keyword : List Char}
    (member : keyword ∈ kind.keywords) :
    IsKeyword keyword := by
  have checked : ∀ kind : ModuleKind, (kind.keywords.all fun keyword => IsKeyword keyword) = true := by
    intro kind
    cases kind <;> decide
  exact of_decide_eq_true (List.all_eq_true.mp (checked kind) keyword member)

private theorem Spells.isWord
    {keyword letters : List Char}
    (spelled : Spells keyword letters)
    (isKeyword : ∀ wanted ∈ keyword, wanted ∈ keywordLetters) :
    ∀ letter ∈ letters, Text.isWord letter = true := by
  intro letter member
  induction spelled with
  | nil => cases member
  | cons isLetter _ ih =>
      rcases List.forall_mem_cons.mp isKeyword with ⟨first, others⟩
      rcases List.mem_cons.mp member with rfl | later
      · exact isWord_of_isLetterOf first isLetter
      · exact ih others later

/-- No white space starts a text. -/
private def StartsUnblank
    (text : List Char) : Prop :=
  ∀ letter ∈ text.head?, Text.isBlank letter = false

private theorem Spells.startsUnblank
    {keyword letters : List Char}
    (spelled : Spells keyword letters)
    (isKeyword : IsKeyword keyword)
    (rest : List Char) :
    StartsUnblank (letters ++ rest) := by
  cases spelled with
  | nil => exact absurd rfl isKeyword.1
  | cons isLetter _ =>
      intro letter first
      cases first
      exact isBlank_of_isLetterOf (isKeyword.mem _ List.mem_cons_self) isLetter

/-! ## Words and white space -/

/-- A keyword is found at the start of a text exactly when letters that spell it stand there. -/
theorem keyword?_eq_some_iff
    {keyword spelled : List Char} :
    keyword? keyword text = some (spelled, rest) ↔ text = spelled ++ rest ∧ Spells keyword spelled := by
  induction keyword generalizing text spelled with
  | nil =>
      constructor
      · intro found
        cases found
        exact ⟨rfl, .nil⟩
      · rintro ⟨rfl, spelled⟩
        cases spelled
        rfl
  | cons wanted keyword ih =>
      cases text with
      | nil =>
          constructor
          · intro found
            cases found
          · rintro ⟨split, spells⟩
            cases spells
            cases split
      | cons letter text =>
          rw [keyword?]
          constructor
          · intro found
            split at found
            · rename_i isLetter
              rcases Option.map_eq_some_iff.mp found with ⟨⟨others, tail⟩, foundLater, equal⟩
              cases equal
              rcases ih.mp foundLater with ⟨rfl, later⟩
              exact ⟨rfl, .cons isLetter later⟩
            · cases found
          · rintro ⟨split, spells⟩
            cases spells with
            | cons isLetter later =>
                rw [List.cons_append, List.cons.injEq] at split
                rcases split with ⟨rfl, rfl⟩
                rw [if_pos isLetter, ih.mpr ⟨rfl, later⟩]
                rfl

/-- White space at the start of a text is passed as a whole. -/
private theorem afterBlanks?_append
    {gap : List Char}
    (isGap : IsGap gap)
    (startsUnblank : StartsUnblank rest) :
    afterBlanks? (gap ++ rest) = some rest := by
  rcases List.exists_cons_of_ne_nil isGap.1 with ⟨first, others, rfl⟩
  rcases List.forall_mem_cons.mp isGap.2 with ⟨firstBlank, othersBlank⟩
  have stops : rest.dropWhile Text.isBlank = rest := by
    cases rest with
    | nil => rfl
    | cons letter rest => rw [List.dropWhile_cons, startsUnblank letter rfl, if_neg (by simp)]
  rw [List.cons_append, afterBlanks?, if_pos firstBlank,
    List.dropWhile_append_of_pos othersBlank, stops]

/-- What is passed at the start of a text is white space. -/
private theorem exists_gap_of_afterBlanks?
    (passed : afterBlanks? text = some rest) :
    ∃ gap, IsGap gap ∧ text = gap ++ rest := by
  cases text with
  | nil => cases passed
  | cons letter text =>
      rw [afterBlanks?] at passed
      split at passed
      · rename_i isBlank
        cases passed
        refine ⟨letter :: text.takeWhile Text.isBlank, ⟨List.cons_ne_nil _ _, ?_⟩, ?_⟩
        · exact List.forall_mem_cons.mpr ⟨isBlank, List.all_eq_true.mp List.all_takeWhile⟩
        · rw [List.cons_append, List.takeWhile_append_dropWhile]
      · cases passed

/-- A word before a word boundary is all word characters at the start of the text. -/
private theorem eq_of_atWordEnd
    {other otherRest : List Char}
    (isWord : ∀ letter ∈ word, Text.isWord letter = true)
    (otherIsWord : ∀ letter ∈ other, Text.isWord letter = true)
    (wordEnds : Text.atWordEnd rest = true)
    (otherEnds : Text.atWordEnd otherRest = true)
    (same : word ++ rest = other ++ otherRest) :
    word = other ∧ rest = otherRest := by
  have taken : ∀ {letters tail : List Char}, (∀ letter ∈ letters, Text.isWord letter = true) →
      Text.atWordEnd tail = true → (letters ++ tail).takeWhile Text.isWord = letters := by
    intro letters tail areWord ends
    rw [List.takeWhile_append_of_pos areWord]
    cases tail with
    | nil => simp
    | cons letter tail =>
        rw [Text.atWordEnd, Bool.not_eq_true'] at ends
        simp [ends]
  have sameWord : word = other := by
    rw [← taken isWord wordEnds, same, taken otherIsWord otherEnds]
  subst sameWord
  exact ⟨rfl, List.append_cancel_left same⟩

/-- What is found as a word for a kind spells one of its keywords in front of a word boundary. -/
private theorem exists_keyword_of_kindWord?
    (found : kindWord? kind text = some (word, rest)) :
    ∃ keyword ∈ kind.keywords,
      text = word ++ rest ∧ Spells keyword word ∧ Text.atWordEnd rest = true := by
  rcases List.exists_of_findSome?_eq_some found with ⟨keyword, member, holds⟩
  refine ⟨keyword, member, ?_⟩
  split at holds
  · rename_i spelled tail spells
    split at holds
    · rename_i ends
      cases holds
      rcases keyword?_eq_some_iff.mp spells with ⟨split, spelled⟩
      exact ⟨split, spelled, ends⟩
    · cases holds
  · cases holds

/-- The word for a kind is found exactly where one stands before a word boundary. -/
theorem kindWord?_eq_some_iff :
    kindWord? kind text = some (word, rest) ↔
      text = word ++ rest ∧ IsKindWord kind word ∧ Text.atWordEnd rest = true := by
  constructor
  · intro found
    rcases exists_keyword_of_kindWord? found with ⟨keyword, member, split, spelled, ends⟩
    exact ⟨split, ⟨keyword, member, spelled⟩, ends⟩
  · rintro ⟨rfl, ⟨keyword, member, spelled⟩, ends⟩
    have isFound : (kindWord? kind (word ++ rest)).isSome = true := by
      rw [kindWord?, List.findSome?_isSome_iff]
      refine ⟨keyword, member, ?_⟩
      rw [keyword?_eq_some_iff.mpr ⟨rfl, spelled⟩]
      simp [ends]
    rcases Option.isSome_iff_exists.mp isFound with ⟨⟨other, otherRest⟩, found⟩
    rcases exists_keyword_of_kindWord? found with
      ⟨otherKeyword, otherMember, split, otherSpelled, otherEnds⟩
    rcases eq_of_atWordEnd (spelled.isWord (isKeyword_of_mem_keywords member).mem)
      (otherSpelled.isWord (isKeyword_of_mem_keywords otherMember).mem) ends otherEnds split with
      ⟨rfl, rfl⟩
    exact found

/-! ## First words -/

/-- What a creation ends with in front of a word is passed, and the word is found. -/
private theorem kindWord?_of_gap
    {gap : List Char}
    (isGap : IsGap gap)
    (isKindWord : IsKindWord kind word)
    (wordEnds : Text.atWordEnd rest = true) :
    (afterBlanks? (gap ++ (word ++ rest))).bind (kindWord? kind) = some (word, rest) := by
  rcases isKindWord with ⟨keyword, member, spelled⟩
  have startsUnblank := spelled.startsUnblank (isKeyword_of_mem_keywords member) rest
  rw [afterBlanks?_append isGap startsUnblank, Option.bind_some]
  exact kindWord?_eq_some_iff.mpr ⟨rfl, ⟨keyword, member, spelled⟩, wordEnds⟩

/-- No word for a kind starts like `OR`. -/
private theorem afterOrAlter?_of_kindWord
    {gap : List Char}
    (isGap : IsGap gap)
    (isKindWord : IsKindWord kind word) :
    afterOrAlter? (gap ++ (word ++ rest)) = none := by
  rcases isKindWord with ⟨keyword, member, spelled⟩
  have isKeyword := isKeyword_of_mem_keywords member
  have startsUnblank := spelled.startsUnblank isKeyword rest
  have apart : 'O' ∉ keyword.head? := by
    have checked : ∀ kind : ModuleKind, ∀ keyword ∈ kind.keywords, 'O' ∉ keyword.head? := by
      intro kind
      cases kind <;> decide +kernel
    exact checked kind keyword member
  have orLetters : "OR".toList = ['O', 'R'] := rfl
  have noOr : keyword? "OR".toList (word ++ rest) = none := by
    cases spelled with
    | nil => exact absurd rfl isKeyword.1
    | cons isLetter _ =>
        have notO : ¬isLetterOf 'O' _ = true := fun isO => apart
          (eq_of_isLetterOf (by decide) (isKeyword.mem _ List.mem_cons_self) isO isLetter ▸ rfl)
        rw [List.cons_append, orLetters, keyword?, if_neg notO]
  simp only [afterOrAlter?, afterBlanks?_append isGap startsUnblank, Option.bind_eq_bind,
    Option.bind_some, noOr, Option.bind_none]

/-- The first words and the word for the kind are found where they stand. -/
theorem createClause?_append
    (isCreation : IsCreation creation)
    (isKindWord : IsKindWord kind word)
    (wordEnds : Text.atWordEnd rest = true) :
    createClause? kind (creation ++ (word ++ rest)) = some (word, rest) := by
  cases isCreation with
  | @plain create gap spelled isGap =>
      have created : keyword? "CREATE".toList (create ++ (gap ++ (word ++ rest))) =
          some (create, gap ++ (word ++ rest)) :=
        keyword?_eq_some_iff.mpr ⟨rfl, spelled⟩
      simp only [List.append_assoc, createClause?, created, Option.bind_eq_bind, Option.bind_some,
        afterOrAlter?_of_kindWord isGap isKindWord, kindWord?_of_gap isGap isKindWord wordEnds]
  | @orAlter create gap or orGap alter alterGap spelled isGap orSpelled isOrGap alterSpelled
      isAlterGap =>
      have created : keyword? "CREATE".toList (create ++ (gap ++ (or ++ (orGap ++ (alter ++
          (alterGap ++ (word ++ rest))))))) =
          some (create, gap ++ (or ++ (orGap ++ (alter ++ (alterGap ++ (word ++ rest)))))) :=
        keyword?_eq_some_iff.mpr ⟨rfl, spelled⟩
      have orFound : keyword? "OR".toList (or ++ (orGap ++ (alter ++ (alterGap ++
          (word ++ rest))))) = some (or, orGap ++ (alter ++ (alterGap ++ (word ++ rest)))) :=
        keyword?_eq_some_iff.mpr ⟨rfl, orSpelled⟩
      have alterFound : keyword? "ALTER".toList (alter ++ (alterGap ++ (word ++ rest))) =
          some (alter, alterGap ++ (word ++ rest)) :=
        keyword?_eq_some_iff.mpr ⟨rfl, alterSpelled⟩
      have passed : afterOrAlter? (gap ++ (or ++ (orGap ++ (alter ++ (alterGap ++
          (word ++ rest)))))) = some (alterGap ++ (word ++ rest)) := by
        simp only [afterOrAlter?, Option.bind_eq_bind, Option.bind_some,
          afterBlanks?_append isGap (orSpelled.startsUnblank (by decide) _), orFound,
          afterBlanks?_append isOrGap (alterSpelled.startsUnblank (by decide) _), alterFound]
      simp only [List.append_assoc, createClause?, created, Option.bind_eq_bind, Option.bind_some,
        passed, kindWord?_of_gap isAlterGap isKindWord wordEnds, Option.some_or]

/-- What `OR ALTER` is found in ends before what follows it. -/
private theorem exists_orAlter_of_afterOrAlter?
    (passed : afterOrAlter? text = some rest) :
    ∃ gap or orGap alter, IsGap gap ∧ Spells "OR".toList or ∧ IsGap orGap ∧
      Spells "ALTER".toList alter ∧ text = gap ++ (or ++ (orGap ++ (alter ++ rest))) := by
  simp only [afterOrAlter?, Option.bind_eq_bind, Option.bind_eq_some_iff] at passed
  rcases passed with ⟨_, gapPassed, ⟨or, _⟩, orFound, _, orGapPassed, ⟨alter, _⟩, alterFound, equal⟩
  cases equal
  rcases exists_gap_of_afterBlanks? gapPassed with ⟨gap, isGap, rfl⟩
  rcases keyword?_eq_some_iff.mp orFound with ⟨rfl, orSpelled⟩
  rcases exists_gap_of_afterBlanks? orGapPassed with ⟨orGap, isOrGap, rfl⟩
  rcases keyword?_eq_some_iff.mp alterFound with ⟨rfl, alterSpelled⟩
  exact ⟨gap, or, orGap, alter, isGap, orSpelled, isOrGap, alterSpelled, rfl⟩

/-- What is found at the start of a text are the first words and the word for the kind. -/
theorem exists_creation_of_createClause?
    (found : createClause? kind text = some (word, rest)) :
    ∃ creation, IsCreation creation ∧ IsKindWord kind word ∧ Text.atWordEnd rest = true ∧
      text = creation ++ (word ++ rest) := by
  simp only [createClause?, Option.bind_eq_bind, Option.bind_eq_some_iff] at found
  rcases found with ⟨⟨create, behind⟩, created, found⟩
  rcases keyword?_eq_some_iff.mp created with ⟨rfl, spelled⟩
  have plain : (afterBlanks? behind).bind (kindWord? kind) = some (word, rest) →
      ∃ creation, IsCreation creation ∧ IsKindWord kind word ∧ Text.atWordEnd rest = true ∧
        create ++ behind = creation ++ (word ++ rest) := by
    intro foundBehind
    rcases Option.bind_eq_some_iff.mp foundBehind with ⟨_, passed, wordFound⟩
    rcases exists_gap_of_afterBlanks? passed with ⟨gap, isGap, rfl⟩
    rcases kindWord?_eq_some_iff.mp wordFound with ⟨rfl, isKindWord, wordEnds⟩
    exact ⟨create ++ gap, .plain spelled isGap, isKindWord, wordEnds, by simp⟩
  split at found
  · rename_i altered passed
    rcases Option.or_eq_some_iff.mp found with foundBehind | ⟨_, foundBehind⟩
    · rcases Option.bind_eq_some_iff.mp foundBehind with ⟨_, alterPassed, wordFound⟩
      rcases exists_orAlter_of_afterOrAlter? passed with
        ⟨gap, or, orGap, alter, isGap, orSpelled, isOrGap, alterSpelled, rfl⟩
      rcases exists_gap_of_afterBlanks? alterPassed with ⟨alterGap, isAlterGap, rfl⟩
      rcases kindWord?_eq_some_iff.mp wordFound with ⟨rfl, isKindWord, wordEnds⟩
      exact ⟨_, .orAlter spelled isGap orSpelled isOrGap alterSpelled isAlterGap, isKindWord,
        wordEnds, by simp⟩
    · exact plain foundBehind
  · exact plain found

/-- The first words start with a letter that starts no white space and no comment. -/
theorem IsCreation.exists_cons
    (isCreation : IsCreation creation) :
    ∃ first others, creation = first :: others ∧ isLetterOf 'C' first = true := by
  cases isCreation with
  | plain spelled _ =>
      cases spelled with
      | cons isLetter _ => exact ⟨_, _, rfl, isLetter⟩
  | orAlter spelled _ _ _ _ _ =>
      cases spelled with
      | cons isLetter _ => exact ⟨_, _, rfl, isLetter⟩

end SchemaDelta.MicrosoftSql
