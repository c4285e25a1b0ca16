import SchemaDelta.Proofs.Json.Quoting

/-!
# Numbers are read back

A number is written as a sign, whole digits, decimal places and a power of ten, of which all but the
whole digits may be missing.  In front of a comma or the end of a line it is read as a whole.
-/

namespace SchemaDelta.Json

open Decimal (Binary64 exponentText)

/-! ## Digits -/

theorem digitsValue_eq_ofDigitChars
    (digits : List Char) :
    digitsValue digits = Nat.ofDigitChars 10 digits 0 := by
  rw [digitsValue, Nat.ofDigitChars_eq_foldl]
  congr 1
  funext value digit
  rw [Nat.mul_comm]
  rfl

@[simp]
theorem digitsValue_toDigits
    (number : Nat) :
    digitsValue (Nat.toDigits 10 number) = number := by
  rw [digitsValue_eq_ofDigitChars, Nat.ofDigitChars_ten_toDigits]

/-- The letters of a text that are no part of a number before them. -/
def Delimits
    (rest : List Char) : Prop :=
  ∀ letter ∈ rest.head?, letter = ',' ∨ letter = '\n'

section Digits

variable {digits rest : List Char}

/-- Digits are taken up to a letter that is none. -/
private theorem takeWhile_digits
    (allDigits : ∀ digit ∈ digits, digit.isDigit = true)
    (ends : ∀ letter ∈ rest.head?, letter.isDigit = false) :
    (digits ++ rest).takeWhile Char.isDigit = digits := by
  rw [List.takeWhile_append_of_pos allDigits]
  cases rest with
  | nil => exact List.append_nil digits
  | cons letter rest =>
      rw [List.takeWhile_cons_of_neg (by simp [ends letter rfl]), List.append_nil]

private theorem not_isDigit_of_delimits
    (delimits : Delimits rest) :
    ∀ letter ∈ rest.head?, letter.isDigit = false := by
  intro letter member
  rcases delimits letter member with rfl | rfl <;> rfl

end Digits

/-! ## Atoms -/

/-- An atom that was found at the start of a text is read. -/
theorem readAtom_of_atomPart?
    {written rest : List Char}
    {value : Json}
    (some : written ≠ [])
    (found : atomPart? (written ++ rest) = .ok (.some (value, written.length))) :
    Reads (readAtom (written ++ rest)) value rest := by
  obtain ⟨first, others, rfl⟩ := List.exists_cons_of_ne_nil some
  rw [List.cons_append] at found ⊢
  rw [readAtom, found]
  refine ⟨by simp only [List.length_cons, List.length_append]; omega, ?_⟩
  dsimp only
  congr 3
  rw [List.length_cons, Nat.add_sub_cancel, List.drop_left]

/-- A word is read as the value that it stands for. -/
theorem readAtom_word
    {entry : List Char × Json}
    (member : entry ∈ words)
    (rest : List Char) :
    Reads (readAtom (entry.1 ++ rest)) entry.2 rest := by
  simp only [words, List.mem_cons, List.not_mem_nil, or_false] at member
  rcases member with rfl | rfl | rfl | rfl | rfl | rfl
  all_goals exact readAtom_of_atomPart? (by decide) rfl

/-! ## Numerals -/

/-- A number as it is written: the digits before and after the point and the power of ten. -/
structure Numeral where
  isNegative : Bool
  whole : List Char
  places : List Char
  power? : Option Int

namespace Numeral

/-- The point and the digits behind it. -/
def pointed
    (numeral : Numeral) : List Char :=
  if numeral.places.isEmpty then [] else '.' :: numeral.places

/-- The power of ten as it is written. -/
def scaled
    (numeral : Numeral) : List Char :=
  match numeral.power? with
  | none => []
  | some power => (exponentText power).toList

/-- All letters of a number. -/
def letters
    (numeral : Numeral) : List Char :=
  (if numeral.isNegative then ['-'] else []) ++
    (numeral.whole ++ (numeral.pointed ++ numeral.scaled))

/-- The number that is written; without a point and a power of ten it is an integer. -/
def value
    (numeral : Numeral) : Json :=
  match numeral.power? with
  | some power =>
    .float (Binary64.ofDecimal numeral.isNegative (digitsValue (numeral.whole ++ numeral.places))
      (power - numeral.places.length))
  | none =>
    if numeral.places.isEmpty then
      let value : Int := digitsValue numeral.whole
      .int (if numeral.isNegative then -value else value)
    else
      .float (Binary64.ofDecimal numeral.isNegative
        (digitsValue (numeral.whole ++ numeral.places)) (-(numeral.places.length : Int)))

/-- The letters of a numeral are a number: digits stand in their places, and none is idle. -/
structure IsProper
    (numeral : Numeral) : Prop where
  whole_ne_nil : numeral.whole ≠ []
  whole_isDigit : ∀ digit ∈ numeral.whole, digit.isDigit = true
  zero_alone : numeral.whole.head? = some '0' → numeral.whole = ['0']
  places_isDigit : ∀ digit ∈ numeral.places, digit.isDigit = true
  whole_length_le :
    numeral.power? = none → numeral.places = [] → numeral.whole.length ≤ mostDigits

section Reading

variable {numeral : Numeral} {rest : List Char}

/-- The exponent of a number is written as a sign and digits. -/
private theorem exponentText_toList
    (power : Int) :
    ∃ digits, (exponentText power).toList = 'e' :: (if power < 0 then '-' else '+') :: digits ∧
      digits ≠ [] ∧ (∀ digit ∈ digits, digit.isDigit = true) ∧
      digitsValue digits = power.natAbs := by
  have allDigits : ∀ digit ∈ Nat.toDigits 10 power.natAbs, digit.isDigit = true :=
    fun digit member => Nat.isDigit_of_mem_toDigits (by decide) (by decide) member
  have sign : (if power < 0 then "e-" else "e+").toList =
      ['e', if power < 0 then '-' else '+'] := by
    split <;> rfl
  rw [exponentText, String.toList_append, sign, Nat.toString_eq_repr]
  by_cases short : power.natAbs.repr.length < 2
  · rw [if_pos short, String.toList_append, Nat.toList_repr]
    refine ⟨'0' :: Nat.toDigits 10 power.natAbs, rfl, List.cons_ne_nil _ _, ?_, ?_⟩
    · rintro digit (_ | ⟨_, member⟩)
      · rfl
      · exact allDigits digit member
    · rw [digitsValue_eq_ofDigitChars, Nat.ofDigitChars_cons]
      exact Nat.ofDigitChars_ten_toDigits
  · rw [if_neg short, Nat.toList_repr]
    exact ⟨Nat.toDigits 10 power.natAbs, rfl, Nat.toDigits_ne_nil, allDigits,
      digitsValue_toDigits _⟩

private theorem exponentPart_exponentText
    (power : Int)
    (delimits : Delimits rest) :
    exponentPart ((exponentText power).toList ++ rest) =
      some (power, (exponentText power).toList.length) := by
  rcases exponentText_toList power with ⟨digits, written, some, allDigits, value⟩
  have taken := takeWhile_digits allDigits (not_isDigit_of_delimits delimits)
  have notEmpty : digits.isEmpty = false := by simpa using some
  rw [written]
  by_cases negative : power < 0
  · rw [if_pos negative]
    simp only [List.cons_append, exponentPart, beq_self_eq_true, Bool.true_or, if_true, taken,
      notEmpty, Bool.false_eq_true, if_false, value, List.length_cons]
    congr 2 <;> omega
  · rw [if_neg negative]
    simp only [List.cons_append, exponentPart, beq_self_eq_true, Bool.true_or, if_true, taken,
      notEmpty, Bool.false_eq_true, if_false, value, List.length_cons]
    congr 2 <;> omega

private theorem exponentPart_of_delimits
    (delimits : Delimits rest) :
    exponentPart rest = none := by
  cases rest with
  | nil => rfl
  | cons letter rest =>
      rcases delimits letter rfl with rfl | rfl <;> rfl

/-- What follows the whole digits or the decimal places is no digit. -/
private theorem not_isDigit_scaled
    (numeral : Numeral)
    (delimits : Delimits rest) :
    ∀ letter ∈ (numeral.scaled ++ rest).head?, letter.isDigit = false := by
  intro letter member
  unfold scaled at member
  split at member
  · exact not_isDigit_of_delimits delimits letter member
  · rename_i power _
    rcases exponentText_toList power with ⟨digits, written, _⟩
    rw [written] at member
    cases member
    rfl

/-- What follows the decimal places is no point. -/
private theorem not_point_scaled
    (numeral : Numeral)
    (delimits : Delimits rest) :
    (numeral.scaled ++ rest).head? ≠ some '.' := by
  intro point
  unfold scaled at point
  split at point
  · rcases delimits '.' point with absurd | absurd <;> cases absurd
  · rename_i power _
    rcases exponentText_toList power with ⟨digits, written, _⟩
    rw [written] at point
    cases point

private theorem wholeDigits_append
    (proper : numeral.IsProper)
    (delimits : Delimits rest) :
    wholeDigits (numeral.whole ++ (numeral.pointed ++ (numeral.scaled ++ rest))) =
      numeral.whole := by
  have ends : ∀ letter ∈ (numeral.pointed ++ (numeral.scaled ++ rest)).head?,
      letter.isDigit = false := by
    unfold pointed
    split
    · exact not_isDigit_scaled numeral delimits
    · rintro letter member
      cases member
      rfl
  by_cases zero : numeral.whole.head? = some '0'
  · rw [proper.zero_alone zero]
    rfl
  · have taken := takeWhile_digits proper.whole_isDigit ends
    obtain ⟨digit, digits, cons⟩ := List.exists_cons_of_ne_nil proper.whole_ne_nil
    rw [cons] at zero taken ⊢
    rw [List.cons_append, wholeDigits]
    · exact taken
    · rintro _ ⟨rfl, _⟩
      exact zero rfl

private theorem decimalPlaces_append
    (proper : numeral.IsProper)
    (delimits : Delimits rest) :
    decimalPlaces (numeral.pointed ++ (numeral.scaled ++ rest)) = numeral.places := by
  unfold pointed
  split
  · rename_i none
    rw [List.isEmpty_iff.mp none, List.nil_append]
    have notPoint := not_point_scaled numeral delimits
    rw [decimalPlaces]
    rintro digits same
    exact notPoint (by rw [same]; rfl)
  · exact takeWhile_digits proper.places_isDigit (not_isDigit_scaled numeral delimits)

/-- A number begins with a minus sign or a digit. -/
private theorem head?_whole
    (proper : numeral.IsProper) :
    ∃ digit digits, numeral.whole = digit :: digits ∧ digit.isDigit = true := by
  obtain ⟨digit, digits, cons⟩ := List.exists_cons_of_ne_nil proper.whole_ne_nil
  exact ⟨digit, digits, cons, proper.whole_isDigit digit (cons ▸ List.mem_cons_self)⟩

private theorem length_letters
    (numeral : Numeral) :
    numeral.letters.length = (if numeral.isNegative then 1 else 0) + numeral.whole.length +
      (if numeral.places.isEmpty then 0 else 1 + numeral.places.length) +
      numeral.scaled.length := by
  have sign : (if numeral.isNegative then ['-'] else []).length =
      if numeral.isNegative then 1 else 0 := by
    split <;> rfl
  have point : numeral.pointed.length =
      if numeral.places.isEmpty then 0 else 1 + numeral.places.length := by
    unfold pointed
    split
    · rfl
    · rw [List.length_cons, Nat.add_comm]
  rw [letters, List.length_append, List.length_append, List.length_append, sign, point]
  omega

/-- A number is read up to the letter that ends it. -/
private theorem numberPart?_letters
    (proper : numeral.IsProper)
    (delimits : Delimits rest) :
    numberPart? (numeral.letters ++ rest) = .ok (some (numeral.value, numeral.letters.length)) := by
  have parts : numeral.letters ++ rest = (if numeral.isNegative then ['-'] else []) ++
      (numeral.whole ++ (numeral.pointed ++ (numeral.scaled ++ rest))) := by
    simp only [letters, List.append_assoc]
  have sign : ((numeral.letters ++ rest).head? == some '-') = numeral.isNegative := by
    rw [parts]
    cases numeral.isNegative with
    | true => rfl
    | false =>
        rcases head?_whole proper with ⟨digit, digits, cons, isDigit⟩
        rw [cons]
        simp only [Bool.false_eq_true, if_false, List.nil_append, List.cons_append, List.head?_cons,
          beq_eq_false_iff_ne, ne_eq, Option.some.injEq]
        rintro rfl
        cases isDigit
  have unsigned : (numeral.letters ++ rest).drop (if numeral.isNegative then 1 else 0) =
      numeral.whole ++ (numeral.pointed ++ (numeral.scaled ++ rest)) := by
    rw [parts]
    cases numeral.isNegative <;> rfl
  have behindPoint : (numeral.pointed ++ (numeral.scaled ++ rest)).drop
      (if numeral.places.isEmpty then 0 else 1 + numeral.places.length) =
        numeral.scaled ++ rest := by
    unfold pointed
    by_cases none : numeral.places.isEmpty = true
    · rw [if_pos none, if_pos none]
      rfl
    · rw [if_neg none, if_neg none, Nat.add_comm, List.cons_append, List.drop_succ_cons,
        List.drop_left]
  have some : ¬numeral.whole.isEmpty = true := by simpa using proper.whole_ne_nil
  unfold numberPart?
  dsimp only
  rw [sign, unsigned, wholeDigits_append proper delimits, if_neg some, List.drop_left,
    decimalPlaces_append proper delimits, behindPoint, length_letters]
  unfold value scaled
  cases power : numeral.power? with
  | none =>
      rw [List.nil_append, exponentPart_of_delimits delimits]
      dsimp only
      by_cases none : numeral.places.isEmpty = true
      · have fits := proper.whole_length_le power (List.isEmpty_iff.mp none)
        simp [none, Nat.not_lt.mpr fits]
      · simp [none]
  | some power => rw [exponentPart_exponentText _ delimits]

/-- A word begins with a letter that is no digit, behind a minus sign, too. -/
private theorem begin_of_mem_words
    {entry : List Char × Json}
    (member : entry ∈ words) :
    ∃ first others, entry.1 = first :: others ∧ first.isDigit = false ∧
      (first = '-' → ∃ second others', others = second :: others' ∧ second.isDigit = false) := by
  simp only [words, List.mem_cons, List.not_mem_nil, or_false] at member
  rcases member with rfl | rfl | rfl | rfl | rfl | rfl
  case inr.inr.inr.inr.inr => exact ⟨_, _, rfl, rfl, fun _ => ⟨_, _, rfl, rfl⟩⟩
  all_goals exact ⟨_, _, rfl, rfl, fun minus => absurd minus (by decide)⟩

/-- No word begins like a number. -/
private theorem find?_words_letters
    (proper : numeral.IsProper)
    (rest : List Char) :
    words.find? (fun entry => entry.1.isPrefixOf (numeral.letters ++ rest)) = none := by
  rcases head?_whole proper with ⟨digit, digits, cons, isDigit⟩
  rw [List.find?_eq_none]
  intro entry member begins
  rcases begin_of_mem_words member with ⟨first, others, word, notDigit, behindMinus⟩
  rw [word, letters, cons] at begins
  cases negative : numeral.isNegative with
  | false =>
      rw [negative] at begins
      obtain ⟨rfl, _⟩ := List.cons_prefix_cons.mp (List.isPrefixOf_iff_prefix.mp begins)
      rw [isDigit] at notDigit
      cases notDigit
  | true =>
      rw [negative] at begins
      obtain ⟨minus, begins⟩ := List.cons_prefix_cons.mp (List.isPrefixOf_iff_prefix.mp begins)
      rcases behindMinus minus with ⟨second, others, rfl, notDigit⟩
      obtain ⟨rfl, _⟩ := List.cons_prefix_cons.mp begins
      rw [isDigit] at notDigit
      cases notDigit

/-- A number is read as an atom up to the letter that ends it. -/
theorem readAtom_letters
    (proper : numeral.IsProper)
    (delimits : Delimits rest) :
    Reads (readAtom (numeral.letters ++ rest)) numeral.value rest := by
  rcases head?_whole proper with ⟨digit, digits, cons, _⟩
  refine readAtom_of_atomPart? ?_ ?_
  · rw [letters, cons]
    cases numeral.isNegative <;> exact List.cons_ne_nil _ _
  · unfold atomPart?
    rw [find?_words_letters proper]
    exact numberPart?_letters proper delimits

end Reading

end Numeral

end SchemaDelta.Json
