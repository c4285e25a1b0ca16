import Mathlib.Data.List.DropRight
import SchemaDelta.Proofs.Decimal.Shortest
import SchemaDelta.Proofs.Json.Numerals

/-!
# Numbers are written as numerals

An integer is written by its digits.  A floating point number is written by the fewest digits that
are rounded to it, whichever of the layouts they are spelled in.
-/

namespace SchemaDelta.Json

open Decimal (Binary64 Digits)

/-- No zero stands in front of the digits of a positive number. -/
private theorem head?_toDigits
    {number : Nat}
    (positive : 0 < number) :
    (Nat.toDigits 10 number).head? ≠ some '0' := by
  induction number using Nat.strongRecOn with
  | ind number ih =>
      by_cases single : number < 10
      · have some : ∀ digit : Fin 10, 0 < digit.val → [digit.val.digitChar].head? ≠ some '0' := by
          decide
        rw [Nat.toDigits_of_lt_base single]
        exact some ⟨number, single⟩ positive
      · rw [Nat.toDigits_of_base_le (by decide) (Nat.le_of_not_lt single),
          List.head?_append_of_ne_nil _ Nat.toDigits_ne_nil]
        exact ih (number / 10) (Nat.div_lt_self positive (by decide)) (by omega)

private theorem isDigit_toDigits
    (number : Nat) :
    ∀ digit ∈ Nat.toDigits 10 number, digit.isDigit = true :=
  fun _ member => Nat.isDigit_of_mem_toDigits (by decide) (by decide) member

/-! ## Integers -/

/-- The numeral of an integer. -/
def intNumeral
    (value : Int) : Numeral where
  isNegative := decide (value < 0)
  whole := Nat.toDigits 10 value.natAbs
  places := []
  power? := none

theorem intNumeral_isProper
    {value : Int}
    (fits : (Nat.toDigits 10 value.natAbs).length ≤ mostDigits) :
    (intNumeral value).IsProper where
  whole_ne_nil := Nat.toDigits_ne_nil
  whole_isDigit := isDigit_toDigits _
  zero_alone := by
    intro zero
    rcases Nat.eq_zero_or_pos value.natAbs with none | positive
    · rw [intNumeral, none]
      rfl
    · exact absurd zero (head?_toDigits positive)
  places_isDigit := by
    rintro digit ⟨⟩
  whole_length_le _ _ := fits

theorem intNumeral_value
    (value : Int) :
    (intNumeral value).value = .int value := by
  rw [intNumeral, Numeral.value]
  simp only [List.isEmpty_nil, if_true, digitsValue_toDigits, decide_eq_true_eq, int.injEq]
  split <;> omega

theorem intNumeral_letters
    (value : Int) :
    (intNumeral value).letters = (toString value).toList := by
  cases value with
  | ofNat magnitude =>
      rw [Numeral.letters, Numeral.pointed, Numeral.scaled, intNumeral]
      simp [toString, Int.repr]
  | negSucc magnitude =>
      rw [Numeral.letters, Numeral.pointed, Numeral.scaled, intNumeral]
      simp [toString, Int.repr]

/-! ## Floating point numbers -/

section Floats

variable {digits : List Char}

/-- Zeros around the digits of a decimal do not change what it is rounded to. -/
private theorem ofDecimal_padded
    (negative : Bool)
    (positive : 0 < digitsValue digits)
    (before after : Nat)
    (scale : Int) :
    Binary64.ofDecimal negative
        (digitsValue (List.replicate before '0' ++ (digits ++ List.replicate after '0')))
        (scale - after) =
      Binary64.ofDecimal negative (digitsValue digits) scale := by
  rw [digitsValue_eq_ofDigitChars, Nat.ofDigitChars_append, Nat.ofDigitChars_append,
    Nat.ofDigitChars_replicate_zero, Nat.ofDigitChars_replicate_zero, Nat.mul_zero,
    ← digitsValue_eq_ofDigitChars, Nat.mul_comm]
  exact Binary64.ofDecimal_mul_pow negative positive after scale

/-- The digits of a number without the zeros at their end. -/
private def keptDigits
    (number : Digits) : List Char :=
  (Nat.toDigits 10 number.digits).rdropWhile (· == '0')

/-- The power of ten of the first digit of a number. -/
private def firstPower
    (number : Digits) : Int :=
  number.scale + (Nat.toDigits 10 number.digits).length - 1

private theorem toDigits_eq_keptDigits
    (number : Digits) :
    ∃ zeros, Nat.toDigits 10 number.digits = keptDigits number ++ List.replicate zeros '0' := by
  refine ⟨((Nat.toDigits 10 number.digits).rtakeWhile (· == '0')).length, ?_⟩
  have zeros : List.replicate ((Nat.toDigits 10 number.digits).rtakeWhile (· == '0')).length '0' =
      (Nat.toDigits 10 number.digits).rtakeWhile (· == '0') :=
    (List.eq_replicate_of_mem fun digit member =>
      beq_iff_eq.mp (List.mem_rtakeWhile_imp (p := (· == '0')) member)).symm
  rw [zeros]
  exact (List.rdropWhile_append_rtakeWhile (p := (· == '0'))).symm

/-- What is kept of the digits of a positive number: no zero in front, and the same value. -/
private theorem keptDigits_spec
    (negative : Bool)
    {number : Digits}
    (positive : 0 < number.digits) :
    keptDigits number ≠ [] ∧ (∀ digit ∈ keptDigits number, digit.isDigit = true) ∧
      (keptDigits number).head? ≠ some '0' ∧ 0 < digitsValue (keptDigits number) ∧
      Binary64.ofDecimal negative (digitsValue (keptDigits number))
          (firstPower number + 1 - (keptDigits number).length) =
        Binary64.ofDecimal negative number.digits number.scale := by
  rcases toDigits_eq_keptDigits number with ⟨zeros, parted⟩
  have noZero := head?_toDigits positive
  have allDigits := isDigit_toDigits number.digits
  have value := digitsValue_toDigits number.digits
  have some : keptDigits number ≠ [] := by
    intro none
    rw [none, List.nil_append] at parted
    rw [parted, List.head?_replicate] at noZero
    split at noZero
    · rename_i empty
      rw [empty] at parted
      exact Nat.toDigits_ne_nil parted
    · exact noZero rfl
  have valuePositive : 0 < digitsValue (keptDigits number) := by
    rcases Nat.eq_zero_or_pos (digitsValue (keptDigits number)) with zero | positive'
    · rw [parted, digitsValue_eq_ofDigitChars, Nat.ofDigitChars_append,
        ← digitsValue_eq_ofDigitChars, zero, Nat.ofDigitChars_replicate_zero] at value
      omega
    · exact positive'
  refine ⟨some, fun digit member => allDigits digit ?_, ?_, valuePositive, ?_⟩
  · rw [parted]
    exact List.mem_append_left _ member
  · rwa [parted, List.head?_append_of_ne_nil _ some] at noZero
  · rw [← ofDecimal_padded negative valuePositive 0 zeros, List.replicate_zero, List.nil_append,
      ← parted, value]
    congr 1
    rw [firstPower, parted, List.length_append, List.length_replicate]
    omega

/-- The numeral of a number with such digits, the first one at a power of ten. -/
private def floatNumeral
    (negative : Bool)
    (digits : List Char)
    (power : Int) : Numeral :=
  if power < -4 || 16 ≤ power then ⟨negative, digits.take 1, digits.drop 1, some power⟩
  else if power < 0 then
    ⟨negative, ['0'], List.replicate (power.natAbs - 1) '0' ++ digits, none⟩
  else if digits.length ≤ power.toNat + 1 then
    ⟨negative, digits ++ List.replicate (power.toNat + 1 - digits.length) '0', ['0'], none⟩
  else ⟨negative, digits.take (power.toNat + 1), digits.drop (power.toNat + 1), none⟩

private theorem floatNumeral_isProper
    (negative : Bool)
    (power : Int)
    (some : digits ≠ [])
    (allDigits : ∀ digit ∈ digits, digit.isDigit = true)
    (noZero : digits.head? ≠ .some '0') :
    (floatNumeral negative digits power).IsProper := by
  have zeros : ∀ count, ∀ digit ∈ List.replicate count '0', digit.isDigit = true := by
    intro count digit member
    rw [List.eq_of_mem_replicate member]
    rfl
  obtain ⟨first, others, rfl⟩ := List.exists_cons_of_ne_nil some
  have notZero : ∀ rest : List Char, (first :: rest).head? = .some '0' →
      first :: rest = ['0'] := fun _ zero => absurd zero noZero
  unfold floatNumeral
  split
  · refine ⟨by simp, fun digit member => allDigits digit (List.mem_of_mem_take member),
      notZero [], fun digit member => allDigits digit (List.mem_of_mem_drop member), ?_⟩
    rintro ⟨⟩
  split
  · refine ⟨by simp, fun digit member => ?_, fun _ => rfl, fun digit member => ?_, ?_⟩
    · rw [List.mem_singleton.mp member]
      rfl
    · exact (List.mem_append.mp member).elim (zeros _ digit) (allDigits digit)
    · intro _ none
      exact absurd none (List.append_ne_nil_of_right_ne_nil _ some)
  split
  · refine ⟨by simp, fun digit member => ?_, notZero _, fun digit member => ?_, ?_⟩
    · exact (List.mem_append.mp member).elim (allDigits digit) (zeros _ digit)
    · rw [List.mem_singleton.mp member]
      rfl
    · rintro _ ⟨⟩
  · rename_i longer
    refine ⟨by simp, fun digit member => allDigits digit (List.mem_of_mem_take member),
      notZero _, fun digit member => allDigits digit (List.mem_of_mem_drop member), ?_⟩
    intro _ none
    exact absurd (List.drop_eq_nil_iff.mp none) longer

/-- A numeral with decimal places and without a power of ten. -/
private theorem value_of_places
    (negative : Bool)
    (whole : List Char)
    {places : List Char}
    (some : places ≠ []) :
    (Numeral.mk negative whole places none).value =
      .float (Binary64.ofDecimal negative (digitsValue (whole ++ places)) (-(places.length : Int))) :=
  by simp [Numeral.value, some]

private theorem floatNumeral_value
    (negative : Bool)
    (power : Int)
    (some : digits ≠ [])
    (positive : 0 < digitsValue digits) :
    (floatNumeral negative digits power).value =
      .float (Binary64.ofDecimal negative (digitsValue digits) (power + 1 - digits.length)) := by
  have long : 0 < digits.length := List.length_pos_iff.mpr some
  unfold floatNumeral
  split
  · simp only [Numeral.value, List.take_append_drop, List.length_drop]
    congr 2
    omega
  split
  · have padded := ofDecimal_padded negative positive (power.natAbs - 1 + 1) 0
      (power + 1 - digits.length)
    rw [List.replicate_zero, List.append_nil, List.replicate_succ] at padded
    rw [value_of_places negative _ (List.append_ne_nil_of_right_ne_nil _ some), ← padded]
    congr 2
    simp only [List.length_append, List.length_replicate]
    omega
  split
  · have padded := ofDecimal_padded negative positive 0 (power.toNat + 1 - digits.length + 1)
      (power + 1 - digits.length)
    rw [List.replicate_zero, List.nil_append, List.replicate_succ', ← List.append_assoc] at padded
    rw [value_of_places negative _ (List.cons_ne_nil _ _), ← padded]
    congr 2
    simp only [List.length_singleton]
    omega
  · rename_i longer
    rw [value_of_places negative _ (List.drop_eq_nil_iff.not.mpr longer), List.take_append_drop]
    congr 2
    simp only [List.length_drop]
    omega

/-- The layouts of a number, by the digits that are kept and the power of the first one. -/
private theorem spell_eq
    {number : Digits}
    (positive : 0 < number.digits) :
    numberStyle.spell number =
      let digits := keptDigits number
      let power := firstPower number
      if power < -4 || 16 ≤ power then
        String.ofList (digits.take 1) ++
          (if (digits.drop 1).isEmpty then "" else "." ++ String.ofList (digits.drop 1)) ++
          Decimal.exponentText power
      else if power < 0 then
        "0." ++ String.ofList (List.replicate (power.natAbs - 1) '0' ++ digits)
      else if digits.length ≤ power.toNat + 1 then
        String.ofList (digits ++ List.replicate (power.toNat + 1 - digits.length) '0') ++ ".0"
      else
        String.ofList (digits.take (power.toNat + 1)) ++ "." ++
          String.ofList (digits.drop (power.toNat + 1)) := by
  rw [Decimal.Style.spell, if_neg positive.ne']
  rfl

private theorem floatNumeral_letters
    (negative : Bool)
    {number : Digits}
    (positive : 0 < number.digits) :
    (floatNumeral negative (keptDigits number) (firstPower number)).letters =
      (if negative then ['-'] else []) ++ (numberStyle.spell number).toList := by
  have some := (keptDigits_spec negative positive).1
  rw [spell_eq positive, floatNumeral]
  dsimp only
  generalize keptDigits number = digits at some ⊢
  generalize firstPower number = power
  split
  · by_cases single : digits.tail = []
    · simp [Numeral.letters, Numeral.pointed, Numeral.scaled, single]
    · simp [Numeral.letters, Numeral.pointed, Numeral.scaled, single]
  split
  · simp [Numeral.letters, Numeral.pointed, Numeral.scaled, some]
  split
  · simp [Numeral.letters, Numeral.pointed, Numeral.scaled]
  · rename_i longer
    simp [Numeral.letters, Numeral.pointed, Numeral.scaled, Nat.not_le.mp longer]

/-- A positive number is written as a numeral of its value. -/
private theorem exists_numeral_spell
    (negative : Bool)
    {number : Digits}
    (positive : 0 < number.digits) :
    ∃ numeral : Numeral, numeral.IsProper ∧
      numeral.letters = (if negative then ['-'] else []) ++ (numberStyle.spell number).toList ∧
      numeral.value = .float (Binary64.ofDecimal negative number.digits number.scale) := by
  rcases keptDigits_spec negative positive with ⟨some, allDigits, noZero, valuePositive, sameValue⟩
  refine ⟨floatNumeral negative (keptDigits number) (firstPower number),
    floatNumeral_isProper negative _ some allDigits noZero,
    floatNumeral_letters negative positive, ?_⟩
  rw [floatNumeral_value negative _ some valuePositive, sameValue]

/-- A finite number is written as a numeral of that number. -/
theorem exists_numeral_writeShortest
    {negative : Bool}
    {mantissa : Nat}
    {exponent : Int}
    (reduced : (Binary64.finite negative mantissa exponent).IsReduced) :
    ∃ numeral : Numeral, numeral.IsProper ∧
      numeral.letters =
        (numberStyle.writeShortest (.finite negative mantissa exponent)).toList ∧
      numeral.value = .float (.finite negative mantissa exponent) := by
  have sign : (if negative then "-" else "").toList = if negative then ['-'] else [] := by
    split <;> rfl
  rcases Nat.eq_zero_or_pos mantissa with rfl | some
  · -- A zero has the least exponent, as every mantissa of fewer bits.
    obtain rfl : exponent = Binary64.leastExponent := by
      rcases reduced with ⟨_, least, _, full⟩
      by_contra! different
      exact absurd (full (lt_of_le_of_ne least different.symm)) (by decide)
    refine ⟨⟨negative, ['0'], ['0'], none⟩, ⟨by simp, ?_, fun _ => rfl, ?_, ?_⟩, ?_, ?_⟩
    · rintro digit (_ | ⟨_, ⟨⟩⟩)
      rfl
    · rintro digit (_ | ⟨_, ⟨⟩⟩)
      rfl
    · rintro _ ⟨⟩
    · rw [Decimal.Style.writeShortest, Decimal.Style.write, if_pos rfl, String.toList_append,
        String.toList_append, sign]
      simp [Numeral.letters, Numeral.pointed, Numeral.scaled, numberStyle]
    · rfl
  · rcases exists_numeral_spell negative (Binary64.shortest_digits_positive reduced some) with
      ⟨numeral, proper, letters, value⟩
    refine ⟨numeral, proper, ?_, ?_⟩
    · rw [letters, Decimal.Style.writeShortest, Decimal.Style.write, if_neg some.ne',
        String.toList_append, sign]
    · rw [value, Binary64.ofDecimal_shortest reduced some]

end Floats

end SchemaDelta.Json
