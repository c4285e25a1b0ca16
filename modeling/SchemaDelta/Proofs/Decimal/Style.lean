import Mathlib.Algebra.Order.Field.Power
import Mathlib.Data.Nat.Cast.Order.Field
import Mathlib.Data.Rat.Cast.Order
import Mathlib.Tactic.Linarith
import Mathlib.Tactic.Positivity
import Mathlib.Tactic.Ring
import SchemaDelta.Decimal.Style

/-!
# Spelling of equal numbers

A number is spelled with a fixed count of digits by its value: the spelling does not depend on the
mantissa and exponent by which the value is given.  Only the two zeros are equal and spelled
differently.
-/

namespace SchemaDelta.Decimal

/-! ## Rounding of ratios -/

theorem roundHalfEven_mul_right
    (numerator denominator : Nat)
    {factor : Nat}
    (positive : 0 < factor) :
    roundHalfEven (numerator * factor) (denominator * factor) =
      roundHalfEven numerator denominator := by
  have twice : 2 * (numerator % denominator * factor) = 2 * (numerator % denominator) * factor :=
    (Nat.mul_assoc ..).symm
  simp only [roundHalfEven, Nat.mul_div_mul_right _ _ positive, Nat.mul_mod_mul_right, twice,
    Nat.mul_lt_mul_right positive]

/-- Equal ratios are rounded to the same integer. -/
theorem roundHalfEven_congr
    {numerator denominator numerator' denominator' : Nat}
    (positive : 0 < denominator)
    (positive' : 0 < denominator')
    (equal : numerator * denominator' = numerator' * denominator) :
    roundHalfEven numerator denominator = roundHalfEven numerator' denominator' := by
  rw [← roundHalfEven_mul_right numerator denominator positive', equal,
    Nat.mul_comm denominator denominator', roundHalfEven_mul_right _ _ positive]

/-! ## The leading digit -/

/-- A positive number has as many digits as its place among the powers of ten says. -/
theorem pow_length_toDigits
    {number : Nat}
    (positive : 0 < number) :
    10 ^ ((Nat.toDigits 10 number).length - 1) ≤ number ∧
      number < 10 ^ (Nat.toDigits 10 number).length := by
  have some : 0 < (Nat.toDigits 10 number).length := Nat.length_toDigits_pos
  constructor
  · by_contra! below
    rcases Nat.eq_or_lt_of_le (Nat.succ_le_of_lt some) with single | more
    · rw [← single] at below
      simp at below
      omega
    · have fits := (Nat.length_toDigits_le_iff (by decide) (by omega)).mpr below
      omega
  · exact (Nat.length_toDigits_le_iff (by decide) some).mp le_rfl

/-- A proper fraction is shifted to its first digit by the places that the divisor is longer. -/
private theorem shift_to_first_digit
    {numerator denominator : Nat}
    (positive : 0 < numerator)
    (part : numerator < denominator) :
    let places := (Nat.toDigits 10 denominator).length - (Nat.toDigits 10 numerator).length
    numerator * 10 ^ places < 10 * denominator ∧ denominator < 10 * (numerator * 10 ^ places) := by
  intro places
  rcases pow_length_toDigits positive with ⟨reached, below⟩
  rcases pow_length_toDigits (positive.trans part) with ⟨reached', below'⟩
  obtain ⟨more, length⟩ : ∃ more, (Nat.toDigits 10 numerator).length = more + 1 :=
    ⟨_, (Nat.succ_pred_eq_of_pos Nat.length_toDigits_pos).symm⟩
  obtain ⟨more', length'⟩ : ∃ more, (Nat.toDigits 10 denominator).length = more + 1 :=
    ⟨_, (Nat.succ_pred_eq_of_pos Nat.length_toDigits_pos).symm⟩
  rw [length, Nat.add_sub_cancel] at reached
  rw [length] at below
  rw [length', Nat.add_sub_cancel] at reached'
  rw [length'] at below'
  have longer : more ≤ more' := by
    have within : 10 ^ more < 10 ^ (more' + 1) := by omega
    have := (Nat.pow_lt_pow_iff_right (by decide)).mp within
    omega
  have sum : more' = more + places := by
    simp only [places, length, length']
    omega
  constructor
  · calc numerator * 10 ^ places < 10 ^ (more + 1) * 10 ^ places :=
          Nat.mul_lt_mul_of_pos_right below (Nat.pow_pos (by decide))
      _ = 10 * 10 ^ more' := by rw [sum, pow_succ, pow_add]; ring
      _ ≤ 10 * denominator := Nat.mul_le_mul_left 10 reached'
  · calc denominator < 10 ^ (more' + 1) := below'
      _ = 10 * (10 ^ more * 10 ^ places) := by rw [sum, pow_succ, pow_add]; ring
      _ ≤ 10 * (numerator * 10 ^ places) :=
          Nat.mul_le_mul_left 10 (Nat.mul_le_mul_right _ reached)

/-- The leading power is the greatest power of ten that a ratio reaches. -/
theorem leadingPower_brackets
    {numerator denominator : Nat}
    (positive : 0 < numerator)
    (positive' : 0 < denominator) :
    (10 : ℚ) ^ leadingPower (numerator, denominator) ≤ numerator / denominator ∧
      (numerator : ℚ) / denominator < 10 ^ (leadingPower (numerator, denominator) + 1) := by
  have divisor : (0 : ℚ) < denominator := Nat.cast_pos.mpr positive'
  rw [leadingPower]
  dsimp only
  split
  · rename_i whole
    have quotient : 0 < numerator / denominator := Nat.div_pos whole positive'
    rcases pow_length_toDigits quotient with ⟨reached, below⟩
    obtain ⟨more, length⟩ : ∃ more, (Nat.toDigits 10 (numerator / denominator)).length = more + 1 :=
      ⟨_, (Nat.succ_pred_eq_of_pos Nat.length_toDigits_pos).symm⟩
    rw [length, Nat.add_sub_cancel, Nat.le_div_iff_mul_le positive'] at reached
    rw [length, Nat.div_lt_iff_lt_mul positive'] at below
    rw [length, Nat.cast_succ, add_sub_cancel_right]
    constructor
    · rw [zpow_natCast, le_div_iff₀ divisor]
      exact_mod_cast reached
    · rw [div_lt_iff₀ divisor]
      exact_mod_cast below
  · rename_i part
    rcases shift_to_first_digit positive (Nat.lt_of_not_le part) with ⟨below, reached⟩
    generalize (Nat.toDigits 10 denominator).length - (Nat.toDigits 10 numerator).length = places
      at below reached ⊢
    have ten : (10 : ℚ) ≠ 0 := by norm_num
    have shift : (0 : ℚ) < 10 ^ places := by positivity
    split
    · rename_i atLeast
      rw [zpow_add₀ ten, zpow_one, zpow_neg, zpow_natCast, inv_mul_eq_div]
      constructor
      · rw [inv_eq_one_div, div_le_div_iff₀ shift divisor, one_mul]
        exact_mod_cast atLeast
      · rw [div_lt_div_iff₀ divisor shift]
        exact_mod_cast below
    · rename_i less
      rw [sub_add_cancel, zpow_sub₀ ten, zpow_one, zpow_neg, zpow_natCast]
      constructor
      · rw [inv_eq_one_div, div_div, div_le_div_iff₀ (by positivity) divisor, one_mul]
        have reachedQ : (denominator : ℚ) < 10 * (numerator * 10 ^ places) := by
          exact_mod_cast reached
        linarith
      · rw [inv_eq_one_div, div_lt_div_iff₀ divisor shift, one_mul]
        exact_mod_cast Nat.lt_of_not_le less

/-- Equal ratios have the same leading power. -/
theorem leadingPower_congr
    {numerator denominator numerator' denominator' : Nat}
    (numeratorPositive : 0 < numerator)
    (denominatorPositive : 0 < denominator)
    (numeratorPositive' : 0 < numerator')
    (denominatorPositive' : 0 < denominator')
    (equal : numerator * denominator' = numerator' * denominator) :
    leadingPower (numerator, denominator) = leadingPower (numerator', denominator') := by
  rcases leadingPower_brackets numeratorPositive denominatorPositive with ⟨reached, below⟩
  rcases leadingPower_brackets numeratorPositive' denominatorPositive' with ⟨reached', below'⟩
  have sameRatio : (numerator : ℚ) / denominator = numerator' / denominator' := by
    rw [div_eq_div_iff (by positivity) (by positivity)]
    exact_mod_cast equal
  rw [sameRatio] at reached below
  have one : (1 : ℚ) < 10 := by norm_num
  have upper := (zpow_lt_zpow_iff_right₀ one).mp (reached.trans_lt below')
  have lower := (zpow_lt_zpow_iff_right₀ one).mp (reached'.trans_lt below)
  omega

/-! ## Spelling -/

theorem scaleRatio_congr
    (base : Nat)
    {ratio ratio' : Nat × Nat}
    (power : Int)
    (equal : ratio.1 * ratio'.2 = ratio'.1 * ratio.2) :
    (scaleRatio base ratio power).1 * (scaleRatio base ratio' power).2 =
      (scaleRatio base ratio' power).1 * (scaleRatio base ratio power).2 := by
  unfold scaleRatio
  split
  · dsimp only
    rw [← Nat.mul_assoc, equal, Nat.mul_assoc]
  · dsimp only
    rw [Nat.mul_right_comm, equal, Nat.mul_right_comm]

theorem scaleRatio_positive
    {ratio : Nat × Nat}
    {base : Nat}
    (basePositive : 0 < base)
    (power : Int)
    (positive : 0 < ratio.2) :
    0 < (scaleRatio base ratio power).2 := by
  unfold scaleRatio
  split
  · exact Nat.mul_pos positive (Nat.pow_pos basePositive)
  · exact positive

/-- Equal ratios are rounded to the same digits. -/
theorem Digits.rounded_congr
    (count : Nat)
    {ratio ratio' : Nat × Nat}
    (numeratorPositive : 0 < ratio.1)
    (denominatorPositive : 0 < ratio.2)
    (numeratorPositive' : 0 < ratio'.1)
    (denominatorPositive' : 0 < ratio'.2)
    (equal : ratio.1 * ratio'.2 = ratio'.1 * ratio.2) :
    Digits.rounded count ratio = Digits.rounded count ratio' := by
  have samePower : leadingPower ratio = leadingPower ratio' :=
    leadingPower_congr numeratorPositive denominatorPositive numeratorPositive'
      denominatorPositive' equal
  rw [rounded, rounded, samePower]
  congr 1
  exact roundHalfEven_congr (scaleRatio_positive (by decide) _ denominatorPositive)
    (scaleRatio_positive (by decide) _ denominatorPositive') (scaleRatio_congr 10 _ equal)

namespace Binary64

/-- The number has a minus sign, which a zero may have, too. -/
def isNegative : Binary64 → Bool
  | finite negative _ _ => negative
  | infinite negative => negative
  | undefined => false

theorem magnitude_positive
    (mantissa : Nat)
    (exponent : Int) :
    0 < (magnitude mantissa exponent).2 :=
  scaleRatio_positive (by decide) exponent Nat.one_pos

private theorem magnitude_eq_zero_iff
    (mantissa : Nat)
    (exponent : Int) :
    (magnitude mantissa exponent).1 = 0 ↔ mantissa = 0 := by
  unfold magnitude scaleRatio
  split
  · rfl
  · simp

theorem magnitude_ne_zero
    {mantissa : Nat}
    (exponent : Int)
    (positive : 0 < mantissa) :
    0 < (magnitude mantissa exponent).1 :=
  Nat.pos_of_ne_zero ((magnitude_eq_zero_iff mantissa exponent).not.mpr positive.ne')

/-- Equal numbers are both zero, or have one sign and equal magnitudes. -/
private theorem equal_finite
    {negative negative' : Bool}
    {mantissa mantissa' : Nat}
    {exponent exponent' : Int}
    (equal : (finite negative mantissa exponent).equal (finite negative' mantissa' exponent') =
      true) :
    (mantissa = 0 ∧ mantissa' = 0) ∨
      (0 < mantissa ∧ 0 < mantissa' ∧ negative = negative' ∧
        (magnitude mantissa exponent).1 * (magnitude mantissa' exponent').2 =
          (magnitude mantissa' exponent').1 * (magnitude mantissa exponent).2) := by
  simp only [Binary64.equal] at equal
  split at equal
  · rename_i zeros
    exact Or.inl (by simpa using zeros)
  · rename_i notZeros
    simp only [Bool.and_eq_true, beq_iff_eq] at equal
    rcases equal with ⟨sameSign, cross⟩
    have neither : mantissa = 0 ↔ mantissa' = 0 := by
      rw [← magnitude_eq_zero_iff mantissa exponent, ← magnitude_eq_zero_iff mantissa' exponent']
      have positive := magnitude_positive mantissa exponent
      have positive' := magnitude_positive mantissa' exponent'
      constructor
      · intro zero
        rw [zero, Nat.zero_mul] at cross
        exact (Nat.mul_eq_zero.mp cross.symm).resolve_right positive.ne'
      · intro zero
        rw [zero, Nat.zero_mul] at cross
        exact (Nat.mul_eq_zero.mp cross).resolve_right positive'.ne'
    have some : 0 < mantissa := by
      rcases Nat.eq_zero_or_pos mantissa with zero | positive
      · exact absurd (by simp [zero, neither.mp zero]) notZeros
      · exact positive
    exact Or.inr ⟨some, Nat.pos_of_ne_zero fun zero => some.ne' (neither.mpr zero), sameSign, cross⟩

private theorem exceedsInt_zero
    (negative : Bool)
    (mantissa : Nat)
    (exponent : Int) :
    (finite negative mantissa exponent).exceedsInt 0 = (!negative && decide (0 < mantissa)) := by
  have nonzero := magnitude_eq_zero_iff mantissa exponent
  simp only [exceedsInt, signedRatio, Int.zero_mul]
  cases negative with
  | true => simp
  | false => simp [Nat.pos_iff_ne_zero, nonzero]

/-- Whether a number is positive shows in its value. -/
theorem exceedsInt_zero_congr
    {left right : Binary64}
    (equal : left.equal right = true) :
    left.exceedsInt 0 = right.exceedsInt 0 := by
  cases left with
  | undefined => cases equal
  | infinite negative =>
      cases right with
      | infinite negative' => rw [beq_iff_eq.mp equal]
      | _ => cases equal
  | finite negative mantissa exponent =>
      cases right with
      | finite negative' mantissa' exponent' =>
          rw [exceedsInt_zero, exceedsInt_zero]
          rcases equal_finite equal with ⟨rfl, rfl⟩ | ⟨some, some', rfl, _⟩
          · simp
          · simp [some, some']
      | _ => cases equal

theorem isNegative_of_exceedsInt_zero
    {number : Binary64}
    (positive : number.exceedsInt 0 = true) :
    number.isNegative = false := by
  cases number with
  | undefined => rfl
  | infinite negative => simpa [exceedsInt, isNegative] using positive
  | finite negative mantissa exponent =>
      rw [exceedsInt_zero, Bool.and_eq_true, Bool.not_eq_true'] at positive
      exact positive.1

end Binary64

/-- Equal numbers of one sign are spelled alike. -/
theorem Style.writeRounded_congr
    (style : Style)
    (count : Nat)
    {left right : Binary64}
    (equal : left.equal right = true)
    (sameSign : left.isNegative = right.isNegative) :
    style.writeRounded count left = style.writeRounded count right := by
  cases left with
  | undefined => cases equal
  | infinite negative =>
      cases right with
      | infinite negative' =>
          obtain rfl : negative = negative' := sameSign
          rfl
      | _ => cases equal
  | finite negative mantissa exponent =>
      cases right with
      | finite negative' mantissa' exponent' =>
          obtain rfl : negative = negative' := sameSign
          rcases Binary64.equal_finite equal with ⟨rfl, rfl⟩ | ⟨some, some', _, cross⟩
          · rfl
          · have sameDigits : Digits.rounded count (Binary64.magnitude mantissa exponent) =
                Digits.rounded count (Binary64.magnitude mantissa' exponent') :=
              Digits.rounded_congr count (Binary64.magnitude_ne_zero _ some)
                (Binary64.magnitude_positive _ _) (Binary64.magnitude_ne_zero _ some')
                (Binary64.magnitude_positive _ _) cross
            simp only [writeRounded, write, some.ne', some'.ne', if_false, sameDigits]
      | _ => cases equal

end SchemaDelta.Decimal
