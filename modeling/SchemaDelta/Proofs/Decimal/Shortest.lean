import Mathlib.Tactic.FieldSimp
import SchemaDelta.Proofs.Decimal.Rounding

/-!
# The fewest digits that read back

A number that comes from rounding has a decimal spelling that is rounded to it again.  Seventeen
digits are always enough, so that the search for the fewest digits finds some.
-/

namespace SchemaDelta.Decimal

namespace Binary64

/-! ## Decimals -/

/-- Decimals are rounded to numbers in their form. -/
theorem isReduced_ofDecimal
    (negative : Bool)
    (digits : Nat)
    (scale : Int) :
    (ofDecimal negative digits scale).IsReduced := by
  unfold ofDecimal
  dsimp only
  split
  · exact isReduced_zero negative
  · split
    · trivial
    · split
      · exact isReduced_zero negative
      · exact isReduced_ofRatio negative _ (scaleRatio_positive (by decide) scale Nat.one_pos)

/-- A decimal within the bounds is rounded as the ratio that it is. -/
theorem ofDecimal_eq_ofRatio
    (negative : Bool)
    {digits : Nat}
    {scale : Int}
    (some : digits ≠ 0)
    (least : -400 ≤ ((Nat.toDigits 10 digits).length : Int) + scale)
    (greatest : ((Nat.toDigits 10 digits).length : Int) + scale ≤ 400) :
    ofDecimal negative digits scale =
      ofRatio negative (scaleRatio 10 (digits, 1) scale).1
        (scaleRatio 10 (digits, 1) scale).2 := by
  unfold ofDecimal
  dsimp only
  rw [if_neg some, if_neg (by omega), if_neg (by omega)]

private theorem scaleRatio_ne_zero
    {base numerator denominator : Nat}
    (basePositive : 0 < base)
    (power : Int)
    (positive : 0 < numerator) :
    0 < (scaleRatio base (numerator, denominator) power).1 := by
  unfold scaleRatio
  split
  · exact positive
  · exact Nat.mul_pos positive (Nat.pow_pos basePositive)

private theorem length_toDigits_mul_pow
    {digits : Nat}
    (positive : 0 < digits)
    (places : Nat) :
    (Nat.toDigits 10 (digits * 10 ^ places)).length = (Nat.toDigits 10 digits).length + places := by
  induction places with
  | zero => rw [pow_zero, Nat.mul_one, Nat.add_zero]
  | succ places ih =>
      have reached : 10 ≤ digits * 10 ^ (places + 1) := by
        rw [pow_succ, ← Nat.mul_assoc]
        exact Nat.le_mul_of_pos_left 10 (Nat.mul_pos positive (Nat.pow_pos (by decide)))
      have shorter : digits * 10 ^ (places + 1) / 10 = digits * 10 ^ places := by
        rw [pow_succ, ← Nat.mul_assoc, Nat.mul_div_cancel _ (by decide)]
      rw [Nat.toDigits_of_base_le (by decide) reached, shorter, List.length_append, ih]
      rfl

/-- Zeros at the end of the digits do not change what a decimal is rounded to. -/
theorem ofDecimal_mul_pow
    (negative : Bool)
    {digits : Nat}
    (positive : 0 < digits)
    (places : Nat)
    (scale : Int) :
    ofDecimal negative (digits * 10 ^ places) (scale - places) = ofDecimal negative digits scale := by
  have shifted : 0 < digits * 10 ^ places := Nat.mul_pos positive (Nat.pow_pos (by decide))
  have sameRatio : ratioValue (scaleRatio 10 (digits * 10 ^ places, 1) (scale - places)) =
      ratioValue (scaleRatio 10 (digits, 1) scale) := by
    rw [ratioValue_scaleRatio (by decide), ratioValue_scaleRatio (by decide), ratioValue, ratioValue,
      Nat.cast_mul, Nat.cast_pow, Nat.cast_ofNat, zpow_sub₀ (by norm_num), zpow_natCast,
      Nat.cast_one, div_one, div_one]
    field_simp
  have sameMagnitude : ((Nat.toDigits 10 (digits * 10 ^ places)).length : Int) +
      (scale - places) = (Nat.toDigits 10 digits).length + scale := by
    rw [length_toDigits_mul_pow positive]
    omega
  have denominators : ∀ digits scale, 0 < (scaleRatio 10 (digits, 1) scale).2 :=
    fun _ scale => scaleRatio_positive (by decide) scale Nat.one_pos
  unfold ofDecimal
  dsimp only
  rw [sameMagnitude, if_neg shifted.ne', if_neg positive.ne']
  split
  · rfl
  · split
    · rfl
    · exact ofRatio_congr negative (scaleRatio_ne_zero (by decide) _ shifted) (denominators _ _)
        (scaleRatio_ne_zero (by decide) _ positive) (denominators _ _)
        ((ratioValue_eq_iff (denominators _ _) (denominators _ _)).mp sameRatio)

/-! ## Seventeen digits -/

section SeventeenDigits

variable {negative : Bool} {mantissa : Nat} {exponent : Int}

/-- A number is bracketed by the powers of ten around its first digit. -/
private theorem leadingPower_magnitude
    (exponent : Int)
    (some : 0 < mantissa) :
    (10 : ℚ) ^ leadingPower (magnitude mantissa exponent) ≤ mantissa * 2 ^ exponent ∧
      (mantissa : ℚ) * 2 ^ exponent < 10 ^ (leadingPower (magnitude mantissa exponent) + 1) := by
  rw [← ratioValue_magnitude]
  exact leadingPower_brackets (magnitude_ne_zero exponent some)
    (magnitude_positive mantissa exponent)

/-- All numbers other than zero are above 10 ^ -324. -/
private theorem least_lt_value
    (reduced : (finite negative mantissa exponent).IsReduced)
    (some : 0 < mantissa) :
    (10 : ℚ) ^ (-324 : Int) < mantissa * 2 ^ exponent := by
  have someCast : (1 : ℚ) ≤ mantissa := by exact_mod_cast some
  calc (10 : ℚ) ^ (-324 : Int) < 2 ^ (-1074 : Int) := by
        rw [zpow_neg, zpow_neg, zpow_ofNat, zpow_ofNat, inv_lt_inv₀ (by positivity)
          (by positivity)]
        exact_mod_cast (by decide +kernel : 2 ^ 1074 < 10 ^ 324)
    _ ≤ 2 ^ exponent := zpow_le_zpow_right₀ one_le_two reduced.2.1
    _ ≤ mantissa * 2 ^ exponent := le_mul_of_one_le_left (by positivity) someCast

/-- All numbers are below 10 ^ 309. -/
private theorem value_lt_greatest
    (reduced : (finite negative mantissa exponent).IsReduced) :
    (mantissa : ℚ) * 2 ^ exponent < 10 ^ (309 : Int) := by
  have fits : (mantissa : ℚ) ≤ 2 ^ (53 : Int) := by
    rw [zpow_ofNat]
    exact_mod_cast reduced.1.le
  have power : (2 : ℚ) ^ exponent ≤ 2 ^ (971 : Int) :=
    zpow_le_zpow_right₀ one_le_two reduced.2.2.1
  calc (mantissa : ℚ) * 2 ^ exponent ≤ 2 ^ (53 : Int) * 2 ^ (971 : Int) := by gcongr
    _ = 2 ^ (1024 : Int) := (zpow_add₀ two_ne_zero _ _).symm
    _ < 10 ^ (309 : Int) := by
        rw [zpow_ofNat, zpow_ofNat]
        exact_mod_cast (by decide +kernel : 2 ^ 1024 < 10 ^ 309)

/-- The first digit of a number stands between the greatest and the least places of all numbers. -/
private theorem leadingPower_bounds
    (reduced : (finite negative mantissa exponent).IsReduced)
    (some : 0 < mantissa) :
    -324 ≤ leadingPower (magnitude mantissa exponent) ∧
      leadingPower (magnitude mantissa exponent) ≤ 308 := by
  rcases leadingPower_magnitude exponent some with ⟨reached, below⟩
  have ten : (1 : ℚ) < 10 := by norm_num
  have least := (zpow_lt_zpow_iff_right₀ ten).mp ((least_lt_value reduced some).trans below)
  have greatest := (zpow_lt_zpow_iff_right₀ ten).mp (reached.trans_lt (value_lt_greatest reduced))
  omega

/-- Seventeen digits have a first one and are at most half of their last place away from a number. -/
private theorem rounded_seventeen_spec
    (some : 0 < mantissa) :
    ∃ digits scale, Digits.rounded 17 (magnitude mantissa exponent) = ⟨digits, scale⟩ ∧
      leadingPower (magnitude mantissa exponent) = scale + 16 ∧
        10 ^ 16 ≤ digits ∧ digits ≤ 10 ^ 17 ∧
          (10 : ℚ) ^ scale * 10 ^ (16 : Int) ≤ mantissa * 2 ^ exponent ∧
            |digits * (10 : ℚ) ^ scale - mantissa * 2 ^ exponent| ≤ 1 / 2 * 10 ^ scale := by
  rcases leadingPower_magnitude exponent some with ⟨reached, below⟩
  rw [Digits.rounded]
  generalize leadingPower (magnitude mantissa exponent) = power at *
  obtain ⟨scale, rfl⟩ : ∃ scale, power = scale + 16 := ⟨power - 16, by omega⟩
  rw [show scale + 16 + 1 - ((17 : Nat) : Int) = scale by omega]
  have ten : (10 : ℚ) ≠ 0 := by norm_num
  have unit : (0 : ℚ) < 10 ^ scale := by positivity
  rw [zpow_add₀ ten] at reached
  rw [show scale + 16 + 1 = scale + 17 by omega, zpow_add₀ ten] at below
  -- The number in units of the last of its seventeen digits.
  have scaledPositive : 0 < (scaleRatio 10 (magnitude mantissa exponent) (-scale)).2 :=
    scaleRatio_positive (by decide) _ (magnitude_positive mantissa exponent)
  have scaled : ratioValue (scaleRatio 10 (magnitude mantissa exponent) (-scale)) =
      mantissa * 2 ^ exponent / 10 ^ scale := by
    rw [ratioValue_scaleRatio_neg (by decide), ratioValue_magnitude, Nat.cast_ofNat]
  have digitsNear := abs_roundHalfEven_sub_le
    (scaleRatio 10 (magnitude mantissa exponent) (-scale)).1 scaledPositive
  change |_ - ratioValue _| ≤ _ at digitsNear
  rw [scaled] at digitsNear
  rcases roundHalfEven_bounds (10 ^ 16) (10 ^ 17) scaledPositive (by
      change _ ≤ ratioValue _
      rw [scaled, le_div_iff₀ unit]
      push_cast
      linarith) (by
      change ratioValue _ < _
      rw [scaled, div_lt_iff₀ unit]
      push_cast
      linarith) with ⟨leastDigits, greatestDigits⟩
  refine ⟨_, scale, rfl, rfl, leastDigits, greatestDigits, reached, ?_⟩
  generalize roundHalfEven (scaleRatio 10 (magnitude mantissa exponent) (-scale)).1
    (scaleRatio 10 (magnitude mantissa exponent) (-scale)).2 = digits at *
  have factored : digits * (10 : ℚ) ^ scale - mantissa * 2 ^ exponent =
      (digits - mantissa * 2 ^ exponent / 10 ^ scale) * 10 ^ scale := by
    rw [sub_mul, div_mul_cancel₀ _ unit.ne']
  rw [factored, abs_mul, abs_of_pos unit]
  exact mul_le_mul_of_nonneg_right digitsNear unit.le

/-- A number rounded to seventeen digits is rounded back to itself. -/
theorem ofDecimal_seventeen
    (reduced : (finite negative mantissa exponent).IsReduced)
    (some : 0 < mantissa) :
    ofDecimal negative (Digits.rounded 17 (magnitude mantissa exponent)).digits
        (Digits.rounded 17 (magnitude mantissa exponent)).scale =
      finite negative mantissa exponent := by
  rcases leadingPower_bounds reduced some with ⟨leastPower, greatestPower⟩
  rcases rounded_seventeen_spec some with
    ⟨digits, scale, rounded, powerEq, leastDigits, greatestDigits, reached, near⟩
  rw [powerEq] at leastPower greatestPower
  rw [rounded]
  rcases pow_length_toDigits (by omega : 0 < digits) with ⟨lengthReached, lengthBelow⟩
  have longEnough : 16 < (Nat.toDigits 10 digits).length :=
    (Nat.pow_lt_pow_iff_right (by decide)).mp (leastDigits.trans_lt lengthBelow)
  have shortEnough : (Nat.toDigits 10 digits).length - 1 ≤ 17 :=
    (Nat.pow_le_pow_iff_right (by decide)).mp (lengthReached.trans greatestDigits)
  dsimp only
  rw [ofDecimal_eq_ofRatio negative (by omega) (by omega) (by omega)]
  have decimal : ratioValue (scaleRatio 10 (digits, 1) scale) = digits * 10 ^ scale := by
    rw [ratioValue_scaleRatio (by decide), ratioValue, Nat.cast_one, div_one, Nat.cast_ofNat]
  have unit : (0 : ℚ) < 10 ^ scale := by positivity
  have power : (0 : ℚ) < 2 ^ exponent := by positivity
  -- A unit of the last digit is less than a unit of the mantissa: 53 bits are less than 10 ^ 16.
  refine ofRatio_eq_of_near reduced some (scaleRatio_positive (by decide) _ Nat.one_pos) ?_ ?_
  · rw [decimal]
    refine near.trans_lt ?_
    have fits : (mantissa : ℚ) ≤ 2 ^ 53 := by exact_mod_cast reduced.1.le
    have : (mantissa : ℚ) * 2 ^ exponent ≤ 2 ^ 53 * 2 ^ exponent := by gcongr
    norm_num at reached this
    linarith
  · intro isLeast
    rw [decimal]
    refine near.trans_lt ?_
    rw [isLeast, show leastMantissa = 2 ^ 52 from rfl] at reached
    norm_num at reached
    linarith

/-! ## The fewest digits -/

/-- Digits that were found by reading back do read back. -/
theorem ofDecimal_readingBack?
    {negative : Bool}
    {number : Binary64}
    {ratio : Nat × Nat}
    {count : Nat}
    {digits : Digits}
    (found : Digits.readingBack? negative number ratio count = some digits) :
    ofDecimal negative digits.digits digits.scale = number := by
  unfold Digits.readingBack? at found
  dsimp only at found
  split_ifs at found with nearest whole above whole'
  all_goals
    cases found
    apply of_decide_eq_true
    assumption

/-- The fewest digits of a number are rounded back to it. -/
theorem ofDecimal_shortest
    (reduced : (finite negative mantissa exponent).IsReduced)
    (some : 0 < mantissa) :
    let shortest :=
      Digits.shortest negative (finite negative mantissa exponent) (magnitude mantissa exponent)
    ofDecimal negative shortest.digits shortest.scale = finite negative mantissa exponent := by
  intro shortest
  change ofDecimal negative (Digits.shortest _ _ _).digits (Digits.shortest _ _ _).scale = _
  rw [Digits.shortest]
  cases found : (List.range 17).findSome? fun places =>
      Digits.readingBack? negative (finite negative mantissa exponent)
        (magnitude mantissa exponent) (places + 1) with
  | none => exact ofDecimal_seventeen reduced some
  | some digits =>
      rcases List.exists_of_findSome?_eq_some found with ⟨places, _, readsBack⟩
      exact ofDecimal_readingBack? readsBack

/-- There is a digit other than zero among the fewest digits of a number other than zero. -/
theorem shortest_digits_positive
    (reduced : (finite negative mantissa exponent).IsReduced)
    (some : 0 < mantissa) :
    0 < (Digits.shortest negative (finite negative mantissa exponent)
      (magnitude mantissa exponent)).digits := by
  rcases Nat.eq_zero_or_pos (Digits.shortest negative (finite negative mantissa exponent)
    (magnitude mantissa exponent)).digits with none | positive
  · have readBack := ofDecimal_shortest reduced some
    dsimp only at readBack
    rw [none] at readBack
    cases readBack
    exact absurd some (lt_irrefl 0)
  · exact positive

end SeventeenDigits

end Binary64

end SchemaDelta.Decimal
