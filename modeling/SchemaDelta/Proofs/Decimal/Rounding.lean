import SchemaDelta.Proofs.Decimal.Style

/-!
# Rounding to binary numbers

The number nearest to a ratio has one of two forms: a mantissa of 53 bits, or a shorter one at the
least exponent.  It depends only on the value of the ratio, and a ratio that is nearer to a number
than to the middle between it and its neighbours is rounded to that number.
-/

namespace SchemaDelta.Decimal

/-! ## Values of ratios -/

/-- The value of a ratio. -/
def ratioValue
    (ratio : Nat × Nat) : ℚ :=
  ratio.1 / ratio.2

theorem ratioValue_scaleRatio
    {base : Nat}
    (positive : 0 < base)
    (ratio : Nat × Nat)
    (power : Int) :
    ratioValue (scaleRatio base ratio power) = ratioValue ratio * (base : ℚ) ^ power := by
  have nonzero : (base : ℚ) ≠ 0 := by exact_mod_cast positive.ne'
  unfold ratioValue scaleRatio
  split
  · rename_i negative
    obtain ⟨places, rfl⟩ : ∃ places : Nat, power = -places := ⟨power.natAbs, by omega⟩
    simp only [Int.natAbs_neg, Int.natAbs_natCast, Nat.pow_eq, Nat.cast_mul, Nat.cast_pow,
      zpow_neg, zpow_natCast]
    rw [← div_eq_mul_inv, div_div]
  · obtain ⟨places, rfl⟩ : ∃ places : Nat, power = places := ⟨power.natAbs, by omega⟩
    simp only [Int.natAbs_natCast, Nat.pow_eq, Nat.cast_mul, Nat.cast_pow, zpow_natCast]
    rw [mul_div_right_comm]

/-- Scaling a ratio down divides its value. -/
theorem ratioValue_scaleRatio_neg
    {base : Nat}
    (positive : 0 < base)
    (ratio : Nat × Nat)
    (power : Int) :
    ratioValue (scaleRatio base ratio (-power)) = ratioValue ratio / (base : ℚ) ^ power := by
  rw [ratioValue_scaleRatio positive, zpow_neg, ← div_eq_mul_inv]

/-- Ratios of one value are equal crosswise. -/
theorem ratioValue_eq_iff
    {ratio ratio' : Nat × Nat}
    (positive : 0 < ratio.2)
    (positive' : 0 < ratio'.2) :
    ratioValue ratio = ratioValue ratio' ↔ ratio.1 * ratio'.2 = ratio'.1 * ratio.2 := by
  rw [ratioValue, ratioValue, div_eq_div_iff (by positivity) (by positivity)]
  exact_mod_cast Iff.rfl

/-! ## The nearest integer -/

/-- The nearest integer is at most a half away. -/
theorem abs_roundHalfEven_sub_le
    (numerator : Nat)
    {denominator : Nat}
    (positive : 0 < denominator) :
    |(roundHalfEven numerator denominator : ℚ) - numerator / denominator| ≤ 1 / 2 := by
  have divisor : (0 : ℚ) < denominator := Nat.cast_pos.mpr positive
  have value : (numerator : ℚ) / denominator =
      (numerator / denominator : Nat) + (numerator % denominator : Nat) / denominator := by
    rw [div_eq_iff divisor.ne', add_mul, div_mul_cancel₀ _ divisor.ne']
    exact_mod_cast (Nat.div_add_mod' numerator denominator).symm
  have below : 2 * (numerator % denominator) ≤ denominator →
      ((numerator % denominator : Nat) : ℚ) / denominator ≤ 1 / 2 := by
    intro small
    rw [div_le_iff₀ divisor]
    have : (2 : ℚ) * (numerator % denominator : Nat) ≤ denominator := by exact_mod_cast small
    linarith
  have above : denominator ≤ 2 * (numerator % denominator) →
      (1 : ℚ) / 2 ≤ (numerator % denominator : Nat) / denominator := by
    intro great
    rw [le_div_iff₀ divisor]
    have : (denominator : ℚ) ≤ 2 * (numerator % denominator : Nat) := by exact_mod_cast great
    linarith
  have nonnegative : (0 : ℚ) ≤ (numerator % denominator : Nat) / denominator := by positivity
  have proper : ((numerator % denominator : Nat) : ℚ) / denominator < 1 := by
    rw [div_lt_one divisor]
    exact_mod_cast Nat.mod_lt numerator positive
  rw [value, abs_le]
  simp only [roundHalfEven]
  split
  · have := below (by omega)
    constructor <;> linarith
  · split
    · have := above (by omega)
      push_cast
      constructor <;> linarith
    · have := below (by omega)
      have := above (by omega)
      split <;> push_cast <;> constructor <;> linarith

/-- A ratio that is less than a half away from an integer is rounded to it. -/
theorem roundHalfEven_eq_of_near
    {numerator denominator nearest : Nat}
    (positive : 0 < denominator)
    (near : |(numerator : ℚ) / denominator - nearest| < 1 / 2) :
    roundHalfEven numerator denominator = nearest := by
  have rounded := abs_roundHalfEven_sub_le numerator positive
  rw [abs_le] at rounded
  rw [abs_lt] at near
  have below : (roundHalfEven numerator denominator : ℚ) < nearest + 1 := by linarith
  have above : (nearest : ℚ) < roundHalfEven numerator denominator + 1 := by linarith
  have : roundHalfEven numerator denominator < nearest + 1 := by exact_mod_cast below
  have : nearest < roundHalfEven numerator denominator + 1 := by exact_mod_cast above
  omega

/-- What lies between integers is rounded between them. -/
theorem roundHalfEven_bounds
    {numerator denominator : Nat}
    (least greatest : Nat)
    (positive : 0 < denominator)
    (reached : (least : ℚ) ≤ numerator / denominator)
    (below : (numerator : ℚ) / denominator < greatest) :
    least ≤ roundHalfEven numerator denominator ∧
      roundHalfEven numerator denominator ≤ greatest := by
  have near := abs_le.mp (abs_roundHalfEven_sub_le numerator positive)
  have low : (least : ℚ) < roundHalfEven numerator denominator + 1 := by linarith
  have high : (roundHalfEven numerator denominator : ℚ) < greatest + 1 := by linarith
  constructor
  · exact Nat.lt_succ_iff.mp (by exact_mod_cast low)
  · exact Nat.lt_succ_iff.mp (by exact_mod_cast high)

namespace Binary64

/-! ## The exponent of a number -/

/-- The power of two that leaves 53 bits before the point of a ratio. -/
def leadingExponent
    (numerator denominator : Nat) : Int :=
  let guess : Int := (numerator.log2 : Int) - (denominator.log2 : Int) - 52
  let guessed := scaleRatio 2 (numerator, denominator) (-guess)
  if guessed.1 < guessed.2 * leastMantissa then guess - 1 else guess

/-- The number with a rounded mantissa, which may have been carried to one bit more. -/
def ofRounded
    (negative : Bool)
    (mantissa : Nat)
    (exponent : Int) : Binary64 :=
  let carried := mantissa = 2 * leastMantissa
  let exponent := if carried then exponent + 1 else exponent
  if greatestExponent < exponent then .infinite negative
  else .finite negative (if carried then leastMantissa else mantissa) exponent

theorem ofRatio_eq
    (negative : Bool)
    {numerator denominator : Nat}
    (positive : 0 < numerator) :
    ofRatio negative numerator denominator =
      let exponent := max leastExponent (leadingExponent numerator denominator)
      let scaled := scaleRatio 2 (numerator, denominator) (-exponent)
      ofRounded negative (roundHalfEven scaled.1 scaled.2) exponent := by
  rw [ofRatio, if_neg positive.ne']
  rfl

private theorem leastMantissa_cast :
    (leastMantissa : ℚ) = 2 ^ (52 : Int) := by
  norm_num [leastMantissa]

private theorem leastMantissa_pos :
    (0 : ℚ) < leastMantissa := by
  rw [leastMantissa_cast]
  positivity

private theorem two_mul_zpow_sub_one
    (exponent : Int) :
    (2 : ℚ) * 2 ^ (exponent - 1) = 2 ^ exponent := by
  rw [mul_comm, ← zpow_add_one₀ two_ne_zero, sub_add_cancel]

/-- A positive integer lies between the powers of two around its logarithm. -/
private theorem log2_brackets
    {number : Nat}
    (positive : 0 < number) :
    (2 : ℚ) ^ (number.log2 : Int) ≤ number ∧ (number : ℚ) < 2 ^ ((number.log2 : Int) + 1) := by
  constructor
  · rw [zpow_natCast]
    exact_mod_cast Nat.log2_self_le positive.ne'
  · have below : number < 2 ^ (number.log2 + 1) := Nat.lt_log2_self
    have : (number : ℚ) < 2 ^ (number.log2 + 1) := by exact_mod_cast below
    rwa [← zpow_natCast, Nat.cast_succ] at this

/-- The logarithms tell the leading exponent up to one, as each of them is known up to one. -/
private theorem guess_brackets
    {numerator denominator : Nat}
    (positive : 0 < numerator)
    (positive' : 0 < denominator)
    {guess : Int}
    (isGuess : guess = (numerator.log2 : Int) - (denominator.log2 : Int) - 52) :
    2 ^ (51 : Int) * (2 : ℚ) ^ guess < ratioValue (numerator, denominator) ∧
      ratioValue (numerator, denominator) < 2 ^ (53 : Int) * (2 : ℚ) ^ guess := by
  have two : (2 : ℚ) ≠ 0 := two_ne_zero
  have divisor : (0 : ℚ) < denominator := Nat.cast_pos.mpr positive'
  have power : (0 : ℚ) < 2 ^ guess := by positivity
  rcases log2_brackets positive with ⟨reached, below⟩
  rcases log2_brackets positive' with ⟨reached', below'⟩
  constructor
  · rw [ratioValue, lt_div_iff₀ divisor]
    calc (2 : ℚ) ^ (51 : Int) * 2 ^ guess * denominator
        < 2 ^ (51 : Int) * 2 ^ guess * 2 ^ ((denominator.log2 : Int) + 1) := by gcongr
      _ = 2 ^ (numerator.log2 : Int) := by
          rw [← zpow_add₀ two, ← zpow_add₀ two]
          congr 1
          omega
      _ ≤ numerator := reached
  · rw [ratioValue, div_lt_iff₀ divisor]
    calc (numerator : ℚ) < 2 ^ ((numerator.log2 : Int) + 1) := below
      _ = 2 ^ (53 : Int) * 2 ^ guess * 2 ^ (denominator.log2 : Int) := by
          rw [← zpow_add₀ two, ← zpow_add₀ two]
          congr 1
          omega
      _ ≤ 2 ^ (53 : Int) * 2 ^ guess * denominator := by gcongr

/-- A ratio that is scaled down is compared with a mantissa by its value. -/
private theorem scaleRatio_lt_iff
    (ratio : Nat × Nat)
    (positive : 0 < ratio.2)
    (exponent : Int)
    (mantissa : Nat) :
    (scaleRatio 2 ratio (-exponent)).1 < (scaleRatio 2 ratio (-exponent)).2 * mantissa ↔
      ratioValue ratio < mantissa * (2 : ℚ) ^ exponent := by
  have scaledPositive : (0 : ℚ) < (scaleRatio 2 ratio (-exponent)).2 :=
    Nat.cast_pos.mpr (scaleRatio_positive (by decide) _ positive)
  have power : (0 : ℚ) < 2 ^ exponent := by positivity
  have scaled := ratioValue_scaleRatio_neg (by decide : 0 < 2) ratio exponent
  rw [Nat.cast_ofNat] at scaled
  rw [← Nat.cast_lt (α := ℚ), Nat.cast_mul, mul_comm, ← div_lt_iff₀ scaledPositive,
    ← div_lt_iff₀ power, ← scaled]
  rfl

/-- The leading exponent leaves a mantissa of 53 bits. -/
theorem leadingExponent_brackets
    {numerator denominator : Nat}
    (positive : 0 < numerator)
    (positive' : 0 < denominator) :
    leastMantissa * (2 : ℚ) ^ leadingExponent numerator denominator ≤
        ratioValue (numerator, denominator) ∧
      ratioValue (numerator, denominator) <
        2 * leastMantissa * (2 : ℚ) ^ leadingExponent numerator denominator := by
  rcases guess_brackets positive positive' rfl with ⟨least, greatest⟩
  rw [leadingExponent]
  generalize (numerator.log2 : Int) - (denominator.log2 : Int) - 52 = guess at least greatest ⊢
  have compared := scaleRatio_lt_iff (numerator, denominator) positive' guess leastMantissa
  have previous := two_mul_zpow_sub_one guess
  rw [leastMantissa_cast] at compared ⊢
  norm_num only at least greatest compared ⊢
  split
  · rename_i few
    have := compared.mp few
    constructor <;> linarith
  · rename_i enough
    have := not_lt.mp (compared.not.mp enough)
    constructor <;> linarith

/-- Only one power of two leaves a mantissa of 53 bits. -/
private theorem eq_leadingExponent
    {numerator denominator : Nat}
    (positive : 0 < numerator)
    (positive' : 0 < denominator)
    {exponent : Int}
    (reached : leastMantissa * (2 : ℚ) ^ exponent ≤ ratioValue (numerator, denominator))
    (below : ratioValue (numerator, denominator) < 2 * leastMantissa * (2 : ℚ) ^ exponent) :
    leadingExponent numerator denominator = exponent := by
  rcases leadingExponent_brackets positive positive' with ⟨leadingReached, leadingBelow⟩
  have order : ∀ {low high : Int},
      leastMantissa * (2 : ℚ) ^ low < 2 * leastMantissa * (2 : ℚ) ^ high → low < high + 1 := by
    intro low high less
    rw [mul_comm 2 (leastMantissa : ℚ), mul_assoc, mul_lt_mul_iff_right₀ leastMantissa_pos,
      mul_comm,
      ← zpow_add_one₀ two_ne_zero] at less
    exact (zpow_lt_zpow_iff_right₀ one_lt_two).mp less
  have := order (leadingReached.trans_lt below)
  have := order (reached.trans_lt leadingBelow)
  omega

/-- Equal ratios are rounded to the same number. -/
theorem ofRatio_congr
    (negative : Bool)
    {ratio ratio' : Nat × Nat}
    (numeratorPositive : 0 < ratio.1)
    (denominatorPositive : 0 < ratio.2)
    (numeratorPositive' : 0 < ratio'.1)
    (denominatorPositive' : 0 < ratio'.2)
    (equal : ratio.1 * ratio'.2 = ratio'.1 * ratio.2) :
    ofRatio negative ratio.1 ratio.2 = ofRatio negative ratio'.1 ratio'.2 := by
  have sameValue := (ratioValue_eq_iff denominatorPositive denominatorPositive').mpr equal
  have sameExponent : leadingExponent ratio.1 ratio.2 = leadingExponent ratio'.1 ratio'.2 := by
    rcases leadingExponent_brackets numeratorPositive' denominatorPositive' with ⟨reached, below⟩
    refine eq_leadingExponent numeratorPositive denominatorPositive ?_ ?_
    · exact reached.trans_eq sameValue.symm
    · exact sameValue.trans_lt below
  rw [ofRatio_eq negative numeratorPositive, ofRatio_eq negative numeratorPositive', sameExponent]
  dsimp only
  congr 1
  exact roundHalfEven_congr (scaleRatio_positive (by decide) _ denominatorPositive)
    (scaleRatio_positive (by decide) _ denominatorPositive') (scaleRatio_congr 2 _ equal)

/-! ## The form of a number -/

/--
The form in which rounding gives a number: the exponent is within its bounds, and the mantissa has
53 bits or, at the least exponent, fewer.
-/
def IsReduced : Binary64 → Prop
  | finite _ mantissa exponent =>
    mantissa < 2 * leastMantissa ∧ leastExponent ≤ exponent ∧ exponent ≤ greatestExponent ∧
      (leastExponent < exponent → leastMantissa ≤ mantissa)
  | infinite _ => True
  | undefined => True

theorem isReduced_zero
    (negative : Bool) :
    (finite negative 0 leastExponent).IsReduced :=
  ⟨by decide, le_rfl, by decide, fun less => absurd less (lt_irrefl _)⟩

private theorem isReduced_ofRounded
    (negative : Bool)
    {mantissa : Nat}
    {exponent : Int}
    (fits : mantissa ≤ 2 * leastMantissa)
    (least : leastExponent ≤ exponent)
    (full : leastExponent < exponent → leastMantissa ≤ mantissa) :
    (ofRounded negative mantissa exponent).IsReduced := by
  unfold ofRounded
  dsimp only
  by_cases carried : mantissa = 2 * leastMantissa
  · simp only [if_pos carried]
    split
    · trivial
    · rename_i within
      exact ⟨by decide, by omega, not_lt.mp within, fun _ => le_rfl⟩
  · simp only [if_neg carried]
    split
    · trivial
    · rename_i within
      exact ⟨lt_of_le_of_ne fits carried, least, not_lt.mp within, full⟩

/-- Rounding gives numbers in their form. -/
theorem isReduced_ofRatio
    (negative : Bool)
    (numerator : Nat)
    {denominator : Nat}
    (positive : 0 < denominator) :
    (ofRatio negative numerator denominator).IsReduced := by
  rcases Nat.eq_zero_or_pos numerator with rfl | numeratorPositive
  · exact isReduced_zero negative
  rcases leadingExponent_brackets numeratorPositive positive with ⟨reached, below⟩
  rw [ofRatio_eq negative numeratorPositive]
  dsimp only
  generalize leadingExponent numerator denominator = leading at reached below
  have mantissa := leastMantissa_pos
  have scaledPositive := scaleRatio_positive (by decide : 0 < 2) (-max leastExponent leading)
    (show 0 < (numerator, denominator).2 from positive)
  have scaled := ratioValue_scaleRatio_neg (by decide : 0 < 2) (numerator, denominator)
    (max leastExponent leading)
  rw [Nat.cast_ofNat] at scaled
  have power : (0 : ℚ) < 2 ^ max leastExponent leading := by positivity
  have atMost : roundHalfEven (scaleRatio 2 (numerator, denominator)
      (-max leastExponent leading)).1 (scaleRatio 2 (numerator, denominator)
        (-max leastExponent leading)).2 ≤ 2 * leastMantissa := by
    refine (roundHalfEven_bounds 0 (2 * leastMantissa) scaledPositive ?_ ?_).2
    · rw [Nat.cast_zero]
      positivity
    · change ratioValue _ < _
      rw [scaled, div_lt_iff₀ power, Nat.cast_mul, Nat.cast_ofNat]
      refine below.trans_le ?_
      gcongr
      · exact one_le_two
      · exact le_max_right _ _
  refine isReduced_ofRounded negative atMost (le_max_left _ _) fun above => ?_
  have isLeading : max leastExponent leading = leading :=
    max_eq_right ((lt_max_iff.mp above).resolve_left (lt_irrefl _)).le
  rw [isLeading] at scaled scaledPositive power ⊢
  refine (roundHalfEven_bounds leastMantissa (2 * leastMantissa) scaledPositive ?_ ?_).1
  · change _ ≤ ratioValue _
    rwa [scaled, le_div_iff₀ power]
  · change ratioValue _ < _
    rwa [scaled, div_lt_iff₀ power, Nat.cast_mul, Nat.cast_ofNat]

/-! ## The number nearest to a ratio -/

/-- The value of a mantissa and an exponent. -/
theorem ratioValue_magnitude
    (mantissa : Nat)
    (exponent : Int) :
    ratioValue (magnitude mantissa exponent) = mantissa * (2 : ℚ) ^ exponent := by
  rw [magnitude, ratioValue_scaleRatio (by decide), ratioValue, Nat.cast_one, div_one,
    Nat.cast_ofNat]

/-- A ratio that is less than a half of the last place away from a mantissa is rounded to it. -/
private theorem roundHalfEven_scaled
    {numerator denominator mantissa : Nat}
    {exponent : Int}
    (positive : 0 < denominator)
    (near : |ratioValue (numerator, denominator) - mantissa * (2 : ℚ) ^ exponent| <
      1 / 2 * 2 ^ exponent) :
    roundHalfEven (scaleRatio 2 (numerator, denominator) (-exponent)).1
      (scaleRatio 2 (numerator, denominator) (-exponent)).2 = mantissa := by
  have power : (0 : ℚ) < 2 ^ exponent := by positivity
  refine roundHalfEven_eq_of_near (scaleRatio_positive (by decide) _ positive) ?_
  change |ratioValue _ - _| < _
  rw [ratioValue_scaleRatio_neg (by decide), Nat.cast_ofNat]
  have factored : ratioValue (numerator, denominator) / 2 ^ exponent - mantissa =
      (ratioValue (numerator, denominator) - mantissa * 2 ^ exponent) / 2 ^ exponent := by
    rw [sub_div, mul_div_assoc, div_self power.ne', mul_one]
  rw [factored, abs_div, abs_of_pos power, div_lt_iff₀ power]
  exact near

/-- A ratio that is near to a number is rounded to it where both have one exponent. -/
private theorem ofRatio_eq_of_exponent
    {negative : Bool}
    {numerator denominator mantissa : Nat}
    {exponent : Int}
    (reduced : (finite negative mantissa exponent).IsReduced)
    (numeratorPositive : 0 < numerator)
    (positive : 0 < denominator)
    (near : |ratioValue (numerator, denominator) - mantissa * (2 : ℚ) ^ exponent| <
      1 / 2 * 2 ^ exponent)
    (sameExponent : max leastExponent (leadingExponent numerator denominator) = exponent) :
    ofRatio negative numerator denominator = finite negative mantissa exponent := by
  rcases reduced with ⟨fits, _, greatest, _⟩
  rw [ofRatio_eq negative numeratorPositive]
  dsimp only
  rw [sameExponent, roundHalfEven_scaled positive near, ofRounded]
  simp [fits.ne, not_lt.mpr greatest]

/--
A ratio that is near to the least full mantissa, but less, is rounded up to it from the finer places
of the exponent below.
-/
private theorem ofRatio_eq_of_below
    {negative : Bool}
    {numerator denominator : Nat}
    {exponent : Int}
    (numeratorPositive : 0 < numerator)
    (positive : 0 < denominator)
    (aboveLeast : leastExponent < exponent)
    (greatest : exponent ≤ greatestExponent)
    (near : |ratioValue (numerator, denominator) - leastMantissa * (2 : ℚ) ^ exponent| <
      1 / 4 * 2 ^ exponent)
    (below : ratioValue (numerator, denominator) < leastMantissa * (2 : ℚ) ^ exponent) :
    ofRatio negative numerator denominator = finite negative leastMantissa exponent := by
  have halved := two_mul_zpow_sub_one exponent
  have power : (0 : ℚ) < 2 ^ exponent := by positivity
  have leading : leadingExponent numerator denominator = exponent - 1 := by
    refine eq_leadingExponent numeratorPositive positive ?_ ?_
    · have full : (1 : ℚ) ≤ leastMantissa := by exact_mod_cast (by decide : 1 ≤ leastMantissa)
      have := (abs_lt.mp near).1
      nlinarith
    · rwa [mul_comm 2 (leastMantissa : ℚ), mul_assoc, halved]
  have sameExponent : max leastExponent (leadingExponent numerator denominator) =
      exponent - 1 := by omega
  have carried : roundHalfEven (scaleRatio 2 (numerator, denominator) (-(exponent - 1))).1
      (scaleRatio 2 (numerator, denominator) (-(exponent - 1))).2 = 2 * leastMantissa := by
    refine roundHalfEven_scaled positive ?_
    rw [Nat.cast_mul, Nat.cast_ofNat, mul_comm 2 (leastMantissa : ℚ), mul_assoc, halved]
    refine near.trans_eq ?_
    rw [← halved]
    ring
  rw [ofRatio_eq negative numeratorPositive]
  dsimp only
  rw [sameExponent, carried, ofRounded]
  simp [not_lt.mpr greatest]

/--
A ratio that is nearer to a number than half of its last place, or than a quarter of it below the
least full mantissa, is rounded to the number.
-/
theorem ofRatio_eq_of_near
    {negative : Bool}
    {numerator denominator mantissa : Nat}
    {exponent : Int}
    (reduced : (finite negative mantissa exponent).IsReduced)
    (some : 0 < mantissa)
    (positive : 0 < denominator)
    (near : |ratioValue (numerator, denominator) - mantissa * (2 : ℚ) ^ exponent| <
      1 / 2 * 2 ^ exponent)
    (nearer : mantissa = leastMantissa →
      |ratioValue (numerator, denominator) - mantissa * (2 : ℚ) ^ exponent| <
        1 / 4 * 2 ^ exponent) :
    ofRatio negative numerator denominator = finite negative mantissa exponent := by
  have power : (0 : ℚ) < 2 ^ exponent := by positivity
  have someCast : (1 : ℚ) ≤ mantissa := by exact_mod_cast some
  rcases abs_lt.mp near with ⟨above, below⟩
  have numeratorPositive : 0 < numerator := by
    by_contra! none
    obtain rfl : numerator = 0 := Nat.le_zero.mp none
    rw [ratioValue, Nat.cast_zero, zero_div] at above
    nlinarith
  have sameExponent := ofRatio_eq_of_exponent reduced numeratorPositive positive near
  rcases reduced with ⟨fits, least, greatest, full⟩
  by_cases reached : leastMantissa * (2 : ℚ) ^ exponent ≤ ratioValue (numerator, denominator)
  · have fitsCast : (mantissa : ℚ) + 1 ≤ 2 * leastMantissa := by exact_mod_cast fits
    have leading : leadingExponent numerator denominator = exponent := by
      refine eq_leadingExponent numeratorPositive positive reached ?_
      nlinarith
    exact sameExponent (by omega)
  · rw [not_le] at reached
    have leadingBelow : leadingExponent numerator denominator < exponent := by
      have brackets := (leadingExponent_brackets numeratorPositive positive).1.trans_lt reached
      rw [mul_lt_mul_iff_right₀ leastMantissa_pos] at brackets
      exact (zpow_lt_zpow_iff_right₀ one_lt_two).mp brackets
    rcases least.eq_or_lt with atLeast | aboveLeast
    · exact sameExponent (by omega)
    · have isLeast : mantissa = leastMantissa := by
        refine le_antisymm ?_ (full aboveLeast)
        have : (mantissa : ℚ) < leastMantissa + 1 := by nlinarith
        exact Nat.lt_succ_iff.mp (by exact_mod_cast this)
      have quarter := nearer isLeast
      rw [isLeast] at quarter ⊢
      exact ofRatio_eq_of_below numeratorPositive positive aboveLeast greatest quarter reached

end Binary64

end SchemaDelta.Decimal
