/-!
# Binary floating point numbers

Numbers with 53 significant bits, kept exactly as a mantissa and a power of two.  Every ratio has a
nearest such number; of two equally near ones the even mantissa is taken.
-/

namespace SchemaDelta.Decimal

/-- The integer nearest to a quotient; a half goes to the even neighbour. -/
def roundHalfEven
    (numerator denominator : Nat) : Nat :=
  let quotient := numerator / denominator
  let twice := 2 * (numerator % denominator)
  if twice < denominator then quotient
  else if denominator < twice then quotient + 1
  else if quotient % 2 = 0 then quotient
  else quotient + 1

/-- A ratio multiplied by a power of the base, as a ratio again. -/
def scaleRatio
    (base : Nat)
    (ratio : Nat × Nat)
    (power : Int) : Nat × Nat :=
  if power < 0 then (ratio.1, ratio.2 * Nat.pow base power.natAbs)
  else (ratio.1 * Nat.pow base power.natAbs, ratio.2)

/-- A number with 53 significant bits, an infinity, or the undefined number. -/
inductive Binary64 where
  | finite (negative : Bool) (mantissa : Nat) (exponent : Int)
  | infinite (negative : Bool)
  | undefined
deriving DecidableEq

namespace Binary64

/-- The least exponent of a finite number. -/
def leastExponent : Int := -1074

/-- The greatest exponent of a finite number. -/
def greatestExponent : Int := 971

/-- The least mantissa with 53 significant bits. -/
def leastMantissa : Nat := Nat.pow 2 52

/-- The number nearest to a ratio. -/
def ofRatio
    (negative : Bool)
    (numerator denominator : Nat) : Binary64 :=
  if numerator = 0 then .finite negative 0 leastExponent
  else
    let guess : Int := (numerator.log2 : Int) - (denominator.log2 : Int) - 52
    let guessed := scaleRatio 2 (numerator, denominator) (-guess)
    let exponent :=
      max leastExponent (if guessed.1 < guessed.2 * leastMantissa then guess - 1 else guess)
    let scaled := scaleRatio 2 (numerator, denominator) (-exponent)
    let mantissa := roundHalfEven scaled.1 scaled.2
    let carried := mantissa = 2 * leastMantissa
    let exponent := if carried then exponent + 1 else exponent
    if greatestExponent < exponent then .infinite negative
    else .finite negative (if carried then leastMantissa else mantissa) exponent

/-- The number nearest to an integer. -/
def ofInt
    (value : Int) : Binary64 :=
  ofRatio (value < 0) value.natAbs 1

/--
The number nearest to `digits * 10 ^ scale`.  Beyond 400 places the answer is known without forming
the power.
-/
def ofDecimal
    (negative : Bool)
    (digits : Nat)
    (scale : Int) : Binary64 :=
  let magnitude : Int := (Nat.toDigits 10 digits).length + scale
  if digits = 0 then .finite negative 0 leastExponent
  else if 400 < magnitude then .infinite negative
  else if magnitude < -400 then .finite negative 0 leastExponent
  else
    let ratio := scaleRatio 10 (digits, 1) scale
    ofRatio negative ratio.1 ratio.2

/-- The magnitude of a finite number as a ratio. -/
def magnitude
    (mantissa : Nat)
    (exponent : Int) : Nat × Nat :=
  scaleRatio 2 (mantissa, 1) exponent

/-- Equality of value: the two zeros are equal and the undefined number differs from itself. -/
def equal : Binary64 → Binary64 → Bool
  | finite negative mantissa exponent, finite negative' mantissa' exponent' =>
    if mantissa = 0 && mantissa' = 0 then true
    else
      let left := magnitude mantissa exponent
      let right := magnitude mantissa' exponent'
      negative == negative' && left.1 * right.2 == right.1 * left.2
  | infinite negative, infinite negative' => negative == negative'
  | _, _ => false

/-- Equality of value with an integer, without rounding the integer. -/
def equalInt : Binary64 → Int → Bool
  | finite negative mantissa exponent, value =>
    let ratio := magnitude mantissa exponent
    ratio.1 == value.natAbs * ratio.2 && (value = 0 || decide (value < 0) == negative)
  | _, _ => false

/-- The value of a finite number as a ratio with a sign. -/
def signedRatio
    (negative : Bool)
    (mantissa : Nat)
    (exponent : Int) : Int × Nat :=
  let ratio := magnitude mantissa exponent
  (if negative then -(ratio.1 : Int) else ratio.1, ratio.2)

/-- Less than another number; the undefined number is neither less nor greater than any. -/
def below : Binary64 → Binary64 → Bool
  | finite negative mantissa exponent, finite negative' mantissa' exponent' =>
    let left := signedRatio negative mantissa exponent
    let right := signedRatio negative' mantissa' exponent'
    left.1 * right.2 < right.1 * left.2
  | finite _ _ _, infinite negative => !negative
  | infinite negative, finite _ _ _ => negative
  | infinite negative, infinite negative' => negative && !negative'
  | undefined, _ => false
  | _, undefined => false

/-- Less than an integer, without rounding the integer. -/
def belowInt : Binary64 → Int → Bool
  | finite negative mantissa exponent, value =>
    let ratio := signedRatio negative mantissa exponent
    ratio.1 < value * ratio.2
  | infinite negative, _ => negative
  | undefined, _ => false

/-- Greater than an integer, without rounding the integer. -/
def exceedsInt : Binary64 → Int → Bool
  | finite negative mantissa exponent, value =>
    let ratio := signedRatio negative mantissa exponent
    value * ratio.2 < ratio.1
  | infinite negative, _ => !negative
  | undefined, _ => false

end Binary64

end SchemaDelta.Decimal
