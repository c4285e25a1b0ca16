import SchemaDelta.Decimal.Binary64

/-!
# Decimal spelling

A number is written from its decimal digits, either with a point at its place or with a power of
ten.  Two ways of choosing the digits are given: a fixed count of significant digits, and the fewest
digits that read back as the same number.
-/

namespace SchemaDelta.Decimal

/-- The number `digits * 10 ^ scale`. -/
structure Digits where
  digits : Nat
  scale : Int

/-- The power of ten of the first digit of a positive ratio. -/
def leadingPower
    (ratio : Nat × Nat) : Int :=
  if ratio.2 ≤ ratio.1 then ((Nat.toDigits 10 (ratio.1 / ratio.2)).length : Int) - 1
  else
    let places := (Nat.toDigits 10 ratio.2).length - (Nat.toDigits 10 ratio.1).length
    if ratio.2 ≤ ratio.1 * Nat.pow 10 places then -(places : Int) else -(places : Int) - 1

/-- A positive ratio rounded to a count of significant digits. -/
def Digits.rounded
    (count : Nat)
    (ratio : Nat × Nat) : Digits :=
  let scale := leadingPower ratio + 1 - count
  let scaled := scaleRatio 10 ratio (-scale)
  ⟨roundHalfEven scaled.1 scaled.2, scale⟩

/--
The multiple of the last place that reads back as the number, the nearer one if both neighbours of
the number do.
-/
def Digits.readingBack?
    (negative : Bool)
    (number : Binary64)
    (ratio : Nat × Nat)
    (count : Nat) : Option Digits :=
  let scale := leadingPower ratio + 1 - count
  let scaled := scaleRatio 10 ratio (-scale)
  let below := scaled.1 / scaled.2
  let nearest := roundHalfEven scaled.1 scaled.2
  let other := if nearest = below then below + 1 else below
  let readsBack (digits : Nat) : Bool := Binary64.ofDecimal negative digits scale = number
  if readsBack nearest then some ⟨nearest, scale⟩
  else if readsBack other then some ⟨other, scale⟩
  else none

/-- The fewest digits that read back as the number; seventeen always do. -/
def Digits.shortest
    (negative : Bool)
    (number : Binary64)
    (ratio : Nat × Nat) : Digits :=
  ((List.range 17).findSome? fun places =>
    Digits.readingBack? negative number ratio (places + 1)).getD (Digits.rounded 17 ratio)

/-- How a number is spelled once its digits are chosen. -/
structure Style where
  /-- Powers of ten from here on are written out as such. -/
  positionalBelow : Int
  /-- What follows a number without decimal places. -/
  wholeEnding : String
  infinity : String
  undefined : String

/-- The exponent part: a sign and at least two digits. -/
def exponentText
    (power : Int) : String :=
  let digits := toString power.natAbs
  (if power < 0 then "e-" else "e+") ++ (if digits.length < 2 then "0" ++ digits else digits)

/-- Digits in a style, with the zeros at the end of the digits dropped. -/
def Style.spell
    (style : Style)
    (number : Digits) : String :=
  let all := Nat.toDigits 10 number.digits
  let power : Int := number.scale + all.length - 1
  let kept := (all.reverse.dropWhile (· == '0')).reverse
  if number.digits = 0 then "0" ++ style.wholeEnding
  else if power < -4 || style.positionalBelow ≤ power then
    let tail := kept.drop 1
    String.ofList (kept.take 1) ++ (if tail.isEmpty then "" else "." ++ String.ofList tail) ++
      exponentText power
  else if power < 0 then
    "0." ++ String.ofList (List.replicate (power.natAbs - 1) '0' ++ kept)
  else
    let whole := power.toNat + 1
    if kept.length ≤ whole then
      String.ofList (kept ++ List.replicate (whole - kept.length) '0') ++ style.wholeEnding
    else String.ofList (kept.take whole) ++ "." ++ String.ofList (kept.drop whole)

/-- A number in a style, its digits chosen by `choose` from the magnitude. -/
def Style.write
    (style : Style)
    (choose : Bool → Binary64 → Nat × Nat → Digits) : Binary64 → String
  | .undefined => style.undefined
  | .infinite negative => (if negative then "-" else "") ++ style.infinity
  | .finite negative mantissa exponent =>
    let sign := if negative then "-" else ""
    if mantissa = 0 then sign ++ "0" ++ style.wholeEnding
    else
      sign ++ style.spell
        (choose negative (.finite negative mantissa exponent)
          (Binary64.magnitude mantissa exponent))

/-- A number with the fewest digits that read back. -/
def Style.writeShortest
    (style : Style)
    (number : Binary64) : String :=
  style.write Digits.shortest number

/-- A number with a count of significant digits. -/
def Style.writeRounded
    (style : Style)
    (count : Nat)
    (number : Binary64) : String :=
  style.write (fun _ _ ratio => Digits.rounded count ratio) number

end SchemaDelta.Decimal
