/-!
# Binary floating-point numbers

A number of the format binary64 is a natural number below 2⁵³ times a power of two, with a sign, or
an infinity, or no number at all. Numbers are read from ratios, which are rounded to the nearest
number of the format, a tie to the even one.
-/

namespace WalletReplay

/-- A number of the format binary64. -/
inductive Binary64 where
  /-- No number. -/
  | nan
  /-- An infinity. -/
  | infinite (negative : Bool)
  /-- The number `mantissa * 2 ^ exponent` with a sign. -/
  | finite (negative : Bool) (mantissa : Nat) (exponent : Int)
  deriving DecidableEq, Repr

/-- A ratio of natural numbers, scaled by a power. -/
def scaleRatio (base : Nat) (exponent : Int) (ratio : Nat × Nat) : Nat × Nat :=
  (ratio.1 * Nat.pow base exponent.toNat, ratio.2 * Nat.pow base (-exponent).toNat)

/-- A ratio rounded to the nearest natural number, a tie to the even one. -/
def roundHalfEven (ratio : Nat × Nat) : Nat :=
  let whole := ratio.1 / ratio.2
  let rest := ratio.1 % ratio.2
  if 2 * rest < ratio.2 then whole
  else if ratio.2 < 2 * rest then whole + 1
  else if whole % 2 = 0 then whole
  else whole + 1

/-- The greatest integer whose power of two is not above a positive ratio. -/
def floorLog2 (ratio : Nat × Nat) : Int :=
  let guess : Int := (Nat.log2 ratio.1 : Int) - Nat.log2 ratio.2
  let scaled := scaleRatio 2 (-guess) ratio
  if scaled.1 < scaled.2 then guess - 1 else guess

namespace Binary64

/-- The least exponent of a mantissa. -/
def minExponent : Int := -1074

/-- The greatest exponent of a mantissa. -/
def maxExponent : Int := 971

/-- Mantissas are below this, which is two to the power of 53. -/
def mantissaLimit : Nat := 9007199254740992

/-- Zero. -/
def zero (negative : Bool) : Binary64 :=
  .finite negative 0 minExponent

/-- The number nearest to a ratio. -/
def ofRatio (negative : Bool) (ratio : Nat × Nat) : Binary64 :=
  if ratio.1 = 0 then zero negative
  else
    let exponent := max (floorLog2 ratio - 52) minExponent
    let mantissa := roundHalfEven (scaleRatio 2 (-exponent) ratio)
    let (mantissa, exponent) :=
      if mantissa = mantissaLimit then (mantissaLimit / 2, exponent + 1) else (mantissa, exponent)
    if maxExponent < exponent then .infinite negative else .finite negative mantissa exponent

/-- The number nearest to `digits * 10 ^ exponent`. Exponents far outside the format's range are not
computed with. -/
def ofDecimal (negative : Bool) (digits : Nat) (exponent : Int) : Binary64 :=
  let magnitude : Int := exponent + (Nat.toDigits 10 digits).length
  if digits = 0 ∨ magnitude < -330 then zero negative
  else if 310 < magnitude then .infinite negative
  else ofRatio negative (scaleRatio 10 exponent (digits, 1))

/-- The natural number nearest to a number, a half going up. What is negative or no number counts as
zero, and an infinity has none. -/
def round? : Binary64 → Option Nat
  | .nan => some 0
  | .infinite negative => if negative then some 0 else none
  | .finite negative mantissa exponent =>
    if negative then some 0
    else
      let ratio := scaleRatio 2 exponent (mantissa, 1)
      some ((2 * ratio.1 + ratio.2) / (2 * ratio.2))

end Binary64

end WalletReplay
