import WalletReplay.Number.Binary64

/-!
# The shortest decimal of a number

A number is written with the fewest decimal digits that read back to it, and of those with the ones
nearest to it, the greater in size if two are. All decimals that are nearer to the number than to
its neighbours in the format read back to it, and those half-way do so if the mantissa is even.

No exponent is written: zeros stand in for it.
-/

namespace WalletReplay.Binary64

/-- A decimal `digits * 10 ^ exponent`. -/
structure Decimal where
  /-- The digits, as a number. -/
  digits : Nat
  /-- The power of ten. -/
  exponent : Int

/-- Compares a decimal with a multiple of a power of two. -/
def compareDecimal (d : Decimal) (multiple : Nat) (exponent : Int) : Ordering :=
  let left := scaleRatio 10 d.exponent (d.digits, 1)
  let right := scaleRatio 2 exponent (multiple, 1)
  compare (left.1 * right.2) (right.1 * left.2)

/-- The ends of the decimals that read back to a number, as multiples of a quarter of its unit. -/
def roundingEnds (mantissa : Nat) (exponent : Int) : Nat × Nat :=
  if mantissa = mantissaLimit / 2 ∧ minExponent < exponent then (4 * mantissa - 1, 4 * mantissa + 2)
  else (4 * mantissa - 2, 4 * mantissa + 2)

/-- Whether a decimal reads back to a number. -/
def readsBack (d : Decimal) (mantissa : Nat) (exponent : Int) : Bool :=
  let ends := roundingEnds mantissa exponent
  let low := compareDecimal d ends.1 (exponent - 2)
  let high := compareDecimal d ends.2 (exponent - 2)
  let even : Bool := mantissa % 2 = 0
  (low == .gt || (low == .eq && even)) && (high == .lt || (high == .eq && even))

/-- How many digits a number has before the point; zero or less if it is below one tenth or so. -/
def integerDigits (mantissa : Nat) (exponent : Int) : Int :=
  let ratio := scaleRatio 2 exponent (mantissa, 1)
  let guess : Int := floorLog2 ratio * 30103 / 100000
  let reaches (n : Int) : Bool :=
    let scaled := scaleRatio 10 (-n) ratio
    scaled.2 ≤ scaled.1
  if reaches (guess + 1) then guess + 2 else if reaches guess then guess + 1 else guess

/-- Of the two decimals next to a number on a grid, the nearer of those that read back to it. -/
def onGrid? (mantissa : Nat) (exponent grid : Int) : Option Decimal :=
  let ratio := scaleRatio 10 (-grid) (scaleRatio 2 exponent (mantissa, 1))
  let below : Decimal := ⟨ratio.1 / ratio.2, grid⟩
  let above : Decimal := ⟨ratio.1 / ratio.2 + 1, grid⟩
  let rest := ratio.1 % ratio.2
  match readsBack below mantissa exponent, readsBack above mantissa exponent with
  | true, true => if 2 * rest < ratio.2 then some below else some above
  | true, false => some below
  | false, true => some above
  | false, false => none

/-- The shortest decimal that reads back to a number that is not zero. The coarsest grid has but one
digit, which stands before the first of the number; with it, eighteen grids suffice. -/
def shortest (mantissa : Nat) (exponent : Int) : Decimal :=
  let places := integerDigits mantissa exponent
  ((List.range 18).findSome? fun (k : Nat) =>
    onGrid? mantissa exponent (places - k)).getD ⟨0, 0⟩

/-- A decimal without an exponent. -/
def Decimal.text (d : Decimal) : List Char :=
  let digits := Nat.toDigits 10 d.digits
  match d.exponent with
  | .ofNat zeros => digits ++ List.replicate zeros '0'
  | .negSucc n =>
    let places := n + 1
    if places < digits.length then
      digits.take (digits.length - places) ++ '.' :: digits.drop (digits.length - places)
    else ['0', '.'] ++ List.replicate (places - digits.length) '0' ++ digits

/-- A number in decimal. -/
def text : Binary64 → List Char
  | .nan => "NaN".toList
  | .infinite negative => (if negative then ['-'] else []) ++ "inf".toList
  | .finite negative mantissa exponent =>
    (if negative then ['-'] else []) ++
      if mantissa = 0 then ['0'] else (shortest mantissa exponent).text

end WalletReplay.Binary64
