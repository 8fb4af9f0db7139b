import WalletReplay.Number.Binary64
import WalletReplay.Text.Decimal

/-!
# Reading a number with a fraction

A number is an optional sign followed by digits, with an optional point before, between or after
them, and an optional exponent behind `e`; or one of the words for infinity and for no number. Upper
and lower case are the same.
-/

namespace WalletReplay.Binary64

/-- The digits that a text begins with, and the rest. -/
def spanDigits (cs : List Char) : List Char × List Char :=
  (cs.takeWhile Char.isDigit, cs.dropWhile Char.isDigit)

/-- The digits after a point, if there is a point, and the rest. -/
def fraction : List Char → List Char × List Char
  | '.' :: cs => spanDigits cs
  | cs => ([], cs)

/-- The exponent that a text consists of, if it is one or empty. -/
def exponent? : List Char → Option Int
  | [] => some 0
  | c :: cs => if c = 'e' ∨ c = 'E' then Text.Decimal.signed? cs else none

/-- A number without sign, as digits and a power of ten. -/
def unsignedDecimal? (cs : List Char) : Option (Nat × Int) :=
  let (whole, rest) := spanDigits cs
  let (places, rest) := fraction rest
  if whole = [] ∧ places = [] then none
  else
    match exponent? rest with
    | none => none
    | some e => some (Nat.ofDigitChars 10 (whole ++ places) 0, e - places.length)

/-- A number without sign. -/
def readUnsigned? (negative : Bool) (cs : List Char) : Option Binary64 :=
  let word := cs.map Char.toLower
  if word = "inf".toList ∨ word = "infinity".toList then some (.infinite negative)
  else if word = "nan".toList then some .nan
  else (unsignedDecimal? cs).map fun d => ofDecimal negative d.1 d.2

/-- A number. -/
def read? : List Char → Option Binary64
  | '+' :: cs => readUnsigned? false cs
  | '-' :: cs => readUnsigned? true cs
  | cs => readUnsigned? false cs

end WalletReplay.Binary64
