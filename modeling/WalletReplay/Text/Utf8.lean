/-!
# Reading bytes as text

Bytes are read as UTF-8. Where they are not, the longest piece that could have begun a character is
read as one replacement character, and so is a byte that could not have begun any.
-/

namespace WalletReplay.Text.Utf8

/-- What stands in for bytes that are no character. -/
def replacement : Char := '\uFFFD'

/-- A character that has begun: what is known of its code point, how many bytes are to come, and the
range that the next one must be in. -/
structure Partial where
  /-- The bits of the code point so far. -/
  bits : Nat
  /-- How many bytes are to come after the next. -/
  more : Nat
  /-- The least next byte. -/
  low : Nat
  /-- The greatest next byte. -/
  high : Nat

/-- What a byte that stands first gives: characters, or a character that has begun. -/
def first (b : Nat) : List Char × Option Partial :=
  if b < 0x80 then ([Char.ofNat b], none)
  else if 0xC2 ≤ b ∧ b ≤ 0xDF then ([], some ⟨b - 0xC0, 0, 0x80, 0xBF⟩)
  else if 0xE0 ≤ b ∧ b ≤ 0xEF then
    ([], some ⟨b - 0xE0, 1, if b = 0xE0 then 0xA0 else 0x80, if b = 0xED then 0x9F else 0xBF⟩)
  else if 0xF0 ≤ b ∧ b ≤ 0xF4 then
    ([], some ⟨b - 0xF0, 2, if b = 0xF0 then 0x90 else 0x80, if b = 0xF4 then 0x8F else 0xBF⟩)
  else ([replacement], none)

/-- What a byte gives after what came before it. -/
def next : Option Partial → Nat → List Char × Option Partial
  | none, b => first b
  | some p, b =>
    if p.low ≤ b ∧ b ≤ p.high then
      let bits := 64 * p.bits + (b - 0x80)
      match p.more with
      | 0 => ([Char.ofNat bits], none)
      | more + 1 => ([], some ⟨bits, more, 0x80, 0xBF⟩)
    else
      let (cs, begun) := first b
      (replacement :: cs, begun)

/-- The text of bytes that come after what came before them. -/
def decodeFrom (begun : Option Partial) : List UInt8 → List Char
  | [] => if begun.isSome then [replacement] else []
  | b :: bs =>
    let (cs, begun) := next begun b.toNat
    cs ++ decodeFrom begun bs

/-- The text of bytes. -/
def decode (bs : List UInt8) : List Char :=
  decodeFrom none bs

end WalletReplay.Text.Utf8
