/-!
# Bytes in hexadecimal

Two digits for each byte, the high half first. Digits of either case are read; lower case is
written.
-/

namespace WalletReplay.Text.Hex

/-- The value of a hexadecimal digit of either case. -/
def digit? (c : Char) : Option Nat :=
  if '0' ≤ c ∧ c ≤ '9' then some (c.toNat - '0'.toNat)
  else if 'a' ≤ c ∧ c ≤ 'f' then some (c.toNat - 'a'.toNat + 10)
  else if 'A' ≤ c ∧ c ≤ 'F' then some (c.toNat - 'A'.toNat + 10)
  else none

/-- The lower-case digit of a value below 16. -/
def digit (n : Nat) : Char :=
  if n < 10 then Char.ofNat ('0'.toNat + n) else Char.ofNat ('a'.toNat + (n - 10))

/-- The bytes that an even number of digits denote. -/
def decode : List Char → Option (List UInt8)
  | [] => some []
  | [_] => none
  | a :: b :: cs => do
    let high ← digit? a
    let low ← digit? b
    let rest ← decode cs
    return UInt8.ofNat (16 * high + low) :: rest

/-- The digits of a sequence of bytes. -/
def encode (bs : List UInt8) : List Char :=
  bs.flatMap fun b => [digit (b.toNat / 16), digit (b.toNat % 16)]

/-- A written digit reads back. -/
theorem digit?_digit : ∀ n < 16, digit? (digit n) = some n := by
  decide

/-- Written bytes read back. -/
theorem decode_encode (bs : List UInt8) : decode (encode bs) = some bs := by
  induction bs with
  | nil => rfl
  | cons b bs ih =>
    have hb := b.toNat_lt
    have hhigh := digit?_digit (b.toNat / 16) (by omega)
    have hlow := digit?_digit (b.toNat % 16) (by omega)
    have hsum : UInt8.ofNat (16 * (b.toNat / 16) + b.toNat % 16) = b := by
      rw [Nat.div_add_mod]; exact UInt8.ofNat_toNat
    rw [encode] at ih ⊢
    simp only [List.flatMap_cons, List.cons_append, List.nil_append, decode, hhigh, hlow, ih,
      Option.bind_eq_bind, Option.bind_some, Option.pure_def, hsum]

end WalletReplay.Text.Hex
