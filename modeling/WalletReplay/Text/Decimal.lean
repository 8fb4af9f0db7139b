/-!
# Decimal numbers

Numbers are written with ASCII digits, at least one. A natural number may carry a plus sign, an
integer either sign; a sign alone is no number, and nothing separates digits. Leading zeros are
allowed. Written numbers have no plus sign and no leading zero.

Reading a written number gives it back: `natural?_ofNat`, `unsigned?_ofNat`, `signed?_ofInt`.
-/

namespace WalletReplay.Text.Decimal

/-- A sequence of digits, at least one, as a number. -/
def natural? (cs : List Char) : Option Nat :=
  if cs ≠ [] ∧ cs.all Char.isDigit then some (Nat.ofDigitChars 10 cs 0) else none

/-- A natural number with an optional plus sign. -/
def unsigned? : List Char → Option Nat
  | '+' :: cs => natural? cs
  | cs => natural? cs

/-- An integer with an optional sign. -/
def signed? : List Char → Option Int
  | '+' :: cs => (natural? cs).map Int.ofNat
  | '-' :: cs => (natural? cs).map fun n => -Int.ofNat n
  | cs => (natural? cs).map Int.ofNat

/-- An integer with an optional sign, if it has 64 bits. -/
def int64? (cs : List Char) : Option Int :=
  (signed? cs).filter fun n => -9223372036854775808 ≤ n && n ≤ 9223372036854775807

/-- A natural number in decimal digits. -/
def ofNat (n : Nat) : List Char :=
  Nat.toDigits 10 n

/-- An integer in decimal digits, a negative one behind a minus sign. -/
def ofInt : Int → List Char
  | .ofNat n => ofNat n
  | .negSucc n => '-' :: ofNat (n + 1)

/-- What is written of a natural number are digits. -/
theorem isDigit_of_mem_ofNat {n : Nat} {c : Char} (h : c ∈ ofNat n) : c.isDigit = true :=
  Nat.isDigit_of_mem_toDigits (by decide) (by decide) h

/-- At least one digit is written. -/
theorem ofNat_ne_nil (n : Nat) : ofNat n ≠ [] :=
  Nat.toDigits_ne_nil

/-- A written natural number reads back. -/
theorem natural?_ofNat (n : Nat) : natural? (ofNat n) = some n := by
  have h : (ofNat n).all Char.isDigit = true :=
    List.all_eq_true.2 fun c hc => isDigit_of_mem_ofNat hc
  rw [natural?, if_pos ⟨ofNat_ne_nil n, h⟩]
  simp [ofNat, Nat.ofDigitChars_toDigits]

/-- A digit is no sign. -/
theorem ofNat_cases (n : Nat) :
    ∃ c cs, ofNat n = c :: cs ∧ c ≠ '+' ∧ c ≠ '-' := by
  match h : ofNat n with
  | [] => exact absurd h (ofNat_ne_nil n)
  | c :: cs =>
    have hc : c.isDigit = true := isDigit_of_mem_ofNat (n := n) (by simp [h])
    exact ⟨c, cs, rfl, by rintro rfl; simp at hc, by rintro rfl; simp at hc⟩

/-- A written natural number reads back where a plus sign is allowed. -/
theorem unsigned?_ofNat (n : Nat) : unsigned? (ofNat n) = some n := by
  obtain ⟨c, cs, h, hp, _⟩ := ofNat_cases n
  have := natural?_ofNat n
  rw [h] at this ⊢
  unfold unsigned?
  split
  · rename_i heq; simp_all
  · exact this

/-- A written integer reads back. -/
theorem signed?_ofInt (z : Int) : signed? (ofInt z) = some z := by
  cases z with
  | ofNat n =>
    obtain ⟨c, cs, h, hp, hm⟩ := ofNat_cases n
    have := natural?_ofNat n
    rw [ofInt, h]
    rw [h] at this
    unfold signed?
    split
    · rename_i heq; simp_all
    · rename_i heq; simp_all
    · simp [this]
  | negSucc n =>
    simp [ofInt, signed?, natural?_ofNat, Int.negSucc_eq]

end WalletReplay.Text.Decimal
