import Mathlib.Data.List.Induction
import Mathlib.Tactic.Common
import WalletReplay.Text.Decimal
import WalletReplay.Text.Hex

/-!
# What digits denote

The notations for numbers and bytes are given here as relations, built up digit by digit: a numeral
grows by a digit at its end, which is worth ten times less than the digits before it, and bytes are
written as pairs of digits. That a text denotes something then does not depend on how it is read.

## What is proved

* `natural?_eq_some_iff`, `unsigned?_eq_some_iff`, `signed?_eq_some_iff` — what is read of a text is
  the number that it denotes.
* `decode_eq_some_iff` — what is decoded of a text are the bytes that it denotes.
-/

namespace WalletReplay.Text

namespace Decimal

/-- A numeral, one ASCII digit at least, denotes a number in base ten. -/
inductive Numeral : List Char → Nat → Prop where
  /-- One digit. -/
  | digit {c : Char} (hc : c.isDigit = true) : Numeral [c] (c.toNat - '0'.toNat)
  /-- One more digit at the end. -/
  | append {cs : List Char} {n : Nat} {c : Char} (h : Numeral cs n) (hc : c.isDigit = true) :
      Numeral (cs ++ [c]) (10 * n + (c.toNat - '0'.toNat))

/-- A numeral with an optional plus sign. -/
inductive Unsigned : List Char → Nat → Prop where
  /-- Without a sign. -/
  | plain {cs : List Char} {n : Nat} (h : Numeral cs n) : Unsigned cs n
  /-- With a plus sign. -/
  | plus {cs : List Char} {n : Nat} (h : Numeral cs n) : Unsigned ('+' :: cs) n

/-- A numeral with an optional sign. -/
inductive Signed : List Char → Int → Prop where
  /-- Without a sign. -/
  | plain {cs : List Char} {n : Nat} (h : Numeral cs n) : Signed cs n
  /-- With a plus sign. -/
  | plus {cs : List Char} {n : Nat} (h : Numeral cs n) : Signed ('+' :: cs) n
  /-- With a minus sign. -/
  | minus {cs : List Char} {n : Nat} (h : Numeral cs n) : Signed ('-' :: cs) (-n)

variable {cs : List Char} {n : Nat} {z : Int}

/-! ### Numerals -/

theorem Numeral.ne_nil (h : Numeral cs n) : cs ≠ [] := by
  cases h <;> simp

theorem Numeral.isDigit (h : Numeral cs n) : ∀ c ∈ cs, c.isDigit = true := by
  induction h with
  | digit hc => simpa using hc
  | append _ hc ih =>
    intro d hd
    rcases List.mem_append.mp hd with hd | hd
    · exact ih d hd
    · rwa [List.mem_singleton.mp hd]

theorem Numeral.value (h : Numeral cs n) : Nat.ofDigitChars 10 cs 0 = n := by
  induction h with
  | digit => simp [Nat.ofDigitChars_cons, Nat.ofDigitChars_nil]
  | append _ _ ih => rw [Nat.ofDigitChars_append, ih, Nat.ofDigitChars_cons, Nat.ofDigitChars_nil]

/-- Digits, at least one, are a numeral. -/
theorem numeral_of_isDigit (hne : cs ≠ []) (h : ∀ c ∈ cs, c.isDigit = true) :
    Numeral cs (Nat.ofDigitChars 10 cs 0) := by
  induction cs using List.reverseRecOn with
  | nil => exact absurd rfl hne
  | append_singleton cs c ih =>
    have hc : c.isDigit = true := h c (by simp)
    rw [Nat.ofDigitChars_append, Nat.ofDigitChars_cons, Nat.ofDigitChars_nil]
    cases cs with
    | nil => simpa [Nat.ofDigitChars_nil] using Numeral.digit hc
    | cons d cs => exact .append (ih (by simp) fun e he => h e (List.mem_append_left _ he)) hc

theorem natural?_eq_some_iff : natural? cs = some n ↔ Numeral cs n := by
  unfold natural?
  constructor
  · intro h
    split_ifs at h with hcs
    rw [← Option.some.inj h]
    exact numeral_of_isDigit hcs.1 (List.all_eq_true.mp hcs.2)
  · intro h
    rw [if_pos ⟨h.ne_nil, List.all_eq_true.mpr h.isDigit⟩, h.value]

/-! ### Signs -/

theorem Numeral.head_isDigit {c : Char} (h : Numeral (c :: cs) n) : c.isDigit = true :=
  h.isDigit c List.mem_cons_self

theorem unsigned?_eq_some_iff : unsigned? cs = some n ↔ Unsigned cs n := by
  constructor
  · intro h
    unfold unsigned? at h
    split at h
    · exact .plus (natural?_eq_some_iff.mp h)
    · exact .plain (natural?_eq_some_iff.mp h)
  · intro h
    cases h with
    | plus h => exact natural?_eq_some_iff.mpr h
    | plain h =>
      unfold unsigned?
      split
      · exact absurd h.head_isDigit (by decide)
      · exact natural?_eq_some_iff.mpr h

theorem signed?_eq_some_iff : signed? cs = some z ↔ Signed cs z := by
  constructor
  · intro h
    unfold signed? at h
    split at h <;> obtain ⟨n, hn, rfl⟩ := Option.map_eq_some_iff.mp h
    · exact .plus (natural?_eq_some_iff.mp hn)
    · exact .minus (natural?_eq_some_iff.mp hn)
    · exact .plain (natural?_eq_some_iff.mp hn)
  · intro h
    cases h with
    | plus h | minus h => simp [signed?, natural?_eq_some_iff.mpr h]
    | plain h =>
      unfold signed?
      split
      · exact absurd h.head_isDigit (by decide)
      · exact absurd h.head_isDigit (by decide)
      · simp [natural?_eq_some_iff.mpr h]

/-- What is written of an integer are digits and a minus sign. -/
theorem mem_ofInt {c : Char} (h : c ∈ ofInt z) : c.isDigit = true ∨ c = '-' := by
  cases z with
  | ofNat n => exact Or.inl (isDigit_of_mem_ofNat h)
  | negSucc n =>
    rcases List.mem_cons.mp h with rfl | h
    · exact Or.inr rfl
    · exact Or.inl (isDigit_of_mem_ofNat h)

end Decimal

namespace Hex

/-- A hexadecimal digit of either case denotes a number below 16. -/
def Denotes (c : Char) (n : Nat) : Prop :=
  "0123456789abcdef".toList[n]? = some c ∨ "0123456789ABCDEF".toList[n]? = some c

/-- Pairs of hexadecimal digits denote bytes, the high half first. -/
inductive Digits : List Char → List UInt8 → Prop where
  /-- No digits, no bytes. -/
  | nil : Digits [] []
  /-- Two digits for the first byte. -/
  | cons {a b : Char} {high low : Nat} {byte : UInt8} {cs : List Char} {bytes : List UInt8}
      (ha : Denotes a high) (hb : Denotes b low) (hbyte : byte.toNat = 16 * high + low)
      (h : Digits cs bytes) : Digits (a :: b :: cs) (byte :: bytes)

theorem Denotes.digit?_eq {c : Char} {n : Nat} (h : Denotes c n) : digit? c = some n := by
  have hlower : ∀ n < 16, ("0123456789abcdef".toList[n]?).bind digit? = some n := by decide
  have hupper : ∀ n < 16, ("0123456789ABCDEF".toList[n]?).bind digit? = some n := by decide
  rcases h with h | h <;> have hn := (List.getElem?_eq_some_iff.mp h).1
  · have hdigit := hlower n hn
    rwa [h] at hdigit
  · have hdigit := hupper n hn
    rwa [h] at hdigit

/-- Where characters follow each other from one on, another is found by its distance from that one. -/
theorem getElem?_of_between {digits : List Char} {c first last : Char} (offset : Nat)
    (hdigits : ∀ k ≤ last.toNat - first.toNat,
      digits[k + offset]? = some (Char.ofNat (first.toNat + k)))
    (hfirst : first ≤ c) (hlast : c ≤ last) : digits[c.toNat - first.toNat + offset]? = some c := by
  have hle : first.toNat ≤ c.toNat := hfirst
  have hle' : c.toNat ≤ last.toNat := hlast
  rw [hdigits _ (by omega), Nat.add_sub_cancel' hle, Char.ofNat_toNat]

theorem denotes_of_digit? {c : Char} {n : Nat} (h : digit? c = some n) : Denotes c n := by
  unfold digit? at h
  split_ifs at h with h₀ h₁ h₂ <;> rw [← Option.some.inj h]
  · exact Or.inl (getElem?_of_between 0 (by decide) h₀.1 h₀.2)
  · exact Or.inl (getElem?_of_between 10 (by decide) h₁.1 h₁.2)
  · exact Or.inr (getElem?_of_between 10 (by decide) h₂.1 h₂.2)

theorem Denotes.lt {c : Char} {n : Nat} (h : Denotes c n) : n < 16 := by
  rcases h with h | h <;> exact (List.getElem?_eq_some_iff.mp h).1

theorem Digits.decode_eq {cs : List Char} {bytes : List UInt8} (h : Digits cs bytes) :
    decode cs = some bytes := by
  induction h with
  | nil => rfl
  | @cons a b high low byte _ _ ha hb hbyte _ ih =>
    have hof : UInt8.ofNat (16 * high + low) = byte := by rw [← hbyte, UInt8.ofNat_toNat]
    simp only [decode, ha.digit?_eq, hb.digit?_eq, ih, Option.bind_eq_bind, Option.bind_some,
      Option.pure_def, hof]

theorem digits_of_decode {cs : List Char} {bytes : List UInt8} (h : decode cs = some bytes) :
    Digits cs bytes := by
  fun_induction decode cs generalizing bytes with
  | case1 =>
    rw [← Option.some.inj h]
    exact .nil
  | case2 => simp at h
  | case3 a b cs ih =>
    simp only [Option.bind_eq_bind, Option.bind_eq_some_iff, Option.pure_def, Option.some.injEq] at h
    obtain ⟨high, ha, low, hb, rest, hrest, rfl⟩ := h
    have ha := denotes_of_digit? ha
    have hb := denotes_of_digit? hb
    refine .cons ha hb ?_ (ih hrest)
    have := ha.lt
    have := hb.lt
    exact UInt8.toNat_ofNat_of_lt' (by simp [UInt8.size]; omega)

theorem decode_eq_some_iff {cs : List Char} {bytes : List UInt8} :
    decode cs = some bytes ↔ Digits cs bytes :=
  ⟨digits_of_decode, Digits.decode_eq⟩

/-- Every byte takes two digits. -/
theorem Digits.length_eq {cs : List Char} {bytes : List UInt8} (h : Digits cs bytes) :
    cs.length = 2 * bytes.length := by
  induction h with
  | nil => rfl
  | cons _ _ _ _ ih =>
    simp only [List.length_cons, ih]
    omega

end Hex

end WalletReplay.Text
