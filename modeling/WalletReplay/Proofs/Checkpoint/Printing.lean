import WalletReplay.Proofs.Checkpoint.Grammar

/-!
# Written checkpoints

A checkpoint that has a hash is written as a line of the grammar: its height and the seconds of its
time in decimal digits, and its hash in lower-case digits, with one blank between them. What is
written has no line end and no comment in it. Only the part of its time below a second is not written,
so that reading gives the time rounded down.

What is read has a hash and a time of whole seconds, and so is read again as it was when it is
written.

## What is proved

* `lineHolds_line` — a written checkpoint is a line that holds it, at the last whole second.
* `written_text` — written checkpoints are a text that denotes them, at the last whole second.
* `Written.readable` — what a text denotes can be written, and has times of whole seconds.
* `read_text` — checkpoints that are written are read back, and what was read is.
-/

namespace WalletReplay

open Text

/-! ### Characters that are written -/

/-- A character from the minus sign to the last lower-case letter: no blank and no comment sign. -/
def IsInk (c : Char) : Prop :=
  '-'.toNat ≤ c.toNat ∧ c.toNat ≤ 'z'.toNat

namespace IsInk

variable {c : Char}

theorem isBlank_eq (h : IsInk c) : isBlank c = false := by
  obtain ⟨hfirst, hlast⟩ := h
  simp only [Char.reduceToNat] at hfirst hlast
  simp [isBlank, blankRanges]
  omega

theorem ne_of_lt {d : Char} (h : IsInk c) (hd : d.toNat < '-'.toNat) : c ≠ d := by
  rintro rfl
  exact absurd h.1 (Nat.not_le.mpr hd)

theorem of_isDigit (h : c.isDigit = true) : IsInk c := by
  simp only [Char.isDigit, Bool.and_eq_true, decide_eq_true_eq] at h
  have hfirst : '0'.toNat ≤ c.toNat := h.1
  have hlast : c.toNat ≤ '9'.toNat := h.2
  simp only [Char.reduceToNat] at hfirst hlast
  simp only [IsInk, Char.reduceToNat]
  omega

end IsInk

/-! ### Fields that are written -/

theorem isWord_of_isInk {cs : List Char} (hne : cs ≠ []) (h : ∀ c ∈ cs, IsInk c) : IsWord cs :=
  ⟨hne, fun c hc => (h c hc).isBlank_eq⟩

theorem isInk_of_mem_ofNat {n : Nat} : ∀ c ∈ Decimal.ofNat n, IsInk c :=
  fun _ hc => .of_isDigit (Decimal.isDigit_of_mem_ofNat hc)

theorem isInk_of_mem_ofInt {z : Int} : ∀ c ∈ Decimal.ofInt z, IsInk c := by
  intro c hc
  rcases Decimal.mem_ofInt hc with hdigit | rfl
  · exact .of_isDigit hdigit
  · exact ⟨by decide, by decide⟩

theorem isInk_of_mem_toHex {hash : BlockHash} : ∀ c ∈ hash.toHex, IsInk c := by
  have hdigit : ∀ n < 16, '-'.toNat ≤ (Hex.digit n).toNat ∧ (Hex.digit n).toNat ≤ 'z'.toNat := by
    decide
  intro c hc
  obtain ⟨byte, -, hc⟩ := List.mem_flatMap.mp hc
  have hbyte := byte.toNat_lt
  rcases List.mem_cons.mp hc with rfl | hc
  · exact hdigit _ (by omega)
  · rw [List.mem_singleton.mp hc]
    exact hdigit _ (by omega)

theorem isWord_ofNat (n : Nat) : IsWord (Decimal.ofNat n) :=
  isWord_of_isInk (Decimal.ofNat_ne_nil n) isInk_of_mem_ofNat

theorem isWord_ofInt (z : Int) : IsWord (Decimal.ofInt z) := by
  refine isWord_of_isInk ?_ isInk_of_mem_ofInt
  cases z with
  | ofNat n => exact Decimal.ofNat_ne_nil n
  | negSucc n => simp [Decimal.ofInt]

theorem denotesHash_toHex (hash : BlockHash) : DenotesHash hash.toHex hash :=
  BlockHash.ofHex?_eq_some_iff.mp hash.ofHex?_toHex

theorem isWord_toHex (hash : BlockHash) : IsWord hash.toHex := by
  refine isWord_of_isInk (fun hnil => ?_) isInk_of_mem_toHex
  have hlength := (denotesHash_toHex hash).1
  rw [hnil] at hlength
  cases hlength

namespace Checkpoint

/-- The checkpoint at the last whole second of its time, as it is written. -/
def toSecond (c : Checkpoint) : Checkpoint :=
  { c with time := .ofSeconds c.time.seconds }

/-- A checkpoint that can be read when it is written: it has a hash, and its year is in -9999 to
9999. -/
structure Readable (c : Checkpoint) : Prop where
  hash : c.hash.isSome = true
  min_le : Timestamp.minSeconds ≤ c.time.seconds
  le_max : c.time.seconds ≤ Timestamp.maxSeconds

variable {c : Checkpoint}

/-! ### Lines -/

/-- The line of a checkpoint with a hash, field by field. -/
theorem line_eq {hash : BlockHash} (h : c.hash = some hash) : c.line =
    Decimal.ofNat c.height.val ++ ' ' :: (Decimal.ofInt c.time.seconds ++ ' ' :: hash.toHex) := by
  rw [line, h, List.append_assoc]
  rfl

/-- A written checkpoint has no character below the minus sign but blanks. -/
theorem notMem_line {d : Char} (h : c.hash.isSome = true) (hd : d.toNat < '-'.toNat)
    (hblank : d ≠ ' ') : d ∉ c.line := by
  obtain ⟨hash, hhash⟩ := Option.isSome_iff_exists.mp h
  rw [line_eq hhash]
  intro hmem
  simp only [List.mem_append, List.mem_cons] at hmem
  rcases hmem with hmem | hmem | hmem | hmem | hmem
  · exact (isInk_of_mem_ofNat d hmem).ne_of_lt hd rfl
  · exact hblank hmem
  · exact (isInk_of_mem_ofInt d hmem).ne_of_lt hd rfl
  · exact hblank hmem
  · exact (isInk_of_mem_toHex d hmem).ne_of_lt hd rfl

/-- **A written checkpoint is a line that holds it**, at the last whole second. -/
theorem lineHolds_line (h : c.Readable) : LineHolds c.line (some c.toSecond) := by
  obtain ⟨hash, hhash⟩ := Option.isSome_iff_exists.mp h.hash
  have hspaced :
      Spaced [Decimal.ofNat c.height.val, Decimal.ofInt c.time.seconds, hash.toHex] c.line := by
    rw [line_eq hhash]
    refine (isWord_ofNat _).spaced_append rfl ?_
    exact (isWord_ofInt _).spaced_append rfl (isWord_toHex hash).spaced
  have hheight : DenotesHeight (Decimal.ofNat c.height.val) c.height :=
    Decimal.unsigned?_eq_some_iff.mp (Decimal.unsigned?_ofNat _)
  have htime : DenotesTime (Decimal.ofInt c.time.seconds) (.ofSeconds c.time.seconds) :=
    ⟨_, Decimal.signed?_eq_some_iff.mp (Decimal.signed?_ofInt _), h.min_le, h.le_max, rfl⟩
  have hcontent : '#' ∉ c.line := notMem_line h.hash (by decide) (by decide)
  rw [← List.append_nil c.line]
  exact .entry hcontent (by simp [IsComment]) hspaced hheight htime (denotesHash_toHex hash) hhash

theorem toSecond_eq_self (h : c.time.subsecond = 0) : c.toSecond = c := by
  obtain ⟨height, ⟨nanoseconds⟩, hash⟩ := c
  simp only [Timestamp.subsecond] at h
  simp only [toSecond, Timestamp.seconds, Timestamp.ofSeconds, Timestamp.ofParts]
  congr 2
  omega

end Checkpoint

/-- What a line holds has a hash and a time of whole seconds. -/
theorem LineHolds.readable {line : List Char} {c : Checkpoint} (h : LineHolds line (some c)) :
    c.Readable ∧ c.time.subsecond = 0 := by
  cases h with
  | entry _ _ _ _ htime _ hc =>
    obtain ⟨z, -, hmin, hmax, hz⟩ := htime
    have hseconds : c.time.seconds = z := by rw [hz, Timestamp.seconds_ofSeconds]
    refine ⟨⟨by simp [hc], by rwa [hseconds], by rwa [hseconds]⟩, ?_⟩
    simp [hz, Timestamp.subsecond, Timestamp.ofSeconds, Timestamp.ofParts]

/-- What a text denotes can be written, and has times of whole seconds. -/
theorem Written.readable {text : List Char} {cs : List Checkpoint} (h : Written text cs) :
    ∀ c ∈ cs, c.Readable ∧ c.time.subsecond = 0 := by
  obtain ⟨lines, held, -, hheld, rfl⟩ := h
  intro c hc
  rw [List.reduceOption_mem_iff] at hc
  induction hheld with
  | nil => cases hc
  | cons hline _ ih =>
    rcases List.mem_cons.mp hc with rfl | hc
    · exact hline.readable
    · exact ih hc

namespace Checkpoints

open Checkpoint

variable {cs : List Checkpoint}

/-! ### Texts -/

/-- **Written checkpoints are a text that denotes them**, at the last whole second. -/
theorem written_text (h : ∀ c ∈ cs, c.Readable) : Written (text cs) (cs.map toSecond) := by
  have hlines : List.Forall₂ LineHolds (cs.map line) (cs.map (some ∘ toSecond)) := by
    rw [List.forall₂_map_left_iff, List.forall₂_map_right_iff, List.forall₂_same]
    exact fun c hc => lineHolds_line (h c hc)
  -- Behind the last line feed there is one more line, which holds nothing.
  have hempty : LineHolds [] none :=
    @LineHolds.nothing [] [] (by simp) (by simp [IsComment]) spaced_nil
  have hcut : Cut (text cs) (cs.map line ++ [[]]) := by
    refine cut_unlines fun l hl => ?_
    obtain ⟨c, hc, rfl⟩ := List.mem_map.mp hl
    have hhash := (h c hc).hash
    refine ⟨notMem_line hhash (by decide) (by decide), fun hlast => ?_⟩
    exact notMem_line hhash (by decide) (by decide) (List.mem_of_getLast? hlast)
  refine ⟨_, _, hcut, List.rel_append hlines (.cons hempty .nil), ?_⟩
  change (cs.map (some ∘ toSecond) ++ [none]).reduceOption = cs.map toSecond
  simp [List.reduceOption]

theorem map_toSecond_eq_self (h : ∀ c ∈ cs, c.time.subsecond = 0) : cs.map toSecond = cs := by
  rw [List.map_congr_left fun c hc => toSecond_eq_self (h c hc), List.map_id']

theorem ascending_map_toSecond (h : Ascending cs) : Ascending (cs.map toSecond) :=
  List.pairwise_map.mpr h

/-- Checkpoints that are written are read back, at the last whole second. -/
theorem exists_read_text (h : ∀ c ∈ cs, c.Readable) (hascending : Ascending cs) :
    ∃ ds, read (text cs) = .ok ds ∧ ds.toList = cs.map toSecond :=
  exists_read_iff.mpr ⟨written_text h, ascending_map_toSecond hascending⟩

/-- **Checkpoints that are written are read back**, with the part of their times below a second cut
off, and so are as they were if their times are whole seconds. And whatever a text gives, when it is
written and read again, is the same. -/
theorem read_text :
    (∀ cs, (∀ c ∈ cs, c.Readable) → Ascending cs →
      ∃ ds, read (text cs) = .ok ds ∧ ds.toList = cs.map toSecond) ∧
    (∀ cs, (∀ c ∈ cs, c.Readable ∧ c.time.subsecond = 0) → Ascending cs →
      ∃ ds, read (text cs) = .ok ds ∧ ds.toList = cs) ∧
    ∀ t cs, read t = .ok cs → read (text cs.toList) = .ok cs := by
  have whole (cs : List Checkpoint) (h : ∀ c ∈ cs, c.Readable ∧ c.time.subsecond = 0)
      (hascending : Ascending cs) : ∃ ds, read (text cs) = .ok ds ∧ ds.toList = cs := by
    obtain ⟨ds, hread, hds⟩ := exists_read_text (fun c hc => (h c hc).1) hascending
    exact ⟨ds, hread, hds.trans (map_toSecond_eq_self fun c hc => (h c hc).2)⟩
  refine ⟨fun cs => exists_read_text, whole, fun t cs hread => ?_⟩
  -- What was read is denoted in the grammar, and so loses nothing when it is written.
  have hwritten : Written t cs.toList := (exists_read_iff.mp ⟨cs, hread, rfl⟩).1
  obtain ⟨ds, hread', hds⟩ := whole cs.toList hwritten.readable cs.ascending
  obtain ⟨ds, _⟩ := ds
  obtain ⟨cs, _⟩ := cs
  subst hds
  exact hread'

/-- Two checkpoints stand on two lines. One nanosecond before 1970 is written as the second before it,
and one and a half seconds after it as one. -/
theorem read_text_of_negative :
    let hash : BlockHash := ⟨List.replicate 32 171, rfl⟩
    let c : Checkpoint := ⟨⟨5, by decide⟩, ⟨-1⟩, some hash⟩
    let d : Checkpoint := ⟨⟨7, by decide⟩, ⟨1500000000⟩, some hash⟩
    ∃ ds, read (text [c, d]) = .ok ds ∧
      ds.toList = [{ c with time := .ofSeconds (-1) }, { d with time := .ofSeconds 1 }] ∧
      read (text ds.toList) = .ok ds := by
  intro hash c d
  have hreadable : ∀ e ∈ [c, d], e.Readable := by
    have hc : c.Readable := ⟨by decide, by decide, by decide⟩
    have hd : d.Readable := ⟨by decide, by decide, by decide⟩
    simp [hc, hd]
  obtain ⟨ds, hread, hds⟩ := read_text.1 [c, d] hreadable (by decide)
  exact ⟨ds, hread, hds, read_text.2.2 (text [c, d]) ds hread⟩

end Checkpoints

end WalletReplay
