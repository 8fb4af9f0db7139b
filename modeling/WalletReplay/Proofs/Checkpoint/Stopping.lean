import WalletReplay.Proofs.Checkpoint.Grammar
import WalletReplay.Proofs.Text.Fronts

/-!
# Where reading stops

A text that is refused is refused at one of its lines: the lines before it are read, and it cannot
stand behind them. Either the line is wrong in itself, or it holds a checkpoint that is not above the
last one before it. What the error says depends on that line and the ones before it only.

So where reading stops can be told by cutting the text: behind every line before that one the text
can be cut and is read, and from that line on it is refused with the same error.

## What is proved

* `ofLines_append` — lines are read behind lines that have been read.
* `ofLines_eq_error_iff` — reading fails at the first line that is refused where it stands.
* `read_stops` — the error of a text that is refused, and the beginnings of one that is read.
-/

namespace WalletReplay

open Text

/-- The line can stand behind the given height, and gives the checkpoints. -/
inductive Admitted (line : List Char) (last : Option Height) : List Checkpoint → Prop where
  /-- It holds nothing. -/
  | nothing (hline : LineHolds line none) : Admitted line last []
  /-- It holds a checkpoint that is above the height. -/
  | entry {c : Checkpoint} (hline : LineHolds line (some c))
      (habove : ∀ previous ∈ last, previous < c.height) : Admitted line last [c]

/-- The line, which has the given number, cannot stand behind the given height. -/
inductive Refused (line : List Char) (number : Nat) (last : Option Height) :
    CheckpointError → Prop where
  /-- It neither holds a checkpoint nor nothing. -/
  | malformed {fault : LineFault} (hline : Checkpoint.ofLine line = .error fault) :
      Refused line number last (.malformed number fault)
  /-- It holds a checkpoint that is not above the height. -/
  | unordered {c : Checkpoint} {previous : Height} (hline : LineHolds line (some c))
      (hlast : last = some previous) (hle : c.height ≤ previous) :
      Refused line number last (.unordered number c.height previous)

namespace Checkpoints

open Checkpoint

variable {number : Nat} {last : Option Height} {line text : List Char}
  {ls front rest : List (List Char)} {cs : List Checkpoint} {e : CheckpointError}

/-- The height of the last of some checkpoints, or the last height before them. -/
def lastHeight (last : Option Height) (cs : List Checkpoint) : Option Height :=
  (cs.getLast?.map (·.height)).or last

theorem lastHeight_append (last : Option Height) (cs ds : List Checkpoint) :
    lastHeight last (cs ++ ds) = lastHeight (lastHeight last cs) ds := by
  unfold lastHeight
  rw [List.getLast?_append]
  cases ds.getLast? <;> rfl

/-! ### What is read, with checkpoints in front of it -/

section

variable {ε α β : Type} {f : α → β} {r : Except ε α}

theorem map_eq_ok_iff {b : β} : r.map f = .ok b ↔ ∃ a, r = .ok a ∧ f a = b := by
  cases r <;> simp [Except.map]

theorem map_eq_error_iff {e : ε} : r.map f = .error e ↔ r = .error e := by
  cases r <;> simp [Except.map]

theorem map_nil_append (r : Except ε (List α)) : r.map ([] ++ ·) = r := by
  cases r <;> rfl

theorem map_append_append (as bs : List α) (r : Except ε (List α)) :
    (r.map (bs ++ ·)).map (as ++ ·) = r.map (as ++ bs ++ ·) := by
  cases r <;> simp [Except.map]

end

/-! ### One line -/

theorem admitted_or_refused (line : List Char) (number : Nat) (last : Option Height) :
    (∃ cs, Admitted line last cs) ∨ ∃ e, Refused line number last e := by
  cases hline : ofLine line with
  | error fault => exact Or.inr ⟨_, .malformed hline⟩
  | ok entry =>
    have hholds := ofLine_eq_ok_iff.mp hline
    cases entry with
    | none => exact Or.inl ⟨_, .nothing hholds⟩
    | some c =>
      cases last with
      | none => exact Or.inl ⟨_, .entry hholds nofun⟩
      | some previous =>
        by_cases hle : c.height ≤ previous
        · exact Or.inr ⟨_, .unordered hholds rfl hle⟩
        · refine Or.inl ⟨_, .entry hholds fun p hp => ?_⟩
          rw [← Option.some.inj hp]
          exact Fin.not_le.mp hle

/-- A line that is admitted is read, and the lines behind it are read behind what it gives. -/
theorem ofLines_cons_of_admitted (h : Admitted line last cs) (ls : List (List Char)) :
    ofLines number last (line :: ls) =
      (ofLines (number + 1) (lastHeight last cs) ls).map (cs ++ ·) := by
  rw [ofLines]
  cases h with
  | nothing hline =>
    rw [ofLine_eq_ok_iff.mpr hline, map_nil_append]
    rfl
  | entry hline habove =>
    rw [ofLine_eq_ok_iff.mpr hline]
    cases last with
    | none => rfl
    | some previous => exact if_neg (Fin.not_le.mpr (habove previous rfl))

theorem ofLines_cons_of_refused (h : Refused line number last e) (ls : List (List Char)) :
    ofLines number last (line :: ls) = .error e := by
  rw [ofLines]
  cases h with
  | malformed hline => rw [hline]
  | unordered hline hlast hle =>
    subst hlast
    rw [ofLine_eq_ok_iff.mpr hline]
    exact if_pos hle

/-! ### Lines behind lines -/

/-- **Lines are read behind lines that have been read** as if they were the first, but for their
numbers and the height that they are to be above. -/
theorem ofLines_append (h : ofLines number last front = .ok cs) (rest : List (List Char)) :
    ofLines number last (front ++ rest) =
      (ofLines (number + front.length) (lastHeight last cs) rest).map (cs ++ ·) := by
  induction front generalizing number last cs with
  | nil =>
    rw [← Except.ok.inj h, map_nil_append]
    rfl
  | cons line front ih =>
    rcases admitted_or_refused line number last with ⟨ds, hadmitted⟩ | ⟨e, hrefused⟩
    · rw [ofLines_cons_of_admitted hadmitted, map_eq_ok_iff] at h
      obtain ⟨es, hfront, rfl⟩ := h
      rw [List.cons_append, ofLines_cons_of_admitted hadmitted, ih hfront, lastHeight_append,
        map_append_append, List.length_cons, Nat.add_comm front.length, ← Nat.add_assoc]
    · rw [ofLines_cons_of_refused hrefused] at h
      cases h

/-- **Reading fails at the first line that cannot stand where it stands**, behind lines that are
read. -/
theorem ofLines_eq_error_iff : ofLines number last ls = .error e ↔ ∃ front line rest cs,
    ls = front ++ line :: rest ∧ ofLines number last front = .ok cs ∧
      Refused line (number + front.length) (lastHeight last cs) e := by
  constructor
  · intro h
    induction ls generalizing number last with
    | nil => cases h
    | cons line ls ih =>
      rcases admitted_or_refused line number last with ⟨ds, hadmitted⟩ | ⟨e', hrefused⟩
      · rw [ofLines_cons_of_admitted hadmitted, map_eq_error_iff] at h
        obtain ⟨front, line', rest, es, rfl, hfront, hrefused⟩ := ih h
        refine ⟨line :: front, line', rest, ds ++ es, rfl, ?_, ?_⟩
        · rw [ofLines_cons_of_admitted hadmitted, hfront]
          rfl
        · rwa [lastHeight_append, List.length_cons, Nat.add_comm front.length, ← Nat.add_assoc]
      · obtain rfl : e' = e := Except.error.inj ((ofLines_cons_of_refused hrefused ls).symm.trans h)
        exact ⟨[], line, ls, [], rfl, rfl, hrefused⟩
  · rintro ⟨front, line, rest, cs, rfl, hfront, hrefused⟩
    rw [ofLines_append hfront, ofLines_cons_of_refused hrefused]
    rfl

theorem ofLines_append_of_error (h : ofLines number last front = .error e)
    (rest : List (List Char)) : ofLines number last (front ++ rest) = .error e := by
  obtain ⟨before, line, behind, cs, rfl, hbefore, hrefused⟩ := ofLines_eq_error_iff.mp h
  refine ofLines_eq_error_iff.mpr ⟨before, line, behind ++ rest, cs, ?_, hbefore, hrefused⟩
  rw [List.append_assoc, List.cons_append]

/-- Lines that are read begin with lines that are read, as a beginning of the same checkpoints. -/
theorem exists_prefix_of_take (h : ofLines number last ls = .ok cs) (m : Nat) :
    ∃ ds, ofLines number last (ls.take m) = .ok ds ∧ ds <+: cs := by
  rw [← List.take_append_drop m ls] at h
  cases hfront : ofLines number last (ls.take m) with
  | error e =>
    rw [ofLines_append_of_error hfront] at h
    cases h
  | ok ds =>
    rw [ofLines_append hfront, map_eq_ok_iff] at h
    obtain ⟨es, -, happend⟩ := h
    exact ⟨ds, rfl, es, happend⟩

/-- Lines that are refused are refused whatever follows the line at which reading fails. -/
theorem ofLines_of_take_eq {n : Nat} {ls' : List (List Char)}
    (h : ofLines number last (ls.take n) = .error e) (htake : ls'.take n = ls.take n) :
    ofLines number last ls' = .error e := by
  rw [← List.take_append_drop n ls', htake]
  exact ofLines_append_of_error h _

/-- The line at which reading fails. -/
theorem exists_refused_of_error (h : ofLines number last ls = .error e) :
    ∃ n line cs, ls[n]? = some line ∧ ofLines number last (ls.take n) = .ok cs ∧
      ofLines number last (ls.take (n + 1)) = .error e ∧
      Refused line (number + n) (lastHeight last cs) e := by
  obtain ⟨front, line, rest, cs, rfl, hfront, hrefused⟩ := ofLines_eq_error_iff.mp h
  refine ⟨front.length, line, cs, by simp, by simpa using hfront, ?_, hrefused⟩
  rw [List.take_length_add_append]
  exact ofLines_eq_error_iff.mpr ⟨front, line, [], cs, rfl, hfront, hrefused⟩

/-! ### Texts -/

theorem ofLines_eq_of_cut (h : Cut text ls) (number : Nat) (last : Option Height) :
    ofLines number last (Text.lines text) = ofLines number last ls := by
  have hlines := h.lines
  generalize Text.lines text = ls' at hlines
  clear h
  induction hlines generalizing number last with
  | nil => rfl
  | @cons line line' ls ls' hline _ ih =>
    have heq : ofLine line' = ofLine line := by
      rcases hline with rfl | rfl
      · rfl
      · exact (ofLine_append_return line').symm
    simp only [ofLines, heq, ih]

/-- What is read of a text is what is read of its lines, however they end. -/
theorem ofLines_lines (h : HasLines text ls) (number : Nat) (last : Option Height) :
    ofLines number last (Text.lines text) = ofLines number last ls := by
  rcases h with hcut | ⟨hcut, -⟩
  · rw [ofLines_eq_of_cut hcut]
    cases hls : ofLines number last ls with
    | error e => exact ofLines_append_of_error hls _
    | ok cs =>
      rw [ofLines_append hls]
      exact congrArg Except.ok (List.append_nil cs)
  · exact ofLines_eq_of_cut hcut number last

theorem read_eq_ok_iff (h : HasLines text ls) {cs : Checkpoints} :
    read text = .ok cs ↔ ofLines 1 none ls = .ok cs.toList := by
  obtain ⟨cs, hascending⟩ := cs
  rw [← ofLines_lines h, read, readLines]
  split
  · rename_i ds hds
    simp [hds]
  · rename_i e he
    simp [he]

theorem read_eq_error_iff (h : HasLines text ls) :
    read text = .error e ↔ ofLines 1 none ls = .error e := by
  rw [← ofLines_lines h, read, readLines]
  split
  · rename_i ds hds
    simp [hds]
  · rename_i e' he
    simp [he]

/-- The line holds a checkpoint that is not above the last of the collection. -/
def Descends (before : Checkpoints) (line : List Char) (height previous : Height) : Prop :=
  ∃ c d, LineHolds line (some c) ∧ before.toList.getLast? = some d ∧ c.height = height ∧
    d.height = previous ∧ height ≤ previous

theorem descends_iff_of_refused (before : Checkpoints)
    (h : Refused line number (lastHeight none before.toList) e) (height previous : Height) :
    e = .unordered number height previous ↔ Descends before line height previous := by
  cases h with
  | malformed hline =>
    refine ⟨nofun, ?_⟩
    rintro ⟨c, d, hholds, -⟩
    rw [ofLine_eq_ok_iff.mpr hholds] at hline
    cases hline
  | @unordered c previous' hline hlast hle =>
    obtain ⟨d, hd, rfl⟩ : ∃ d, before.toList.getLast? = some d ∧ d.height = previous' := by
      simpa [lastHeight] using hlast
    constructor
    · intro heq
      cases heq
      exact ⟨c, d, hline, hd, rfl, rfl, hle⟩
    · rintro ⟨c', d', hholds, hd', rfl, rfl, -⟩
      obtain rfl : c = c' := Option.some.inj (rightUnique_lineHolds hline hholds)
      obtain rfl : d = d' := Option.some.inj (hd.symm.trans hd')
      rfl

/-- **Where reading stops.** A text that is refused has a first bad line: cut behind it or later the
text is refused, and cut before it, it is read; and any text with the same lines up to the bad one
is refused with the same error. The error tells the line and what is wrong with it, which may be
that its height is not above the last one. A text that is read can be cut behind each of its lines,
and then gives a beginning of its checkpoints. -/
theorem read_stops (text : List Char) : (∃ ls, HasLines text ls) ∧ ∀ ls, HasLines text ls →
    (∀ m, HasLines (firstLines m text) (ls.take m)) ∧
    (∀ e, read text = .error e → ∃ n line before, ls[n]? = some line ∧
      (∀ m front, HasLines front (ls.take m) → ((∃ e', read front = .error e') ↔ n < m)) ∧
      (∀ front, HasLines front (ls.take n) → read front = .ok before) ∧
      (∀ other ls', HasLines other ls' → ls'.take (n + 1) = ls.take (n + 1) →
        read other = .error e) ∧
      (∀ height previous, e = .unordered (n + 1) height previous ↔
        Descends before line height previous) ∧
      ((∀ height previous, ¬ Descends before line height previous) →
        ∃ fault, ofLine line = .error fault ∧ e = .malformed (n + 1) fault)) ∧
    ∀ cs, read text = .ok cs → ∀ m front, HasLines front (ls.take m) →
      ∃ ds, read front = .ok ds ∧ ds.toList <+: cs.toList := by
  refine ⟨exists_hasLines text, fun ls hls => ?_⟩
  refine ⟨hasLines_firstLines hls, fun e he => ?_, fun cs hcs m front hfront => ?_⟩
  · rw [read_eq_error_iff hls] at he
    obtain ⟨n, line, ds, hline, hbefore, hstop, hrefused⟩ := exists_refused_of_error he
    rw [Nat.add_comm 1] at hrefused
    let before : Checkpoints := ⟨ds, (ofLines_ascending hbefore).1⟩
    have hdescends := descends_iff_of_refused before hrefused
    refine ⟨n, line, before, hline, fun m front hfront => ?_, fun front hfront => ?_,
      fun other ls' hother htake => ?_, hdescends, fun hnot => ?_⟩
    · constructor
      · rintro ⟨e', he'⟩
        by_contra hle
        obtain ⟨ds', hds', -⟩ := exists_prefix_of_take hbefore m
        rw [List.take_take, Nat.min_eq_left (Nat.not_lt.mp hle)] at hds'
        rw [read_eq_error_iff hfront, hds'] at he'
        cases he'
      · intro hlt
        refine ⟨e, (read_eq_error_iff hfront).mpr (ofLines_of_take_eq hstop ?_)⟩
        rw [List.take_take, Nat.min_eq_left hlt]
    · exact (read_eq_ok_iff hfront).mpr hbefore
    · exact (read_eq_error_iff hother).mpr (ofLines_of_take_eq hstop htake)
    · cases hrefused with
      | malformed hfault => exact ⟨_, hfault, rfl⟩
      | unordered => exact absurd ((hdescends _ _).mp rfl) (hnot _ _)
  · rw [read_eq_ok_iff hls] at hcs
    obtain ⟨ds, hds, hprefix⟩ := exists_prefix_of_take hcs m
    exact ⟨⟨ds, (ofLines_ascending hds).1⟩, (read_eq_ok_iff hfront).mpr hds, hprefix⟩

/-- A comment with a carriage return, an empty line, two entries whose heights descend and a line that
is no entry: reading stops at the second entry, whatever comes behind it. -/
theorem read_stops_of_descent :
    let hash := List.replicate 64 '0'
    let descent := "5 2 ".toList ++ hash
    let ls := ["# regtest".toList, [], "10 1 ".toList ++ hash, descent, "junk".toList]
    let text := "# regtest\r\n\n10 1 ".toList ++ hash ++ '\n' :: descent ++ "\njunk".toList
    let e : CheckpointError := .unordered 4 ⟨5, by decide⟩ ⟨10, by decide⟩
    HasLines text ls ∧ read text = .error e ∧ (∃ before,
        (∀ front, HasLines front (ls.take 3) → read front = .ok before) ∧
          Descends before descent ⟨5, by decide⟩ ⟨10, by decide⟩) ∧
      ∀ other ls', HasLines other ls' → ls'.take 4 = ls.take 4 → read other = .error e := by
  intro hash descent ls text e
  have hcut : Cut text ls :=
    @Cut.returnFeed "# regtest".toList _ _ (by decide) <|
      @Cut.feed [] _ _ (by decide) (by decide) <|
        @Cut.feed ("10 1 ".toList ++ hash) _ _ (by decide) (by decide) <|
          @Cut.feed descent _ _ (by decide) (by decide) <| .last (by decide)
  have hls : HasLines text ls := Or.inr ⟨hcut, by decide⟩
  have hread : read text = .error e := rfl
  obtain ⟨hfirst, hstops, -⟩ := (read_stops text).2 ls hls
  obtain ⟨n, line, before, hline, hleast, hbefore, hother, hdescends, -⟩ := hstops e hread
  -- The first three lines are read and the first four are not.
  have hge : ¬ n < 3 := by
    let c : Checkpoint := ⟨⟨10, by decide⟩, .ofSeconds 1, some ⟨List.replicate 32 0, rfl⟩⟩
    have hfront : read (firstLines 3 text) = .ok ⟨[c], by decide⟩ := rfl
    rw [← hleast 3 _ (hfirst 3), hfront]
    rintro ⟨e', he'⟩
    cases he'
  have hlt : n < 4 := (hleast 4 _ (hfirst 4)).mp ⟨e, rfl⟩
  obtain rfl : n = 3 := by omega
  obtain rfl : descent = line := Option.some.inj hline
  exact ⟨hls, hread, ⟨before, hbefore, (hdescends _ _).mp rfl⟩, hother⟩

end Checkpoints

end WalletReplay
