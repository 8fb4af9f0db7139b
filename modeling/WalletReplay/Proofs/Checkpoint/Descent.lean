import WalletReplay.Proofs.Checkpoint.Stopping

/-!
# Where heights descend

Whether heights ascend is looked at in two places. A list of checkpoints is looked through for two
neighbours of which the second is not above the first. A text is read from its first line on, and each
checkpoint is compared with the last one before it, whatever lines without a checkpoint stand between
them.

Both find the same. Where every line of a text holds a checkpoint or nothing, the text is read if and
only if the list of what the lines hold is accepted; and otherwise both stop at the same checkpoint,
one telling its line and the other its place in the list.

## What is proved

* `ofList_eq_ok_iff`, `exists_ofList_iff` — a list is accepted if its heights ascend, and as it is.
* `firstDescent_append` — a list whose heights ascend up to a checkpoint descends behind that one.
* `read_agrees_ofList` — reading a text and looking through what its lines hold find the same.
-/

namespace WalletReplay

open Text

namespace Checkpoints

open Checkpoint

variable {number position n : Nat} {last : Option Height} {text line : List Char}
  {ls : List (List Char)} {held : List (Option Checkpoint)} {cs front rest : List Checkpoint}
  {c d : Checkpoint}

/-! ### Lists -/

/-- A list that is accepted is held as it is. -/
theorem ofList_eq_ok_iff {l : List Checkpoint} {cs : Checkpoints} :
    ofList l = .ok cs ↔ cs.toList = l := by
  unfold ofList
  split
  · rw [Except.ok.injEq]
    exact ⟨fun h => h ▸ rfl, fun h => by cases cs; cases h; rfl⟩
  · rename_i hdescent
    refine ⟨nofun, ?_⟩
    rintro rfl
    rw [firstDescent_eq_none_iff.mpr cs.ascending] at hdescent
    cases hdescent

theorem exists_ofList_iff {l : List Checkpoint} : (∃ cs, ofList l = .ok cs) ↔ Ascending l := by
  simp only [ofList_eq_ok_iff]
  constructor
  · rintro ⟨cs, rfl⟩
    exact cs.ascending
  · intro h
    exact ⟨⟨l, h⟩, rfl⟩

theorem ofList_eq_error {height previous : Height}
    (h : firstDescent 1 cs = some (position, height, previous)) :
    ofList cs = .error (.unordered position height previous) := by
  unfold ofList
  split
  · rename_i hnone
    rw [hnone] at h
    cases h
  · rename_i hsome
    rw [hsome] at h
    cases h
    rfl

/-- A checkpoint that the next one is above is passed over. -/
theorem firstDescent_cons (habove : ∀ d ∈ cs.head?, c.height < d.height) :
    firstDescent position (c :: cs) = firstDescent (position + 1) cs := by
  cases cs with
  | nil => rfl
  | cons d cs => exact if_neg (Fin.not_le.mpr (habove d rfl))

/-- **A list whose heights ascend up to a checkpoint** descends behind that one, if the next one is
not above it. -/
theorem firstDescent_append (h : Ascending (front ++ [d])) (hle : c.height ≤ d.height) :
    firstDescent position (front ++ d :: c :: rest) =
      some (position + front.length + 1, c.height, d.height) := by
  induction front generalizing position with
  | nil => exact if_pos hle
  | cons a front ih =>
    obtain ⟨habove, hrest⟩ := List.pairwise_cons.mp h
    have hhead : ∀ b ∈ (front ++ d :: c :: rest).head?, a.height < b.height := by
      intro b hb
      refine habove b ?_
      cases front with
      | nil =>
        obtain rfl : d = b := by simpa using hb
        exact List.mem_singleton_self d
      | cons b' front =>
        obtain rfl : b' = b := by simpa using hb
        exact List.mem_cons_self
    rw [List.cons_append, firstDescent_cons hhead, ih hrest, List.length_cons,
      Nat.add_comm front.length, ← Nat.add_assoc]

/-! ### Texts whose lines all hold something -/

/-- What is read of lines is what they hold. -/
theorem reduceOption_eq_of_ofLines (h : ofLines number last ls = .ok cs)
    (hheld : List.Forall₂ LineHolds ls held) : held.reduceOption = cs := by
  obtain ⟨held', hheld', rfl⟩ := exists_held_of_ofLines h
  rw [rightUnique_lineHolds.forall₂ hheld hheld']

theorem exists_held_of_getElem? (hheld : List.Forall₂ LineHolds ls held)
    (hline : ls[n]? = some line) : ∃ entry, held[n]? = some entry ∧ LineHolds line entry := by
  obtain ⟨hlt, rfl⟩ := List.getElem?_eq_some_iff.mp hline
  have hlt' : n < held.length := hheld.length_eq ▸ hlt
  exact ⟨held[n], List.getElem?_eq_getElem hlt', hheld.get hlt hlt'⟩

/-- The checkpoint on a line comes behind those on the lines before it. -/
theorem reduceOption_eq_append (hc : held[n]? = some (some c)) :
    held.reduceOption = (held.take n).reduceOption ++ c :: (held.drop (n + 1)).reduceOption := by
  obtain ⟨hlt, hc⟩ := List.getElem?_eq_some_iff.mp hc
  rw [← List.reduceOption_cons_of_some, ← List.reduceOption_append, ← hc,
    List.getElem_cons_drop, List.take_append_drop]

/-- The text is read, and the list of what its lines hold is accepted and is what is read; or both are
refused at one checkpoint. -/
theorem read_ofList_cases (hls : HasLines text ls) (hheld : List.Forall₂ LineHolds ls held) :
    (∃ cs, read text = .ok cs ∧ cs.toList = held.reduceOption) ∨
      ∃ n c previous, held[n]? = some (some c) ∧
        read text = .error (.unordered (n + 1) c.height previous) ∧
        ofList held.reduceOption =
          .error (.unordered ((held.take n).reduceOption.length + 1) c.height previous) := by
  cases hread : read text with
  | ok cs =>
    rw [read_eq_ok_iff hls] at hread
    exact Or.inl ⟨cs, rfl, (reduceOption_eq_of_ofLines hread hheld).symm⟩
  | error e =>
    rw [read_eq_error_iff hls] at hread
    obtain ⟨n, line, cs, hline, hbefore, -, hrefused⟩ := exists_refused_of_error hread
    obtain ⟨entry, hentry, hholds⟩ := exists_held_of_getElem? hheld hline
    have hcs := reduceOption_eq_of_ofLines hbefore (List.forall₂_take n hheld)
    rw [Nat.add_comm 1] at hrefused
    cases hrefused with
    | malformed hfault =>
      rw [ofLine_eq_ok_iff.mpr hholds] at hfault
      cases hfault
    | @unordered c previous hline' hlast hle =>
      obtain rfl : entry = some c := rightUnique_lineHolds hholds hline'
      -- The last checkpoint before the line is the one in front of it in the list.
      obtain ⟨d, hd, rfl⟩ : ∃ d, cs.getLast? = some d ∧ d.height = previous := by
        simpa [lastHeight] using hlast
      obtain ⟨front, rfl⟩ := List.getLast?_eq_some_iff.mp hd
      refine Or.inr ⟨n, c, d.height, hentry, rfl, ofList_eq_error ?_⟩
      rw [reduceOption_eq_append hentry, hcs, List.append_assoc, List.singleton_append,
        firstDescent_append (ofLines_ascending hbefore).1 hle, List.length_append, Nat.add_comm 1]
      rfl

/-- **Reading a text and looking through what its lines hold find the same.** Where every line of a
text holds a checkpoint or nothing, the text is read if and only if the list of these checkpoints is
accepted, and both give that list. If both are refused, they name the same two heights, and the place
that one names in the list is that of the checkpoint on the line that the other names. -/
theorem read_agrees_ofList {text : List Char} {ls : List (List Char)}
    {held : List (Option Checkpoint)} (hls : HasLines text ls)
    (hheld : List.Forall₂ LineHolds ls held) :
    let entries := held.reduceOption
    ((∃ cs, read text = .ok cs) ↔ ∃ cs, ofList entries = .ok cs) ∧
    (∀ cs, read text = .ok cs → ofList entries = .ok cs ∧ cs.toList = entries) ∧
    ∀ e e', read text = .error e → ofList entries = .error e' → ∃ n position c previous,
      e = .unordered (n + 1) c.height previous ∧
      e' = .unordered (position + 1) c.height previous ∧
      held[n]? = some (some c) ∧ entries[position]? = some c ∧
      position = (held.take n).reduceOption.length := by
  intro entries
  rcases read_ofList_cases hls hheld with ⟨cs, hread, hcs⟩ | ⟨n, c, previous, hc, hread, hlist⟩
  · have hlist : ofList entries = .ok cs := ofList_eq_ok_iff.mpr hcs
    rw [hread, hlist]
    refine ⟨Iff.rfl, fun cs' h => ?_, nofun⟩
    rw [← Except.ok.inj h]
    exact ⟨rfl, hcs⟩
  · rw [hread, hlist]
    refine ⟨by simp, nofun, fun e e' he he' => ?_⟩
    have hentry : entries[(held.take n).reduceOption.length]? = some c := by
      rw [show entries = _ from reduceOption_eq_append hc]
      simp
    exact ⟨n, _, c, previous, (Except.error.inj he).symm, (Except.error.inj he').symm, hc, hentry,
      rfl⟩

/-- A comment, two entries whose heights descend and an empty line between them: the second entry is
on the fourth line, and second in the list. -/
theorem read_agrees_ofList_of_descent :
    let hash := List.replicate 64 '0'
    let c : Checkpoint := ⟨⟨10, by decide⟩, .ofSeconds 1, some ⟨List.replicate 32 0, rfl⟩⟩
    let d : Checkpoint := ⟨⟨5, by decide⟩, .ofSeconds 2, some ⟨List.replicate 32 0, rfl⟩⟩
    let ls := ["# regtest".toList, "10 1 ".toList ++ hash, [], "5 2 ".toList ++ hash ++ "#".toList]
    let held := [none, some c, none, some d]
    HasLines (unlines ls) ls ∧ List.Forall₂ LineHolds ls held ∧
      read (unlines ls) = .error (.unordered 4 d.height c.height) ∧
      ofList [c, d] = .error (.unordered 2 d.height c.height) ∧
      held[3]? = some (some d) ∧ (held.take 3).reduceOption.length = 1 := by
  intro hash c d ls held
  have hls : HasLines (unlines ls) ls := Or.inl (cut_unlines (by decide))
  have hheld : List.Forall₂ LineHolds ls held := by
    simp only [ls, held, List.forall₂_cons, List.forall₂_nil_left_iff, ← ofLine_eq_ok_iff, and_true]
    exact ⟨rfl, rfl, rfl, rfl⟩
  have hread : read (unlines ls) = .error (.unordered 4 d.height c.height) := rfl
  have hlist : ofList [c, d] = .error (.unordered 2 d.height c.height) := rfl
  obtain ⟨n, position, c', previous, he, he', -, -, hposition⟩ :=
    (read_agrees_ofList hls hheld).2.2 _ _ hread hlist
  obtain ⟨hn, -⟩ := CheckpointError.unordered.inj he
  obtain ⟨hp, -⟩ := CheckpointError.unordered.inj he'
  obtain rfl : n = 3 := by omega
  obtain rfl : position = 1 := by omega
  exact ⟨hls, hheld, hread, hlist, rfl, hposition.symm⟩

end Checkpoints

end WalletReplay
