import WalletReplay.Proofs.Scheduler.Line

/-!
# What calls in line have left to do

A call that is polled while it holds the chain gets further: it makes its next client call, or it is
over. How many polls that takes at most shows in where it stands. A call that waits for the chain
gets no further when it is polled, but whoever is before it in line has only so many polls left, and
those who come later stand behind it.

So for each call in line there is a number, of the polls that it and those before it have left, which
nothing raises and which a poll of the first in line lowers.

## What is proved

* `Step.line_cases` — a step leaves the line as it is, and then brings its call further; or its
  caller joins the line, or leaves it.
* `through_poll_le`, `through_create_le`, `through_cancel_le` — what others do does not raise the
  polls that are left.
* `through_poll_lt` — a poll of the first in line lowers them.
-/

namespace WalletReplay

open Relation

/-! ### Polls that are left -/

/-- The polls that an attempt takes from a stage to its end, if the client does not fail. -/
def Stage.polls : Stage → Nat
  | stopping _ => 7
  | closing _ => 6
  | creating => 5
  | building _ => 4
  | connecting _ _ => 3
  | starting _ => 2
  | resuming _ => 1

/-- The polls that work takes to its end, if the client does not fail. -/
def Work.polls : Work → Nat
  | replay _ _ stage => stage.polls
  | starting _ => 2
  | resuming _ => 1
  | stopping _ => 2
  | closing _ => 1

/-- The polls that an errand takes once its caller holds the chain, at most. -/
def Errand.polls : Errand → Nat
  | replay _ => 8
  | regular | shutdown => 3

/-- The polls that a call takes to its end, at most, not counting those while others are before
it. -/
def Call.polls : Call → Nat
  | fresh .tick => 9
  | fresh .regular | fresh .shutdown => 4
  | waiting errand => errand.polls
  | working work => work.polls

namespace Work

theorem polls_pos (w : Work) : 0 < w.polls := by
  cases w with
  | replay task floor stage => cases stage <;> simp [polls, Stage.polls]
  | starting | resuming | stopping | closing => simp [polls]

theorem polls_le (w : Work) : w.polls ≤ 8 := by
  cases w with
  | replay task floor stage => cases stage <;> simp [polls, Stage.polls]
  | starting | resuming | stopping | closing => simp [polls]

/-- When the client has answered well, there is less left to do. -/
theorem polls_succeed {slot : Option Stack} {client : Client} {w next : Work}
    (h : (w.succeed slot client).next = some next) : next.polls < w.polls := by
  cases w with
  | replay task floor stage =>
    cases stage <;> simp [succeed, Stage.succeed] at h <;> subst h <;> simp [polls, Stage.polls]
  | starting | resuming | stopping | closing =>
    simp [succeed] at h <;> subst h <;> simp [polls]

theorem polls_attempt (task : Task) (slot : Option Stack) (floor : Option Height) :
    (attempt task slot floor).polls < (Errand.replay task).polls := by
  cases slot <;> simp [attempt, polls, Stage.polls, Errand.polls]

end Work

theorem Errand.polls_pos (errand : Errand) : 0 < errand.polls := by
  cases errand <;> simp [polls]

namespace Call

variable {c : Call}

theorem polls_pos (c : Call) : 0 < c.polls := by
  cases c with
  | fresh kind => cases kind <;> simp [polls]
  | waiting errand => exact errand.polls_pos
  | working work => exact work.polls_pos

theorem polls_le (h : c.isBegun = true) : c.polls ≤ 8 := by
  cases c with
  | fresh kind => simp [isBegun] at h
  | waiting errand => cases errand <;> simp [polls, Errand.polls]
  | working work => exact work.polls_le

end Call

/-! ### Sums over the line -/

/-- The sum of what callers count for, up to and with the first occurrence of one of them. -/
def sumThrough (count : Caller → Nat) (k : Caller) : List Caller → Nat
  | [] => 0
  | l :: rest => if l = k then count l else count l + sumThrough count k rest

section

variable {count count' : Caller → Nat} {k l : Caller} {line : List Caller}

theorem sumThrough_mono (h : ∀ m ∈ line, count' m ≤ count m) :
    sumThrough count' k line ≤ sumThrough count k line := by
  induction line with
  | nil => exact Nat.le_refl _
  | cons m rest ih =>
    have hm := h m (by simp)
    have hrest := ih fun n hn => h n (List.mem_cons_of_mem m hn)
    unfold sumThrough
    split
    · exact hm
    · omega

/-- Those who stand behind do not count. -/
theorem sumThrough_append (h : k ∈ line) (more : List Caller) :
    sumThrough count k (line ++ more) = sumThrough count k line := by
  induction line with
  | nil => simp at h
  | cons m rest ih =>
    by_cases hm : m = k
    · simp [sumThrough, hm]
    · have hrest : k ∈ rest := (List.mem_cons.mp h).resolve_left (Ne.symm hm)
      simp [sumThrough, hm, ih hrest]

theorem sumThrough_erase (hl : l ≠ k) :
    sumThrough count k (line.erase l) ≤ sumThrough count k line := by
  induction line with
  | nil => exact Nat.le_refl _
  | cons m rest ih =>
    by_cases hm : m = l
    · subst hm
      simp [sumThrough, hl]
    · rw [List.erase_cons_tail (by simpa using hm)]
      unfold sumThrough
      split
      · exact Nat.le_refl _
      · omega

theorem le_sumThrough (h : k ∈ line) : count k ≤ sumThrough count k line := by
  induction line with
  | nil => simp at h
  | cons m rest ih =>
    by_cases hm : m = k
    · simp [sumThrough, hm]
    · have hrest := ih ((List.mem_cons.mp h).resolve_left (Ne.symm hm))
      simp only [sumThrough, hm, if_false]
      omega

theorem sumThrough_le {most : Nat} (h : ∀ m ∈ line, count m ≤ most) :
    sumThrough count k line ≤ most * line.length := by
  induction line with
  | nil => exact Nat.zero_le _
  | cons m rest ih =>
    have hm := h m (by simp)
    have hrest := ih fun n hn => h n (List.mem_cons_of_mem m hn)
    have hlength : most * (m :: rest).length = most * rest.length + most := by
      rw [List.length_cons, Nat.mul_succ]
    unfold sumThrough
    split
    · omega
    · omega

end

namespace Scheduler

variable {s s' : Scheduler} {k l : Caller}

/-- The polls that the call of a caller takes to its end, at most, once it holds the chain. -/
def pollsLeft (s : Scheduler) (k : Caller) : Nat :=
  match s.calls.get? k with
  | some c => c.polls
  | none => 0

/-- The polls that a call in line, and those before it, have left at most. -/
def through (s : Scheduler) (k : Caller) : Nat :=
  sumThrough s.pollsLeft k s.line

theorem pollsLeft_of_get? {c : Call} (h : s.calls.get? k = some c) : s.pollsLeft k = c.polls := by
  simp [pollsLeft, h]

theorem pollsLeft_congr (h : s'.calls.get? k = s.calls.get? k) : s'.pollsLeft k = s.pollsLeft k := by
  simp only [pollsLeft, h]

theorem through_congr (hline : s'.line = s.line) (hcalls : s'.calls = s.calls) :
    s'.through k = s.through k := by
  have hpolls : s'.pollsLeft = s.pollsLeft := by
    funext l
    exact pollsLeft_congr (by rw [hcalls])
  rw [through, through, hline, hpolls]

namespace InLine

theorem pollsLeft_pos (hs : s.InLine) (hk : k ∈ s.line) : 0 < s.pollsLeft k := by
  obtain ⟨c, hc, -⟩ := (hs.mem_iff k).mp hk
  rw [pollsLeft_of_get? hc]
  exact c.polls_pos

theorem through_pos (hs : s.InLine) (hk : k ∈ s.line) : 0 < s.through k :=
  Nat.lt_of_lt_of_le (hs.pollsLeft_pos hk) (le_sumThrough hk)

theorem through_le (hs : s.InLine) (k : Caller) : s.through k ≤ 8 * s.line.length := by
  apply sumThrough_le
  intro l hl
  obtain ⟨c, hc, hbegun⟩ := (hs.mem_iff l).mp hl
  rw [pollsLeft_of_get? hc]
  exact Call.polls_le hbegun

end InLine

/-! ### Steps -/

theorem pollsLeft_engage (s : Scheduler) (k : Caller) (w : Work) :
    (s.engage k w).pollsLeft k = w.polls :=
  pollsLeft_of_get? (c := .working w) (Table.get?_set_self _ _ _)

theorem Holds.pollsLeft {errand : Errand} (h : s.Holds k errand) : s.pollsLeft k = errand.polls :=
  pollsLeft_of_get? h.1

/-- A step leaves the line as it is, and then a call in line has less left; or its caller joins the
line, or leaves it. -/
theorem Step.line_cases (hs : s.InLine) (h : Step k s s') :
    s'.line = s.line ∧ (k ∈ s.line → s'.pollsLeft k < s.pollsLeft k) ∨
      k ∉ s.line ∧ s'.line = s.line ++ [k] ∨ s'.line = s.line.erase k := by
  cases h with
  | rest hcall | retire hcall =>
    exact Or.inl ⟨rfl, fun hk => absurd hk (hs.notMem_of_fresh hcall)⟩
  | dispatch hcall | askRegular hcall =>
    exact Or.inr (Or.inl ⟨hs.notMem_of_fresh hcall, rfl⟩)
  | askShutdown hcall =>
    refine Or.inr (Or.inl ⟨hs.notMem_of_fresh hcall, ?_⟩)
    rw [callShutdown_eq]
    rfl
  | refuse | declineRegular | declineShutdown => exact Or.inr (Or.inr (line_depart _ k))
  | @attempt task hcall =>
    refine Or.inl ⟨rfl, fun _ => ?_⟩
    rw [pollsLeft_engage, hcall.pollsLeft]
    exact Work.polls_attempt task s.slot _
  | beginRegular hcall =>
    refine Or.inl ⟨rfl, fun _ => ?_⟩
    rw [pollsLeft_engage, hcall.pollsLeft]
    split <;> simp [Work.polls, Errand.polls]
  | beginShutdown hcall =>
    refine Or.inl ⟨rfl, fun _ => ?_⟩
    rw [pollsLeft_engage, hcall.pollsLeft]
    simp [Work.polls, Errand.polls]
  | @succeed w hcall =>
    cases hnext : (w.succeed s.slot (s.hear k w true).client).next with
    | none => exact Or.inr (Or.inr (line_depart _ k))
    | some next =>
      refine Or.inl ⟨rfl, fun _ => ?_⟩
      rw [goOn, pollsLeft_engage, pollsLeft_of_get? hcall]
      exact Work.polls_succeed hnext
  | fail =>
    refine Or.inr (Or.inr ?_)
    rw [countFailure_eq]
    exact line_depart _ k

/-- Who leaves the line leaves the others no more to do. -/
theorem through_leave_le (hs : s.InLine) (hline : s'.line = s.line.erase k)
    (hothers : ∀ m, m ≠ k → s'.calls.get? m = s.calls.get? m) (hl : l ∈ s.line) (hne : l ≠ k) :
    l ∈ s'.line ∧ s'.through l ≤ s.through l := by
  have hleft : sumThrough s'.pollsLeft l (s.line.erase k) ≤
      sumThrough s.pollsLeft l (s.line.erase k) := by
    apply sumThrough_mono
    intro m hm
    have hmk : m ≠ k := (hs.nodup.mem_erase_iff.mp hm).1
    exact Nat.le_of_eq (pollsLeft_congr (hothers m hmk))
  rw [through, hline]
  exact ⟨(List.mem_erase_of_ne hne).mpr hl, Nat.le_trans hleft (sumThrough_erase (Ne.symm hne))⟩

/-- Steps of others take no caller out of the line, and do not raise the polls that it and those
before it have left. -/
theorem Step.through_le (hs : s.InLine) (h : Step k s s') (hl : l ∈ s.line) (hne : l ≠ k) :
    l ∈ s'.line ∧ s'.through l ≤ s.through l := by
  have hmono : (k ∈ s.line → s'.pollsLeft k ≤ s.pollsLeft k) →
      ∀ m ∈ s.line, s'.pollsLeft m ≤ s.pollsLeft m := by
    intro hk m hm
    by_cases hmk : m = k
    · subst hmk
      exact hk hm
    · exact Nat.le_of_eq (pollsLeft_congr (h.others hmk))
  rcases h.line_cases hs with ⟨hline, hless⟩ | ⟨hk, hline⟩ | hline
  · rw [through, hline]
    exact ⟨hl, sumThrough_mono (hmono fun hk => Nat.le_of_lt (hless hk))⟩
  · rw [through, hline, sumThrough_append hl]
    exact ⟨List.mem_append_left _ hl, sumThrough_mono (hmono fun h => absurd h hk)⟩
  · exact through_leave_le hs hline (fun m hm => h.others hm) hl hne

/-! ### Polls -/

theorem through_poll_le (hs : s.InLine) (hl : l ∈ s.line) (hne : l ≠ k) :
    l ∈ (s.poll k).1.line ∧ (s.poll k).1.through l ≤ s.through l := by
  have h := poll_steps s k
  generalize (s.poll k).1 = t at h ⊢
  suffices t.InLine ∧ l ∈ t.line ∧ t.through l ≤ s.through l from this.2
  induction h with
  | refl => exact ⟨hs, hl, Nat.le_refl _⟩
  | tail _ hstep ih =>
    obtain ⟨hline, hmem, hle⟩ := ih
    obtain ⟨hmem', hle'⟩ := hstep.through_le hline hmem hne
    exact ⟨hline.step hstep, hmem', Nat.le_trans hle' hle⟩

theorem through_cancel_le (hs : s.InLine) (hl : l ∈ s.line) (hne : l ≠ k) :
    l ∈ (s.cancel k).1.line ∧ (s.cancel k).1.through l ≤ s.through l := by
  cases hcall : s.calls.get? k with
  | none =>
    rw [cancel_of_none hcall]
    exact ⟨hl, Nat.le_refl _⟩
  | some c =>
    refine through_leave_le hs ?_ ?_ hl hne
    · rw [cancel_of_some hcall]
    · intro m hm
      rw [cancel_of_some hcall]
      exact Table.get?_erase_of_ne _ hm

/-- Nothing is left that was not, as long as the line and the calls are as they were. -/
theorem through_le_of_eq (hline : s'.line = s.line) (hcalls : s'.calls = s.calls) (hl : l ∈ s.line) :
    l ∈ s'.line ∧ s'.through l ≤ s.through l := by
  rw [through_congr hline hcalls, hline]
  exact ⟨hl, Nat.le_refl _⟩

theorem through_create_le (hs : s.InLine) (h : s.calls.get? k = none) (kind : CallKind)
    (hl : l ∈ s.line) : l ∈ (s.create k kind).line ∧ (s.create k kind).through l ≤ s.through l := by
  refine ⟨hl, sumThrough_mono ?_⟩
  intro m hm
  have hne : m ≠ k := ne_of_mem_of_not_mem hm (hs.notMem_of_none h)
  exact Nat.le_of_eq (pollsLeft_congr (Table.get?_set_of_ne _ hne _))

/-- A call that is left pending is in line. -/
theorem InLine.mem_line_of_pending (hs : s.InLine) (h : (s.poll k).2 = .pending) :
    k ∈ (s.poll k).1.line := by
  have hline : (s.poll k).1.InLine :=
    moves_invariant (fun hs h => hs.move h) hs (moves_poll (p := {}) s k)
  exact (hline.mem_iff k).mpr ((settled_poll s k).begun h)

/-- A call that holds the chain takes a step when it is polled. -/
theorem step_poll_of_head (hs : s.InLine) (hhead : s.line.head? = some k) :
    Step k s (s.poll k).1 := by
  obtain ⟨c, hc, hbegun⟩ := (hs.mem_iff k).mp (List.mem_of_head? hhead)
  cases c with
  | fresh kind => simp [Call.isBegun] at hbegun
  | waiting errand =>
    simp only [poll, hc, hhead, if_true]
    exact step_enterChain ⟨hc, hhead⟩
  | working w =>
    simp only [poll, hc]
    exact step_receive hc

/-- **A poll of the first in line lowers the polls that are left**, of every call that it does not
bring to its end. -/
theorem through_poll_lt (hs : s.InLine) (hhead : s.line.head? = some k) (hl : l ∈ s.line)
    (hl' : l ∈ (s.poll k).1.line) : (s.poll k).1.through l < s.through l := by
  have hstep := step_poll_of_head hs hhead
  obtain ⟨rest, hcons⟩ := List.head?_eq_some_iff.mp hhead
  have hk : k ∈ s.line := List.mem_of_head? hhead
  have hnodup := hs.nodup
  rw [hcons, List.nodup_cons] at hnodup
  have hothers : ∀ m ∈ rest, (s.poll k).1.pollsLeft m = s.pollsLeft m := by
    intro m hm
    refine pollsLeft_congr (hstep.others ?_)
    rintro rfl
    exact hnodup.1 hm
  have hrest : sumThrough (s.poll k).1.pollsLeft l rest ≤ sumThrough s.pollsLeft l rest :=
    sumThrough_mono fun m hm => Nat.le_of_eq (hothers m hm)
  rcases hstep.line_cases hs with ⟨hline, hless⟩ | ⟨hnot, -⟩ | hline
  · have hlt := hless hk
    rw [through, through, hline, hcons]
    simp only [sumThrough]
    split
    · exact hlt
    · omega
  · exact absurd hk hnot
  · have hpos := hs.pollsLeft_pos hk
    rw [hline, hcons, List.erase_cons_head] at hl'
    have hne : k ≠ l := by
      rintro rfl
      exact hnodup.1 hl'
    rw [through, through, hline, hcons, List.erase_cons_head]
    simp only [sumThrough, hne, if_false]
    omega

end Scheduler

end WalletReplay
