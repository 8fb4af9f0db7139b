import WalletReplay.Proofs.Scheduler.Traffic

/-!
# The end that a shutdown makes

A shutdown takes effect when it is first polled. From then on a tick or a regular download that gets
hold of the chain is turned away, so that the only ones that still work are those that were at work
already. A shutdown that gets hold of the chain takes it out of its place and never puts it back.
When a shutdown has returned, well or not, the place is empty and nobody is at work, and whoever
gets hold of the chain after that is turned away.

## What is proved

* `Guarded.move` — moves keep it that only shutdowns that were called for are in line for one, and
  that the place of the chain is empty while a shutdown is at work.
* `Move.atWork_of_closed` — after a shutdown whoever works, other than to shut down, did before.
* `Guarded.closed_of_returned` — a shutdown that returns leaves nothing to work on.
* `Closed.moves` — then nobody ever works again.
-/

namespace WalletReplay

/-! ### Kinds -/

/-- The kind of the calls that go on an errand. -/
def Errand.kind : Errand → CallKind
  | replay _ => .tick
  | regular => .regular
  | shutdown => .shutdown

/-- The kind of the calls that do some work. -/
def Work.kind : Work → CallKind
  | replay _ _ _ => .tick
  | starting _ | resuming _ => .regular
  | stopping _ | closing _ => .shutdown

/-- The kind of a call. -/
def Call.kind : Call → CallKind
  | fresh kind => kind
  | waiting errand => errand.kind
  | working w => w.kind

theorem Work.kind_attempt (task : Task) (slot : Option Stack) (floor : Option Height) :
    (attempt task slot floor).kind = .tick := by
  cases slot <;> rfl

/-- Work goes on as work of the same kind. -/
theorem Work.kind_of_succeed {slot : Option Stack} {client : Client} {w next : Work}
    (h : (w.succeed slot client).next = some next) : next.kind = w.kind := by
  cases w with
  | replay task floor stage => cases stage <;> simp_all [succeed, Stage.succeed] <;> subst h <;> rfl
  | starting | stopping =>
    obtain rfl := Option.some.inj h
    rfl
  | resuming | closing => simp [succeed] at h

/-- A shutdown leaves the place of the chain as it is while it works. -/
theorem Work.slot_succeed {slot : Option Stack} {client : Client} {w : Work}
    (h : w.kind = .shutdown) : (w.succeed slot client).slot = slot := by
  cases w with
  | replay | starting | resuming => simp [Work.kind] at h
  | stopping | closing => rfl

theorem Work.slotAfterFailure_of_shutdown {slot : Option Stack} {w : Work}
    (h : w.kind = .shutdown) : w.slotAfterFailure slot = slot := by
  cases w with
  | replay | starting | resuming => simp [Work.kind] at h
  | stopping | closing => rfl

/-- Work of a shutdown is what a call has come to shut down for. -/
theorem Work.isShutdown_of_kind {w : Work} (h : w.kind = .shutdown) :
    (Call.working w).isShutdown = true := by
  cases w with
  | replay | starting | resuming => simp [kind] at h
  | stopping | closing => rfl

theorem Errand.eq_shutdown {errand : Errand} (h : errand.kind = .shutdown) :
    errand = .shutdown := by
  cases errand with
  | replay | regular => simp [kind] at h
  | shutdown => rfl

namespace Scheduler

open Relation

variable {s s' t : Scheduler} {k : Caller} {p : Terms}

/-! ### Openings -/

theorem kind_of_opening {errand : Errand} {w : Work} {slot : Option Stack}
    (h : s.opening errand = some (w, slot)) : w.kind = errand.kind := by
  cases errand with
  | replay task =>
    simp only [opening] at h
    split_ifs at h
    obtain ⟨rfl, -⟩ := Prod.mk.inj (Option.some.inj h)
    exact Work.kind_attempt _ _ _
  | regular =>
    simp only [opening] at h
    split_ifs at h
    obtain ⟨stack, -, heq⟩ := Option.map_eq_some_iff.mp h
    obtain ⟨rfl, -⟩ := Prod.mk.inj heq
    split <;> rfl
  | shutdown =>
    obtain ⟨stack, -, heq⟩ := Option.map_eq_some_iff.mp h
    obtain ⟨rfl, -⟩ := Prod.mk.inj heq
    rfl

/-- After a shutdown only shutdowns begin to work. -/
theorem errand_of_opening (hclosed : s.isShutDown = true) {errand : Errand} {w : Work}
    {slot : Option Stack} (h : s.opening errand = some (w, slot)) : errand = .shutdown := by
  cases errand with
  | replay | regular => simp [opening, hclosed] at h
  | shutdown => rfl

/-- A shutdown that begins to work takes the chain out of its place. -/
theorem slot_of_opening {w : Work} {slot : Option Stack}
    (h : s.opening .shutdown = some (w, slot)) : slot = none := by
  obtain ⟨stack, -, heq⟩ := Option.map_eq_some_iff.mp h
  exact (Prod.mk.inj heq).2.symm

/-- A shutdown is turned away only if there is no chain. -/
theorem slot_of_opening_eq_none (h : s.opening .shutdown = none) : s.slot = none :=
  Option.map_eq_none_iff.mp h

/-! ### Who works after a shutdown -/

theorem Move.isShutDown_eq_true (h : Move p s s') (hclosed : s.isShutDown = true) :
    s'.isShutDown = true := by
  by_contra hopen
  rw [Bool.not_eq_true] at hopen
  rw [h.isShutDown_eq_false hopen] at hclosed
  exact Bool.false_ne_true hclosed

theorem isShutDown_eq_true_of_moves (h : ReflTransGen (Move p) s s')
    (hclosed : s.isShutDown = true) : s'.isShutDown = true := by
  induction h with
  | refl => exact hclosed
  | tail _ h ih => exact h.isShutDown_eq_true ih

/-- After a shutdown whoever works, other than to shut down, was at such work before. -/
theorem Move.atWork_of_closed (hs : s.InLine) (h : Move p s s') (hclosed : s.isShutDown = true)
    {l : Caller} {w : Work} (hw : s'.AtWork l w) (hkind : w.kind ≠ .shutdown) :
    ∃ v, s.AtWork l v ∧ v.kind = w.kind := by
  rcases h.traffic_eq_or_loud with heq | ⟨k, hloud⟩
  · exact ⟨w, Hushed.atWork ⟨h, heq⟩ hw, rfl⟩
  · obtain rfl := hloud.eq_of_atWork hs hw
    cases hloud with
    | decline _ _ _ _ hcalls | finish _ _ _ _ hcalls | fail _ _ _ hcalls =>
      exact absurd hw (not_atWork_of_erase hcalls w)
    | begin _ hopening _ hcalls =>
      obtain rfl := (atWork_of_set_working hcalls).unique hw
      rw [kind_of_opening hopening, errand_of_opening hclosed hopening] at hkind
      exact absurd rfl hkind
    | @goOn v next hcall hnext _ _ hcalls =>
      obtain rfl := (atWork_of_set_working hcalls).unique hw
      exact ⟨v, hcall, (Work.kind_of_succeed hnext).symm⟩

theorem atWork_of_closed_of_moves (hs : s.InLine) (h : ReflTransGen (Move p) s s')
    (hclosed : s.isShutDown = true) {l : Caller} {w : Work} (hw : s'.AtWork l w)
    (hkind : w.kind ≠ .shutdown) : ∃ v, s.AtWork l v ∧ v.kind = w.kind := by
  induction h generalizing w with
  | refl => exact ⟨w, hw, rfl⟩
  | tail hpast h ih =>
    have hline := moves_invariant (fun hs h => InLine.move hs h) hs hpast
    have hclosed' := isShutDown_eq_true_of_moves hpast hclosed
    obtain ⟨v, hv, heq⟩ := h.atWork_of_closed hline hclosed' hw hkind
    obtain ⟨u, hu, heq'⟩ := ih hv (heq ▸ hkind)
    exact ⟨u, hu, heq'.trans heq⟩

/-! ### The place of the chain -/

/-- A call that has come to shut down was called for, and while it works the place of the chain is
empty. -/
structure Guarded (s : Scheduler) : Prop extends InLine s where
  asked : s.isShutDown = false → ∀ l c, s.calls.get? l = some c → c.isShutdown = false
  taken : ∀ {l w}, s.AtWork l w → w.kind = .shutdown → s.slot = none

namespace Guarded

/-- As long as shutdown is not called, no call has come to shut down. -/
theorem asked_move (hs : ∀ l c, s.calls.get? l = some c → c.isShutdown = false)
    (hopen : s'.isShutDown = false) (h : Move p s s') :
    ∀ l c, s'.calls.get? l = some c → c.isShutdown = false := by
  have herase {k : Caller} (hcalls : s'.calls = s.calls.erase k) :
      ∀ l c, s'.calls.get? l = some c → c.isShutdown = false := by
    intro l c hc
    rw [hcalls, Table.get?_erase] at hc
    split_ifs at hc
    exact hs l c hc
  cases h with
  | step h => exact h.noShutdown hs hopen
  | create kind h =>
    intro l c hc
    simp only [create, Table.get?_set] at hc
    split_ifs at hc
    · obtain rfl := Option.some.inj hc
      rfl
    · exact hs l c hc
  | discard h | drop _ h => exact herase (by rw [cancel_of_some h])
  | enroll =>
    rw [enroll_eq]
    exact hs
  | complete =>
    rw [complete_eq]
    exact hs
  | own | listen | progress | endDownload | inject | setHeight | wait | drivers => exact hs

theorem taken_move (hs : s.Guarded) (h : Move p s s') {l : Caller} {w : Work} (hw : s'.AtWork l w)
    (hkind : w.kind = .shutdown) : s'.slot = none := by
  rcases h.cases with hsilent | ⟨k, hloud⟩ | ⟨-, k, v, hcall, rfl⟩
  · rw [hsilent.slot]
    exact hs.taken ((hsilent.working l w).mp hw) hkind
  · obtain rfl := hloud.eq_of_atWork hs.toInLine hw
    cases hloud with
    | decline _ _ _ _ hcalls | finish _ _ _ _ hcalls | fail _ _ _ hcalls =>
      exact absurd hw (not_atWork_of_erase hcalls w)
    | begin _ hopening _ hcalls =>
      obtain rfl := (atWork_of_set_working hcalls).unique hw
      obtain rfl := Errand.eq_shutdown ((kind_of_opening hopening).symm.trans hkind)
      exact slot_of_opening hopening
    | @goOn v _ hcall hnext hslot _ hcalls =>
      obtain rfl := (atWork_of_set_working hcalls).unique hw
      have hv : v.kind = .shutdown := (Work.kind_of_succeed hnext).symm.trans hkind
      rw [hslot, Work.slot_succeed hv]
      exact hs.taken hcall hv
  · have hquiet : Hushed p s (s.cancel k).1 := ⟨h, s.traffic_cancel k⟩
    have hslot : (s.cancel k).1.slot = s.slot := by rw [cancel_of_some hcall]
    rw [hslot]
    exact hs.taken (hquiet.atWork hw) hkind

/-- **Moves keep the place of the chain guarded.** -/
theorem move (hs : s.Guarded) (h : Move p s s') : s'.Guarded where
  toInLine := hs.toInLine.move h
  asked hopen := asked_move (hs.asked (h.isShutDown_eq_false hopen)) hopen h
  taken := hs.taken_move h

/-- A call that has come to shut down was called for. -/
theorem isShutDown (hs : s.Guarded) {c : Call} (hcall : s.calls.get? k = some c)
    (hc : c.isShutdown = true) : s.isShutDown = true := by
  by_contra hopen
  rw [hs.asked (Bool.not_eq_true _ ▸ hopen) k c hcall] at hc
  exact Bool.false_ne_true hc

end Guarded

theorem guarded_fresh (checkpoints : Checkpoints) (retry : RetryPolicy) (interval : Nat)
    (synced : Option Height) : (fresh checkpoints retry interval synced).Guarded := by
  have hline := inLine_fresh checkpoints retry interval synced
  cases synced <;> exact
    { toInLine := hline
      asked := fun _ _ _ h => by simp [fresh, start, startSynced, Table.get?] at h
      taken := fun h => by simp [AtWork, fresh, start, startSynced, Table.get?] at h }

/-! ### The end -/

/-- Shutdown was called, the place of the chain is empty, and nobody is at work. -/
structure Closed (s : Scheduler) : Prop where
  shutDown : s.isShutDown = true
  slot : s.slot = none
  idle : ∀ l w, ¬ s.AtWork l w

namespace Closed

theorem opening_eq_none (hs : s.Closed) (errand : Errand) : s.opening errand = none := by
  cases errand with
  | replay | regular => simp [opening, hs.shutDown]
  | shutdown => simp [opening, hs.slot]

/-- A loud step turns its call away. -/
theorem loud (hs : s.Closed) (h : Loud k s s') : s'.slot = s.slot ∧
    s'.calls = s.calls.erase k ∧ s'.traffic = s.traffic ++ [.acquired k] := by
  cases h with
  | decline _ _ hslot _ hcalls htraffic => exact ⟨hslot, hcalls, htraffic⟩
  | begin _ hopening =>
    rw [hs.opening_eq_none] at hopening
    simp at hopening
  | goOn hcall | finish hcall | fail hcall => exact absurd hcall (hs.idle k _)

theorem move (hs : s.Closed) (hline : s.InLine) (h : Move p s s') : s'.Closed := by
  refine ⟨h.isShutDown_eq_true hs.shutDown, ?_, fun l w hw => ?_⟩
  · rcases h.cases with hsilent | ⟨k, hloud⟩ | ⟨-, k, w, hcall, -⟩
    · rw [hsilent.slot, hs.slot]
    · rw [(hs.loud hloud).1, hs.slot]
    · exact absurd hcall (hs.idle k w)
  · rcases h.traffic_eq_or_loud with heq | ⟨k, hloud⟩
    · exact hs.idle l w (Hushed.atWork ⟨h, heq⟩ hw)
    · exact hloud.not_atWork hline (hs.loud hloud).2.1 l w hw

/-- **Nothing follows on the end**: nobody works, and whoever gets hold of the chain is turned
away. -/
theorem moves (hs : s.Closed) (hline : s.InLine) (h : ReflTransGen (Move p) s s') :
    s'.Closed ∧ ∃ callers : List Caller, s'.traffic = s.traffic ++ callers.map .acquired := by
  induction h with
  | refl => exact ⟨hs, [], (List.append_nil _).symm⟩
  | @tail t u hpast h ih =>
    obtain ⟨ht, callers, htraffic⟩ := ih
    have htline : t.InLine := moves_invariant (fun hs h => hs.move h) hline hpast
    refine ⟨ht.move htline h, ?_⟩
    rcases h.traffic_eq_or_loud with heq | ⟨k, hloud⟩
    · exact ⟨callers, heq.trans htraffic⟩
    · exact ⟨callers ++ [k], by simp [(ht.loud hloud).2.2, htraffic]⟩

end Closed

/-! ### Shutdowns that are over -/

theorem Step.exists_call (h : Step k s s') : ∃ c, s.calls.get? k = some c := by
  cases h with
  | rest hcall | retire hcall | dispatch hcall | askRegular hcall | askShutdown hcall
  | succeed hcall | fail hcall => exact ⟨_, hcall⟩
  | refuse hcall | attempt hcall | declineRegular hcall | beginRegular hcall
  | declineShutdown hcall | beginShutdown hcall => exact ⟨_, hcall.1⟩

/-- A shutdown that begins stands in line. -/
theorem Step.waiting_of_fresh_shutdown (h : Step k s s')
    (hcall : s.calls.get? k = some (.fresh .shutdown)) :
    s'.calls.get? k = some (.waiting .shutdown) := by
  cases h with
  | askShutdown => exact Table.get?_set_self _ _ _
  | rest h | retire h | dispatch h | askRegular h | succeed h | fail h => simp [hcall] at h
  | refuse h | attempt h | declineRegular h | beginRegular h | declineShutdown h
  | beginShutdown h => exact absurd (hcall.symm.trans h.1) (by simp)

/-- A shutdown that gets hold of the chain or is answered goes on as one, or all is at an end. -/
theorem Guarded.loud_shutdown (hs : s.Guarded) (hmove : Move p s s') (h : Loud k s s') {c : Call}
    (hcall : s.calls.get? k = some c) (hkind : c.kind = .shutdown) :
    (∃ c', s'.calls.get? k = some c' ∧ c'.kind = .shutdown) ∨
      s'.Closed ∧ s'.calls.get? k = none := by
  have hend (hc : c.isShutdown = true) (hslot : s'.slot = none)
      (hcalls : s'.calls = s.calls.erase k) : s'.Closed ∧ s'.calls.get? k = none := by
    refine ⟨⟨hmove.isShutDown_eq_true (hs.isShutDown hcall hc), hslot,
      h.not_atWork hs.toInLine hcalls⟩, ?_⟩
    rw [hcalls, Table.get?_erase_self]
  cases h with
  | decline hholds hopening hslot _ hcalls =>
    obtain rfl := Option.some.inj (hcall.symm.trans hholds.1)
    obtain rfl := Errand.eq_shutdown hkind
    exact Or.inr (hend rfl (hslot.trans (slot_of_opening_eq_none hopening)) hcalls)
  | begin hholds hopening _ hcalls =>
    obtain rfl := Option.some.inj (hcall.symm.trans hholds.1)
    exact Or.inl ⟨_, atWork_of_set_working hcalls, (kind_of_opening hopening).trans hkind⟩
  | goOn hwork hnext _ _ hcalls =>
    obtain rfl := Option.some.inj (hcall.symm.trans hwork)
    exact Or.inl ⟨_, atWork_of_set_working hcalls, (Work.kind_of_succeed hnext).trans hkind⟩
  | finish hwork _ hslot _ hcalls =>
    obtain rfl := Option.some.inj (hcall.symm.trans hwork)
    rw [Work.slot_succeed hkind, hs.taken hwork hkind] at hslot
    exact Or.inr (hend (Work.isShutdown_of_kind hkind) hslot hcalls)
  | fail hwork hslot _ hcalls =>
    obtain rfl := Option.some.inj (hcall.symm.trans hwork)
    rw [Work.slotAfterFailure_of_shutdown hkind, hs.taken hwork hkind] at hslot
    exact Or.inr (hend (Work.isShutdown_of_kind hkind) hslot hcalls)

/-- **A shutdown that is over is the end.** -/
theorem Guarded.closed_of_steps (hs : s.Guarded) {c : Call} (hcall : s.calls.get? k = some c)
    (hkind : c.kind = .shutdown) (h : ReflTransGen (Step k) s s')
    (hgone : s'.calls.get? k = none) : s'.Closed := by
  suffices hlast : s'.Guarded ∧ ((∃ c', s'.calls.get? k = some c' ∧ c'.kind = .shutdown) ∨
      s'.Closed ∧ s'.calls.get? k = none) by
    rcases hlast.2 with ⟨c', hc', -⟩ | ⟨hclosed, -⟩
    · rw [hgone] at hc'
      simp at hc'
    · exact hclosed
  clear hgone
  induction h with
  | refl => exact ⟨hs, Or.inl ⟨c, hcall, hkind⟩⟩
  | @tail t u _ hstep ih =>
    obtain ⟨ht, hbefore⟩ := ih
    have hmove : Move {} t u := .step hstep
    refine ⟨ht.move hmove, ?_⟩
    rcases hbefore with ⟨c', hc', hkind'⟩ | ⟨-, hnone⟩
    · rcases hstep.silent_or_loud (p := {}) with ⟨⟨kind, hfresh⟩, -⟩ | hloud
      · obtain rfl := Option.some.inj (hc'.symm.trans hfresh)
        obtain rfl : kind = .shutdown := hkind'
        exact Or.inl ⟨_, hstep.waiting_of_fresh_shutdown hfresh, rfl⟩
      · exact ht.loud_shutdown hmove hloud hc' hkind'
    · -- A call that is over takes no steps.
      obtain ⟨c', hc'⟩ := hstep.exists_call
      rw [hnone] at hc'
      simp at hc'

/-- A shutdown that returns is the end. -/
theorem Guarded.closed_of_returned (hs : s.Guarded) {c : Call} (hcall : s.calls.get? k = some c)
    (hkind : c.kind = .shutdown) {error : Option CallError} (h : (s.poll k).2 = .done error) :
    (s.poll k).1.Closed :=
  hs.closed_of_steps hcall hkind (poll_steps s k) ((settled_poll s k).gone (by simp [h]))

end Scheduler

end WalletReplay
