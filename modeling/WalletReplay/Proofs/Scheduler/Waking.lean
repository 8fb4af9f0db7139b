import WalletReplay.Proofs.Scheduler.Live

/-!
# Wake-ups

A queue awaits a tick if its head retires, so as to be popped, or is not dispatched though nothing
else runs. An offer and a completion may bring this about, and both wake a driver. Until some tick
has begun the wake-up is there: it is kept, or a driver has been told of it and is to run.

A driver may be told and yet go on for another reason, an interval that is due. It then passes the
wake-up on. Nothing is lost if it did not, for it ticks all the same; but the wake-up is there for
whoever would need it.

## What is proved

* `Step.awaitsTick`, `awaitsTick_tick` — no step makes a queue await a tick, and a tick ends that.
* `Listed.wakeOne`, `Listed.isRoused_wakeOne` — a wake-up is kept or told.
* `tends_pollDriver` — what a driver that runs leaves in order.
* `run_wakes` — no wake-up is lost, in any run.
-/

namespace WalletReplay

open Relation

namespace Queue

variable {q : Queue}

/-- Whether a tick has something to do at any time: the head is to be popped, or to be dispatched
for the first time. -/
def awaitsTick (q : Queue) : Bool :=
  match q.phase with
  | .retiring _ => true
  | .idle => !q.tasks.isEmpty
  | _ => false

theorem awaitsTick_eq_false_iff (q : Queue) : q.awaitsTick = false ↔
    (∀ id, q.phase ≠ .retiring id) ∧ (q.phase = .idle → q.tasks = []) := by
  unfold awaitsTick
  split <;> simp_all

/-- To pop a head that retires is to do what the queue awaits, or a part of it. -/
theorem awaitsTick_of_retire (h : q.retire.1.awaitsTick = true) : q.awaitsTick = true := by
  by_cases hretiring : ∃ id, q.phase = .retiring id
  · obtain ⟨id, hphase⟩ := hretiring
    simp [awaitsTick, hphase]
  · rw [q.retire_of_ne fun id hphase => hretiring ⟨id, hphase⟩] at h
    exact h

theorem awaitsTick_of_dispatch {now : Nat} (h : (q.dispatch now).1.awaitsTick = true) :
    q.awaitsTick = true := by
  rcases q.dispatch_cases now with hdispatch | ⟨head, n, -, hdispatch, -⟩
  · rwa [hdispatch] at h
  · rw [hdispatch] at h
    simp [awaitsTick] at h

theorem awaitsTick_of_fail {id : TaskId} {policy : RetryPolicy} {now : Nat}
    (h : (q.fail id policy now).1.awaitsTick = true) : q.awaitsTick = true := by
  rcases q.fail_cases id policy now with ⟨-, hfail⟩ | ⟨n, count, -, -, ⟨-, hfail⟩ | ⟨-, hfail⟩⟩
  · rwa [hfail] at h
  · rw [hfail] at h
    simp [awaitsTick] at h
  · rw [hfail] at h
    simp [awaitsTick] at h

/-- A head that is popped leaves nothing retiring. -/
theorem ne_retiring_retire (q : Queue) (id : TaskId) : q.retire.1.phase ≠ .retiring id := by
  unfold retire
  split
  · split
    · split <;> simp
    · simp
  · rename_i hne
    exact hne id

/-- A head that nothing runs before can be dispatched at any time. -/
theorem tasks_eq_nil_of_dispatch {now : Nat} (hidle : q.phase = .idle)
    (h : q.dispatch now = (q, none)) : q.tasks = [] := by
  cases htasks : q.tasks with
  | nil => rfl
  | cons head rest => simp [dispatch, head?, readiness?, hidle, htasks] at h

/-- When the head has been popped, if it retires, and the next has been dispatched, if it can be,
the queue awaits no tick. -/
theorem awaitsTick_dispatch_retire (q : Queue) (now : Nat) :
    (q.retire.1.dispatch now).1.awaitsTick = false := by
  rcases q.retire.1.dispatch_cases now with hdispatch | ⟨head, n, -, hdispatch, -⟩
  · rw [hdispatch, awaitsTick_eq_false_iff]
    exact ⟨q.ne_retiring_retire, fun hidle => tasks_eq_nil_of_dispatch hidle hdispatch⟩
  · rw [hdispatch]
    rfl

end Queue

/-- Whether a driver was told of a wake-up, if it waits. -/
def Driver.told? : Driver → Option Bool
  | waiting _ _ told => some told
  | spawned _ | choosing _ _ | ticking _ _ | ended => none

namespace Scheduler

variable {s s' : Scheduler} {k : Caller} {d e : Nat}

/-! ### Ticks -/

/-- As long as shutdown is not called, no step makes the queue await a tick. -/
theorem Step.awaitsTick (h : Step k s s') (hopen : s.isShutDown = false)
    (hawaits : s'.queue.awaitsTick = true) : s.queue.awaitsTick = true := by
  cases h with
  | rest | askRegular | attempt | beginRegular | beginShutdown => exact hawaits
  | retire => exact Queue.awaitsTick_of_retire hawaits
  | dispatch => exact Queue.awaitsTick_of_dispatch hawaits
  | askShutdown =>
    rw [callShutdown_eq] at hawaits
    exact hawaits
  | refuse _ hclosed =>
    rw [hopen] at hclosed
    exact absurd hclosed Bool.false_ne_true
  | declineRegular | declineShutdown =>
    rw [queue_depart] at hawaits
    exact hawaits
  | succeed =>
    rw [goOn_eq] at hawaits
    exact hawaits
  | @fail w =>
    rw [queue_depart] at hawaits
    cases hw : w.task? with
    | none =>
      rw [hw] at hawaits
      exact hawaits
    | some task =>
      rw [hw] at hawaits
      exact Queue.awaitsTick_of_fail hawaits

theorem awaitsTick_of_steps (h : ReflTransGen (Step k) s s') (hopen : s'.isShutDown = false)
    (hawaits : s'.queue.awaitsTick = true) : s.queue.awaitsTick = true := by
  induction h with
  | refl => exact hawaits
  | tail _ hstep ih =>
    have hbefore := (Move.step (p := {}) hstep).isShutDown_eq_false hopen
    exact ih hbefore (hstep.awaitsTick hbefore hawaits)

/-- Only a call of shutdown that begins counts as one. -/
theorem Step.shutdownCount_eq (h : Step k s s') (hcall : s.calls.get? k ≠ some (.fresh .shutdown)) :
    s'.shutdownCount = s.shutdownCount ∧ s'.calls.get? k ≠ some (.fresh .shutdown) := by
  cases h with
  | askShutdown hshutdown => exact absurd hshutdown hcall
  | rest => exact ⟨rfl, by simp [Table.get?_erase_self]⟩
  | retire => exact ⟨rfl, hcall⟩
  | dispatch | askRegular => exact ⟨rfl, by simp [stand, Table.get?_set_self]⟩
  | attempt | beginRegular | beginShutdown => exact ⟨rfl, by simp [engage, work, Table.get?_set_self]⟩
  | refuse | declineRegular | declineShutdown =>
    rw [depart_eq]
    exact ⟨rfl, by simp [Table.get?_erase_self]⟩
  | @succeed w =>
    cases (w.succeed s.slot (s.hear k w true).client).next with
    | none =>
      rw [goOn, depart_eq]
      exact ⟨rfl, by simp [Table.get?_erase_self]⟩
    | some next => exact ⟨rfl, by simp [goOn, engage, work, Table.get?_set_self]⟩
  | fail =>
    rw [countFailure_eq, depart_eq]
    exact ⟨rfl, by simp [Table.get?_erase_self]⟩

theorem shutdownCount_of_steps (h : ReflTransGen (Step k) s s')
    (hcall : s.calls.get? k ≠ some (.fresh .shutdown)) : s'.shutdownCount = s.shutdownCount := by
  suffices s'.shutdownCount = s.shutdownCount ∧ s'.calls.get? k ≠ some (.fresh .shutdown) from this.1
  induction h with
  | refl => exact ⟨rfl, hcall⟩
  | tail _ hstep ih =>
    obtain ⟨hcount, hkind⟩ := hstep.shutdownCount_eq ih.2
    exact ⟨hcount.trans ih.1, hkind⟩

theorem shutdownCount_poll (hcall : s.calls.get? k ≠ some (.fresh .shutdown)) :
    (s.poll k).1.shutdownCount = s.shutdownCount :=
  shutdownCount_of_steps (poll_steps s k) hcall

/-- A tick that begins pops and dispatches what it can, and then goes on. -/
theorem exists_steps_beginTick (k : Caller) (hopen : s.isShutDown = false) :
    ∃ t, t.queue = (s.queue.retire.1.dispatch s.clock).1 ∧
      ReflTransGen (Step k) t (s.beginTick k).1 := by
  simp only [beginTick, hopen, Bool.false_eq_true, if_false]
  split
  · rename_i queue hnone
    refine ⟨_, ?_, .refl⟩
    rcases s.queue.retire.1.dispatch_cases s.clock with hdispatch | ⟨head, n, -, hdispatch, -⟩
    · rw [hdispatch]
      rfl
    · exact absurd (hnone.symm.trans hdispatch) (by simp)
  · rename_i queue task hsome
    refine ⟨_, ?_, steps_joinLine _ k (.replay task)⟩
    exact (congrArg Prod.fst hsome).symm

/-- A tick that begins does what the queue awaits. -/
theorem awaitsTick_tick (hcall : s.calls.get? k = some (.fresh .tick))
    (hbefore : s.isShutDown = false) : (s.poll k).1.queue.awaitsTick = false := by
  have hopen : (s.poll k).1.isShutDown = false := by
    simpa [isShutDown, shutdownCount_poll (s := s) (k := k) (by simp [hcall])] using hbefore
  obtain ⟨t, hqueue, hsteps⟩ := exists_steps_beginTick k hbefore
  have hpoll : (s.poll k).1 = (s.beginTick k).1 := by simp [poll, hcall, beginCall]
  rw [hpoll] at hopen ⊢
  by_contra hawaits
  rw [Bool.not_eq_false] at hawaits
  have hdispatched := awaitsTick_of_steps hsteps hopen hawaits
  rw [hqueue, s.queue.awaitsTick_dispatch_retire s.clock] at hdispatched
  exact Bool.false_ne_true hdispatched

/-! ### Who is to run -/

theorem mem_turns_summon (s : Scheduler) (d : Nat) : d ∈ (s.summon d).turns := by
  unfold summon
  split
  · rename_i h
    simpa using h
  · simp

theorem subset_turns_summon {ds : List Nat} (h : ds ⊆ s.turns) (d : Nat) :
    ds ⊆ (s.summon d).turns := by
  unfold summon
  split
  · exact h
  · exact List.subset_append_of_subset_left _ h

theorem subset_turns_summonAll {ds : List Nat} (h : ds ⊆ s.turns) (es : List Nat) :
    ds ⊆ (s.summonAll es).turns := by
  induction es generalizing s with
  | nil => exact h
  | cons e es ih => exact ih (subset_turns_summon h e)

theorem subset_turns_leaveLine {ds : List Nat} (h : ds ⊆ s.turns) (k : Caller) :
    ds ⊆ (s.leaveLine k).turns := by
  simp only [leaveLine]
  split
  · split
    · apply subset_turns_summon
      exact h
    · exact h
  · exact h

theorem subset_turns_depart {ds : List Nat} (h : ds ⊆ s.turns) (k : Caller) :
    ds ⊆ (s.depart k).turns := by
  rw [depart_eq]
  exact subset_turns_leaveLine h k

/-- No step takes a turn from a driver. -/
theorem Step.turns_subset (h : Step k s s') : s.turns ⊆ s'.turns := by
  have hsame := List.Subset.refl s.turns
  cases h with
  | rest | retire | dispatch | askRegular | attempt | beginRegular | beginShutdown => exact hsame
  | askShutdown =>
    apply subset_turns_summonAll
    exact hsame
  | refuse | declineRegular | declineShutdown =>
    apply subset_turns_depart
    exact hsame
  | @succeed w =>
    cases (w.succeed s.slot (s.hear k w true).client).next with
    | none =>
      apply subset_turns_depart
      exact hsame
    | some next => exact hsame
  | fail =>
    rw [countFailure_eq]
    apply subset_turns_depart
    exact hsame

theorem turns_subset_of_steps (h : ReflTransGen (Step k) s s') : s.turns ⊆ s'.turns := by
  induction h with
  | refl => exact List.Subset.refl _
  | tail _ hstep ih => exact List.Subset.trans ih hstep.turns_subset

theorem turns_subset_poll (s : Scheduler) (k : Caller) : s.turns ⊆ (s.poll k).1.turns :=
  turns_subset_of_steps (poll_steps s k)

theorem turns_subset_cancel (s : Scheduler) (k : Caller) : s.turns ⊆ (s.cancel k).1.turns := by
  unfold cancel
  split
  · exact List.Subset.refl _
  · apply subset_turns_leaveLine
    exact List.Subset.refl _

/-! ### Who waits and who was told -/

/-- Whether the driver was told of a wake-up and has not run since, if it waits. -/
def told? (s : Scheduler) (d : Nat) : Option Bool :=
  s.drivers[d]?.bind Driver.told?

/-- A wake-up is there: it is kept, or a driver was told. -/
def IsRoused (s : Scheduler) : Prop :=
  s.wake.kept = true ∨ ∃ d, s.told? d = some true

/-- The drivers that wait and were not told are those on the list, where each is once; and no wake-up
is kept while there are any. -/
structure Listed (s : Scheduler) : Prop where
  nodup : s.wake.waiting.Nodup
  mem_iff : ∀ d, d ∈ s.wake.waiting ↔ s.told? d = some false
  kept : s.wake.kept = true → s.wake.waiting = []

theorem told?_of_getElem? {driver : Driver} (h : s.drivers[d]? = some driver) :
    s.told? d = driver.told? := by
  simp [told?, h]

theorem told?_eq_some_iff {told : Bool} : s.told? d = some told ↔
    ∃ seen due, s.drivers[d]? = some (.waiting seen due told) := by
  constructor
  · intro h
    obtain ⟨driver, hd, hdriver⟩ := Option.bind_eq_some_iff.mp h
    cases driver <;> simp [Driver.told?] at hdriver
    subst hdriver
    exact ⟨_, _, hd⟩
  · rintro ⟨seen, due, hd⟩
    exact told?_of_getElem? hd

theorem told?_setDriver (driver : Driver) (hd : d < s.drivers.length) (e : Nat) :
    (s.setDriver d driver).told? e = if e = d then driver.told? else s.told? e := by
  by_cases he : e = d
  · subst he
    simp [told?, setDriver, hd]
  · simp [told?, setDriver, List.getElem?_set_ne (Ne.symm he), he]

/-- A wake-up is kept if no driver waits; otherwise the driver that has waited longest is told, and
is to run. -/
theorem Listed.wakeOne_cases (hs : s.Listed) :
    s.wake.waiting = [] ∧ s.wakeOne = { s with wake := { s.wake with kept := true } } ∨
      ∃ d rest, s.wake.waiting = d :: rest ∧ s.wakeOne.wake = { s.wake with waiting := rest } ∧
        d ∈ s.wakeOne.turns ∧
        ∀ e, s.wakeOne.told? e = if e = d then some true else s.told? e := by
  unfold wakeOne
  split
  · rename_i hnil
    exact Or.inl ⟨hnil, rfl⟩
  · rename_i d rest hcons
    have huntold : s.told? d = some false := (hs.mem_iff d).mp (by simp [hcons])
    refine Or.inr ⟨d, rest, hcons, ?_, mem_turns_summon _ d, ?_⟩
    · rw [summon_eq]
    · intro e
      rw [summon_eq]
      by_cases he : e = d
      · subst he
        obtain ⟨seen, due, hd⟩ := told?_eq_some_iff.mp huntold
        simp [told?, hd, Driver.told?]
      · simp [told?, Ne.symm he, he]

theorem subset_turns_wakeOne (s : Scheduler) : s.turns ⊆ s.wakeOne.turns := by
  unfold wakeOne
  split
  · exact List.Subset.refl _
  · apply subset_turns_summon
    exact List.Subset.refl _

/-- Waking a driver tells one that waits, and no other. -/
theorem told?_wakeOne_cases (s : Scheduler) (e : Nat) :
    s.wakeOne.told? e = s.told? e ∨ s.told? e ≠ none ∧ s.wakeOne.told? e = some true := by
  unfold wakeOne
  split
  · exact Or.inl rfl
  · rename_i d rest _
    rw [summon_eq]
    by_cases he : e = d
    · subst he
      cases hd : s.drivers[e]? with
      | none => exact Or.inl (by simp [told?, hd])
      | some driver =>
        cases driver with
        | waiting seen due told => exact Or.inr (by simp [told?, hd, Driver.told?])
        | spawned | choosing | ticking | ended => exact Or.inl (by simp [told?, hd])
    · exact Or.inl (by simp [told?, Ne.symm he])

theorem told?_of_wakeOne (h : s.wakeOne.told? e = some false) : s.told? e = some false := by
  rcases s.told?_wakeOne_cases e with hsame | ⟨-, htrue⟩
  · rwa [hsame] at h
  · exact absurd (htrue.symm.trans h) (by simp)

theorem told?_of_forgo {told : Bool} (h : (s.forgo d told).told? e = some false) :
    s.told? e = some false := by
  unfold forgo at h
  split at h
  · exact told?_of_wakeOne h
  · exact h

theorem Listed.isRoused_wakeOne (hs : s.Listed) : s.wakeOne.IsRoused := by
  rcases hs.wakeOne_cases with ⟨-, hwake⟩ | ⟨d, rest, -, -, -, htold⟩
  · rw [hwake]
    exact Or.inl rfl
  · exact Or.inr ⟨d, by rw [htold, if_pos rfl]⟩

/-! ### What leaves the waiting drivers in order -/

/-- What is right about the drivers that wait stays right; if one was just told, it is to run; and
whoever is to run already, still is. -/
structure Tends (s s' : Scheduler) : Prop where
  listed : s.Listed → s'.Listed
  told : s.Listed → ∀ e, s'.told? e = some true → s.told? e = some true ∨ e ∈ s'.turns
  turns : s.turns ⊆ s'.turns

theorem Tends.trans {t : Scheduler} (h : Tends s t) (h' : Tends t s') : Tends s s' where
  listed := h'.listed ∘ h.listed
  told := by
    intro hs e he
    rcases h'.told (h.listed hs) e he with htold | hrun
    · exact (h.told hs e htold).imp_right fun hrun => h'.turns hrun
    · exact Or.inr hrun
  turns := List.Subset.trans h.turns h'.turns

/-- Nothing is put out of order by what leaves the list alone, whom it was told, and who is to
run. -/
theorem tends_of_eq (hwake : s'.wake = s.wake) (htold : ∀ e, s'.told? e = s.told? e)
    (hturns : s.turns ⊆ s'.turns) : Tends s s' where
  listed := by
    intro hs
    refine ⟨hwake ▸ hs.nodup, ?_, hwake ▸ hs.kept⟩
    intro e
    rw [hwake, htold, hs.mem_iff]
  told := by
    intro _ e he
    rw [htold] at he
    exact Or.inl he
  turns := hturns

theorem told?_congr (h : s'.drivers = s.drivers) (e : Nat) : s'.told? e = s.told? e := by
  simp only [told?, h]

theorem tends_poll (s : Scheduler) (k : Caller) : Tends s (s.poll k).1 :=
  have h := poll_untouched s k
  tends_of_eq h.wake (told?_congr h.drivers) (s.turns_subset_poll k)

theorem tends_wakeOne (s : Scheduler) : Tends s s.wakeOne where
  listed := by
    intro hs
    rcases hs.wakeOne_cases with ⟨hnil, hwake⟩ | ⟨d, rest, hcons, hwake, -, htold⟩
    · rw [hwake]
      exact ⟨hs.nodup, hs.mem_iff, fun _ => hnil⟩
    · have hnodup := hs.nodup
      rw [hcons, List.nodup_cons] at hnodup
      constructor
      · rw [hwake]
        exact hnodup.2
      · intro e
        have hmem := hs.mem_iff e
        rw [hcons, List.mem_cons] at hmem
        rw [hwake, htold]
        by_cases he : e = d
        · subst he
          simp [hnodup.1]
        · simpa [he] using hmem
      · intro hkept
        rw [hwake] at hkept
        have hnil := hs.kept hkept
        rw [hcons] at hnil
        exact absurd hnil (List.cons_ne_nil _ _)
  told := by
    intro hs e he
    rcases hs.wakeOne_cases with ⟨-, hwake⟩ | ⟨d, rest, -, -, hrun, htold⟩
    · rw [hwake] at he
      exact Or.inl he
    · rw [htold] at he
      by_cases hed : e = d
      · exact Or.inr (hed ▸ hrun)
      · rw [if_neg hed] at he
        exact Or.inl he
  turns := s.subset_turns_wakeOne

/-- A driver that does not wait untold may come to stand wherever it does not wait. -/
theorem tends_setDriver {driver : Driver} (hd : d < s.drivers.length)
    (hbefore : s.told? d ≠ some false) (hafter : driver.told? = none) :
    Tends s (s.setDriver d driver) where
  listed := by
    intro hs
    refine ⟨hs.nodup, ?_, hs.kept⟩
    intro e
    rw [told?_setDriver driver hd, hafter]
    show e ∈ s.wake.waiting ↔ _
    rw [hs.mem_iff]
    by_cases he : e = d
    · subst he
      simp [hbefore]
    · simp [he]
  told := by
    intro _ e he
    rw [told?_setDriver driver hd, hafter] at he
    by_cases hed : e = d
    · simp [hed] at he
    · exact Or.inl (by simpa [hed] using he)
  turns := List.Subset.refl _

/-- A driver that waits no longer passes on a wake-up that it was told of. -/
theorem tends_forgo {driver : Driver} {told : Bool} (hd : d < s.drivers.length)
    (hbefore : s.told? d = some told) (hafter : driver.told? = none) :
    Tends s ((s.setDriver d driver).forgo d told) := by
  cases told with
  | true => exact (tends_setDriver hd (by simp [hbefore]) hafter).trans (tends_wakeOne _)
  | false =>
    have htold : ∀ e, ((s.setDriver d driver).forgo d false).told? e =
        if e = d then none else s.told? e := by
      intro e
      rw [← hafter]
      exact told?_setDriver driver hd e
    refine ⟨?_, ?_, List.Subset.refl _⟩
    · intro hs
      refine ⟨hs.nodup.erase d, ?_, ?_⟩
      · intro e
        rw [htold]
        show e ∈ s.wake.waiting.erase d ↔ _
        rw [hs.nodup.mem_erase_iff, hs.mem_iff]
        by_cases he : e = d <;> simp [he]
      · intro hkept
        show s.wake.waiting.erase d = []
        rw [hs.kept hkept]
        rfl
    · intro _ e he
      rw [htold] at he
      by_cases hed : e = d
      · simp [hed] at he
      · exact Or.inl (by simpa [hed] using he)

/-- A driver that begins to wait is put on the list. -/
theorem tends_wait {seen due : Nat} (hd : d < s.drivers.length) (hbefore : s.told? d = none)
    (hkept : s.wake.kept = false) :
    Tends s (setDriver { s with wake := { s.wake with waiting := s.wake.waiting ++ [d] } } d
      (.waiting seen due false)) := by
  have htold : ∀ e, (setDriver { s with wake := { s.wake with waiting := s.wake.waiting ++ [d] } } d
      (.waiting seen due false)).told? e = if e = d then some false else s.told? e :=
    told?_setDriver (s := { s with wake := { s.wake with waiting := s.wake.waiting ++ [d] } }) _ hd
  refine ⟨?_, ?_, List.Subset.refl _⟩
  · intro hs
    have hnot : d ∉ s.wake.waiting := by simp [hs.mem_iff, hbefore]
    refine ⟨?_, ?_, ?_⟩
    · show (s.wake.waiting ++ [d]).Nodup
      refine List.nodup_append.mpr ⟨hs.nodup, List.pairwise_singleton _ d, ?_⟩
      rintro e he f hf rfl
      exact hnot (List.mem_singleton.mp hf ▸ he)
    · intro e
      rw [htold]
      show e ∈ s.wake.waiting ++ [d] ↔ _
      rw [List.mem_append, List.mem_singleton, hs.mem_iff]
      by_cases he : e = d <;> simp [he]
    · intro h
      exact absurd (hkept.symm.trans h) Bool.false_ne_true
  · intro _ e he
    rw [htold] at he
    by_cases hed : e = d
    · simp [hed] at he
    · exact Or.inl (by simpa [hed] using he)

theorem tends_unkeep (s : Scheduler) : Tends s { s with wake := { s.wake with kept := false } } where
  listed hs := ⟨hs.nodup, hs.mem_iff, fun h => absurd h Bool.false_ne_true⟩
  told _ _ := Or.inl
  turns := List.Subset.refl _

/-- A tick that is run leaves its driver not waiting. -/
theorem exists_runTick (s : Scheduler) (d seen due : Nat) : ∃ driver : Driver,
    driver.told? = none ∧ s.runTick d seen due = (s.poll (.driver d)).1.setDriver d driver := by
  unfold runTick
  split <;> rename_i h <;> rw [h]
  · exact ⟨.ticking seen due, rfl, rfl⟩
  · exact ⟨.choosing seen due, rfl, rfl⟩

theorem tends_runTick {seen due : Nat} (hd : d < s.drivers.length)
    (hbefore : s.told? d ≠ some false) : Tends s (s.runTick d seen due) := by
  have hpoll := poll_untouched s (.driver d)
  obtain ⟨driver, hdriver, hrun⟩ := s.exists_runTick d seen due
  rw [hrun]
  refine (s.tends_poll (.driver d)).trans (tends_setDriver ?_ ?_ hdriver)
  · rw [hpoll.drivers]
    exact hd
  · rw [told?_congr hpoll.drivers]
    exact hbefore

theorem tends_driverTick {seen due : Nat} (hd : d < s.drivers.length)
    (hbefore : s.told? d ≠ some false) : Tends s (s.driverTick d seen due) := by
  have hcreate : Tends s (s.create (.driver d) .tick) :=
    tends_of_eq rfl (fun _ => rfl) (List.Subset.refl _)
  exact hcreate.trans (tends_runTick hd hbefore)

/-- **A driver that runs leaves the drivers that wait in order.** -/
theorem tends_pollDriver (s : Scheduler) (d : Nat) : Tends s (s.pollDriver d) := by
  have hsame : Tends s s := tends_of_eq rfl (fun _ => rfl) (List.Subset.refl _)
  have lt_length {driver : Driver} (hd : s.drivers[d]? = some driver) : d < s.drivers.length :=
    (List.getElem?_eq_some_iff.mp hd).1
  unfold pollDriver
  split
  · exact hsame
  · exact hsame
  · rename_i seen hd
    exact tends_setDriver (lt_length hd) (by simp [told?_of_getElem? hd, Driver.told?]) rfl
  · rename_i seen due hd
    have hlt := lt_length hd
    have htold : s.told? d = none := told?_of_getElem? hd
    have huntold : s.told? d ≠ some false := by simp [htold]
    split
    · exact tends_setDriver hlt huntold rfl
    · split
      · exact tends_driverTick hlt huntold
      · split
        · exact s.tends_unkeep.trans (tends_driverTick hlt huntold)
        · rename_i hkept
          exact tends_wait hlt htold (by simpa using hkept)
  · rename_i seen due told hd
    have hlt := lt_length hd
    have htold : s.told? d = some told := told?_of_getElem? hd
    split
    · exact tends_forgo hlt htold rfl
    · split
      · have hforgo : Tends s ((s.setDriver d (.choosing seen due)).forgo d told) :=
          tends_forgo hlt htold rfl
        refine hforgo.trans (tends_driverTick ?_ ?_)
        · simpa [setDriver] using hlt
        · intro hfalse
          have hchoosing := told?_of_forgo hfalse
          rw [told?_setDriver _ hlt, if_pos rfl] at hchoosing
          simp [Driver.told?] at hchoosing
      · split
        · rename_i htrue
          subst htrue
          exact tends_driverTick hlt (by simp [htold])
        · exact hsame
  · rename_i seen due hd
    exact tends_runTick (lt_length hd) (by simp [told?_of_getElem? hd, Driver.told?])

/-! ### Wake-ups that are there -/

theorem isRoused_congr (hwake : s'.wake = s.wake) (htold : ∀ e, s'.told? e = s.told? e)
    (h : s.IsRoused) : s'.IsRoused := by
  simpa only [IsRoused, hwake, htold] using h

theorem isRoused_setDriver {driver : Driver} (hd : d < s.drivers.length)
    (hbefore : s.told? d ≠ some true) (h : s.IsRoused) : (s.setDriver d driver).IsRoused := by
  rcases h with hkept | ⟨e, he⟩
  · exact Or.inl hkept
  · refine Or.inr ⟨e, ?_⟩
    have hne : e ≠ d := by
      rintro rfl
      exact hbefore he
    rw [told?_setDriver driver hd, if_neg hne]
    exact he

theorem awaitsTick_driverTick {seen due : Nat} (hopen : s.isShutDown = false) :
    (s.driverTick d seen due).queue.awaitsTick = false := by
  obtain ⟨driver, -, hrun⟩ := (s.create (.driver d) .tick).exists_runTick d seen due
  unfold driverTick
  rw [hrun]
  exact awaitsTick_tick (s := s.create (.driver d) .tick) (Table.get?_set_self _ _ _) hopen

/-- A driver that runs does what the queue awaits, or leaves it; and then it leaves a wake-up that is
there. -/
theorem isRoused_pollDriver (hopen : s.isShutDown = false) (h : s.pollDriver d = s')
    (hopen' : s'.isShutDown = false) (hawaits : s'.queue.awaitsTick = true) :
    s.queue.awaitsTick = true ∧ (s.IsRoused → s'.IsRoused) := by
  have hcount : s.shutdownCount = 0 := by simpa [isShutDown] using hopen
  have hseen (seen : Nat) : ¬ seen < s.shutdownCount := by omega
  have lt_length {driver : Driver} (hd : s.drivers[d]? = some driver) : d < s.drivers.length :=
    (List.getElem?_eq_some_iff.mp hd).1
  -- A tick that begins here does what is awaited.
  have hbegins {t : Scheduler} {seen due : Nat} (ht : t.driverTick d seen due = s')
      (hsame : t.shutdownCount = s.shutdownCount) : False := by
    subst ht
    rw [awaitsTick_driverTick (by simp [isShutDown, hsame, hcount])] at hawaits
    exact Bool.false_ne_true hawaits
  unfold pollDriver at h
  split at h
  · subst h
    exact ⟨hawaits, id⟩
  · subst h
    exact ⟨hawaits, id⟩
  · rename_i seen hd
    subst h
    have htold : s.told? d ≠ some true := by simp [told?_of_getElem? hd, Driver.told?]
    exact ⟨hawaits, isRoused_setDriver (lt_length hd) htold⟩
  · rename_i seen due hd
    rw [if_neg (hseen seen)] at h
    split at h
    · exact (hbegins h rfl).elim
    · split at h
      · exact (hbegins h rfl).elim
      · rename_i hkept
        subst h
        refine ⟨hawaits, ?_⟩
        intro hroused
        refine isRoused_setDriver (lt_length hd) ?_ hroused
        simp [told?, hd, Driver.told?]
  · rename_i seen due told hd
    rw [if_neg (hseen seen)] at h
    split at h
    · refine (hbegins h ?_).elim
      rw [forgo_eq]
      rfl
    · split at h
      · exact (hbegins h rfl).elim
      · subst h
        exact ⟨hawaits, id⟩
  · rename_i seen due hd
    obtain ⟨driver, -, hrun⟩ := s.exists_runTick d seen due
    rw [hrun] at h
    subst h
    have hpoll := poll_untouched s (.driver d)
    refine ⟨awaitsTick_of_steps (poll_steps s _) hopen' hawaits, ?_⟩
    intro hroused
    have htold : s.told? d ≠ some true := by simp [told?_of_getElem? hd, Driver.told?]
    refine isRoused_setDriver ?_ ?_ (isRoused_congr hpoll.wake (told?_congr hpoll.drivers) hroused)
    · rw [hpoll.drivers]
      exact lt_length hd
    · rw [told?_congr hpoll.drivers]
      exact htold

/-- After its turn a driver is not told any more. -/
theorem told?_pollDriver_self (s : Scheduler) (d : Nat) : (s.pollDriver d).told? d ≠ some true := by
  have hset {t : Scheduler} {driver : Driver} (hdriver : driver.told? ≠ some true) :
      (t.setDriver d driver).told? d ≠ some true := by
    by_cases hd : d < t.drivers.length
    · rwa [told?_setDriver driver hd, if_pos rfl]
    · simp [told?, setDriver, hd]
  have hrun {t : Scheduler} {seen due : Nat} : (t.runTick d seen due).told? d ≠ some true := by
    obtain ⟨driver, hdriver, hrun⟩ := t.exists_runTick d seen due
    rw [hrun]
    exact hset (by simp [hdriver])
  unfold pollDriver
  split
  · rename_i hd
    simp [told?, hd]
  · rename_i hd
    simp [told?_of_getElem? hd, Driver.told?]
  · exact hset (by simp [Driver.told?])
  · split
    · exact hset (by simp [Driver.told?])
    · split
      · exact hrun
      · split
        · exact hrun
        · exact hset (by simp [Driver.told?])
  · rename_i seen due told hd
    split
    · have hended : (s.setDriver d .ended).told? d = none := by
        rw [told?_setDriver _ (List.getElem?_eq_some_iff.mp hd).1, if_pos rfl]
        rfl
      unfold forgo
      split
      · rcases (s.setDriver d .ended).told?_wakeOne_cases d with hsame | ⟨hwaits, -⟩
        · simp [hsame, hended]
        · exact absurd hended hwaits
      · exact hset (by simp [Driver.told?])
    · split
      · exact hrun
      · split
        · exact hrun
        · rename_i huntold
          simp [told?_of_getElem? hd, Driver.told?, huntold]
  · exact hrun

/-! ### What runs keep -/

/-- No wake-up is lost. Who was told is to run, and as long as shutdown is not called a wake-up is
there while the queue awaits a tick. -/
structure Wakeful (s : Scheduler) : Prop extends Listed s where
  run : ∀ e, s.told? e = some true → e ∈ s.turns
  roused : s.isShutDown = false → s.queue.awaitsTick = true → s.IsRoused

namespace Wakeful

theorem of_tends (hs : s.Wakeful) (h : Tends s s')
    (hroused : s'.isShutDown = false → s'.queue.awaitsTick = true → s'.IsRoused) : s'.Wakeful where
  toListed := h.listed hs.toListed
  run := by
    intro e he
    rcases h.told hs.toListed e he with htold | hrun
    · exact h.turns (hs.run e htold)
    · exact hrun
  roused := hroused

/-- A driver is woken after something that leaves the drivers alone. -/
theorem wakeOne {t : Scheduler} (hs : s.Wakeful) (hwake : t.wake = s.wake)
    (hdrivers : t.drivers = s.drivers) (hturns : t.turns = s.turns) : t.wakeOne.Wakeful := by
  have ht : Tends s t := tends_of_eq hwake (told?_congr hdrivers) (by rw [hturns]; exact List.Subset.refl _)
  refine hs.of_tends (ht.trans (tends_wakeOne t)) ?_
  intro _ _
  exact (ht.listed hs.toListed).isRoused_wakeOne

theorem enroll (hs : s.Wakeful) (task : Task) : (s.enroll task).Wakeful := by
  simp only [Scheduler.enroll]
  split
  · exact hs.wakeOne rfl rfl rfl
  · exact hs.wakeOne rfl rfl rfl

theorem complete (hs : s.Wakeful) (task : Task) (queue : Queue) :
    (complete { s with queue } task).Wakeful := by
  simp only [Scheduler.complete]
  split
  · exact hs.wakeOne rfl rfl rfl
  · exact hs.wakeOne rfl rfl rfl

theorem notifyCompleted (hs : s.Wakeful) (id : TaskId) : (s.notifyCompleted id).1.Wakeful := by
  rcases s.notifyCompleted_cases id with h | ⟨head, -, -, -, h⟩
  · rw [h]
    exact hs
  · rw [h]
    exact hs.complete head _

/-- What only the queue, the drivers, the list and the turns count for, nothing else breaks. -/
theorem congr (hs : s.Wakeful) (hwake : s'.wake = s.wake) (hdrivers : s'.drivers = s.drivers)
    (hturns : s.turns ⊆ s'.turns) (hqueue : s'.queue = s.queue)
    (hopened : s'.isShutDown = false → s.isShutDown = false) : s'.Wakeful := by
  refine hs.of_tends (tends_of_eq hwake (told?_congr hdrivers) hturns) ?_
  intro hopen hawaits
  rw [hqueue] at hawaits
  exact isRoused_congr hwake (told?_congr hdrivers) (hs.roused (hopened hopen) hawaits)

theorem poll (hs : s.Wakeful) (k : Caller) : (s.poll k).1.Wakeful := by
  have h := poll_untouched s k
  refine hs.of_tends (s.tends_poll k) ?_
  intro hopen hawaits
  have hbefore := isShutDown_eq_false_of_moves (moves_poll (p := {}) s k) hopen
  exact isRoused_congr h.wake (told?_congr h.drivers)
    (hs.roused hbefore (awaitsTick_of_steps (poll_steps s k) hopen hawaits))

theorem cancel (hs : s.Wakeful) (k : Caller) : (s.cancel k).1.Wakeful := by
  cases hcall : s.calls.get? k with
  | none =>
    rw [cancel_of_none hcall]
    exact hs
  | some c =>
    have hturns := s.turns_subset_cancel k
    rw [cancel_of_some hcall] at hturns ⊢
    exact hs.congr rfl rfl hturns rfl id

theorem spawn (hs : s.Wakeful) : s.spawn.Wakeful := by
  have htold : ∀ e, s.spawn.told? e = s.told? e := by
    intro e
    simp only [told?, Scheduler.spawn]
    rw [summon_eq]
    by_cases he : e < s.drivers.length
    · rw [List.getElem?_append_left he]
    · by_cases hlast : e = s.drivers.length
      · simp [hlast, Driver.told?]
      · have hnone : (s.drivers ++ [Driver.spawned s.shutdownCount])[e]? = none := by
          simp
          omega
        simp [he, hnone]
  have hwake : s.spawn.wake = s.wake := by rw [Scheduler.spawn, summon_eq]
  have hturns : s.turns ⊆ s.spawn.turns := by
    apply subset_turns_summon
    exact List.Subset.refl _
  refine hs.of_tends (tends_of_eq hwake htold hturns) ?_
  intro hopen hawaits
  rw [Scheduler.spawn, summon_eq] at hopen hawaits
  exact isRoused_congr hwake htold (hs.roused hopen hawaits)

/-- A driver that has had its turn was not told in it, and what it was told of before is done. -/
theorem takeTurn (hs : s.Wakeful) (hticks : s.TicksDriven) (d : Nat) : (s.takeTurn d).Wakeful := by
  let t : Scheduler := { s with turns := s.turns.erase d }
  have htends : Tends t (t.pollDriver d) := tends_pollDriver t d
  have hpolled : (t.pollDriver d).Wakeful := by
    refine ⟨htends.listed ⟨hs.nodup, hs.mem_iff, hs.kept⟩, ?_, ?_⟩
    · intro e he
      have hne : e ≠ d := by
        rintro rfl
        exact t.told?_pollDriver_self e he
      rcases htends.told ⟨hs.nodup, hs.mem_iff, hs.kept⟩ e he with htold | hrun
      · exact htends.turns ((List.mem_erase_of_ne hne).mpr (hs.run e htold))
      · exact hrun
    · intro hopen' hawaits
      have hopen : t.isShutDown = false :=
        isShutDown_eq_false_of_moves (moves_pollDriver (p := {}) (s := t) hticks d) hopen'
      obtain ⟨hbefore, hroused⟩ := isRoused_pollDriver (s := t) hopen rfl hopen' hawaits
      exact hroused (hs.roused hopen hbefore)
  obtain ⟨turns, hturns, hturn⟩ := s.exists_takeTurn d
  rw [hturn]
  exact hpolled.congr rfl rfl hturns rfl id

theorem act (hs : s.Wakeful) (hticks : s.TicksDriven) (a : Action) : (s.act a).1.Wakeful := by
  cases a with
  | own | listen | inject | progress | setHeight | wait =>
    exact hs.congr rfl rfl (List.Subset.refl _) rfl id
  | offer handles target =>
    simp only [Scheduler.act, offer]
    split
    · exact hs.enroll _
    · exact hs
  | notify task => exact hs.notifyCompleted task
  | create name kind =>
    exact (hs.cancel (.named name)).congr rfl rfl (List.Subset.refl _) rfl id
  | poll name => exact hs.poll (.named name)
  | cancel name => exact hs.cancel (.named name)
  | spawn => exact hs.spawn
  | drive d => exact hs.takeTurn hticks d
  | finish =>
    simp only [Scheduler.act, finishDownload]
    split
    · exact hs
    · split
      · exact hs.congr rfl rfl (List.Subset.refl _) rfl id
      · apply notifyCompleted
        exact hs.congr rfl rfl (List.Subset.refl _) rfl id

end Wakeful

theorem wakeful_fresh (checkpoints : Checkpoints) (retry : RetryPolicy) (interval : Nat)
    (synced : Option Height) : (fresh checkpoints retry interval synced).Wakeful := by
  cases synced <;> exact
    { nodup := List.nodup_nil
      mem_iff := fun _ => by simp [fresh, start, startSynced, told?]
      kept := fun _ => rfl
      run := fun _ h => by simp [fresh, start, startSynced, told?] at h
      roused := fun _ h => by simp [fresh, start, startSynced, Queue.awaitsTick] at h }

theorem Wakeful.runs (hs : s.Wakeful) (hticks : s.TicksDriven) (actions : List Action) :
    (s.run actions).Wakeful := by
  induction actions generalizing s with
  | nil => exact hs
  | cons a actions ih => exact ih (hs.act hticks a) (hticks.act a)

/-- A driver that was told, or that chooses while a wake-up is kept, ticks in its turn. -/
theorem awaitsTick_takeTurn (hopen : s.isShutDown = false)
    (h : s.told? d = some true ∨
      s.wake.kept = true ∧ ∃ seen due, s.drivers[d]? = some (.choosing seen due)) :
    (s.takeTurn d).queue.awaitsTick = false := by
  have hcount : s.shutdownCount = 0 := by simpa [isShutDown] using hopen
  have hseen (seen : Nat) : ¬ seen < s.shutdownCount := by omega
  obtain ⟨turns, -, hturn⟩ := s.exists_takeTurn d
  rw [hturn]
  show (pollDriver _ d).queue.awaitsTick = false
  rcases h with htold | ⟨hkept, seen, due, hd⟩
  · obtain ⟨seen, due, hd⟩ := told?_eq_some_iff.mp htold
    simp only [pollDriver, hd, hseen seen, if_false, if_true]
    split
    · apply awaitsTick_driverTick
      rw [forgo_eq]
      exact hopen
    · exact awaitsTick_driverTick hopen
  · simp only [pollDriver, hd, hseen seen, hkept, if_false, if_true]
    split
    · exact awaitsTick_driverTick hopen
    · exact awaitsTick_driverTick hopen

/-- **No wake-up is lost** in any run in which shutdown was not called. If none is kept and no
driver was told of one, no task retires, and there is no task if nothing is dispatched: a tick finds
something to do only if a task has backed off. None is kept while a driver waits that was not told.
A driver that was told, or that chooses while one is kept, does in its turn what there is to do for
a tick. -/
theorem run_wakes (checkpoints : Checkpoints) (retry : RetryPolicy) (interval : Nat)
    (synced : Option Height) (actions : List Action)
    (hopen : ((fresh checkpoints retry interval synced).run actions).isShutDown = false) :
    let s := (fresh checkpoints retry interval synced).run actions
    (s.wake.kept = false → (∀ d, s.told? d ≠ some true) →
        (∀ id, s.queue.phase ≠ .retiring id) ∧ (s.queue.phase = .idle → s.queue.tasks = []) ∧
          s.queue.retire = (s.queue, none) ∧
          ∀ now task, (s.queue.dispatch now).2 = some task →
            ∃ failures retryAt, s.queue.phase = .backoff task.id failures retryAt ∧
              retryAt ≤ now) ∧
      (s.wake.kept = true → ∀ d, s.told? d ≠ some false) ∧
      (∀ d, s.told? d = some true → d ∈ s.turns) ∧
      ∀ d, (s.told? d = some true ∨
          s.wake.kept = true ∧ ∃ seen due, s.drivers[d]? = some (.choosing seen due)) →
        let s' := (s.act (.drive d)).1
        (∀ id, s'.queue.phase ≠ .retiring id) ∧ (s'.queue.phase = .idle → s'.queue.tasks = []) := by
  intro s
  have hticks₀ := ticksDriven_fresh checkpoints retry interval synced
  have hticks : s.TicksDriven := hticks₀.run actions
  have hs : s.Wakeful := (wakeful_fresh checkpoints retry interval synced).runs hticks₀ actions
  refine ⟨?_, ?_, hs.run, ?_⟩
  · intro hkept htold
    have hquiet : s.queue.awaitsTick = false := by
      by_contra hawaits
      rw [Bool.not_eq_false] at hawaits
      rcases hs.roused hopen hawaits with hkept' | ⟨d, hd⟩
      · rw [hkept] at hkept'
        exact Bool.false_ne_true hkept'
      · exact htold d hd
    obtain ⟨hretiring, hidle⟩ := s.queue.awaitsTick_eq_false_iff.mp hquiet
    refine ⟨hretiring, hidle, Queue.retire_of_ne hretiring, ?_⟩
    intro now task hdispatch
    rcases s.queue.dispatch_cases now with hnone | ⟨head, failures, hhead, hsome, hready⟩
    · simp [hnone] at hdispatch
    · rw [hsome] at hdispatch
      obtain rfl := Option.some.inj hdispatch
      rcases hready with ⟨hphase, -⟩ | ⟨retryAt, hphase, hnow⟩
      · simp [Queue.head?, hidle hphase] at hhead
      · exact ⟨failures, retryAt, hphase, hnow⟩
  · intro hkept d hd
    have hmem := (hs.mem_iff d).mpr hd
    rw [hs.kept hkept] at hmem
    exact List.not_mem_nil hmem
  · intro d hd s'
    exact s'.queue.awaitsTick_eq_false_iff.mp (awaitsTick_takeTurn hopen hd)

/-- A driver waits, and a wallet is offered. The driver is told and is to run, and in its turn it
dispatches the task. -/
theorem run_wakes_of_offer :
    let waiting : List Action := [.own (.make "savings" "w1" {}), .spawn, .drive 0, .drive 0, .drive 0]
    let offered := waiting ++ [.offer ["savings"] .genesis]
    let s := (fresh .empty {} 200 none).run waiting
    let s₁ := (fresh .empty {} 200 none).run offered
    let s₂ := (s₁.act (.drive 0)).1
    s.isShutDown = false ∧ s.told? 0 = some false ∧ s.wake.kept = false ∧
      (s.queue.phase = .idle → s.queue.tasks = []) ∧ s₁.isShutDown = false ∧
      s₁.told? 0 = some true ∧ 0 ∈ s₁.turns ∧ s₁.queue.phase = .idle ∧ s₁.queue.tasks ≠ [] ∧
      (s₂.queue.phase = .idle → s₂.queue.tasks = []) ∧ s₂.queue.phase = .running 0 0 := by
  intro waiting offered s s₁ s₂
  have hs : (fresh .empty {} 200 none).run waiting = s := rfl
  have hs₁ : (fresh .empty {} 200 none).run offered = s₁ := rfl
  have hs₂ : (s₁.act (.drive 0)).1 = s₂ := rfl
  have hopen : s.isShutDown = false := by decide
  have hopen₁ : s₁.isShutDown = false := by decide
  have hkept : s.wake.kept = false := by decide
  have hwaits : s.told? 0 = some false := by decide
  have htold : s₁.told? 0 = some true := by decide
  have hlength : s.drivers.length = 1 := by decide
  have huntold : ∀ d, s.told? d ≠ some true := by
    intro d
    cases d with
    | zero => simp [hwaits]
    | succ d => simp [told?, hlength]
  obtain ⟨hquiet, -⟩ := run_wakes .empty {} 200 none waiting hopen
  obtain ⟨-, -, hrun, hturn⟩ := run_wakes .empty {} 200 none offered hopen₁
  rw [hs] at hquiet
  rw [hs₁] at hrun hturn
  obtain ⟨-, hidle⟩ := hturn 0 (Or.inl htold)
  rw [hs₂] at hidle
  exact ⟨hopen, hwaits, hkept, (hquiet hkept huntold).2.1, hopen₁, htold, hrun 0 htold, by decide,
    by decide, hidle, by decide⟩

end Scheduler

end WalletReplay
