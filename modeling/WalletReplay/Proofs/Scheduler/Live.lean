import WalletReplay.Proofs.Scheduler.Attempt
import WalletReplay.Proofs.Scheduler.Order

/-!
# A task that runs has its chain

While a task runs, either the tick that dispatched it is in line, and then behind all other ticks,
or no tick is in line and the chain in its place is that of the task. So a tick that is late, whose
task has retired long since, still takes the chain down and builds its own, but never after the tick
of the running task.

This holds as long as no call is given up midway and shutdown is not called. Failures of the client,
regular downloads and early completions do not matter.

## What is proved

* `Pursuit.move` — moves keep the pursuit of the running task.
* `run_live` — when a task runs and no call is in progress, the chain in its place is that of the
  task.
-/

namespace WalletReplay

/-- Whether a call has come to take the chain down for good. -/
def Call.isShutdown : Call → Bool
  | waiting .shutdown | working (.stopping _) | working (.closing _) => true
  | _ => false

theorem Call.isShutdown_of_fresh {c : Call} (h : c.isBegun = false) : c.isShutdown = false := by
  cases c with
  | fresh kind => rfl
  | waiting | working => simp [isBegun] at h

/-- A call that does not take the chain down for good goes on without doing so. -/
theorem Work.isShutdown_succeed {slot : Option Stack} {client : Client} {w next : Work}
    (hw : (Call.working w).isShutdown = false) (h : (w.succeed slot client).next = some next) :
    (Call.working next).isShutdown = false := by
  cases w with
  | replay task floor stage => cases stage <;> simp_all [succeed, Stage.succeed] <;> subst h <;> rfl
  | starting network =>
    obtain rfl := Option.some.inj h
    rfl
  | resuming network => simp [succeed] at h
  | stopping stack | closing stack => simp [Call.isShutdown] at hw

namespace Scheduler

variable {s s' : Scheduler} {k : Caller}

theorem live_depart {u : Task} :
    Live (s.depart k).slot (s.depart k).client u ↔ Live s.slot s.client u := by
  rw [depart_eq]

/-! ### The chase -/

/-- What is in line for the head, and what is in the place of the chain, by the phase: the tick of
a head that runs is the last of the ticks in line, or there is none and the chain is that of the
head; a head that can be dispatched has no tick in line. -/
def Chased (s : Scheduler) : Prop :=
  ∀ head, s.queue.head? = some head →
    match s.queue.phase with
    | .running _ _ =>
      s.lineTasks.getLast? = some head ∨ s.lineTasks = [] ∧ Live s.slot s.client head
    | .idle | .backoff _ _ _ | .stalled _ _ => ∀ u ∈ s.lineTasks, u.id ≠ head.id
    | .completing _ | .retiring _ => True

namespace Chased

/-- A move that leaves the queue and the line alone, and the chain too if no tick is in line. -/
theorem congr (hs : s.Chased) (hqueue : s'.queue = s.queue) (hline : s'.lineTasks = s.lineTasks)
    (hlive : s.lineTasks = [] → ∀ task, Live s.slot s.client task → Live s'.slot s'.client task) :
    s'.Chased := by
  intro head hhead
  rw [hqueue] at hhead ⊢
  rw [hline]
  have hold := hs head hhead
  cases hphase : s.queue.phase with
  | running t n =>
    rw [hphase] at hold
    exact hold.imp_right fun ⟨hnil, h⟩ => ⟨hnil, hlive hnil head h⟩
  | idle | backoff | stalled =>
    rw [hphase] at hold
    exact hold
  | completing | retiring => trivial

/-- The first tick leaves the line, and the task that runs is not its own, or has its chain. -/
theorem leave (hs : s.Chased) (hq : s.queue.HeadMatches) {u : Task} (hqueue : s'.queue = s.queue)
    (hline : s.lineTasks = u :: s'.lineTasks)
    (hu : (∀ n, s.queue.phase ≠ .running u.id n) ∨ Live s'.slot s'.client u) : s'.Chased := by
  intro head hhead
  rw [hqueue] at hhead ⊢
  have hold := hs head hhead
  cases hphase : s.queue.phase with
  | running t n =>
    rw [hphase, hline] at hold
    have hlast : (u :: s'.lineTasks).getLast? = some head := by
      rcases hold with h | ⟨h, -⟩
      · exact h
      · simp at h
    -- The tick that leaves is that of the head only if none is left behind it.
    cases hrest : s'.lineTasks with
    | nil =>
      rw [hrest] at hlast
      obtain rfl : u = head := by simpa using hlast
      refine Or.inr ⟨rfl, hu.resolve_left fun hne => ?_⟩
      obtain ⟨head, hhead', rfl⟩ := hq t (by rw [hphase]; rfl)
      rw [hhead] at hhead'
      obtain rfl := Option.some.inj hhead'
      exact hne n hphase
    | cons v rest =>
      rw [hrest, List.getLast?_cons_cons] at hlast
      exact Or.inl hlast
  | idle | backoff | stalled =>
    rw [hphase, hline] at hold
    exact fun v hv => hold v (List.mem_cons_of_mem u hv)
  | completing | retiring => trivial

/-- While a task runs, the only tick in line is its own. -/
theorem eq_head (hs : s.Chased) {head u : Task} {t : TaskId} {failures : Nat}
    (hhead : s.queue.head? = some head) (hphase : s.queue.phase = .running t failures)
    (hline : s.lineTasks = [u]) : u = head := by
  have hchased := hs head hhead
  rw [hphase, hline] at hchased
  simpa using hchased

/-- The first tick leaves the line, and its failure counts. -/
theorem leave_failed (hq : s.queue.HeadMatches) (hstrict : s.lineTasks.Pairwise (·.id < ·.id))
    {u : Task} {n : Nat} (hline : s.lineTasks = u :: s'.lineTasks)
    (hphase : s.queue.phase = .running u.id n) (htasks : s'.queue.tasks = s.queue.tasks)
    (hback : ∀ t m, s'.queue.phase ≠ .running t m) : s'.Chased := by
  intro head hhead
  obtain ⟨head', hhead', hid⟩ := hq u.id (by rw [hphase]; rfl)
  rw [Queue.head?, htasks] at hhead
  rw [Queue.head?, hhead] at hhead'
  obtain rfl := Option.some.inj hhead'
  rw [hline, List.pairwise_cons] at hstrict
  have hne : ∀ v ∈ s'.lineTasks, v.id ≠ head.id := by
    intro v hv
    rw [hid]
    exact Nat.ne_of_gt (hstrict.1 v hv)
  cases hphase' : s'.queue.phase with
  | running t m => exact absurd hphase' (hback t m)
  | idle | backoff | stalled => exact hne
  | completing | retiring => trivial

end Chased

/-- As long as shutdown is not called, no call has come to take the chain down for good. -/
theorem Step.noShutdown (hs : ∀ l c, s.calls.get? l = some c → c.isShutdown = false)
    (hopen : s'.isShutDown = false) (h : Step k s s') :
    ∀ l c, s'.calls.get? l = some c → c.isShutdown = false := by
  intro l c hc
  by_cases hl : l = k
  · subst hl
    cases h with
    | retire => exact hs l c hc
    | askShutdown =>
      rw [callShutdown_eq] at hopen
      simp [stand, isShutDown] at hopen
    | rest | refuse | declineRegular | declineShutdown | fail => simp [Table.get?_erase_self] at hc
    | dispatch | askRegular =>
      obtain rfl : _ = c := by simpa [stand, Table.get?_set_self] using hc
      rfl
    | attempt =>
      obtain rfl : _ = c := by simpa [engage, work, Table.get?_set_self] using hc
      unfold Work.attempt
      split <;> rfl
    | beginRegular =>
      obtain rfl : _ = c := by simpa [engage, work, Table.get?_set_self] using hc
      split <;> rfl
    | beginShutdown hcall => exact absurd (hs l _ hcall.1) (by simp [Call.isShutdown])
    | @succeed w hcall =>
      cases hnext : (w.succeed s.slot (s.hear l w true).client).next with
      | none => simp [hnext, goOn, Table.get?_erase_self] at hc
      | some next =>
        obtain rfl : _ = c := by simpa [hnext, goOn, engage, work, Table.get?_set_self] using hc
        exact Work.isShutdown_succeed (hs l _ hcall) hnext
  · rw [h.others hl] at hc
    exact hs l c hc

/-! ### The pursuit -/

/-- How the line, the chain and the queue stand to each other, as long as no call is given up and
shutdown is not called. -/
structure Pursuit (s : Scheduler) : Prop where
  ordered : s.Ordered
  noShutdown : ∀ k c, s.calls.get? k = some c → c.isShutdown = false
  strict : s.lineTasks.Pairwise (·.id < ·.id)
  accepted : ∀ u ∈ s.lineTasks, u.id < s.acceptedCount
  sound : s.SoundWork
  chased : s.Chased

namespace Pursuit

theorem id_le (hs : s.Pursuit) {u : Task} (hu : u ∈ s.lineTasks) : u.id ≤ s.retiredTasks.length :=
  hs.ordered.attempts_le u.id (List.mem_append_right _ (List.mem_map_of_mem hu))

/-- A head that can be dispatched is younger than all tasks in line. -/
theorem lt_head (hs : s.Pursuit) {head : Task} (hhead : s.queue.head? = some head)
    (hready : s.queue.phase = .idle ∨ ∃ n t, s.queue.phase = .backoff head.id n t) :
    ∀ u ∈ s.lineTasks, u.id < head.id := by
  intro u hu
  have hne : u.id ≠ head.id := by
    have hold := hs.chased head hhead
    rcases hready with hphase | ⟨n, t, hphase⟩ <;> rw [hphase] at hold <;> exact hold u hu
  refine Nat.lt_of_le_of_ne ?_ hne
  rw [hs.ordered.head_id hhead]
  exact hs.id_le hu

theorem strict_course (hs : s.Pursuit) (h : Course s s') :
    s'.lineTasks.Pairwise (·.id < ·.id) := by
  have hold := hs.strict
  cases h with
  | aside _ _ _ _ hline => exact hold.sublist hline
  | accept _ _ _ _ _ hline | retire _ _ _ _ hline | attempt _ _ _ _ hline
  | complete _ _ _ _ _ _ hline =>
    rw [hline]
    exact hold
  | dispatch _ _ hhead hready _ hline =>
    rw [hline, List.pairwise_append]
    refine ⟨hold, List.pairwise_singleton _ _, fun u hu v hv => ?_⟩
    rw [List.mem_singleton.mp hv]
    exact hs.lt_head hhead (hready.imp_right fun ⟨t, ht⟩ => ⟨_, t, ht⟩) u hu

theorem accepted_course (hs : s.Pursuit) (h : Course s s') :
    ∀ u ∈ s'.lineTasks, u.id < s'.acceptedCount := by
  intro u hu
  have hold := hs.accepted u
  cases h with
  | aside _ _ hcount _ hline =>
    rw [hcount]
    exact hold (hline.subset hu)
  | accept _ _ _ hcount _ hline =>
    rw [hcount]
    exact Nat.lt_succ_of_lt (hold (hline ▸ hu))
  | retire _ hcount _ _ hline | attempt _ hcount _ _ hline | complete _ _ hcount _ _ _ hline =>
    rw [hcount]
    exact hold (hline ▸ hu)
  | @dispatch head _ _ hcount hhead _ _ hline =>
    rw [hcount]
    rw [hline] at hu
    rcases List.mem_append.mp hu with hu | hu
    · exact hold hu
    · rw [List.mem_singleton.mp hu, ← List.mem_range, ← hs.ordered.retired]
      exact List.mem_append_right _ (List.mem_map_of_mem (List.mem_of_head? hhead))

/-- After the head is popped no tick in line is that of the next. -/
theorem chased_retire (hs : s.Pursuit) (hs' : s'.Ordered) {head : Task}
    (hjournal : s'.journal = s.journal ++ [.retired head.id]) (hphase : s'.queue.phase = .idle)
    (hline : s'.lineTasks = s.lineTasks) : s'.Chased := by
  intro next hnext
  have hid := hs'.head_id hnext
  have hlength : s'.retiredTasks.length = s.retiredTasks.length + 1 := by
    simp [retiredTasks, hjournal, Occurrence.retired?]
  simp only [hphase, hline]
  intro u hu
  refine Nat.ne_of_lt ?_
  rw [hid, hlength]
  exact Nat.lt_succ_of_le (hs.id_le hu)

/-- The call that holds the chain goes on. Without a task it leaves the chain of the head alone. -/
theorem chased_serve (hs : s.Pursuit) (hhead : s.line.head? = some k) {w : Work}
    (hline : s'.line = s.line) (hcalls : s'.calls = s.calls.set k (.working w))
    (hqueue : s'.queue = s.queue) (htask : s.taskOf? k = w.task?)
    (hlive : w.task? = none → ∀ u, Live s.slot s.client u → Live s'.slot s'.client u) :
    s'.Chased := by
  refine hs.chased.congr hqueue (lineTasks_of_serve htask hline hcalls) fun hnil u hu => hlive ?_ u hu
  cases hw : w.task? with
  | none => rfl
  | some v => exact absurd hnil (lineTasks_ne_nil hhead (htask.trans hw))

/-- The call that holds the chain is over. With a task that runs it leaves the chain of that task,
and without one it leaves the chain of the head alone. -/
theorem chased_leave (hs : s.Pursuit) (hhead : s.line.head? = some k)
    (hline : s'.line = s.line.erase k) (hcalls : s'.calls = s.calls.erase k)
    (hqueue : s'.queue = s.queue)
    (htask : ∀ u, s.taskOf? k = some u →
      (∀ n, s.queue.phase ≠ .running u.id n) ∨ Live s'.slot s'.client u)
    (hlive : s.taskOf? k = none → ∀ u, Live s.slot s.client u → Live s'.slot s'.client u) :
    s'.Chased := by
  have hleave := lineTasks_of_leave_head hs.ordered.inLine hhead hline hcalls
  cases hk : s.taskOf? k with
  | some u =>
    rw [hk] at hleave
    exact hs.chased.leave hs.ordered.headMatches hqueue hleave (htask u hk)
  | none =>
    rw [hk] at hleave
    exact hs.chased.congr hqueue hleave.symm fun _ => hlive hk

theorem chased_succeed (hs : s.Pursuit) {w : Work} (hcall : s.calls.get? k = some (.working w)) :
    (goOn
      { s.hear k w true with
        slot := (w.succeed s.slot (s.hear k w true).client).slot
        client := (w.succeed s.slot (s.hear k w true).client).client }
      k (w.succeed s.slot (s.hear k w true).client).next).Chased := by
  have hhead := hs.ordered.inLine.head_of_working hcall
  have hclient := s.sameNetworks_hear k w true
  have hsound : w.Sound s.slot (s.hear k w true).client := (hs.sound k w hcall).congr hclient
  have htask := taskOf?_of_working hcall
  cases hnext : (w.succeed s.slot (s.hear k w true).client).next with
  | some next =>
    have hnextTask := Work.task?_of_succeed hnext
    refine hs.chased_serve hhead rfl rfl rfl (htask.trans hnextTask.symm) fun hnone u h => ?_
    exact (Work.live_succeed (h.congr hclient) (hnextTask.symm.trans hnone)).congr (.enter _)
  | none =>
    refine hs.chased_leave hhead (line_depart _ k) (calls_depart _ k) (queue_depart _ k)
      (fun u hu => Or.inr ?_) fun hnone u h => ?_
    · exact live_depart.mpr (Work.live_of_succeed hsound (htask.symm.trans hu) hnext)
    · exact live_depart.mpr (Work.live_succeed (h.congr hclient) (htask.symm.trans hnone))

/-- A failure that counts takes the tick of a running head out of the line. -/
theorem chased_fail (hs : s.Pursuit) {w : Work} (hcall : s.calls.get? k = some (.working w)) :
    (depart (countFailure { s.hear k w false with slot := w.slotAfterFailure s.slot } w.task?)
      k).Chased := by
  have hhead := hs.ordered.inLine.head_of_working hcall
  have hclient := s.sameNetworks_hear k w false
  have htask := taskOf?_of_working hcall
  cases hw : w.task? with
  | none =>
    rw [hw] at htask
    have hslot : w.slotAfterFailure s.slot = s.slot := by
      cases w with
      | replay task floor stage => simp [Work.task?] at hw
      | starting | resuming | stopping | closing => rfl
    refine hs.chased_leave hhead (line_depart _ k) (calls_depart _ k) (queue_depart _ k)
      (fun u hu => ?_) fun _ u h => live_depart.mpr ?_
    · rw [htask] at hu
      simp at hu
    · rw [countFailure, hslot]
      exact h.congr hclient
  | some u =>
    rw [hw] at htask
    have hqueue : (depart (countFailure { s.hear k w false with slot := w.slotAfterFailure s.slot }
        (some u)) k).queue = (s.queue.fail u.id s.retry s.clock).1 := queue_depart _ k
    rcases s.queue.fail_cases u.id s.retry s.clock with
      ⟨hne, hfail⟩ | ⟨failures, count, hphase, -, hfail⟩
    · refine hs.chased_leave hhead (line_depart _ k) (calls_depart _ k) (by rw [hqueue, hfail])
        (fun v hv => Or.inl ?_) fun hnone => ?_
      · rw [htask] at hv
        obtain rfl := Option.some.inj hv
        exact hne
      · rw [htask] at hnone
        simp at hnone
    · have hline := lineTasks_of_leave_head hs.ordered.inLine hhead (line_depart (countFailure
        { s.hear k w false with slot := w.slotAfterFailure s.slot } (some u)) k) (calls_depart _ k)
      rw [htask] at hline
      refine Chased.leave_failed hs.ordered.headMatches hs.strict hline hphase ?_ ?_
      · rw [hqueue, (s.queue.fallsBack_fail u.id s.retry s.clock).tasks]
      · rw [hqueue]
        rcases hfail with ⟨-, hfail⟩ | ⟨-, hfail⟩ <;> rw [hfail] <;> simp

theorem chased_dispatch {head : Task} {failures : Nat} (hhead : s.queue.head? = some head)
    (hqueue : s'.queue = { s.queue with phase := .running head.id failures })
    (hline : s'.lineTasks = s.lineTasks ++ [head]) : s'.Chased := by
  intro other hother
  rw [hqueue] at hother ⊢
  obtain rfl : head = other := Option.some.inj (hhead.symm.trans hother)
  exact Or.inl (by rw [hline, List.getLast?_concat])

/-- Steps keep the chase, unless shutdown is called. -/
theorem chased_step (hs : s.Pursuit) (hs' : s'.Ordered) (hopen : s'.isShutDown = false)
    (h : Step k s s') : s'.Chased := by
  have hinLine := hs.ordered.inLine
  cases h with
  | rest hcall =>
    exact hs.chased.congr rfl (lineTasks_of_notMem (hinLine.notMem_of_fresh hcall) rfl
      fun l hl => Table.get?_erase_of_ne _ hl) fun _ _ h => h
  | retire hcall =>
    rcases hs.ordered.headMatches.retire_cases with ⟨-, h⟩ | ⟨head, rest, hcons, h⟩
    · rw [h]
      exact hs.chased.congr rfl (lineTasks_congr rfl fun _ _ => rfl) fun _ _ h => h
    · rw [h] at hs' ⊢
      exact hs.chased_retire hs' rfl rfl (lineTasks_congr rfl fun _ _ => rfl)
  | dispatch hcall _ h =>
    rcases s.queue.dispatch_cases s.clock with hd | ⟨head, failures, hhead, hd, -⟩
    · rw [hd] at h
      simp at h
    · rw [hd] at h ⊢
      obtain rfl := Option.some.inj h
      exact chased_dispatch hhead rfl
        (lineTasks_of_join (hinLine.notMem_of_fresh hcall) (.replay head) rfl rfl)
  | askRegular hcall =>
    refine hs.chased.congr rfl ?_ fun _ _ h => h
    rw [lineTasks_of_join (hinLine.notMem_of_fresh hcall) .regular rfl rfl]
    exact List.append_nil _
  | askShutdown =>
    rw [callShutdown_eq] at hopen
    simp [stand, isShutDown] at hopen
  | refuse _ hclosed =>
    rw [depart_eq] at hopen
    exact absurd (hopen.symm.trans hclosed) (by simp)
  | attempt hcall =>
    refine hs.chased_serve hcall.2 rfl rfl rfl ?_ fun hnone => ?_
    · rw [taskOf?_of_waiting hcall.1, Work.task?_attempt]
      rfl
    · rw [Work.task?_attempt] at hnone
      simp at hnone
  | declineRegular hcall | declineShutdown hcall =>
    have htask := taskOf?_of_waiting hcall.1
    refine hs.chased_leave hcall.2 (line_depart _ k) (calls_depart _ k) (queue_depart _ k)
      (fun u hu => ?_) fun _ u h => live_depart.mpr h
    rw [htask] at hu
    simp [Errand.task?] at hu
  | beginRegular hcall =>
    refine hs.chased_serve hcall.2 rfl rfl rfl ?_ fun _ u h => h.congr (.enter _)
    rw [taskOf?_of_waiting hcall.1]
    split <;> rfl
  | beginShutdown hcall => exact absurd (hs.noShutdown k _ hcall.1) (by simp [Call.isShutdown])
  | succeed hcall => exact hs.chased_succeed hcall
  | fail hcall => exact hs.chased_fail hcall

end Pursuit

/-! ### Moves beside the calls -/

/-- No call begins or goes on, and the chain stays. -/
structure Beside (s s' : Scheduler) : Prop where
  slot : s'.slot = s.slot
  client : s.client.SameNetworks s'.client
  calls : ∀ k c, s'.calls.get? k = some c → c.isBegun = true → s.calls.get? k = some c
  lineTasks : s'.lineTasks = s.lineTasks

theorem beside_of_eq (hslot : s'.slot = s.slot) (hclient : s.client.SameNetworks s'.client)
    (hline : s'.line = s.line) (hcalls : s'.calls = s.calls) : Beside s s' :=
  ⟨hslot, hclient, fun k c hc _ => hcalls ▸ hc, lineTasks_congr hline fun _ _ => by rw [hcalls]⟩

/-- A move that is not a step of a call is beside the calls, unless it gives one up. -/
theorem Move.step_or_beside {p : Terms} (hdrop : ¬ p.drop) (hs : s.InLine) (h : Move p s s') :
    (∃ k, Step k s s') ∨ Beside s s' := by
  cases h with
  | step h => exact Or.inl ⟨_, h⟩
  | @create k kind h =>
    refine Or.inr ⟨rfl, .refl _, fun l c hc hbegun => ?_, ?_⟩
    · simp only [Scheduler.create, Table.get?_set] at hc
      split_ifs at hc
      · obtain rfl := Option.some.inj hc
        simp [Call.isBegun] at hbegun
      · exact hc
    · exact lineTasks_of_notMem (hs.notMem_of_none h) rfl fun l hl => Table.get?_set_of_ne _ hl _
  | @discard k kind h =>
    have hk := hs.notMem_of_fresh h
    rw [cancel_of_some h]
    refine Or.inr ⟨rfl, .refl _, fun l c hc _ => ?_, ?_⟩
    · simp only [Table.get?_erase] at hc
      split_ifs at hc
      exact hc
    · exact lineTasks_of_notMem hk (List.erase_of_not_mem hk) fun l hl => Table.get?_erase_of_ne _ hl
  | drop hp => exact absurd hp hdrop
  | enroll =>
    rw [enroll_eq]
    exact Or.inr (beside_of_eq rfl (.refl _) rfl rfl)
  | complete =>
    rw [complete_eq]
    exact Or.inr (beside_of_eq rfl (.refl _) rfl rfl)
  | own | listen | progress | endDownload | inject | setHeight | wait | drivers =>
    exact Or.inr (beside_of_eq rfl ⟨rfl, rfl⟩ rfl rfl)

namespace Pursuit

theorem chased_beside (hs : s.Pursuit) (h : Beside s s') (hqueue : s'.queue = s.queue) :
    s'.Chased := by
  refine hs.chased.congr hqueue h.lineTasks fun _ u hu => ?_
  rw [h.slot]
  exact hu.congr h.client

/-- A task that is accepted is younger than all that are in line. -/
theorem chased_push (hs : s.Pursuit) (h : Beside s s') {task : Task}
    (hid : task.id = s.acceptedCount) (hqueue : s'.queue = s.queue.push task) : s'.Chased := by
  intro head hhead
  rw [hqueue] at hhead ⊢
  cases hold : s.queue.head? with
  | some old =>
    have heq : old = head := Option.some.inj ((Queue.head?_push_of_some hold task).symm.trans hhead)
    have hsame : Chased { s' with queue := s.queue } := hs.chased_beside
      ⟨h.slot, h.client, h.calls, h.lineTasks⟩ rfl
    exact hsame head (heq ▸ hold)
  | none =>
    have hnil : s.queue.tasks = [] := List.head?_eq_none_iff.mp hold
    obtain rfl : task = head := by simpa [Queue.push, Queue.head?, hnil] using hhead
    have hidle : s.queue.phase = .idle := by
      cases hphase : s.queue.phase with
      | idle => rfl
      | running t | completing t | retiring t | backoff t | stalled t =>
        obtain ⟨old, hsome, -⟩ := hs.ordered.headMatches t (by rw [hphase]; rfl)
        rw [hold] at hsome
        simp at hsome
    have hne : ∀ u ∈ s'.lineTasks, u.id ≠ task.id := by
      intro u hu
      rw [h.lineTasks] at hu
      rw [hid]
      exact Nat.ne_of_lt (hs.accepted u hu)
    rw [show (s.queue.push task).phase = .idle from hidle]
    exact hne

/-- Moves keep the chase, unless a call is given up or shutdown is called. -/
theorem chased_move {p : Terms} (hdrop : ¬ p.drop) (hs : s.Pursuit) (hs' : s'.Ordered)
    (hopen : s'.isShutDown = false) (h : Move p s s') : s'.Chased := by
  have hcases := h.step_or_beside hdrop hs.ordered.inLine
  rcases hcases with ⟨k, hstep⟩ | hbeside
  · exact hs.chased_step hs' hopen hstep
  · cases h with
    | step h => exact hs.chased_step hs' hopen h
    | drop hp => exact absurd hp hdrop
    | discard h =>
      refine hs.chased_beside hbeside ?_
      rw [cancel_of_some h]
    | enroll => exact hs.chased_push hbeside rfl (queue_enroll s _)
    | complete =>
      intro head _
      rw [queue_complete rfl]
      trivial
    | create | own | listen | progress | endDownload | inject | setHeight | wait | drivers =>
      exact hs.chased_beside hbeside rfl

/-- **Moves keep the pursuit**, unless a call is given up or shutdown is called. -/
theorem move {p : Terms} (hdrop : ¬ p.drop) (hs : s.Pursuit) (hopen : s'.isShutDown = false)
    (h : Move p s s') : s'.Pursuit :=
  have hs' := hs.ordered.move h
  have hc := h.course hs.ordered.inLine hs.ordered.headMatches
  have hcases := h.step_or_beside hdrop hs.ordered.inLine
  { ordered := hs'
    noShutdown := by
      rcases hcases with ⟨k, hstep⟩ | hbeside
      · exact hstep.noShutdown hs.noShutdown hopen
      · intro l c hc
        cases hbegun : c.isBegun with
        | true => exact hs.noShutdown l c (hbeside.calls l c hc hbegun)
        | false => exact Call.isShutdown_of_fresh hbegun
    strict := hs.strict_course hc
    accepted := hs.accepted_course hc
    sound := by
      rcases hcases with ⟨k, hstep⟩ | hbeside
      · exact hs.sound.step hs.ordered.inLine hstep
      · exact hs.sound.of_eq hbeside.slot hbeside.client fun l w hw => hbeside.calls l _ hw rfl
    chased := hs.chased_move hdrop hs' hopen h }

end Pursuit

/-! ### Runs -/

theorem Step.shutdownCount_le (h : Step k s s') : s.shutdownCount ≤ s'.shutdownCount := by
  cases h with
  | askShutdown =>
    rw [callShutdown_eq]
    exact Nat.le_succ _
  | rest | retire | dispatch | askRegular | attempt | beginRegular | beginShutdown =>
    exact Nat.le_refl _
  | refuse | declineRegular | declineShutdown =>
    rw [depart_eq]
    exact Nat.le_refl _
  | succeed =>
    rw [goOn_eq]
    exact Nat.le_refl _
  | fail =>
    rw [countFailure_eq, depart_eq]
    exact Nat.le_refl _

theorem Move.shutdownCount_le {p : Terms} (h : Move p s s') :
    s.shutdownCount ≤ s'.shutdownCount := by
  cases h with
  | step h => exact h.shutdownCount_le
  | discard h | drop _ h => rw [cancel_of_some h]
  | enroll => rw [enroll_eq]
  | complete => rw [complete_eq]
  | create | own | listen | progress | endDownload | inject | setHeight | wait | drivers =>
    exact Nat.le_refl _

/-- Shutdown that is not called was not called before. -/
theorem Move.isShutDown_eq_false {p : Terms} (h : Move p s s') (hopen : s'.isShutDown = false) :
    s.isShutDown = false := by
  have hle := h.shutdownCount_le
  simp only [Scheduler.isShutDown, decide_eq_false_iff_not] at hopen ⊢
  omega

theorem isShutDown_eq_false_of_moves {p : Terms} (h : Relation.ReflTransGen (Move p) s s')
    (hopen : s'.isShutDown = false) : s.isShutDown = false := by
  induction h with
  | refl => exact hopen
  | tail _ h ih => exact ih (h.isShutDown_eq_false hopen)

/-- What moves keep as long as shutdown is not called, so do sequences of moves. -/
theorem moves_invariant_of_open {p : Terms} {I : Scheduler → Prop}
    (hmove : ∀ {s s'}, I s → s'.isShutDown = false → Move p s s' → I s') (hs : I s)
    (h : Relation.ReflTransGen (Move p) s s') (hopen : s'.isShutDown = false) : I s' := by
  induction h with
  | refl => exact hs
  | tail _ h ih => exact hmove (ih (h.isShutDown_eq_false hopen)) hopen h

/-- An action gives up a call midway: the one that it cancels, or the one whose name it takes. -/
def GivesUp (s : Scheduler) : Action → Prop
  | .create name _ | .cancel name => ∃ c, s.calls.get? (.named name) = some c ∧ c.isBegun = true
  | _ => False

instance decidableGivesUp (s : Scheduler) : (a : Action) → Decidable (s.GivesUp a)
  | .create name _ | .cancel name =>
    decidable_of_iff ((s.calls.get? (.named name)).any Call.isBegun = true) (Option.any_eq_true ..)
  | .own _ | .listen _ | .offer _ _ | .notify _ | .poll _ | .spawn | .drive _ | .inject _ _
  | .progress _ _ | .finish | .setHeight _ | .wait _ => .isFalse id

/-- The terms under which no call is given up midway. -/
def noDrop : Terms where
  drop := False

theorem within_noDrop {a : Action} (h : ¬ s.GivesUp a) : Within noDrop s a := by
  cases a with
  | create name kind | cancel name => exact h
  | own | listen | offer | notify | poll | spawn | drive | inject | progress | finish | setHeight
  | wait => trivial

theorem along_noDrop {actions : List Action} (h : Along (fun s a => ¬ s.GivesUp a) s actions) :
    Along (Within noDrop) s actions := by
  induction actions generalizing s with
  | nil => trivial
  | cons a actions ih => exact ⟨within_noDrop h.1, ih h.2⟩

theorem pursuit_fresh (checkpoints : Checkpoints) (retry : RetryPolicy) (interval : Nat)
    (synced : Option Height) : (fresh checkpoints retry interval synced).Pursuit := by
  have hordered := ordered_fresh checkpoints retry interval synced
  cases synced <;> exact
    { ordered := hordered
      noShutdown := fun _ _ h => by simp [fresh, start, startSynced, Table.get?] at h
      strict := List.Pairwise.nil
      accepted := fun _ h => by simp [lineTasks, fresh, start, startSynced] at h
      sound := fun _ _ h => by simp [fresh, start, startSynced, Table.get?] at h
      chased := fun _ h => by simp [fresh, start, startSynced, Queue.head?] at h }

/-- The pursuit lasts as long as no call is given up and shutdown is not called. -/
theorem Pursuit.run (hs : s.Pursuit) (hticks : s.TicksDriven) {actions : List Action}
    (hkept : Along (fun s a => ¬ s.GivesUp a) s actions)
    (hopen : (s.run actions).isShutDown = false) : (s.run actions).Pursuit :=
  moves_invariant_of_open (fun hs hopen h => hs.move (p := noDrop) not_false hopen h) hs
    (run_moves hticks (along_noDrop hkept)) hopen

/-- **A task that runs has its chain.** Take any run that gives up no call midway and in which
shutdown is not called. When the task `t` runs and no call is in progress, `t` is the task at the
head, as it was made when it was offered; and in the place of the chain is a stack whose store was
made at the checkpoint that `t` starts from, whose chain has the wallets of `t`, in order, and whose
network is the newest, runs and has a progress listener for each of these wallets. -/
theorem run_live (checkpoints : Checkpoints) (retry : RetryPolicy) (interval : Nat)
    (synced : Option Height) {actions : List Action}
    (hkept : Along (fun s a => ¬ s.GivesUp a) (fresh checkpoints retry interval synced) actions)
    (hopen : ((fresh checkpoints retry interval synced).run actions).isShutDown = false)
    (hquiet : ∀ k c, ((fresh checkpoints retry interval synced).run actions).calls.get? k = some c →
      c.isBegun = false)
    {t : TaskId} {failures : Nat}
    (hphase : ((fresh checkpoints retry interval synced).run actions).queue.phase =
      .running t failures) :
    let s₀ := fresh checkpoints retry interval synced
    let s := s₀.run actions
    ∃ task ∈ s₀.offeredTasks actions, task.id = t ∧ s.queue.head? = some task ∧
      task.start = checkpoints.resolve task.target ∧
      ∃ stack, s.slot = some stack ∧ stack.store.base = task.start ∧
        stack.chain.wallets = task.wallets.map (·.id) ∧ stack.network.running = true ∧
        stack.network.number + 1 = s.client.networkCount ∧
        s.client.listeners.map (·.wallet) = task.wallets := by
  intro s₀ s
  have hticks : s₀.TicksDriven := ticksDriven_fresh checkpoints retry interval synced
  have hs : s.Pursuit := (pursuit_fresh checkpoints retry interval synced).run hticks hkept hopen
  have hline : s.line = [] := by
    refine List.eq_nil_iff_forall_not_mem.mpr fun k hk => ?_
    obtain ⟨c, hc, hbegun⟩ := (hs.ordered.inLine.mem_iff k).mp hk
    rw [hquiet k c hc] at hbegun
    simp at hbegun
  -- With nobody in line, the chase leaves only the chain of the head.
  have hlineTasks : s.lineTasks = [] := by rw [lineTasks, hline, List.filterMap_nil]
  obtain ⟨task, hhead, hid⟩ := hs.ordered.headMatches t (by rw [hphase]; rfl)
  have hchased := hs.chased task hhead
  rw [hphase, hlineTasks] at hchased
  obtain ⟨stack, hslot, hserves, hrunning⟩ := (hchased.resolve_left (by simp)).2
  have hoffered : task ∈ s₀.offeredTasks actions := by
    have hnil : s₀.queue.tasks = [] := by cases synced <;> rfl
    have htasks := ((ordered_fresh checkpoints retry interval synced).run hticks actions).tasks
    rw [hnil, List.nil_append] at htasks
    exact htasks.subset (List.mem_of_head? hhead)
  have hstart : task.start = s₀.checkpoints.resolve task.target :=
    start_of_mem_offeredTasks hticks hoffered
  have hcheckpoints : s₀.checkpoints = checkpoints := by cases synced <;> rfl
  rw [hcheckpoints] at hstart
  exact ⟨task, hoffered, hid, hhead, hstart, stack, hslot, hserves.base, hserves.wallets, hrunning,
    hserves.newest, hserves.listeners⟩

/-- A wallet is offered, and a tick is polled until it is over: the chain is that of the task. -/
theorem run_live_of_tick :
    let actions : List Action := [.own (.make "savings" "w1" {}), .offer ["savings"] .genesis,
      .create "tick" .tick, .poll "tick", .poll "tick", .poll "tick", .poll "tick", .poll "tick",
      .poll "tick"]
    let s := (fresh .empty {} 200 none).run actions
    Along (fun s a => ¬ s.GivesUp a) (fresh .empty {} 200 none) actions ∧ s.isShutDown = false ∧
      (∀ k c, s.calls.get? k = some c → c.isBegun = false) ∧ s.queue.phase = .running 0 0 ∧
      ∃ stack, s.slot = some stack ∧ stack.store.base = .genesis ∧ stack.chain.wallets = ["w1"] ∧
        stack.network.running = true ∧ s.client.listeners.map (·.wallet) = [⟨0, "w1"⟩] := by
  intro actions s
  have hkept : Along (fun s a => ¬ s.GivesUp a) (fresh .empty {} 200 none) actions := by
    have hnone : ((fresh .empty {} 200 none).run (actions.take 2)).calls.get? (.named "tick") =
        none := by decide
    refine ⟨id, id, ?_, id, id, id, id, id, id, trivial⟩
    rintro ⟨c, hc, -⟩
    exact absurd (hnone.symm.trans hc) (by simp)
  have hopen : s.isShutDown = false := by decide
  have hquiet : ∀ k c, s.calls.get? k = some c → c.isBegun = false := by
    have hentries : s.calls.entries = [] := by decide
    intro k c hc
    simp [Table.get?, hentries] at hc
  have hphase : s.queue.phase = .running 0 0 := by decide
  have hhead : s.queue.head? = some ⟨0, [⟨0, "w1"⟩], .genesis, .genesis⟩ := by decide
  obtain ⟨task, -, -, htask, -, stack, hslot, hbase, hwallets, hrunning, -, hlisteners⟩ :=
    run_live .empty {} 200 none hkept hopen hquiet hphase
  obtain rfl := Option.some.inj (hhead.symm.trans htask)
  exact ⟨hkept, hopen, hquiet, hphase, stack, hslot, hbase, hwallets, hrunning, hlisteners⟩

end Scheduler

end WalletReplay
