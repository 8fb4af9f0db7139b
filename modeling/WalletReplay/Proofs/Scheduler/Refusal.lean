import WalletReplay.Proofs.Scheduler.Labels
import WalletReplay.Proofs.Scheduler.Shutdown

/-!
# Shutdown is final

A tick that gets hold of the chain after a shutdown is turned away and takes its dispatch back. It
may be late: its task may have completed since, have been popped, and the next may have been
dispatched by another tick. Then there is nothing to take back. For while a tick is in line, its
task runs or has completed, no two ticks in line have the same task, and a task that has completed
is not dispatched again.

## What is proved

* `Manned.move` — moves keep it that the task of a tick in line runs or has completed.
* `act_turn_refused` — what a tick that is turned away makes of the scheduler.
* `run_shutdown_final` — what happens after a shutdown, in any run.
-/

namespace WalletReplay

/-- The action that runs the call of a caller to where it waits next. -/
def Caller.turn : Caller → Action
  | named name => .poll name
  | driver d => .drive d

/-- No task is dispatched after it has completed. -/
def NeverAgain (journal : List Occurrence) : Prop :=
  ∀ past id now rest, journal = past ++ .dispatched id now :: rest → .completed id ∉ past

namespace NeverAgain

theorem nil : NeverAgain [] := by
  intro past id now rest h
  simp at h

theorem concat {journal : List Occurrence} (h : NeverAgain journal) {o : Occurrence}
    (ho : ∀ id now, o = .dispatched id now → .completed id ∉ journal) :
    NeverAgain (journal ++ [o]) := by
  intro past id now rest heq
  rcases split_of_concat heq with ⟨rfl, rfl, -⟩ | ⟨rest, -, rfl⟩
  · exact ho id now rfl
  · exact h past id now rest rfl

theorem append {journal news : List Occurrence} (h : NeverAgain journal)
    (hnews : ∀ id now, .dispatched id now ∉ news) : NeverAgain (journal ++ news) := by
  induction news generalizing journal with
  | nil => simpa using h
  | cons o news ih =>
    have ho : ∀ id now, o = .dispatched id now → .completed id ∉ journal := by
      rintro id now rfl
      exact absurd List.mem_cons_self (hnews id now)
    simpa using ih (h.concat ho) fun id now hmem => hnews id now (List.mem_cons_of_mem o hmem)

/-- The completion of a task lies behind all its dispatches. -/
theorem completed {past rest : List Occurrence} {id : TaskId}
    (h : NeverAgain (past ++ .completed id :: rest)) (now : Nat) : .dispatched id now ∉ rest := by
  intro hmem
  obtain ⟨before, after, rfl⟩ := List.append_of_mem hmem
  exact h (past ++ .completed id :: before) id now after (by simp) (by simp)

end NeverAgain

/-- A head that can be dispatched claims its wallets. -/
theorem Queue.mem_claiming_of_ready {q : Queue} {head : Task} {failures : Nat}
    (hhead : q.head? = some head)
    (hready : q.phase = .idle ∨ ∃ retryAt, q.phase = .backoff head.id failures retryAt) :
    head ∈ q.claiming := by
  rw [claiming_of_ne (by rcases hready with h | ⟨retryAt, h⟩ <;> simp [h])]
  exact List.mem_of_head? hhead

namespace Scheduler

open Relation

variable {s s' : Scheduler} {k : Caller} {p : Terms} {task : Task}

/-! ### The tasks of ticks in line -/

/-- While a task runs, a step lets it run, or takes its tick out of the line. -/
theorem Step.running_cases (hs : s.InLine) (h : Step k s s') {id : TaskId} {n : Nat}
    (hrun : s.queue.phase = .running id n) :
    s'.queue.phase = .running id n ∨ ∃ u, s.lineTasks = u :: s'.lineTasks ∧ u.id = id := by
  cases h with
  | rest | askRegular | attempt | beginRegular | beginShutdown => exact Or.inl hrun
  | retire =>
    refine Or.inl ?_
    change s.queue.retire.1.phase = _
    rw [Queue.retire_of_ne (by simp [hrun]), hrun]
  | dispatch _ _ h =>
    rcases s.queue.dispatch_cases s.clock with hd | ⟨head, failures, -, -, hready⟩
    · rw [hd] at h
      simp at h
    · rcases hready with ⟨hphase, -⟩ | ⟨retryAt, hphase, -⟩ <;> simp [hrun] at hphase
  | askShutdown =>
    rw [callShutdown_eq]
    exact Or.inl hrun
  | declineRegular | declineShutdown =>
    rw [queue_depart]
    exact Or.inl hrun
  | succeed =>
    rw [goOn_eq]
    exact Or.inl hrun
  | @refuse task hcall =>
    have hline := lineTasks_of_leave_head hs hcall.2 (line_depart (record { s with
      queue := (s.queue.abandon task.id).1 } [.acquired k]) k) (calls_depart _ k)
    rw [taskOf?_of_waiting hcall.1] at hline
    rw [queue_depart]
    rcases s.queue.abandon_cases task.id with ⟨-, h⟩ | ⟨failures, hphase, -⟩
    · exact Or.inl ((congrArg (fun r => r.1.phase) h).trans hrun)
    · rw [hrun] at hphase
      exact Or.inr ⟨task, hline, (Phase.running.inj hphase).1.symm⟩
  | @fail w hcall =>
    rw [queue_depart]
    cases htask : w.task? with
    | none => exact Or.inl hrun
    | some u =>
      have hline := lineTasks_of_leave_head hs (hs.head_of_working hcall) (line_depart (countFailure
        { s.hear k w false with slot := w.slotAfterFailure s.slot } (some u)) k) (calls_depart _ k)
      rw [taskOf?_of_working hcall, htask] at hline
      rcases s.queue.fail_cases u.id s.retry s.clock with ⟨-, h⟩ | ⟨failures, count, hphase, -⟩
      · exact Or.inl ((congrArg (fun r => r.1.phase) h).trans hrun)
      · rw [hrun] at hphase
        exact Or.inr ⟨u, hline, (Phase.running.inj hphase).1.symm⟩

/-- While a task runs it goes on running, unless it completes or its tick leaves the line. -/
theorem Move.running_cases (hs : s.InLine) (hq : s.queue.HeadMatches) (h : Move p s s')
    {id : TaskId} {n : Nat} (hrun : s.queue.phase = .running id n) :
    s'.queue.phase = .running id n ∨ .completed id ∈ s'.journal ∨
      ∃ u, s.lineTasks = u :: s'.lineTasks ∧ u.id = id := by
  cases h with
  | step h => exact (h.running_cases hs hrun).imp_right Or.inr
  | discard h | drop _ h =>
    rw [cancel_of_some h]
    exact Or.inl hrun
  | enroll =>
    rw [queue_enroll]
    exact Or.inl hrun
  | @complete head hhead =>
    obtain ⟨told, hjournal⟩ :=
      journal_complete { s with queue := { s.queue with phase := .completing head.id } } head
    obtain ⟨head', hhead', rfl⟩ := hq id (by rw [hrun]; rfl)
    obtain rfl := Option.some.inj (hhead.symm.trans hhead')
    exact Or.inr (Or.inl (by simp [hjournal]))
  | create | own | listen | progress | endDownload | inject | setHeight | wait | drivers =>
    exact Or.inl hrun

/-- The task of a tick in line runs or has completed, and no other tick in line has it. -/
structure Manned (s : Scheduler) : Prop extends Followed s where
  distinct : s.lineTasks.Pairwise (·.id ≠ ·.id)
  running : ∀ u ∈ s.lineTasks, .completed u.id ∈ s.journal ∨ ∃ n, s.queue.phase = .running u.id n
  never : NeverAgain s.journal

namespace Manned

/-- A head that can be dispatched is not the task of a tick in line. -/
theorem ne_head (hs : s.Manned) {head : Task} {failures : Nat} (hhead : s.queue.head? = some head)
    (hready : s.queue.phase = .idle ∨
      ∃ retryAt, s.queue.phase = .backoff head.id failures retryAt) :
    ∀ u ∈ s.lineTasks, u.id ≠ head.id := by
  intro u hu hid
  rcases hs.running u hu with hcompleted | ⟨n, hrun⟩
  · exact hs.incomplete head (Queue.mem_claiming_of_ready hhead hready) (hid ▸ hcompleted)
  · rcases hready with h | ⟨retryAt, h⟩ <;> simp [h] at hrun

theorem distinct_course (hs : s.Manned) (h : Course s s') :
    s'.lineTasks.Pairwise (·.id ≠ ·.id) := by
  have hold := hs.distinct
  cases h with
  | aside _ _ _ _ hline => exact hold.sublist hline
  | accept _ _ _ _ _ hline | retire _ _ _ _ hline | attempt _ _ _ _ hline
  | complete _ _ _ _ _ _ hline =>
    rw [hline]
    exact hold
  | dispatch _ _ hhead hready _ hline =>
    rw [hline, List.pairwise_append]
    refine ⟨hold, List.pairwise_singleton _ _, fun u hu v hv => ?_⟩
    rw [List.mem_singleton.mp hv]
    exact hs.ne_head hhead hready u hu

theorem never_course (hs : s.Manned) (h : Course s s') : NeverAgain s'.journal := by
  have hold := hs.never
  cases h with
  | aside hnews hjournal =>
    rw [hjournal]
    exact hold.append fun id now => Occurrence.notMem_asides hnews rfl
  | accept hnews _ hjournal | complete hnews hjournal =>
    rw [hjournal]
    refine hold.append fun id now hmem => ?_
    exact Occurrence.notMem_asides hnews (o := .dispatched id now) rfl (by simpa using hmem)
  | retire hjournal | attempt hjournal =>
    rw [hjournal]
    exact hold.append fun id now hmem => by simp at hmem
  | @dispatch head failures hjournal _ hhead hready =>
    rw [hjournal]
    refine hold.concat fun id now heq => ?_
    obtain ⟨rfl, -⟩ := Occurrence.dispatched.inj heq
    exact hs.incomplete head (Queue.mem_claiming_of_ready hhead hready)

/-- **Moves keep ticks in line at their tasks.** -/
theorem move (hs : s.Manned) (h : Move p s s') : s'.Manned := by
  have hc := h.course hs.inLine hs.headMatches
  refine ⟨hs.toFollowed.move h, hs.distinct_course hc, fun u hu => ?_, hs.never_course hc⟩
  rcases Followed.mem_lineTasks hc hu with hold | ⟨-, -, hrun⟩
  · rcases hs.running u hold with hcompleted | ⟨n, hrun⟩
    · exact Or.inl (hc.journal_prefix.subset hcompleted)
    · rcases h.running_cases hs.inLine hs.headMatches hrun with hrun' | hcompleted | ⟨v, hleft, hid⟩
      · exact Or.inr ⟨n, hrun'⟩
      · exact Or.inl hcompleted
      · have hdistinct := hs.distinct
        rw [hleft, List.pairwise_cons] at hdistinct
        exact absurd hid (hdistinct.1 u hu)
  · exact Or.inr hrun

/-- What becomes of the queue when a tick takes its dispatch back: if the task has completed,
nothing; otherwise the task is the head, and idle again. -/
theorem abandon (hs : s.Manned) (hcall : s.Holds k (.replay task)) :
    (.completed task.id ∈ s.journal ∧ (s.queue.abandon task.id).1 = s.queue) ∨
      .completed task.id ∉ s.journal ∧ s.queue.head? = some task ∧
        (s.queue.abandon task.id).1 = ⟨s.queue.tasks, .idle⟩ := by
  obtain ⟨rest, hfirst⟩ := hcall.lineTasks_eq_cons
  have hline : task ∈ s.lineTasks := by simp [hfirst]
  by_cases hcompleted : .completed task.id ∈ s.journal
  · refine Or.inl ⟨hcompleted, ?_⟩
    rcases s.queue.abandon_cases task.id with ⟨-, h⟩ | ⟨failures, hphase, -⟩
    · rw [h]
    · -- The head runs, so it claims its wallets and has not completed.
      obtain ⟨head, hhead, hid⟩ := hs.headMatches task.id (by rw [hphase]; rfl)
      have hclaiming : head ∈ s.queue.claiming := by
        rw [Queue.claiming_of_ne (by simp [hphase])]
        exact List.mem_of_head? hhead
      exact absurd (hid ▸ hcompleted) (hs.incomplete head hclaiming)
  · obtain ⟨n, hrun⟩ := (hs.running task hline).resolve_left hcompleted
    obtain ⟨now, hnow⟩ := hs.known task hline
    have hclaiming := (hs.claiming task hline).resolve_right hcompleted
    refine Or.inr ⟨hcompleted, hs.head_of_dispatched (s.queue.claiming_subset hclaiming) hnow, ?_⟩
    rcases s.queue.abandon_cases task.id with ⟨hne, -⟩ | ⟨failures, -, h⟩
    · exact absurd hrun (hne n)
    · rw [h]

/-- The completion of a task lies behind all its dispatches. -/
theorem exists_completed (hs : s.Manned) {u : Task} (hu : u ∈ s.lineTasks)
    (hcompleted : .completed u.id ∈ s.journal) :
    ∃ past rest, s.journal = past ++ .completed u.id :: rest ∧
      (∃ now, .dispatched u.id now ∈ past) ∧ ∀ now, .dispatched u.id now ∉ rest := by
  obtain ⟨past, rest, hsplit⟩ := List.append_of_mem hcompleted
  have hrest : ∀ now, .dispatched u.id now ∉ rest := by
    have hnever := hs.never
    rw [hsplit] at hnever
    exact hnever.completed
  obtain ⟨now, hnow⟩ := hs.known u hu
  rw [hsplit] at hnow
  refine ⟨past, rest, hsplit, ⟨now, ?_⟩, hrest⟩
  simpa [hrest now] using hnow

end Manned

theorem manned_fresh (checkpoints : Checkpoints) (retry : RetryPolicy) (interval : Nat)
    (synced : Option Height) : (fresh checkpoints retry interval synced).Manned := by
  have hfollowed := followed_fresh checkpoints retry interval synced
  cases synced <;> exact
    { toFollowed := hfollowed
      distinct := List.Pairwise.nil
      running := fun _ h => by simp [lineTasks, fresh, start, startSynced] at h
      never := .nil }

/-! ### Ticks that are turned away -/

theorem poll_of_holds {errand : Errand} (h : s.Holds k errand) :
    s.poll k = s.enterChain k errand := by
  simp [poll, h.1, h.2]

/-- A tick was turned away: its dispatch is taken back, and it is over. -/
structure TurnedAway (k : Caller) (task : Task) (s s' : Scheduler) : Prop where
  client : s'.client = s.client
  roster : s'.roster = s.roster
  queue : s'.queue = (s.queue.abandon task.id).1
  calls : s'.calls = s.calls.erase k
  traffic : s'.traffic = s.traffic ++ [.acquired k]

theorem poll_refused (hcall : s.Holds k (.replay task)) (hclosed : s.isShutDown = true) :
    TurnedAway k task s (s.poll k).1 ∧ (s.poll k).2 = .done none := by
  rw [poll_of_holds hcall]
  refine ⟨?_, by simp [enterChain, beginAttempt, hclosed, finish, absorb]⟩
  rw [enterChain_replay_closed k task hclosed, depart_eq]
  exact ⟨rfl, rfl, rfl, rfl, traffic_of_journal [.acquired k] rfl rfl⟩

/-- **A tick that is polled after a shutdown is turned away**, be it that of an owner or of a
driver. -/
theorem act_turn_refused (hticks : s.TicksDriven) (hcall : s.Holds k (.replay task))
    (hclosed : s.isShutDown = true) : TurnedAway k task s (s.act k.turn).1 := by
  cases k with
  | named name => exact (poll_refused hcall hclosed).1
  | driver d =>
    obtain ⟨seen, due, hd⟩ := hticks d (by simp [hcall.1])
    let t : Scheduler := { s with turns := s.turns.erase d }
    have htcall : t.Holds (.driver d) (.replay task) := hcall
    obtain ⟨haway, hdone⟩ := poll_refused htcall hclosed
    have hdriver : t.pollDriver d = (t.poll (.driver d)).1.setDriver d (.choosing seen due) := by
      have htd : t.drivers[d]? = some (.ticking seen due) := hd
      cases hpoll : t.poll (.driver d) with
      | mk u result =>
        obtain rfl : result = .done none := by simpa [hpoll] using hdone
        simp only [pollDriver, htd, runTick, hpoll]
    have hturn : TurnedAway (.driver d) task s (t.pollDriver d) := by
      rw [hdriver]
      exact ⟨haway.client, haway.roster, haway.queue, haway.calls, haway.traffic⟩
    simp only [Caller.turn, act, takeTurn]
    split
    · exact ⟨hturn.client, hturn.roster, hturn.queue, hturn.calls, hturn.traffic⟩
    · exact hturn

/-! ### Runs -/

/-- A shutdown takes effect when it is first polled. -/
theorem isShutDown_poll (h : s.calls.get? k = some (.fresh .shutdown)) :
    (s.poll k).1.isShutDown = true := by
  have hpoll : s.poll k = s.callShutdown.joinLine k .shutdown := by simp [poll, h, beginCall]
  have hstand : (s.callShutdown.stand k .shutdown).isShutDown = true := by
    rw [callShutdown_eq]
    simp [stand, isShutDown]
  have hmoves : ReflTransGen (Move {}) (s.callShutdown.stand k .shutdown)
      (s.callShutdown.joinLine k .shutdown).1 :=
    ReflTransGen.mono (fun _ _ h => Move.step h) _ _ (steps_joinLine s.callShutdown k .shutdown)
  rw [hpoll]
  exact isShutDown_eq_true_of_moves hmoves hstand

/-- A tick that is turned away while its task is that of a tick in line. -/
theorem Manned.queue_of_turnedAway (hs : s.Manned) (hcall : s.Holds k (.replay task))
    (h : TurnedAway k task s s') :
    (.completed task.id ∉ s.journal ∧ s'.queue = ⟨s.queue.tasks, .idle⟩ ∧
        s'.queue.head? = some task) ∨
      (∃ past rest, s.journal = past ++ .completed task.id :: rest ∧
        (∃ now, .dispatched task.id now ∈ past) ∧ ∀ now, .dispatched task.id now ∉ rest) ∧
        s'.queue = s.queue := by
  obtain ⟨rest, hfirst⟩ := hcall.lineTasks_eq_cons
  have hline : task ∈ s.lineTasks := by simp [hfirst]
  rw [h.queue]
  rcases hs.abandon hcall with ⟨hcompleted, hqueue⟩ | ⟨hcompleted, hhead, hqueue⟩
  · exact Or.inr ⟨hs.exists_completed hline hcompleted, hqueue⟩
  · rw [hqueue]
    exact Or.inl ⟨hcompleted, rfl, hhead⟩

/-- **Shutdown is final.** From the first poll of a shutdown on, whoever works was at work on it
already, and the client answers nobody else. When a shutdown has returned, well or not, nobody is
ever at work again. A tick that gets hold of the chain after a shutdown leaves the client and the
wallets alone, and leaves its task at the head of an idle queue, unless that has completed. -/
theorem run_shutdown_final (checkpoints : Checkpoints) (retry : RetryPolicy) (interval : Nat)
    (synced : Option Height) (actions : List Action) :
    let s := (fresh checkpoints retry interval synced).run actions
    (∀ name, s.calls.get? (.named name) = some (.fresh .shutdown) →
      let s₁ := (s.act (.poll name)).1
      s₁.isShutDown = true ∧
        ∀ between rest k w, ((s₁.run between).run rest).AtWork k w → w.kind ≠ .shutdown →
          ∃ v, (s₁.run between).AtWork k v ∧ v.kind = w.kind) ∧
      (∀ a, ∃ news, Adds s (s.act a).1 news) ∧
      (∀ name c error, s.calls.get? (.named name) = some c → c.kind = .shutdown →
        (s.act (.poll name)).2 = .poll (.done error) →
        let s₁ := (s.act (.poll name)).1
        ∀ more, (∀ k w, ¬ (s₁.run more).AtWork k w) ∧
          ∃ callers : List Caller, (s₁.run more).traffic = s₁.traffic ++ callers.map .acquired) ∧
      ∀ k task, s.isShutDown = true → s.Holds k (.replay task) →
        let s₁ := (s.act k.turn).1
        s₁.client = s.client ∧ s₁.roster = s.roster ∧ s₁.calls.get? k = none ∧
          s₁.traffic = s.traffic ++ [.acquired k] ∧
          ((.completed task.id ∉ s.journal ∧ s₁.queue = ⟨s.queue.tasks, .idle⟩ ∧
              s₁.queue.head? = some task) ∨
            (∃ past rest, s.journal = past ++ .completed task.id :: rest ∧
              (∃ now, .dispatched task.id now ∈ past) ∧ ∀ now, .dispatched task.id now ∉ rest) ∧
              s₁.queue = s.queue) := by
  intro s
  have hticks₀ := ticksDriven_fresh checkpoints retry interval synced
  have hticks : s.TicksDriven := hticks₀.run actions
  have hmoves := moves_run hticks₀ actions
  have hmanned : s.Manned := moves_invariant (fun hs h => hs.move h)
    (manned_fresh checkpoints retry interval synced) hmoves
  have hguarded : s.Guarded := moves_invariant (fun hs h => hs.move h)
    (guarded_fresh checkpoints retry interval synced) hmoves
  refine ⟨fun name hcall => ?_, act_adds hmanned.toOrdered hticks,
    fun name c error hcall hkind hdone => ?_, fun k task hclosed hcall => ?_⟩
  · intro s₁
    have hclosed : s₁.isShutDown = true := isShutDown_poll hcall
    refine ⟨hclosed, fun between rest k w hw hkind => ?_⟩
    have hticks₁ : s₁.TicksDriven := hticks.act _
    have hline₁ : s₁.InLine := moves_invariant (fun hs h => hs.move h) hguarded.toInLine
      (moves_poll (p := {}) s (.named name))
    have hbetween := moves_run hticks₁ between
    have hline : (s₁.run between).InLine := moves_invariant (fun hs h => hs.move h) hline₁ hbetween
    exact atWork_of_closed_of_moves hline (moves_run (hticks₁.run between) rest)
      (isShutDown_eq_true_of_moves hbetween hclosed) hw hkind
  · intro s₁ more
    have hpoll : (s.poll (.named name)).2 = .done error := Answer.poll.inj hdone
    have hend : s₁.Closed := hguarded.closed_of_returned hcall hkind hpoll
    have hline₁ : s₁.InLine := moves_invariant (fun hs h => hs.move h) hguarded.toInLine
      (moves_poll (p := {}) s (.named name))
    obtain ⟨hlast, hcallers⟩ := hend.moves hline₁ (moves_run (hticks.act _) more)
    exact ⟨hlast.idle, hcallers⟩
  · intro s₁
    have haway := act_turn_refused hticks hcall hclosed
    refine ⟨haway.client, haway.roster, ?_, haway.traffic, hmanned.queue_of_turnedAway hcall haway⟩
    rw [haway.calls, Table.get?_erase_self]

/-- A tick waits behind a regular download when shutdown is called. The download comes to its end,
the tick is turned away, the shutdown takes the chain down, and that is all. -/
theorem run_shutdown_final_of_race :
    let s₀ := fresh .empty {} 200 (some ⟨5000, by decide⟩)
    let asked : List Action := [.own (.make "savings" "w1" {}), .offer ["savings"] .genesis,
      .create "download" .regular, .poll "download", .create "tick" .tick, .poll "tick",
      .create "stop" .shutdown]
    let late := asked ++ [.poll "stop", .poll "download", .poll "download"]
    let last := late ++ [.poll "tick", .poll "stop", .poll "stop"]
    let task : Task := ⟨0, [⟨0, "w1"⟩], .genesis, .genesis⟩
    (s₀.run asked).calls.get? (.named "stop") = some (.fresh .shutdown) ∧
      ((s₀.run asked).act (.poll "stop")).1.isShutDown = true ∧
      (s₀.run late).isShutDown = true ∧ (s₀.run late).Holds (.named "tick") (.replay task) ∧
      .completed task.id ∉ (s₀.run late).journal ∧
      ((s₀.run late).act (.poll "tick")).1.queue = ⟨[task], .idle⟩ ∧
      ((s₀.run last).act (.poll "stop")).2 = .poll (.done none) ∧
      ∀ more k w, ¬ (((s₀.run last).act (.poll "stop")).1.run more).AtWork k w := by
  intro s₀ asked late last task
  have hfresh : (s₀.run asked).calls.get? (.named "stop") = some (.fresh .shutdown) := by decide
  have hclosed : (s₀.run late).isShutDown = true := by decide
  have hholds : (s₀.run late).Holds (.named "tick") (.replay task) := ⟨by decide, by decide⟩
  have hincomplete : .completed task.id ∉ (s₀.run late).journal := by decide
  have hworking : (s₀.run last).calls.get? (.named "stop") =
      some (.working (.closing ⟨⟨0, .genesis⟩, ⟨[]⟩, ⟨0, false⟩⟩)) := by decide
  have hdone : ((s₀.run last).act (.poll "stop")).2 = .poll (.done none) := by decide
  have hshutDown : ((s₀.run asked).act (.poll "stop")).1.isShutDown = true :=
    ((run_shutdown_final .empty {} 200 (some ⟨5000, by decide⟩) asked).1 "stop" hfresh).1
  have hend (more : List Action) :
      ∀ k w, ¬ (((s₀.run last).act (.poll "stop")).1.run more).AtWork k w :=
    ((run_shutdown_final .empty {} 200 (some ⟨5000, by decide⟩) last).2.2.1 "stop" _ none hworking
      rfl hdone more).1
  obtain ⟨-, -, -, -, hqueue⟩ :=
    (run_shutdown_final .empty {} 200 (some ⟨5000, by decide⟩) late).2.2.2 (.named "tick") task
      hclosed hholds
  refine ⟨hfresh, hshutDown, hclosed, hholds, hincomplete, ?_, hdone, hend⟩
  rcases hqueue with ⟨-, hqueue, -⟩ | ⟨⟨past, rest, hsplit, -⟩, -⟩
  · have htasks : (s₀.run late).queue.tasks = [task] := by decide
    have hturn : (Caller.named "tick").turn = .poll "tick" := rfl
    rw [hturn] at hqueue
    rw [hqueue, htasks]
  · have hmem : .completed task.id ∈ past ++ .completed task.id :: rest := by simp
    rw [← hsplit] at hmem
    exact absurd hmem hincomplete

end Scheduler

end WalletReplay
