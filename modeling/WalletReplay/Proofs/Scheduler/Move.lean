import WalletReplay.Proofs.Queue.Diagram
import WalletReplay.Proofs.Scheduler.Step
import WalletReplay.Scheduler.Action

/-!
# The moves of the scheduler

Every action on a scheduler is a sequence of moves: a step of some call, a call that is made or given
up, an offer that is accepted, a completion, something the client or an owner does, or a change of
who is to run. A property that every move keeps holds in every state of every run.

What a run is allowed to do is fixed by its terms: whether calls may be given up midway, whether
requests may be offered, whether downloads may be reported to have caught up, when the client may
report progress, whether its chain may get another height otherwise, and what owners may do. A
property that holds only under such terms is kept by the moves under these terms.

Drivers make calls of their own. That a driver never makes a second one while the first is in
progress is not a matter of terms but of the drivers (`TicksDriven`), and is proved here once.

## What is proved

* `act_moves` — an action within the terms is a sequence of moves under the terms.
* `run_moves` — a run within the terms is a sequence of moves, so that what moves keep, runs keep.
-/

namespace WalletReplay

/-- What a run may do. -/
structure Terms where
  /-- Whether calls may be given up midway. -/
  drop : Prop := True
  /-- Whether requests may be offered. -/
  offer : Prop := True
  /-- Whether downloads may be reported to have caught up. -/
  report : Prop := True
  /-- What owners may do. -/
  own : OwnerAction → Prop := fun _ => True
  /-- When the client may report progress. -/
  progress : Client → Prop := fun _ => True
  /-- Whether the chain of the client may be set to a height. -/
  setHeight : Prop := True

/-- What giving a call up makes of the client: if the call waited for it, it is rid of the call. -/
def Call.letGo (client : Client) : Call → Client
  | working _ => client.leave
  | fresh _ | waiting _ => client

namespace Scheduler

open Relation

/-! ### Moves -/

/-- What happens to a scheduler at one time. -/
inductive Move (p : Terms) : Scheduler → Scheduler → Prop where
  /-- A call takes a step. -/
  | step {s s' : Scheduler} {k : Caller} (h : Step k s s') : Move p s s'
  /-- A call is made. -/
  | create {s : Scheduler} {k : Caller} (kind : CallKind) (h : s.calls.get? k = none) :
      Move p s (s.create k kind)
  /-- A call is given up that has not begun. -/
  | discard {s : Scheduler} {k : Caller} {kind : CallKind} (h : s.calls.get? k = some (.fresh kind)) :
      Move p s (s.cancel k).1
  /-- A call is given up midway. -/
  | drop {s : Scheduler} {k : Caller} {c : Call} (hp : p.drop) (h : s.calls.get? k = some c)
      (hc : c.isBegun = true) : Move p s (s.cancel k).1
  /-- An owner does something. -/
  | own {s : Scheduler} {action : OwnerAction} (hp : p.own action) :
      Move p s { s with roster := s.roster.own action }
  /-- A listener is added. -/
  | listen {s : Scheduler} (listener : String) :
      Move p s { s with roster := s.roster.listen listener }
  /-- A request is accepted, of wallets that owners hold. -/
  | enroll {s : Scheduler} {request : Request} (hp : p.offer) (h : s.accepts request = true)
      (hheld : ∀ w ∈ request.wallets, ∃ handle, s.roster.handles.get? handle = some w) :
      Move p s (s.enroll (request.toTask s.acceptedCount s.checkpoints))
  /-- A completion of the head is accepted. -/
  | complete {s : Scheduler} {head : Task} (hhead : s.queue.head? = some head)
      (haccepts : s.queue.phase.acceptsCompletion head.id = true) (hp : p.report) :
      Move p s (complete { s with queue := { s.queue with phase := .completing head.id } } head)
  /-- The client reports progress. -/
  | progress {s : Scheduler} (height : Height) (left : BlockCount) (hp : p.progress s.client) :
      Move p s (s.progress height left)
  /-- The download of the client has caught up. -/
  | endDownload {s : Scheduler} {download : Download} (h : s.client.download = some download)
      (hp : p.report) : Move p s (clearPercents { s with client := { s.client with download := none } })
  /-- The client is told to fail. -/
  | inject {s : Scheduler} (step : ClientStep) (times : Nat) :
      Move p s { s with client := s.client.inject step times }
  /-- The chain of the client has got a height. -/
  | setHeight {s : Scheduler} (height : Height) (hp : p.setHeight) :
      Move p s { s with client := { s.client with bestHeight := height } }
  /-- Time passes. -/
  | wait {s : Scheduler} (ms : Nat) : Move p s { s with clock := s.clock + ms }
  /-- Drivers wait, are told, are to run, or end. -/
  | drivers {s : Scheduler} (wake : Wake) (drivers : List Driver) (turns : List Nat) :
      Move p s { s with wake, drivers, turns }

/-! ### What wake-ups change -/

theorem summon_eq (s : Scheduler) (d : Nat) : s.summon d = { s with turns := (s.summon d).turns } := by
  unfold summon
  split <;> rfl

/-- A wake-up changes nothing but the drivers and who is to run. -/
theorem wakeOne_eq (s : Scheduler) :
    s.wakeOne = { s with
      wake := s.wakeOne.wake, drivers := s.wakeOne.drivers, turns := s.wakeOne.turns } := by
  unfold wakeOne
  split
  · rfl
  · rw [summon_eq]

theorem forgo_eq (s : Scheduler) (d : Nat) (told : Bool) :
    s.forgo d told = { s with
      wake := (s.forgo d told).wake, drivers := (s.forgo d told).drivers,
      turns := (s.forgo d told).turns } := by
  unfold forgo
  split
  · exact wakeOne_eq s
  · rfl

@[simp]
theorem length_drivers_wakeOne (s : Scheduler) : s.wakeOne.drivers.length = s.drivers.length := by
  unfold wakeOne
  split
  · rfl
  · rw [summon_eq]
    simp

@[simp]
theorem length_drivers_forgo (s : Scheduler) (d : Nat) (told : Bool) :
    (s.forgo d told).drivers.length = s.drivers.length := by
  unfold forgo
  split
  · exact length_drivers_wakeOne s
  · rfl

/-- Waking a driver leaves it at its tick. -/
theorem ticking_wakeOne {s : Scheduler} {d seen due : Nat}
    (h : s.drivers[d]? = some (.ticking seen due)) :
    s.wakeOne.drivers[d]? = some (.ticking seen due) := by
  unfold wakeOne
  split
  · exact h
  · rename_i e rest hwaiting
    rw [summon_eq]
    simp only [List.getElem?_modify]
    by_cases he : e = d
    · simp [he, h]
    · simp [he, h]

/-! ### Drivers and their ticks -/

/-- The ticks of drivers that are in progress are the ticks that drivers are at. -/
def TicksDriven (s : Scheduler) : Prop :=
  ∀ d, s.calls.get? (.driver d) ≠ none → ∃ seen due, s.drivers[d]? = some (.ticking seen due)

/-- A driver that is not at a tick has none in progress. -/
theorem TicksDriven.eq_none {s : Scheduler} (h : s.TicksDriven) {d : Nat} {driver : Driver}
    (hd : s.drivers[d]? = some driver) (hdriver : ∀ seen due, driver ≠ .ticking seen due) :
    s.calls.get? (.driver d) = none := by
  by_contra hcall
  obtain ⟨seen, due, htick⟩ := h d hcall
  rw [hd] at htick
  exact hdriver seen due (Option.some.inj htick)

theorem TicksDriven.setDriver {s : Scheduler} (h : s.TicksDriven) {d : Nat} (driver : Driver)
    (hd : s.calls.get? (.driver d) = none) : (s.setDriver d driver).TicksDriven := by
  intro e he
  have hne : d ≠ e := fun heq => he (heq ▸ hd)
  obtain ⟨seen, due, htick⟩ := h e he
  exact ⟨seen, due, by simpa [Scheduler.setDriver, List.getElem?_set_ne hne] using htick⟩

theorem TicksDriven.wakeOne {s : Scheduler} (h : s.TicksDriven) : s.wakeOne.TicksDriven := by
  intro d hd
  have hcalls : s.wakeOne.calls = s.calls := by rw [wakeOne_eq]
  rw [hcalls] at hd
  obtain ⟨seen, due, htick⟩ := h d hd
  exact ⟨seen, due, ticking_wakeOne htick⟩

theorem TicksDriven.forgo {s : Scheduler} (h : s.TicksDriven) (d : Nat) (told : Bool) :
    (s.forgo d told).TicksDriven := by
  unfold Scheduler.forgo
  split
  · exact h.wakeOne
  · exact h

/-- After a tick was run to where it waits next, its driver is at it or it is over. -/
theorem ticksDriven_runTick {s : Scheduler} {d : Nat} (seen due : Nat)
    (h : ∀ e, e ≠ d → s.calls.get? (.driver e) ≠ none →
      ∃ seen due, s.drivers[e]? = some (.ticking seen due))
    (hd : d < s.drivers.length) : (s.runTick d seen due).TicksDriven := by
  have hdrivers : (s.poll (.driver d)).1.drivers = s.drivers := (poll_untouched s _).drivers
  have others (driver : Driver) (e : Nat) (he : e ≠ d)
      (hcall : (s.poll (.driver d)).1.calls.get? (.driver e) ≠ none) :
      ∃ seen due, ((s.poll (.driver d)).1.setDriver d driver).drivers[e]? =
        some (.ticking seen due) := by
    rw [poll_others s (by simpa using he)] at hcall
    obtain ⟨seen, due, htick⟩ := h e he hcall
    exact ⟨seen, due, by simpa [setDriver, List.getElem?_set_ne (Ne.symm he), hdrivers] using htick⟩
  unfold runTick
  split
  · rename_i t hpoll
    obtain rfl : (s.poll (.driver d)).1 = t := by rw [hpoll]
    intro e he
    by_cases hed : e = d
    · subst hed
      exact ⟨seen, due, by simp [setDriver, hdrivers, hd]⟩
    · exact others _ e hed he
  · rename_i t result hpending hpoll
    obtain rfl : (s.poll (.driver d)).1 = t := by rw [hpoll]
    intro e he
    by_cases hed : e = d
    · subst hed
      have hover := (settled_poll s (.driver e)).gone (by rw [hpoll]; exact hpending)
      exact absurd hover he
    · exact others _ e hed he

theorem TicksDriven.driverTick {s : Scheduler} (h : s.TicksDriven) {d : Nat} (seen due : Nat)
    (hd : d < s.drivers.length) : (s.driverTick d seen due).TicksDriven := by
  refine ticksDriven_runTick seen due (fun e he hcall => h e ?_) hd
  simpa [create, Table.get?_set, he] using hcall

theorem TicksDriven.pollDriver {s : Scheduler} (h : s.TicksDriven) (d : Nat) :
    (s.pollDriver d).TicksDriven := by
  have lt_length {driver : Driver} (hd : s.drivers[d]? = some driver) : d < s.drivers.length :=
    (List.getElem?_eq_some_iff.mp hd).1
  unfold Scheduler.pollDriver
  split
  · exact h
  · exact h
  · rename_i seen hd
    exact h.setDriver _ (h.eq_none hd (by simp))
  · rename_i seen due hd
    have hcall := h.eq_none hd (by simp)
    split
    · exact h.setDriver _ hcall
    · split
      · exact h.driverTick _ _ (lt_length hd)
      · split
        · have hkept : TicksDriven { s with wake := { s.wake with kept := false } } := h
          exact hkept.driverTick _ _ (lt_length hd)
        · have hjoined : TicksDriven { s with wake := { s.wake with waiting := s.wake.waiting ++ [d] } } := h
          exact hjoined.setDriver _ hcall
  · rename_i seen due told hd
    have hcall := h.eq_none hd (by simp)
    split
    · exact (h.setDriver _ hcall).forgo d told
    · split
      · refine ((h.setDriver _ hcall).forgo d told).driverTick _ _ ?_
        simpa [Scheduler.setDriver] using lt_length hd
      · split
        · exact h.driverTick _ _ (lt_length hd)
        · exact h
  · rename_i seen due hd
    exact ticksDriven_runTick _ _ (fun e _ => h e) (lt_length hd)

theorem TicksDriven.takeTurn {s : Scheduler} (h : s.TicksDriven) (d : Nat) :
    (s.takeTurn d).TicksDriven := by
  have ht : TicksDriven { s with turns := s.turns.erase d } := h
  have hpoll := ht.pollDriver d
  simp only [Scheduler.takeTurn]
  split <;> exact hpoll

theorem enroll_eq (s : Scheduler) (task : Task) :
    s.enroll task = { s with
      queue := s.queue.push task
      acceptedCount := s.acceptedCount + 1
      roster := (s.enroll task).roster
      journal := (s.enroll task).journal
      wake := (s.enroll task).wake
      drivers := (s.enroll task).drivers
      turns := (s.enroll task).turns } := by
  simp only [enroll]
  split <;> rw [wakeOne_eq] <;> rfl

theorem complete_eq (s : Scheduler) (task : Task) :
    s.complete task = { s with
      queue := (s.queue.finishCompletion task.id).1
      roster := s.roster.modifyAll task.wallets SyncState.release
      journal := (s.complete task).journal
      wake := (s.complete task).wake
      drivers := (s.complete task).drivers
      turns := (s.complete task).turns } := by
  simp only [complete]
  split <;> rw [wakeOne_eq] <;> rfl

/-- A task that is completed retires. -/
theorem queue_complete {s : Scheduler} {task : Task} (h : s.queue.phase = .completing task.id) :
    (s.complete task).queue = { s.queue with phase := .retiring task.id } := by
  rw [complete_eq]
  simp [Queue.finishCompletion, h]

theorem queue_enroll (s : Scheduler) (task : Task) : (s.enroll task).queue = s.queue.push task := by
  rw [enroll_eq]

theorem handles_enroll (s : Scheduler) (task : Task) :
    (s.enroll task).roster.handles = s.roster.handles := by
  simp only [enroll]
  split <;> rw [wakeOne_eq] <;> rfl

theorem ledger_enroll (s : Scheduler) (task : Task) : (s.enroll task).roster.ledger =
    s.roster.ledger.modifyAll task.wallets (·.claim task.id task.start.height) := by
  simp only [enroll]
  split <;> rw [wakeOne_eq] <;> rfl

theorem TicksDriven.enroll {s : Scheduler} (h : s.TicksDriven) (task : Task) :
    (s.enroll task).TicksDriven := by
  simp only [Scheduler.enroll]
  split <;> exact TicksDriven.wakeOne h

theorem TicksDriven.complete {s : Scheduler} (h : s.TicksDriven) (task : Task) :
    (s.complete task).TicksDriven := by
  simp only [Scheduler.complete]
  split <;> exact TicksDriven.wakeOne h

theorem TicksDriven.notifyCompleted {s : Scheduler} (h : s.TicksDriven) (id : TaskId) :
    (s.notifyCompleted id).1.TicksDriven := by
  unfold Scheduler.notifyCompleted
  split
  · exact h
  · rename_i queue task hbegin
    have hq : TicksDriven { s with queue } := h
    exact hq.complete task

theorem TicksDriven.finishDownload {s : Scheduler} (h : s.TicksDriven) :
    s.finishDownload.1.TicksDriven := by
  unfold Scheduler.finishDownload
  split
  · exact h
  · simp only
    split
    · exact h
    · rename_i download _ task hdownload
      have hc : TicksDriven (clearPercents { s with client := { s.client with download := none } }) := h
      exact hc.notifyCompleted task

/-- Calls under names leave the ticks of drivers alone. -/
theorem TicksDriven.of_named {s s' : Scheduler} (h : s.TicksDriven) (hdrivers : s'.drivers = s.drivers)
    (hcalls : ∀ d, s'.calls.get? (.driver d) = s.calls.get? (.driver d)) : s'.TicksDriven := by
  intro d hd
  rw [hcalls] at hd
  rw [hdrivers]
  exact h d hd

theorem cancel_of_none {s : Scheduler} {k : Caller} (h : s.calls.get? k = none) :
    (s.cancel k).1 = s := by
  simp [cancel, h]

/-- A call that is given up is in neither the line nor the table of calls; if it waited for the
client, the client is rid of it. -/
theorem cancel_of_some {s : Scheduler} {k : Caller} {c : Call} (h : s.calls.get? k = some c) :
    (s.cancel k).1 = { s with
      line := s.line.erase k
      calls := s.calls.erase k
      client := c.letGo s.client
      turns := (s.cancel k).1.turns } := by
  simp only [cancel, h]
  cases c <;> exact leaveLine_eq _ k

theorem TicksDriven.cancel {s : Scheduler} (h : s.TicksDriven) (name : String) :
    (s.cancel (.named name)).1.TicksDriven := by
  cases hcall : s.calls.get? (.named name) with
  | none =>
    rw [cancel_of_none hcall]
    exact h
  | some c =>
    rw [cancel_of_some hcall]
    exact h.of_named rfl fun d => by simp [Table.get?_erase]

theorem TicksDriven.spawn {s : Scheduler} (h : s.TicksDriven) : s.spawn.TicksDriven := by
  intro d hd
  rw [Scheduler.spawn, summon_eq] at hd ⊢
  obtain ⟨seen, due, htick⟩ := h d hd
  have hlt := (List.getElem?_eq_some_iff.mp htick).1
  exact ⟨seen, due, by simpa [List.getElem?_append_left hlt] using htick⟩

theorem TicksDriven.act {s : Scheduler} (h : s.TicksDriven) (a : Action) :
    (s.act a).1.TicksDriven := by
  cases a with
  | own action => exact h
  | listen listener => exact h
  | offer handles target =>
    simp only [Scheduler.act, Scheduler.offer]
    split
    · exact h.enroll _
    · exact h
  | notify task => exact h.notifyCompleted task
  | create name kind =>
    refine (h.cancel name).of_named rfl fun d => ?_
    simp [Scheduler.act, Scheduler.create, Table.get?_set]
  | poll name =>
    exact h.of_named (poll_untouched s _).drivers fun d => poll_others s (by simp)
  | cancel name => exact h.cancel name
  | spawn => exact h.spawn
  | drive d => exact h.takeTurn d
  | inject step times => exact h
  | progress height left => exact h
  | finish => exact h.finishDownload
  | setHeight height => exact h
  | wait ms => exact h

/-! ### Actions are sequences of moves -/

variable {p : Terms}

/-- Whether an action is within the terms: it gives up no call midway, offers nothing, reports
nothing, gives the chain no height, and lets owners do nothing, but what the terms allow. -/
def Within (p : Terms) (s : Scheduler) : Action → Prop
  | .own action => p.own action
  | .offer _ _ => p.offer
  | .notify _ | .finish => p.report
  | .progress _ _ => p.progress s.client
  | .setHeight _ => p.setHeight
  | .create name _ | .cancel name =>
    (∃ c, s.calls.get? (.named name) = some c ∧ c.isBegun = true) → p.drop
  | _ => True

/-- Every action is within terms that allow everything. -/
theorem within_default (s : Scheduler) (a : Action) : Within {} s a := by
  cases a with
  | create name kind | cancel name => exact fun _ => trivial
  | own | listen | offer | notify | poll | spawn | drive | inject | progress | finish | setHeight
  | wait => trivial

theorem moves_poll (s : Scheduler) (k : Caller) : ReflTransGen (Move p) s (s.poll k).1 :=
  (poll_steps s k).lift id fun _ _ h => Move.step h

theorem moves_cancel {s : Scheduler} {k : Caller}
    (h : (∃ c, s.calls.get? k = some c ∧ c.isBegun = true) → p.drop) :
    ReflTransGen (Move p) s (s.cancel k).1 := by
  cases hcall : s.calls.get? k with
  | none => rw [cancel_of_none hcall]
  | some c =>
    cases c with
    | fresh kind => exact .single (.discard hcall)
    | waiting errand => exact .single (.drop (h ⟨_, hcall, rfl⟩) hcall rfl)
    | working w => exact .single (.drop (h ⟨_, hcall, rfl⟩) hcall rfl)

/-- A report that the head has caught up is accepted if the head was dispatched and is not yet
complete. -/
theorem notifyCompleted_of_accepts {s : Scheduler} {head : Task} (hhead : s.queue.head? = some head)
    (haccepts : s.queue.phase.acceptsCompletion head.id = true) : s.notifyCompleted head.id =
      (complete { s with queue := { s.queue with phase := .completing head.id } } head, true) := by
  simp [notifyCompleted, Queue.beginCompletion, hhead, haccepts]

/-- A report that a task has caught up is ignored, or completes the head. -/
theorem notifyCompleted_cases (s : Scheduler) (id : TaskId) : s.notifyCompleted id = (s, false) ∨
    ∃ head, s.queue.head? = some head ∧ head.id = id ∧
      s.queue.phase.acceptsCompletion head.id = true ∧ s.notifyCompleted id =
        (complete { s with queue := { s.queue with phase := .completing head.id } } head, true) := by
  rcases s.queue.beginCompletion_cases id with h | ⟨head, hhead, rfl, haccepts, -⟩
  · exact Or.inl (by simp [notifyCompleted, h])
  · exact Or.inr ⟨head, hhead, rfl, haccepts, notifyCompleted_of_accepts hhead haccepts⟩

theorem moves_notifyCompleted (hp : p.report) (s : Scheduler) (id : TaskId) :
    ReflTransGen (Move p) s (s.notifyCompleted id).1 := by
  rcases s.notifyCompleted_cases id with h | ⟨head, hhead, rfl, haccepts, h⟩
  · rw [h]
  · rw [h]
    exact .single (.complete hhead haccepts hp)

theorem moves_finishDownload (hp : p.report) (s : Scheduler) :
    ReflTransGen (Move p) s s.finishDownload.1 := by
  unfold finishDownload
  split
  · exact .refl
  · rename_i download hdownload
    refine .head (.endDownload hdownload hp) ?_
    cases download with
    | regular => exact .refl
    | replay task => exact moves_notifyCompleted hp _ task

theorem move_setDriver (s : Scheduler) (d : Nat) (driver : Driver) : Move p s (s.setDriver d driver) :=
  .drivers s.wake (s.drivers.set d driver) s.turns

theorem move_forgo (s : Scheduler) (d : Nat) (told : Bool) : Move p s (s.forgo d told) := by
  rw [forgo_eq]
  exact .drivers _ _ _

theorem moves_runTick (s : Scheduler) (d seen due : Nat) :
    ReflTransGen (Move p) s (s.runTick d seen due) := by
  unfold runTick
  have hpoll := moves_poll (p := p) s (.driver d)
  split <;> rename_i h <;> rw [h] at hpoll <;> exact hpoll.tail (move_setDriver _ d _)

theorem moves_driverTick {s : Scheduler} {d : Nat} (seen due : Nat)
    (h : s.calls.get? (.driver d) = none) : ReflTransGen (Move p) s (s.driverTick d seen due) :=
  .head (.create .tick h) (moves_runTick _ d seen due)

/-- A driver that is run makes moves. -/
theorem moves_pollDriver {s : Scheduler} (h : s.TicksDriven) (d : Nat) :
    ReflTransGen (Move p) s (s.pollDriver d) := by
  unfold pollDriver
  split
  · exact .refl
  · exact .refl
  · exact .single (move_setDriver s d _)
  · rename_i seen due hd
    have hcall := h.eq_none hd (by simp)
    split
    · exact .single (move_setDriver s d _)
    · split
      · exact moves_driverTick _ _ hcall
      · split
        · exact .head (.drivers { s.wake with kept := false } s.drivers s.turns)
            (moves_driverTick _ _ hcall)
        · exact .head (.drivers { s.wake with waiting := s.wake.waiting ++ [d] } s.drivers s.turns)
            (.single (move_setDriver _ d _))
  · rename_i seen due told hd
    have hcall := h.eq_none hd (by simp)
    split
    · exact .head (move_setDriver s d _) (.single (move_forgo _ d told))
    · split
      · refine .head (move_setDriver s d _) (.head (move_forgo _ d told) (moves_driverTick _ _ ?_))
        rw [forgo_eq]
        exact hcall
      · split
        · exact moves_driverTick _ _ hcall
        · exact .refl
  · exact moves_runTick s d _ _

/-- A turn is a run of the driver, which may keep its turn. -/
theorem exists_takeTurn (s : Scheduler) (d : Nat) :
    ∃ turns, (pollDriver { s with turns := s.turns.erase d } d).turns ⊆ turns ∧
      s.takeTurn d = { pollDriver { s with turns := s.turns.erase d } d with turns } := by
  simp only [takeTurn]
  split
  · refine ⟨_, ?_, rfl⟩
    intro e he
    by_cases hed : e = d
    · exact hed ▸ List.mem_cons_self
    · exact List.mem_cons_of_mem _ ((List.mem_erase_of_ne hed).mpr he)
  · exact ⟨_, List.Subset.refl _, rfl⟩

theorem moves_takeTurn {s : Scheduler} (h : s.TicksDriven) (d : Nat) :
    ReflTransGen (Move p) s (s.takeTurn d) := by
  have ht : TicksDriven { s with turns := s.turns.erase d } := h
  obtain ⟨turns, -, hturn⟩ := s.exists_takeTurn d
  rw [hturn]
  refine .head (.drivers s.wake s.drivers (s.turns.erase d)) ((moves_pollDriver ht d).tail ?_)
  exact .drivers _ _ turns

theorem held_of_mem_heldWallets {s : Scheduler} {handles : List String} {w : Wallet}
    (hw : w ∈ s.heldWallets handles) : ∃ handle, s.roster.handles.get? handle = some w := by
  obtain ⟨handle, -, hget⟩ := List.mem_filterMap.mp hw
  exact ⟨handle, hget⟩

/-- **Every action is a sequence of moves.** -/
theorem act_moves {s : Scheduler} (hticks : s.TicksDriven) {a : Action} (h : Within p s a) :
    ReflTransGen (Move p) s (s.act a).1 := by
  cases a with
  | own action => exact .single (.own h)
  | listen listener => exact .single (.listen listener)
  | offer handles target =>
    simp only [act, offer]
    split
    · rename_i haccepts
      exact .single (.enroll h haccepts fun _ => held_of_mem_heldWallets)
    · exact .refl
  | notify task => exact moves_notifyCompleted h s task
  | create name kind =>
    refine (moves_cancel h).tail (.create kind ?_)
    cases hcall : s.calls.get? (.named name) with
    | none => rw [cancel_of_none hcall, hcall]
    | some c => rw [cancel_of_some hcall]; exact Table.get?_erase_self _ _
  | poll name => exact moves_poll s _
  | cancel name => exact moves_cancel h
  | spawn =>
    simp only [act, spawn]
    rw [summon_eq]
    exact .single (.drivers s.wake _ _)
  | drive d => exact moves_takeTurn hticks d
  | inject step times => exact .single (.inject step times)
  | progress height left => exact .single (.progress height left h)
  | finish => exact moves_finishDownload h s
  | setHeight height => exact .single (.setHeight height h)
  | wait ms => exact .single (.wait ms)

/-! ### Runs -/

theorem ticksDriven_fresh (checkpoints : Checkpoints) (retry : RetryPolicy) (interval : Nat)
    (synced : Option Height) : (fresh checkpoints retry interval synced).TicksDriven := by
  intro d hd
  cases synced <;> simp [fresh, start, startSynced, Table.get?] at hd

/-- A condition on actions is met all along a run. -/
def Along (P : Scheduler → Action → Prop) : Scheduler → List Action → Prop
  | _, [] => True
  | s, a :: actions => P s a ∧ Along P (s.act a).1 actions

instance decidableAlong {P : Scheduler → Action → Prop} [∀ s a, Decidable (P s a)] :
    (s : Scheduler) → (actions : List Action) → Decidable (Along P s actions)
  | _, [] => .isTrue trivial
  | s, a :: actions => @instDecidableAnd _ _ _ (decidableAlong (s.act a).1 actions)

/-- A condition that all actions meet is met all along. -/
theorem along_of_forall {P : Action → Prop} {s : Scheduler} {actions : List Action}
    (h : ∀ a ∈ actions, P a) : Along (fun _ a => P a) s actions := by
  induction actions generalizing s with
  | nil => trivial
  | cons a actions ih => exact ⟨h a (by simp), ih fun b hb => h b (List.mem_cons_of_mem a hb)⟩

theorem Along.and {P Q : Scheduler → Action → Prop} {s : Scheduler} {actions : List Action}
    (hP : Along P s actions) (hQ : Along Q s actions) : Along (fun s a => P s a ∧ Q s a) s actions := by
  induction actions generalizing s with
  | nil => trivial
  | cons a actions ih => exact ⟨⟨hP.1, hQ.1⟩, ih hP.2 hQ.2⟩

theorem TicksDriven.run {s : Scheduler} (h : s.TicksDriven) (actions : List Action) :
    (s.run actions).TicksDriven := by
  induction actions generalizing s with
  | nil => exact h
  | cons a actions ih => exact ih (h.act a)

/-- A run within the terms is a sequence of moves. -/
theorem run_moves {s : Scheduler} (hticks : s.TicksDriven) {actions : List Action}
    (h : Along (Within p) s actions) : ReflTransGen (Move p) s (s.run actions) := by
  induction actions generalizing s with
  | nil => exact .refl
  | cons a actions ih => exact (act_moves hticks h.1).trans (ih (hticks.act a) h.2)

/-- Every run is within terms that allow everything. -/
theorem along_default (s : Scheduler) (actions : List Action) : Along (Within {}) s actions := by
  induction actions generalizing s with
  | nil => trivial
  | cons a actions ih => exact ⟨within_default s a, ih _⟩

/-- Any run is a sequence of moves. -/
theorem moves_run {s : Scheduler} (hticks : s.TicksDriven) (actions : List Action) :
    ReflTransGen (Move {}) s (s.run actions) :=
  run_moves hticks (along_default s actions)

/-- What moves keep, sequences of moves keep. -/
theorem moves_invariant {I : Scheduler → Prop} (hmove : ∀ {s s'}, I s → Move p s s' → I s')
    {s s' : Scheduler} (hs : I s) (h : ReflTransGen (Move p) s s') : I s' := by
  induction h with
  | refl => exact hs
  | tail _ h ih => exact hmove ih h

end Scheduler

end WalletReplay
