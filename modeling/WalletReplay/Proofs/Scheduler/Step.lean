import Mathlib.Logic.Relation
import Mathlib.Tactic.Common
import WalletReplay.Scheduler.Poll

/-!
# The steps of a call

A poll runs a call from one place where it waits to the next, and may pass through several stages on
the way: a tick retires the head, dispatches the next, joins the line, and begins its attempt if the
line was empty. Here a poll is cut into steps, each of which says outright what it makes of the
scheduler. Whatever every step keeps, every poll keeps.

Between two steps of one poll the call is where it would be had it been interrupted there: a tick
that joined an empty line waits for the chain, and holds it.

## What is proved

* `poll_steps` — a poll is a sequence of steps of the call that is polled.
* `settled_poll` — a call that a poll leaves pending has begun, and any other is gone.
* `poll_others` and `poll_untouched` — what no poll touches: other calls, the settings, the drivers.
-/

namespace WalletReplay

/-- Whether a call has been polled and is not over. -/
def Call.isBegun : Call → Bool
  | fresh _ => false
  | waiting _ | working _ => true

/-- What is left of the chain's place, of the client and of the work when the client has answered
well. -/
structure Continuation where
  /-- The chain in its place. -/
  slot : Option Stack
  /-- The client. -/
  client : Client
  /-- What the call waits for next, if it has not come to its end. -/
  next : Option Work

/-- The client call of a stage has succeeded. -/
def Stage.succeed (slot : Option Stack) (client : Client) (task : Task) (floor : Option Height) :
    Stage → Continuation
  | stopping old =>
    ⟨slot, { client with download := none }, some (.replay task floor (.closing (old.setRunning false)))⟩
  | closing _ => ⟨slot, client, some (.replay task floor .creating)⟩
  | creating =>
    ⟨slot, (client.newStore task.start).2,
      some (.replay task floor (.building (client.newStore task.start).1))⟩
  | building store =>
    ⟨slot, client, some (.replay task floor (.connecting store ⟨task.wallets.map (·.id)⟩))⟩
  | connecting store chain =>
    let (network, client) := client.newNetwork (Scheduler.listenersFor task floor)
    ⟨some ⟨store, chain, network⟩, client, some (.replay task floor (.starting network.number))⟩
  | starting network =>
    ⟨slot.map (·.setRunning true), client, some (.replay task floor (.resuming network))⟩
  | resuming _ => ⟨slot, { client with download := some (.replay task.id) }, none⟩

namespace Work

/-- The client call that was waited for has succeeded. -/
def succeed (slot : Option Stack) (client : Client) : Work → Continuation
  | replay task floor stage => stage.succeed slot client task floor
  | starting network => ⟨slot.map (·.setRunning true), client, some (.resuming network)⟩
  | resuming _ => ⟨slot, { client with download := some .regular }, none⟩
  | stopping stack => ⟨slot, { client with download := none }, some (.closing (stack.setRunning false))⟩
  | closing _ => ⟨slot, client, none⟩

/-- The chain in its place when the client call that was waited for has failed. -/
def slotAfterFailure (slot : Option Stack) : Work → Option Stack
  | replay _ _ (.stopping old) => some old
  | _ => slot

/-- The work that an attempt begins with. -/
def attempt (task : Task) (slot : Option Stack) (floor : Option Height) : Work :=
  match slot with
  | some old => .replay task floor (.stopping old)
  | none => .replay task floor .creating

/-- The work on a task goes on as work on it. -/
theorem task?_of_succeed {slot : Option Stack} {client : Client} {w next : Work}
    (h : (w.succeed slot client).next = some next) : next.task? = w.task? := by
  cases w with
  | replay task floor stage =>
    cases stage <;> simp_all [succeed, Stage.succeed] <;> subst h <;> rfl
  | starting network | resuming network | stopping stack | closing stack =>
    simp_all [succeed] <;> subst h <;> rfl

@[simp]
theorem task?_attempt (task : Task) (slot : Option Stack) (floor : Option Height) :
    (attempt task slot floor).task? = some task := by
  cases slot <;> rfl

end Work

namespace Scheduler

/-! ### What steps are made of -/

/-- The caller stands at the end of the line with an errand. -/
def stand (s : Scheduler) (k : Caller) (errand : Errand) : Scheduler :=
  { s with line := s.line ++ [k], calls := s.calls.set k (.waiting errand) }

/-- The call leaves the line and is over. -/
def depart (s : Scheduler) (k : Caller) : Scheduler :=
  ((s.leaveLine k).finish k none).1

/-- The call goes on to make a client call. -/
def engage (s : Scheduler) (k : Caller) (w : Work) : Scheduler :=
  (s.work k w).1

/-- The call goes on to its next client call, or is over. -/
def goOn (s : Scheduler) (k : Caller) : Option Work → Scheduler
  | some w => s.engage k w
  | none => s.depart k

/-- A failed attempt at a task is counted, if the work was one. -/
def countFailure (s : Scheduler) : Option Task → Scheduler
  | some task =>
    record { s with queue := (s.queue.fail task.id s.retry s.clock).1 }
      [.failed task.id s.clock (s.queue.fail task.id s.retry s.clock).2]
  | none => s

/-- The client has answered the call that is waited for, and the answer is recorded. -/
def hear (s : Scheduler) (k : Caller) (w : Work) (succeeded : Bool) : Scheduler :=
  record { s with client := (s.client.leave.answer w.call.step).1 } [.answered k w.call succeeded]

/-- Whether a call waits for the chain with this errand and holds the chain. -/
def Holds (s : Scheduler) (k : Caller) (errand : Errand) : Prop :=
  s.calls.get? k = some (.waiting errand) ∧ s.line.head? = some k

/-! ### Steps -/

/-- What the call of a caller does in one step. -/
inductive Step (k : Caller) : Scheduler → Scheduler → Prop where
  /-- A tick ends that has nothing to dispatch. -/
  | rest {s : Scheduler} (hcall : s.calls.get? k = some (.fresh .tick))
      (h : s.isShutDown = true ∨ (s.queue.dispatch s.clock).2 = none) :
      Step k s { s with calls := s.calls.erase k }
  /-- A tick pops the head, if it is retiring. -/
  | retire {s : Scheduler} (hcall : s.calls.get? k = some (.fresh .tick))
      (hopen : s.isShutDown = false) :
      Step k s (record { s with queue := s.queue.retire.1 } (retirement s.queue.retire.2))
  /-- A tick dispatches the head and stands in line for it. -/
  | dispatch {s : Scheduler} {task : Task} (hcall : s.calls.get? k = some (.fresh .tick))
      (hopen : s.isShutDown = false) (h : (s.queue.dispatch s.clock).2 = some task) :
      Step k s ((record { s with queue := (s.queue.dispatch s.clock).1 }
        [.dispatched task.id s.clock]).stand k (.replay task))
  /-- A regular download stands in line. -/
  | askRegular {s : Scheduler} (hcall : s.calls.get? k = some (.fresh .regular)) :
      Step k s (s.stand k .regular)
  /-- A shutdown takes effect and stands in line. -/
  | askShutdown {s : Scheduler} (hcall : s.calls.get? k = some (.fresh .shutdown)) :
      Step k s (s.callShutdown.stand k .shutdown)
  /-- An attempt comes too late: the dispatch is taken back. -/
  | refuse {s : Scheduler} {task : Task} (hcall : s.Holds k (.replay task))
      (hclosed : s.isShutDown = true) :
      Step k s (depart (record { s with queue := (s.queue.abandon task.id).1 } [.acquired k]) k)
  /-- An attempt begins. -/
  | attempt {s : Scheduler} {task : Task} (hcall : s.Holds k (.replay task))
      (hopen : s.isShutDown = false) :
      Step k s (engage
        (record { s with roster := s.roster.modifyAll task.wallets SyncState.startDownload, slot := none }
          [.acquired k, .attempted task.id]) k (.attempt task s.slot s.bestHeight?))
  /-- A regular download comes too late, or finds no chain. -/
  | declineRegular {s : Scheduler} (hcall : s.Holds k .regular)
      (h : s.isShutDown = true ∨ s.slot = none) :
      Step k s (depart (s.record [.acquired k]) k)
  /-- A regular download begins. -/
  | beginRegular {s : Scheduler} {stack : Stack} (hcall : s.Holds k .regular)
      (hopen : s.isShutDown = false) (hslot : s.slot = some stack) :
      Step k s (engage (s.record [.acquired k]) k
        (if stack.network.running then .resuming stack.network.number
          else .starting stack.network.number))
  /-- A shutdown finds no chain. -/
  | declineShutdown {s : Scheduler} (hcall : s.Holds k .shutdown) (hslot : s.slot = none) :
      Step k s (depart (s.record [.acquired k]) k)
  /-- A shutdown begins to take the chain down. -/
  | beginShutdown {s : Scheduler} {stack : Stack} (hcall : s.Holds k .shutdown)
      (hslot : s.slot = some stack) :
      Step k s (engage (record { s with slot := none } [.acquired k]) k (.stopping stack))
  /-- The client has answered well. -/
  | succeed {s : Scheduler} {w : Work} (hcall : s.calls.get? k = some (.working w))
      (h : (s.client.leave.answer w.call.step).2 = true) :
      Step k s (goOn
        { s.hear k w true with
          slot := (w.succeed s.slot (s.hear k w true).client).slot
          client := (w.succeed s.slot (s.hear k w true).client).client }
        k (w.succeed s.slot (s.hear k w true).client).next)
  /-- The client has failed. -/
  | fail {s : Scheduler} {w : Work} (hcall : s.calls.get? k = some (.working w))
      (h : (s.client.leave.answer w.call.step).2 = false) :
      Step k s (depart
        (countFailure { s.hear k w false with slot := w.slotAfterFailure s.slot } w.task?) k)

/-! ### Steps and the functions that they cut -/

@[simp]
theorem isShutDown_record (s : Scheduler) (new : List Occurrence) :
    (s.record new).isShutDown = s.isShutDown := rfl

@[simp]
theorem slot_record (s : Scheduler) (new : List Occurrence) : (s.record new).slot = s.slot := rfl

theorem leaveLine_setQueue (s : Scheduler) (k : Caller) (queue : Queue) :
    leaveLine { s with queue } k = { s.leaveLine k with queue } := by
  simp only [leaveLine, summon]
  split
  · split
    · split <;> rfl
    · rfl
  · rfl

theorem leaveLine_setCalls (s : Scheduler) (k : Caller) (calls : Table Caller Call) :
    leaveLine { s with calls } k = { s.leaveLine k with calls } := by
  simp only [leaveLine, summon]
  split
  · split
    · split <;> rfl
    · rfl
  · rfl

theorem leaveLine_setJournal (s : Scheduler) (k : Caller) (journal : List Occurrence) :
    leaveLine { s with journal } k = { s.leaveLine k with journal } := by
  simp only [leaveLine, summon]
  split
  · split
    · split <;> rfl
    · rfl
  · rfl

/-- Leaving the line changes nothing but the line and who is to run. -/
theorem leaveLine_eq (s : Scheduler) (k : Caller) :
    s.leaveLine k = { s with line := s.line.erase k, turns := (s.leaveLine k).turns } := by
  simp only [leaveLine, summon]
  split
  · split
    · split <;> rfl
    · rfl
  · rfl

/-- A call that is over is in neither the line nor the table of calls. -/
theorem depart_eq (s : Scheduler) (k : Caller) :
    s.depart k = { s with
      line := s.line.erase k, calls := s.calls.erase k, turns := (s.leaveLine k).turns } := by
  rw [depart, finish, leaveLine_eq]

@[simp]
theorem line_depart (s : Scheduler) (k : Caller) : (s.depart k).line = s.line.erase k := by
  rw [depart_eq]

@[simp]
theorem calls_depart (s : Scheduler) (k : Caller) : (s.depart k).calls = s.calls.erase k := by
  rw [depart_eq]

@[simp]
theorem queue_depart (s : Scheduler) (k : Caller) : (s.depart k).queue = s.queue := by
  rw [depart_eq]

theorem depart_setCall (s : Scheduler) (k : Caller) (c : Call) :
    depart { s with calls := s.calls.set k c } k = s.depart k := by
  simp [depart_eq, leaveLine_setCalls]

theorem engage_setCall (s : Scheduler) (k : Caller) (c : Call) (w : Work) :
    engage { s with calls := s.calls.set k c } k w = s.engage k w := by
  simp [engage, work]

/-- A tick deals with the end of its attempt, but not with an attempt that goes on or has succeeded. -/
theorem absorb_of_not_failed {r : Scheduler × Poll} (task : Task)
    (h : ∀ error, r.2 ≠ .done (some error)) : absorb task r = r := by
  obtain ⟨s, result⟩ := r
  match result, h with
  | .absent, _ | .pending, _ | .done none, _ => rfl
  | .done (some error), h => exact absurd rfl (h error)

theorem enterChain_replay_closed {s : Scheduler} (k : Caller) (task : Task)
    (h : s.isShutDown = true) :
    (s.enterChain k (.replay task)).1 =
      depart (record { s with queue := (s.queue.abandon task.id).1 } [.acquired k]) k := by
  have hq : ((s.record [.acquired k]).leaveLine k).queue = s.queue := by rw [leaveLine_eq]; rfl
  have hc := leaveLine_setQueue (s.record [.acquired k]) k (s.queue.abandon task.id).1
  simp only [enterChain, beginAttempt, isShutDown_record, h, if_true, finish, absorb]
  rw [hq]
  exact congrArg (fun t : Scheduler => { t with calls := t.calls.erase k }) hc.symm

theorem enterChain_replay_open {s : Scheduler} (k : Caller) (task : Task)
    (h : s.isShutDown = false) :
    (s.enterChain k (.replay task)).1 = engage
      (record { s with roster := s.roster.modifyAll task.wallets SyncState.startDownload, slot := none }
        [.acquired k, .attempted task.id]) k (.attempt task s.slot s.bestHeight?) := by
  simp only [enterChain, beginAttempt, isShutDown_record, h, Bool.false_eq_true, if_false]
  split
  · rename_i old hold
    have hslot : s.slot = some old := hold
    simp [hslot, record, work, absorb, engage, Work.attempt, bestHeight?]
  · rename_i hnone
    have hslot : s.slot = none := hnone
    simp [hslot, record, work, absorb, engage, Work.attempt, bestHeight?]

theorem enterChain_regular_closed {s : Scheduler} (k : Caller)
    (h : s.isShutDown = true ∨ s.slot = none) :
    (s.enterChain k .regular).1 = depart (s.record [.acquired k]) k := by
  rcases h with hclosed | hslot
  · simp only [enterChain, beginRegular, isShutDown_record, hclosed, if_true]
    rfl
  · simp only [enterChain, beginRegular, slot_record, hslot]
    split <;> rfl

theorem enterChain_regular_open {s : Scheduler} (k : Caller) {stack : Stack}
    (hopen : s.isShutDown = false) (hslot : s.slot = some stack) :
    (s.enterChain k .regular).1 = engage (s.record [.acquired k]) k
      (if stack.network.running then .resuming stack.network.number
        else .starting stack.network.number) := by
  simp only [enterChain, beginRegular, isShutDown_record, slot_record, hopen, hslot]
  split
  · simp_all
  · split <;> rfl

theorem enterChain_shutdown_none {s : Scheduler} (k : Caller) (hslot : s.slot = none) :
    (s.enterChain k .shutdown).1 = depart (s.record [.acquired k]) k := by
  simp only [enterChain, beginShutdown, slot_record, hslot]
  rfl

theorem enterChain_shutdown_some {s : Scheduler} (k : Caller) {stack : Stack}
    (hslot : s.slot = some stack) :
    (s.enterChain k .shutdown).1 =
      engage (record { s with slot := none } [.acquired k]) k (.stopping stack) := by
  simp only [enterChain, beginShutdown, slot_record, hslot]
  rfl

/-- A caller that has come to hold the chain takes a step. -/
theorem step_enterChain {s : Scheduler} {k : Caller} {errand : Errand} (h : s.Holds k errand) :
    Step k s (s.enterChain k errand).1 := by
  cases errand with
  | replay task =>
    cases hs : s.isShutDown with
    | true =>
      rw [enterChain_replay_closed k task hs]
      exact .refuse h hs
    | false =>
      rw [enterChain_replay_open k task hs]
      exact .attempt h hs
  | regular =>
    cases hs : s.isShutDown with
    | true =>
      rw [enterChain_regular_closed k (Or.inl hs)]
      exact .declineRegular h (Or.inl hs)
    | false =>
      cases hslot : s.slot with
      | none =>
        rw [enterChain_regular_closed k (Or.inr hslot)]
        exact .declineRegular h (Or.inr hslot)
      | some stack =>
        rw [enterChain_regular_open k hs hslot]
        exact .beginRegular h hs hslot
  | shutdown =>
    cases hslot : s.slot with
    | none =>
      rw [enterChain_shutdown_none k hslot]
      exact .declineShutdown h hslot
    | some stack =>
      rw [enterChain_shutdown_some k hslot]
      exact .beginShutdown h hslot

/-- Beginning an errand overwrites where the call stood before. -/
theorem enterChain_setCall (s : Scheduler) (k : Caller) (c : Call) (errand : Errand) :
    (enterChain { s with calls := s.calls.set k c } k errand).1 = (s.enterChain k errand).1 := by
  let t : Scheduler := { s with calls := s.calls.set k c }
  change (t.enterChain k errand).1 = _
  cases errand with
  | replay task =>
    cases hs : s.isShutDown with
    | true =>
      have ht : t.isShutDown = true := hs
      rw [enterChain_replay_closed k task hs, enterChain_replay_closed k task ht]
      exact depart_setCall (record { s with queue := (s.queue.abandon task.id).1 } _) k c
    | false =>
      have ht : t.isShutDown = false := hs
      rw [enterChain_replay_open k task hs, enterChain_replay_open k task ht]
      exact engage_setCall (record { s with
        roster := s.roster.modifyAll task.wallets SyncState.startDownload, slot := none } _) k c _
  | regular =>
    cases hs : s.isShutDown with
    | true =>
      have ht : t.isShutDown = true := hs
      rw [enterChain_regular_closed k (Or.inl hs), enterChain_regular_closed k (Or.inl ht)]
      exact depart_setCall (s.record _) k c
    | false =>
      have ht : t.isShutDown = false := hs
      cases hslot : s.slot with
      | none =>
        have htslot : t.slot = none := hslot
        rw [enterChain_regular_closed k (Or.inr hslot), enterChain_regular_closed k (Or.inr htslot)]
        exact depart_setCall (s.record _) k c
      | some stack =>
        have htslot : t.slot = some stack := hslot
        rw [enterChain_regular_open k hs hslot, enterChain_regular_open k ht htslot]
        exact engage_setCall (s.record _) k c _
  | shutdown =>
    cases hslot : s.slot with
    | none =>
      have htslot : t.slot = none := hslot
      rw [enterChain_shutdown_none k hslot, enterChain_shutdown_none k htslot]
      exact depart_setCall (s.record _) k c
    | some stack =>
      have htslot : t.slot = some stack := hslot
      rw [enterChain_shutdown_some k hslot, enterChain_shutdown_some k htslot]
      exact engage_setCall (record { s with slot := none } _) k c _

/-! ### Polls are sequences of steps -/

open Relation

/-- A call that has joined the line goes on at once if the line was empty. -/
theorem joinLine_cases (s : Scheduler) (k : Caller) (errand : Errand) :
    (s.joinLine k errand).1 = s.stand k errand ∨ (s.stand k errand).Holds k errand ∧
      (s.joinLine k errand).1 = ((s.stand k errand).enterChain k errand).1 := by
  by_cases hline : s.line = []
  · have hjoin : s.joinLine k errand = enterChain { s with line := s.line ++ [k] } k errand := by
      simp [joinLine, hline]
    refine Or.inr ⟨⟨Table.get?_set_self _ _ _, by simp [stand, hline]⟩, ?_⟩
    rw [hjoin, ← enterChain_setCall { s with line := s.line ++ [k] } k (.waiting errand) errand]
    rfl
  · exact Or.inl (by simp [joinLine, hline, stand])

theorem steps_joinLine (s : Scheduler) (k : Caller) (errand : Errand) :
    ReflTransGen (Step k) (s.stand k errand) (s.joinLine k errand).1 := by
  rcases s.joinLine_cases k errand with hjoin | ⟨hholds, hjoin⟩
  · rw [hjoin]
  · rw [hjoin]
    exact .single (step_enterChain hholds)

theorem steps_beginTick {s : Scheduler} {k : Caller} (h : s.calls.get? k = some (.fresh .tick)) :
    ReflTransGen (Step k) s (s.beginTick k).1 := by
  unfold beginTick
  split
  · rename_i hclosed
    exact .single (.rest h (Or.inl hclosed))
  · rename_i hopen
    rw [Bool.not_eq_true] at hopen
    refine .head (.retire h hopen) ?_
    have ht : (record { s with queue := s.queue.retire.1 } (retirement s.queue.retire.2)).calls.get? k =
        some (.fresh .tick) := h
    have htopen : (record { s with queue := s.queue.retire.1 }
        (retirement s.queue.retire.2)).isShutDown = false := hopen
    simp only
    generalize record { s with queue := s.queue.retire.1 } (retirement s.queue.retire.2) = t at *
    split
    · rename_i hnone
      exact .single (.rest ht (Or.inr (by rw [hnone])))
    · rename_i queue task hsome
      refine .head (.dispatch ht htopen (by rw [hsome])) ?_
      rw [hsome]
      exact steps_joinLine _ k (.replay task)

theorem advance_eq (s : Scheduler) (k : Caller) (w : Work) :
    (s.advance k w).1 =
      goOn { s with slot := (w.succeed s.slot s.client).slot, client := (w.succeed s.slot s.client).client }
        k (w.succeed s.slot s.client).next := by
  cases w with
  | replay task floor stage => cases stage <;> rfl
  | starting network | resuming network | stopping stack | closing stack => rfl

/-- A call that the client has answered well is pending, or has come to its end. -/
theorem advance_snd (s : Scheduler) (k : Caller) (w : Work) : (s.advance k w).2 =
    if (w.succeed s.slot s.client).next.isSome then .pending else .done none := by
  cases w with
  | replay task floor stage => cases stage <;> rfl
  | starting network | resuming network | stopping stack | closing stack => rfl

/-- A call that the client has failed returns the step that failed. -/
theorem abort_eq (s : Scheduler) (k : Caller) (w : Work) :
    s.abort k w = (depart { s with slot := w.slotAfterFailure s.slot } k,
      .done (some (.client w.call.step))) := by
  cases w with
  | replay task floor stage => cases stage <;> rfl
  | starting network | resuming network | stopping stack | closing stack => rfl

theorem depart_setQueue_record (s : Scheduler) (k : Caller) (queue : Queue)
    (new : List Occurrence) :
    depart (record { s with queue } new) k = record { s.depart k with queue } new := by
  have hjournal : (s.leaveLine k).journal = s.journal := by rw [leaveLine_eq]
  have hleave := leaveLine_setJournal { s with queue } k (s.journal ++ new)
  rw [leaveLine_setQueue] at hleave
  simp only [depart, finish, record, hleave, hjournal]

/-- A tick counts an attempt that failed. -/
theorem absorb_abort (s : Scheduler) (k : Caller) (w : Work) (task : Task) :
    absorb task (s.abort k w) =
      (depart (countFailure { s with slot := w.slotAfterFailure s.slot } (some task)) k,
        .done none) := by
  rw [abort_eq, countFailure, depart_setQueue_record]
  simp only [absorb, depart_eq]

/-- The client has answered, and what waited has gone on or ended. -/
theorem pursue_eq (s : Scheduler) (k : Caller) (w : Work) : s.pursue k w =
    if (s.client.leave.answer w.call.step).2 then (s.hear k w true).advance k w
    else (s.hear k w false).abort k w := by
  unfold pursue
  cases hanswer : (s.client.leave.answer w.call.step).2 <;> simp [hanswer, hear]

theorem receive_of_task {w : Work} {task : Task} (h : w.task? = some task) (s : Scheduler)
    (k : Caller) : s.receive k w = absorb task (s.pursue k w) := by
  simp [receive, h]

theorem receive_of_no_task {w : Work} (h : w.task? = none) (s : Scheduler) (k : Caller) :
    s.receive k w = s.pursue k w := by
  simp [receive, h]

/-- A call that the client answers well goes on, or is over. -/
theorem receive_of_succeeded {s : Scheduler} {k : Caller} {w : Work}
    (h : (s.client.leave.answer w.call.step).2 = true) :
    s.receive k w = (s.hear k w true).advance k w := by
  have hpursue : s.pursue k w = (s.hear k w true).advance k w := by simp [pursue_eq, h]
  cases htask : w.task? with
  | none => rw [receive_of_no_task htask, hpursue]
  | some task =>
    rw [receive_of_task htask, hpursue]
    refine absorb_of_not_failed task fun error => ?_
    rw [advance_snd]
    split <;> simp

/-- A call that the client fails is over, and if it was an attempt at a task, that is counted. -/
theorem receive_of_failed {s : Scheduler} {k : Caller} {w : Work}
    (h : (s.client.leave.answer w.call.step).2 = false) : (s.receive k w).1 = depart
      (countFailure { s.hear k w false with slot := w.slotAfterFailure s.slot } w.task?) k := by
  have hpursue : s.pursue k w = (s.hear k w false).abort k w := by simp [pursue_eq, h]
  cases htask : w.task? with
  | none =>
    rw [receive_of_no_task htask, hpursue, abort_eq]
    rfl
  | some task =>
    rw [receive_of_task htask, hpursue, absorb_abort]
    rfl

/-- A call that the client answers takes a step. -/
theorem step_receive {s : Scheduler} {k : Caller} {w : Work}
    (h : s.calls.get? k = some (.working w)) : Step k s (s.receive k w).1 := by
  cases hanswer : (s.client.leave.answer w.call.step).2 with
  | true =>
    rw [receive_of_succeeded hanswer, advance_eq]
    exact .succeed h hanswer
  | false =>
    rw [receive_of_failed hanswer]
    exact .fail h hanswer

/-- A poll is a sequence of steps of the call that is polled. -/
theorem poll_steps (s : Scheduler) (k : Caller) : ReflTransGen (Step k) s (s.poll k).1 := by
  unfold poll
  split
  · exact .refl
  · rename_i kind h
    cases kind with
    | tick => exact steps_beginTick h
    | regular => exact .head (.askRegular h) (steps_joinLine s k .regular)
    | shutdown => exact .head (.askShutdown h) (steps_joinLine s.callShutdown k .shutdown)
  · rename_i errand h
    split
    · rename_i hhead
      exact .single (step_enterChain ⟨h, hhead⟩)
    · exact .refl
  · rename_i w h
    exact .single (step_receive h)

/-! ### What no step touches -/

theorem summonAll_eq (s : Scheduler) (ds : List Nat) :
    s.summonAll ds = { s with turns := (s.summonAll ds).turns } := by
  induction ds generalizing s with
  | nil => rfl
  | cons d ds ih =>
    have hd : s.summon d = { s with turns := (s.summon d).turns } := by
      unfold summon
      split <;> rfl
    change (s.summon d).summonAll ds = { s with turns := ((s.summon d).summonAll ds).turns }
    rw [ih, hd]

/-- Calling shutdown changes nothing but the count of shutdowns and who is to run. -/
theorem callShutdown_eq (s : Scheduler) :
    s.callShutdown =
      { s with shutdownCount := s.shutdownCount + 1, turns := s.callShutdown.turns } := by
  unfold callShutdown
  rw [summonAll_eq]

/-- Counting a failure changes nothing but the queue and the journal. -/
theorem countFailure_eq (s : Scheduler) (task : Option Task) :
    s.countFailure task =
      { s with queue := (s.countFailure task).queue, journal := (s.countFailure task).journal } := by
  cases task <;> rfl

/-- Going on changes nothing but the line, the calls, the client's count of calls and who is to
run. -/
theorem goOn_eq (s : Scheduler) (k : Caller) (next : Option Work) : s.goOn k next = { s with
    line := (s.goOn k next).line
    calls := (s.goOn k next).calls
    client := (s.goOn k next).client
    turns := (s.goOn k next).turns } := by
  cases next with
  | some w => rfl
  | none =>
    rw [goOn, depart_eq]

/-- A step leaves other calls where they are. -/
theorem Step.others {s s' : Scheduler} {k l : Caller} (h : Step k s s') (hl : l ≠ k) :
    s'.calls.get? l = s.calls.get? l := by
  cases h with
  | rest | refuse | declineRegular | declineShutdown =>
    simp [depart_eq, record, Table.get?_erase, hl]
  | retire => rfl
  | dispatch | askRegular => simp [stand, record, Table.get?_set, hl]
  | askShutdown =>
    rw [callShutdown_eq]
    simp [stand, Table.get?_set, hl]
  | attempt | beginRegular | beginShutdown => simp [engage, work, record, Table.get?_set, hl]
  | @succeed w =>
    cases (w.succeed s.slot (s.hear k w true).client).next <;>
      simp [goOn, engage, work, depart_eq, hear, record, Table.get?_set, Table.get?_erase, hl]
  | fail =>
    rw [countFailure_eq]
    simp [depart_eq, hear, record, Table.get?_erase, hl]

/-- What a step does with the queue, if anything. -/
theorem Step.queue_cases {s s' : Scheduler} {k : Caller} (h : Step k s s') :
    s'.queue = s.queue ∨ s'.queue = s.queue.retire.1 ∨ s'.queue = (s.queue.dispatch s.clock).1 ∨
      ∃ id, s'.queue = (s.queue.abandon id).1 ∨ s'.queue = (s.queue.fail id s.retry s.clock).1 := by
  cases h with
  | rest | askRegular | attempt | beginRegular | beginShutdown => exact Or.inl rfl
  | retire => exact Or.inr (Or.inl rfl)
  | dispatch => exact Or.inr (Or.inr (Or.inl rfl))
  | askShutdown =>
    rw [callShutdown_eq]
    exact Or.inl rfl
  | @refuse task =>
    rw [depart_eq]
    exact Or.inr (Or.inr (Or.inr ⟨task.id, Or.inl rfl⟩))
  | declineRegular | declineShutdown =>
    rw [depart_eq]
    exact Or.inl rfl
  | succeed =>
    rw [goOn_eq]
    exact Or.inl rfl
  | @fail w =>
    rw [depart_eq]
    cases w.task? with
    | some task => exact Or.inr (Or.inr (Or.inr ⟨task.id, Or.inr rfl⟩))
    | none => exact Or.inl rfl

/-- The parts of a scheduler that the calls of owners and drivers leave alone: the settings, the
time, the number of accepted tasks, and the drivers. -/
structure Untouched (s s' : Scheduler) : Prop where
  checkpoints : s'.checkpoints = s.checkpoints
  retry : s'.retry = s.retry
  interval : s'.interval = s.interval
  clock : s'.clock = s.clock
  acceptedCount : s'.acceptedCount = s.acceptedCount
  wake : s'.wake = s.wake
  drivers : s'.drivers = s.drivers

theorem Step.untouched {s s' : Scheduler} {k : Caller} (h : Step k s s') : Untouched s s' := by
  cases h with
  | rest | retire => exact ⟨rfl, rfl, rfl, rfl, rfl, rfl, rfl⟩
  | refuse | declineRegular | declineShutdown =>
    rw [depart_eq]
    exact ⟨rfl, rfl, rfl, rfl, rfl, rfl, rfl⟩
  | dispatch | askRegular => exact ⟨rfl, rfl, rfl, rfl, rfl, rfl, rfl⟩
  | askShutdown =>
    rw [callShutdown_eq]
    exact ⟨rfl, rfl, rfl, rfl, rfl, rfl, rfl⟩
  | attempt | beginRegular | beginShutdown => exact ⟨rfl, rfl, rfl, rfl, rfl, rfl, rfl⟩
  | succeed =>
    rw [goOn_eq]
    exact ⟨rfl, rfl, rfl, rfl, rfl, rfl, rfl⟩
  | fail =>
    rw [countFailure_eq, depart_eq]
    exact ⟨rfl, rfl, rfl, rfl, rfl, rfl, rfl⟩

theorem Untouched.trans {s t u : Scheduler} (h : Untouched s t) (h' : Untouched t u) :
    Untouched s u where
  checkpoints := h'.checkpoints.trans h.checkpoints
  retry := h'.retry.trans h.retry
  interval := h'.interval.trans h.interval
  clock := h'.clock.trans h.clock
  acceptedCount := h'.acceptedCount.trans h.acceptedCount
  wake := h'.wake.trans h.wake
  drivers := h'.drivers.trans h.drivers

/-- A poll leaves other calls where they are. -/
theorem poll_others (s : Scheduler) {k l : Caller} (hl : l ≠ k) :
    (s.poll k).1.calls.get? l = s.calls.get? l := by
  have h := poll_steps s k
  generalize (s.poll k).1 = t at h ⊢
  induction h with
  | refl => rfl
  | tail _ hstep ih => exact (hstep.others hl).trans ih

theorem poll_untouched (s : Scheduler) (k : Caller) : Untouched s (s.poll k).1 := by
  have h := poll_steps s k
  generalize (s.poll k).1 = t at h ⊢
  induction h with
  | refl => exact ⟨rfl, rfl, rfl, rfl, rfl, rfl, rfl⟩
  | tail _ hstep ih => exact ih.trans hstep.untouched

/-! ### Polls that end a call -/

/-- A call that is left pending has begun, and any other is gone. -/
structure Settled (k : Caller) (r : Scheduler × Poll) : Prop where
  begun : r.2 = .pending → ∃ c, r.1.calls.get? k = some c ∧ c.isBegun = true
  gone : r.2 ≠ .pending → r.1.calls.get? k = none

theorem settled_finish (s : Scheduler) (k : Caller) (error : Option CallError) :
    Settled k (s.finish k error) where
  begun := by simp [finish]
  gone _ := Table.get?_erase_self _ _

theorem settled_work (s : Scheduler) (k : Caller) (w : Work) : Settled k (s.work k w) where
  begun _ := ⟨.working w, Table.get?_set_self _ _ _, rfl⟩
  gone h := absurd rfl h

theorem Settled.absorb {k : Caller} {r : Scheduler × Poll} (h : Settled k r) (task : Task) :
    Settled k (absorb task r) := by
  obtain ⟨s, result⟩ := r
  match result, h with
  | .absent, h | .pending, h | .done none, h => exact h
  | .done (some error), h =>
    have hgone := h.gone (by simp)
    cases error <;> exact ⟨fun hpending => by simp [Scheduler.absorb] at hpending, fun _ => hgone⟩

theorem settled_enterChain (s : Scheduler) (k : Caller) (errand : Errand) :
    Settled k (s.enterChain k errand) := by
  cases errand with
  | replay task =>
    simp only [enterChain, beginAttempt]
    refine Settled.absorb ?_ task
    split
    · exact settled_finish _ k _
    · split <;> exact settled_work _ k _
  | regular =>
    simp only [enterChain, beginRegular]
    split
    · exact settled_finish _ k _
    · split
      · exact settled_finish _ k _
      · split <;> exact settled_work _ k _
  | shutdown =>
    simp only [enterChain, beginShutdown]
    split
    · exact settled_finish _ k _
    · exact settled_work _ k _

theorem settled_joinLine (s : Scheduler) (k : Caller) (errand : Errand) :
    Settled k (s.joinLine k errand) := by
  by_cases hline : s.line = []
  · simp only [joinLine, hline, List.isEmpty_nil, if_true]
    exact settled_enterChain _ k errand
  · simp only [joinLine, List.isEmpty_iff, hline, if_false]
    exact ⟨fun _ => ⟨.waiting errand, Table.get?_set_self _ _ _, rfl⟩, fun h => absurd rfl h⟩

theorem settled_beginTick (s : Scheduler) (k : Caller) : Settled k (s.beginTick k) := by
  simp only [beginTick]
  split
  · exact settled_finish _ k _
  · split
    · exact settled_finish _ k _
    · exact settled_joinLine _ k _

theorem settled_advance (s : Scheduler) (k : Caller) (w : Work) : Settled k (s.advance k w) := by
  cases w with
  | replay task floor stage =>
    cases stage with
    | resuming network => exact settled_finish _ k _
    | stopping old | closing old | creating | building store | connecting store chain
    | starting network => exact settled_work _ k _
  | starting network | stopping stack => exact settled_work _ k _
  | resuming network | closing stack => exact settled_finish _ k _

theorem settled_pursue (s : Scheduler) (k : Caller) (w : Work) : Settled k (s.pursue k w) := by
  rw [pursue_eq]
  split
  · exact settled_advance _ k w
  · exact settled_finish _ k _

theorem settled_receive (s : Scheduler) (k : Caller) (w : Work) : Settled k (s.receive k w) := by
  unfold receive
  split
  · exact (settled_pursue s k w).absorb _
  · exact settled_pursue s k w

/-- A poll leaves a call pending, which then has begun, or it is gone. -/
theorem settled_poll (s : Scheduler) (k : Caller) : Settled k (s.poll k) := by
  unfold poll
  split
  · rename_i h
    exact ⟨by simp, fun _ => h⟩
  · rename_i kind h
    cases kind with
    | tick => exact settled_beginTick s k
    | regular => exact settled_joinLine s k .regular
    | shutdown => exact settled_joinLine s.callShutdown k .shutdown
  · rename_i errand h
    split
    · exact settled_enterChain s k _
    · exact ⟨fun _ => ⟨.waiting errand, h, rfl⟩, fun h => absurd rfl h⟩
  · exact settled_receive s k _

end Scheduler

end WalletReplay
