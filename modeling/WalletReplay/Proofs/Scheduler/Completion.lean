import WalletReplay.Proofs.Scheduler.Live
import WalletReplay.Proofs.Scheduler.Touch

/-!
# What completes a replay

The client keeps one download. An attempt at a task ends by resuming the download of the task, and
when that has caught up the task is completed. But a regular download can be resumed on the same
chain afterwards. It takes the place of the first one and belongs to no task, so that nothing is
completed when it has caught up: the task goes on running until its completion is reported by hand.

Which of the two the client keeps shows in how many downloads were resumed since the last attempt
began: while a task runs and no tick is in line, the first of them is the task's.

## What is proved

* `Counted.run` — how many downloads were resumed, and which one the client keeps.
* `Stranded.run` — a task whose download was displaced runs on.
* `run_completes` — when a task runs and no call is in progress, what completes it.
-/

namespace WalletReplay

/-! ### Downloads that are resumed -/

/-- How many downloads have been resumed since the last attempt began. -/
def Occurrence.countResumed (count : Nat) : Occurrence → Nat
  | attempted _ => 0
  | answered _ (.resumeDownload _) true => count + 1
  | _ => count

/-- A failed call resumes nothing. -/
theorem Occurrence.countResumed_of_failed (count : Nat) (k : Caller) (call : ClientCall) :
    countResumed count (.answered k call false) = count := by
  cases call <;> rfl

theorem Occurrence.countResumed_told (count : Nat) (told : List (String × Bool)) :
    (told.map fun h => heard h.1 h.2).foldl countResumed count = count := by
  induction told with
  | nil => rfl
  | cons h told ih => exact ih

namespace Work

/-- Whether the call asks for a download. -/
def Resumes (w : Work) : Prop :=
  ∃ network, w.call = .resumeDownload network

/-- The download that is resumed. -/
def download (w : Work) : Download :=
  match w.task? with
  | some task => .replay task.id
  | none => .regular

variable {w : Work}

theorem countResumed_of_resumes (hw : w.Resumes) (count : Nat) (k : Caller) :
    Occurrence.countResumed count (.answered k w.call true) = count + 1 := by
  obtain ⟨network, hcall⟩ := hw
  rw [hcall]
  rfl

theorem countResumed_of_not_resumes (hw : ¬ w.Resumes) (count : Nat) (k : Caller) :
    Occurrence.countResumed count (.answered k w.call true) = count := by
  cases hcall : w.call with
  | resumeDownload network => exact absurd ⟨network, hcall⟩ hw
  | createStore | buildChain | buildNetwork | startNetwork | stopNetwork | closeStore => rfl

/-- Work that does not take the chain down for good either resumes its download and is over, or goes
on; work on no task then leaves the download that the client keeps. -/
theorem succeed_cases (slot : Option Stack) (client : Client)
    (hw : (Call.working w).isShutdown = false) :
    w.Resumes ∧ (w.succeed slot client).next = none ∧
        (w.succeed slot client).client.download = some w.download ∨
      ¬ w.Resumes ∧ (∃ next, (w.succeed slot client).next = some next) ∧
        (w.task? = none → (w.succeed slot client).client.download = client.download) := by
  cases w with
  | replay task floor stage =>
    cases stage with
    | resuming network => exact Or.inl ⟨⟨network, rfl⟩, rfl, rfl⟩
    | stopping | closing | creating | building | connecting | starting =>
      refine Or.inr ⟨?_, ⟨_, rfl⟩, fun h => by simp [task?] at h⟩
      rintro ⟨network, hcall⟩
      simp [call, Stage.call] at hcall
  | resuming network => exact Or.inl ⟨⟨network, rfl⟩, rfl, rfl⟩
  | starting network =>
    refine Or.inr ⟨?_, ⟨_, rfl⟩, fun _ => rfl⟩
    rintro ⟨network, hcall⟩
    simp [call] at hcall
  | stopping | closing => simp [Call.isShutdown] at hw

end Work

theorem Client.download_answer (c : Client) (step : ClientStep) :
    (c.answer step).1.download = c.download := by
  unfold answer
  split <;> rfl

namespace Scheduler

variable {s s' : Scheduler} {k : Caller}

/-- How many downloads have been resumed since the last attempt began. -/
def resumedCount (s : Scheduler) : Nat :=
  s.journal.foldl Occurrence.countResumed 0

theorem resumedCount_append (s : Scheduler) (news : List Occurrence)
    (h : s'.journal = s.journal ++ news) :
    s'.resumedCount = news.foldl Occurrence.countResumed s.resumedCount := by
  rw [resumedCount, h, List.foldl_append]
  rfl

theorem download_hear (s : Scheduler) (k : Caller) (w : Work) (succeeded : Bool) :
    (s.hear k w succeeded).client.download = s.client.download :=
  Client.download_answer _ _

/-- An attempt at a task is under way. -/
def Attempting (s : Scheduler) : Prop :=
  ∃ k w, s.calls.get? k = some (.working w) ∧ w.task?.isSome = true

theorem attempting_of_others (hothers : ∀ l, l ≠ k → s'.calls.get? l = s.calls.get? l)
    (hself : ∀ w, s'.calls.get? k = some (.working w) → w.task?.isSome = true → s.Attempting)
    (h : s'.Attempting) : s.Attempting := by
  obtain ⟨l, w, hw, htask⟩ := h
  by_cases hl : l = k
  · exact hself w (hl ▸ hw) htask
  · exact ⟨l, w, hothers l hl ▸ hw, htask⟩

/-- The task at the head runs, and no tick is in line. -/
structure RunsAlone (s : Scheduler) (head : Task) : Prop where
  isHead : s.queue.head? = some head
  running : ∃ failures, s.queue.phase = .running head.id failures
  noTick : s.lineTasks = []

theorem RunsAlone.congr {head : Task} (h : s'.RunsAlone head) (hqueue : s'.queue = s.queue)
    (hline : s'.lineTasks = s.lineTasks) : s.RunsAlone head :=
  ⟨hqueue ▸ h.isHead, hqueue ▸ h.running, hline ▸ h.noTick⟩

theorem RunsAlone.acceptsCompletion {head : Task} (h : s.RunsAlone head) :
    s.queue.phase.acceptsCompletion head.id = true := by
  obtain ⟨failures, hrunning⟩ := h.running
  simp [hrunning, Phase.acceptsCompletion]

/-! ### What becomes of the download -/

/-- What a move means for the download that the client keeps. -/
inductive Handover (s s' : Scheduler) : Prop where
  /-- No attempt begins, and no download is resumed. -/
  | keep (hcount : s'.resumedCount = s.resumedCount) (hattempting : s'.Attempting → s.Attempting)
      (hdownload : ∀ head, s'.RunsAlone head →
        s.RunsAlone head ∧ s'.client.download = s.client.download)
  /-- An attempt begins. -/
  | attempt (hcount : s'.resumedCount = 0) (hline : s'.lineTasks ≠ [])
  /-- A download is resumed. -/
  | resume {k : Caller} {w : Work} (hcall : s.calls.get? k = some (.working w))
      (hcount : s'.resumedCount = s.resumedCount + 1)
      (hdownload : s'.client.download = some w.download) (hqueue : s'.queue = s.queue)
      (hline : s.lineTasks = w.task?.toList ++ s'.lineTasks) (hidle : ¬ s'.Attempting)

/-- A move that leaves the queue, the tasks in line and, if there are none, the download. -/
theorem handover_of_eq (hcount : s'.resumedCount = s.resumedCount)
    (hattempting : s'.Attempting → s.Attempting) (hqueue : s'.queue = s.queue)
    (hline : s'.lineTasks = s.lineTasks)
    (hdownload : s.lineTasks = [] → s'.client.download = s.client.download) : Handover s s' :=
  .keep hcount hattempting fun _ h =>
    have h' := h.congr hqueue hline
    ⟨h', hdownload h'.noTick⟩

section Steps

variable (hs : s.Pursuit)

include hs

/-- The client has answered well. -/
theorem Pursuit.handover_succeed {w : Work} (hcall : s.calls.get? k = some (.working w))
    (hothers : ∀ l, l ≠ k → s'.calls.get? l = s.calls.get? l)
    (hs' : s' = goOn
      { s.hear k w true with
        slot := (w.succeed s.slot (s.hear k w true).client).slot
        client := (w.succeed s.slot (s.hear k w true).client).client }
      k (w.succeed s.slot (s.hear k w true).client).next) : Handover s s' := by
  have hhead := hs.ordered.inLine.head_of_working hcall
  have htask := taskOf?_of_working hcall
  have hjournal : s'.journal = s.journal ++ [.answered k w.call true] := by
    rw [hs', goOn_eq]
    rfl
  have hcount := resumedCount_append s _ hjournal
  have hcases := Work.succeed_cases s.slot (s.hear k w true).client (hs.noShutdown k _ hcall)
  rcases hcases with ⟨hw, hnext, hdownload⟩ | ⟨hw, ⟨next, hnext⟩, hdownload⟩
  · rw [hnext, goOn] at hs'
    refine .resume hcall (hcount.trans (Work.countResumed_of_resumes hw _ k)) ?_ ?_ ?_ ?_
    · rw [hs', depart_eq, hdownload]
    · rw [hs', queue_depart]
      rfl
    · have hline : s.lineTasks = (s.taskOf? k).toList ++ s'.lineTasks :=
        lineTasks_of_leave_head hs.ordered.inLine hhead (by rw [hs', line_depart]; rfl)
          (by rw [hs', calls_depart]; rfl)
      rwa [htask] at hline
    -- Only the first in line works, and it is gone.
    · rintro ⟨l, v, hv, -⟩
      by_cases hl : l = k
      · rw [hs', hl, calls_depart, Table.get?_erase_self] at hv
        simp at hv
      · rw [hothers l hl] at hv
        exact hl (hs.ordered.inLine.eq_of_working hhead hv)
  · have hnextTask := Work.task?_of_succeed hnext
    rw [hnext, goOn] at hs'
    subst hs'
    refine handover_of_eq (hcount.trans (Work.countResumed_of_not_resumes hw _ k)) ?_ rfl
      (lineTasks_of_serve (htask.trans hnextTask.symm) rfl rfl) fun hnil => ?_
    · refine attempting_of_others hothers fun v hv hv' => ⟨k, w, hcall, ?_⟩
      obtain rfl : next = v := by simpa [engage, work, Table.get?_set_self] using hv
      rwa [← hnextTask]
    · have hnone := hs.ordered.inLine.task?_eq_none hnil hcall
      exact (hdownload hnone).trans (s.download_hear k w true)

/-- The client has failed. -/
theorem Pursuit.handover_fail {w : Work} (hcall : s.calls.get? k = some (.working w))
    (hothers : ∀ l, l ≠ k → s'.calls.get? l = s.calls.get? l)
    (hs' : s' = depart
      (countFailure { s.hear k w false with slot := w.slotAfterFailure s.slot } w.task?) k) :
    Handover s s' := by
  have hhead := hs.ordered.inLine.head_of_working hcall
  have hleave : s.lineTasks = (s.taskOf? k).toList ++ s'.lineTasks :=
    lineTasks_of_leave_head hs.ordered.inLine hhead
      (by rw [hs', line_depart, countFailure_eq]; rfl)
      (by rw [hs', calls_depart, countFailure_eq]; rfl)
  rw [taskOf?_of_working hcall] at hleave
  have hattempting : s'.Attempting → s.Attempting := by
    refine attempting_of_others hothers fun v hv _ => ?_
    rw [hs', calls_depart, Table.get?_erase_self] at hv
    simp at hv
  have hdownload : s'.client.download = s.client.download := by
    rw [hs', depart_eq, countFailure_eq]
    exact s.download_hear k w false
  cases hw : w.task? with
  | none =>
    rw [hw] at hs' hleave
    have hjournal : s'.journal = s.journal ++ [.answered k w.call false] := by
      rw [hs', depart_eq]
      rfl
    refine handover_of_eq ?_ hattempting ?_ hleave.symm fun _ => hdownload
    · exact (resumedCount_append s _ hjournal).trans (Occurrence.countResumed_of_failed _ k w.call)
    · rw [hs', queue_depart]
      rfl
  | some u =>
    rw [hw] at hs' hleave
    have hjournal : s'.journal = s.journal ++ [.answered k w.call false,
        .failed u.id s.clock (s.queue.fail u.id s.retry s.clock).2] := by
      rw [hs', depart_eq]
      exact List.append_assoc _ _ _
    have hqueue : s'.queue = (s.queue.fail u.id s.retry s.clock).1 := by
      rw [hs', queue_depart]
      rfl
    refine .keep ?_ hattempting fun head h => ?_
    · exact (resumedCount_append s _ hjournal).trans (Occurrence.countResumed_of_failed _ k w.call)
    -- The failure of the only tick in line counts, so that its task does not run on.
    · exfalso
      obtain ⟨failures, hrunning⟩ := h.running
      have hisHead := h.isHead
      rw [h.noTick, List.append_nil] at hleave
      rcases s.queue.fail_cases u.id s.retry s.clock with ⟨hne, hfail⟩ | ⟨m, n, -, -, hfail⟩
      · rw [hqueue, hfail] at hisHead hrunning
        obtain rfl := hs.chased.eq_head hisHead hrunning hleave
        exact hne failures hrunning
      · rw [hqueue] at hrunning
        rcases hfail with ⟨-, hfail⟩ | ⟨-, hfail⟩ <;> simp [hfail] at hrunning

/-- What a step means for the download that the client keeps. -/
theorem Step.handover (hopen : s'.isShutDown = false) (h : Step k s s') : Handover s s' := by
  have hinLine := hs.ordered.inLine
  have hothers : ∀ l, l ≠ k → s'.calls.get? l = s.calls.get? l := fun l hl => h.others hl
  have gone {t : Scheduler} (ht : t.calls = s.calls.erase k) :
      ∀ w, t.calls.get? k = some (.working w) → w.task?.isSome = true → s.Attempting := by
    intro w hw
    rw [ht, Table.get?_erase_self] at hw
    simp at hw
  have waiting {t : Scheduler} {errand : Errand} (ht : t.calls = s.calls.set k (.waiting errand)) :
      ∀ w, t.calls.get? k = some (.working w) → w.task?.isSome = true → s.Attempting := by
    intro w hw
    rw [ht, Table.get?_set_self] at hw
    simp at hw
  cases h with
  | rest hcall =>
    exact handover_of_eq rfl (attempting_of_others hothers (gone rfl)) rfl
      (lineTasks_of_notMem (hinLine.notMem_of_fresh hcall) rfl
        fun l hl => Table.get?_erase_of_ne _ hl) fun _ => rfl
  | retire hcall =>
    rcases hs.ordered.headMatches.retire_cases with ⟨-, h⟩ | ⟨head, rest, hcons, h⟩
    · rw [h]
      exact handover_of_eq (resumedCount_append s [] rfl) id rfl
        (lineTasks_congr rfl fun _ _ => rfl) fun _ => rfl
    · rw [h]
      refine .keep (resumedCount_append s [.retired head.id] rfl) id fun _ halone => ?_
      obtain ⟨failures, hrunning⟩ := halone.running
      simp [record] at hrunning
  | @dispatch task hcall =>
    refine .keep (resumedCount_append s [.dispatched task.id s.clock] rfl)
      (attempting_of_others hothers (waiting rfl)) fun _ halone => ?_
    have hnil := halone.noTick
    rw [lineTasks_of_join (hinLine.notMem_of_fresh hcall) (.replay task) rfl rfl] at hnil
    simp [Errand.task?] at hnil
  | askRegular hcall =>
    refine handover_of_eq rfl (attempting_of_others hothers (waiting rfl)) rfl ?_ fun _ => rfl
    rw [lineTasks_of_join (hinLine.notMem_of_fresh hcall) .regular rfl rfl]
    exact List.append_nil _
  | askShutdown =>
    rw [callShutdown_eq] at hopen
    simp [stand, isShutDown] at hopen
  | refuse _ hclosed =>
    rw [depart_eq] at hopen
    exact absurd (hopen.symm.trans hclosed) (by simp)
  | @attempt task hcall =>
    refine .attempt (resumedCount_append s [.acquired k, .attempted task.id] rfl)
      (lineTasks_ne_nil hcall.2 (u := task) ?_)
    exact (taskOf?_of_working (Table.get?_set_self _ _ _)).trans (Work.task?_attempt _ _ _)
  | declineRegular hcall =>
    have hleave := lineTasks_of_leave_head hinLine hcall.2 (line_depart (s.record [.acquired k]) k)
      (calls_depart _ k)
    rw [taskOf?_of_waiting hcall.1] at hleave
    refine handover_of_eq ?_ (attempting_of_others hothers (gone (calls_depart _ k)))
      (queue_depart _ k) hleave.symm fun _ => ?_
    · exact resumedCount_append s [.acquired k] (by rw [depart_eq]; rfl)
    · rw [depart_eq]
      rfl
  | beginRegular hcall =>
    refine handover_of_eq (resumedCount_append s [.acquired k] rfl)
      (attempting_of_others hothers fun w hw hsome => ?_) rfl (lineTasks_of_serve (k := k) ?_ rfl rfl)
      fun _ => rfl
    · obtain rfl : _ = w := by simpa [engage, work, Table.get?_set_self] using hw
      split at hsome <;> simp [Work.task?] at hsome
    · rw [taskOf?_of_waiting hcall.1]
      split <;> rfl
  | declineShutdown hcall | beginShutdown hcall =>
    exact absurd (hs.noShutdown k _ hcall.1) (by simp [Call.isShutdown])
  | succeed hcall => exact hs.handover_succeed hcall hothers rfl
  | fail hcall => exact hs.handover_fail hcall hothers rfl

end Steps

/-- What a move means for the download that the client keeps, if nothing is reported to have caught
up. -/
theorem Move.handover {p : Terms} (hdrop : ¬ p.drop) (hreport : ¬ p.report) (hs : s.Pursuit)
    (hopen : s'.isShutDown = false) (h : Move p s s') : Handover s s' := by
  rcases h.step_or_beside hdrop hs.ordered.inLine with ⟨k, hstep⟩ | hbeside
  · exact hstep.handover hs hopen
  have hattempting : s'.Attempting → s.Attempting := by
    rintro ⟨l, w, hw, htask⟩
    exact ⟨l, w, hbeside.calls l _ hw rfl, htask⟩
  cases h with
  | step h => exact h.handover hs hopen
  | drop hp => exact absurd hp hdrop
  | complete _ _ hp | endDownload _ hp => exact absurd hp hreport
  | @enroll request =>
    obtain ⟨told, hjournal⟩ := s.journal_enroll (request.toTask s.acceptedCount s.checkpoints)
    refine .keep ((resumedCount_append s _ hjournal).trans (Occurrence.countResumed_told _ told))
      hattempting fun head halone => ?_
    have hisHead := halone.isHead
    obtain ⟨failures, hrunning⟩ := halone.running
    rw [queue_enroll] at hisHead hrunning
    have hphase : s.queue.phase = .running head.id failures := hrunning
    obtain ⟨old, hold, -⟩ := hs.ordered.headMatches head.id (by rw [hphase]; rfl)
    obtain rfl := Option.some.inj ((Queue.head?_push_of_some hold _).symm.trans hisHead)
    exact ⟨⟨hold, ⟨failures, hphase⟩, hbeside.lineTasks ▸ halone.noTick⟩, by rw [enroll_eq]⟩
  | discard h =>
    rw [cancel_of_some h] at hattempting hbeside ⊢
    exact handover_of_eq rfl hattempting rfl hbeside.lineTasks fun _ => rfl
  | create | own | listen | progress | inject | setHeight | wait | drivers =>
    exact handover_of_eq rfl hattempting rfl hbeside.lineTasks fun _ => rfl

/-! ### Which download the client keeps -/

/-- While an attempt is under way, no download has been resumed since it began. While a task runs and
no tick is in line, one has been resumed at least; the client keeps the download of the task only if
it is the only one. -/
structure Counted (s : Scheduler) : Prop extends Pursuit s where
  unresumed : s.Attempting → s.resumedCount = 0
  resumed : ∀ head, s.RunsAlone head → 1 ≤ s.resumedCount ∧
    (s.client.download = some (.replay head.id) ↔ s.resumedCount = 1)

namespace Counted

theorem handover (hs : s.Counted) (hs' : s'.Pursuit) (h : Handover s s') : s'.Counted := by
  cases h with
  | keep hcount hattempting hdownload =>
    refine ⟨hs', fun h => ?_, fun head h => ?_⟩
    · rw [hcount]
      exact hs.unresumed (hattempting h)
    · obtain ⟨halone, heq⟩ := hdownload head h
      rw [hcount, heq]
      exact hs.resumed head halone
  | attempt hcount hline => exact ⟨hs', fun _ => hcount, fun head h => absurd h.noTick hline⟩
  | @resume k w hcall hcount hdownload hqueue hline hidle =>
    refine ⟨hs', fun h => absurd h hidle, fun head h => ?_⟩
    rw [h.noTick, List.append_nil] at hline
    rw [hcount, hdownload, Work.download]
    cases hw : w.task? with
    -- The tick of the task was the only one in line.
    | some task =>
      have hzero := hs.unresumed ⟨k, w, hcall, by rw [hw]; rfl⟩
      obtain ⟨failures, hrunning⟩ := h.running
      rw [hqueue] at hrunning
      rw [hw] at hline
      obtain rfl := hs.chased.eq_head (hqueue ▸ h.isHead) hrunning hline
      simp [hzero]
    | none =>
      rw [hw] at hline
      have hone := (hs.resumed head ⟨hqueue ▸ h.isHead, hqueue ▸ h.running, hline⟩).1
      simp
      omega

theorem move {p : Terms} (hdrop : ¬ p.drop) (hreport : ¬ p.report) (hs : s.Counted)
    (hopen : s'.isShutDown = false) (h : Move p s s') : s'.Counted :=
  hs.handover (hs.toPursuit.move hdrop hopen h) (h.handover hdrop hreport hs.toPursuit hopen)

/-- A completion that is accepted leaves no task running. -/
theorem complete (hs : s.Pursuit) (hunresumed : s.Attempting → s.resumedCount = 0) {head : Task}
    (hhead : s.queue.head? = some head) (haccepts : s.queue.phase.acceptsCompletion head.id = true)
    (hopen : s.isShutDown = false) :
    (complete { s with queue := { s.queue with phase := .completing head.id } } head).Counted := by
  obtain ⟨told, hjournal⟩ :=
    journal_complete { s with queue := { s.queue with phase := .completing head.id } } head
  refine ⟨hs.move (p := noDrop) not_false ?_ (.complete hhead haccepts trivial), ?_, fun _ h => ?_⟩
  · rw [complete_eq]
    exact hopen
  · rw [resumedCount_append s _ hjournal]
    intro hattempting
    refine (Occurrence.countResumed_told _ told).trans (hunresumed ?_)
    rw [complete_eq] at hattempting
    exact hattempting
  · obtain ⟨failures, hrunning⟩ := h.running
    simp [queue_complete] at hrunning

/-- A report that a task has caught up that runs alone is accepted; one about another task changes
nothing. -/
theorem notified (hs : s.Pursuit) (hunresumed : s.Attempting → s.resumedCount = 0) {id : TaskId}
    (hresumed : ∀ head, s.RunsAlone head → head.id ≠ id → 1 ≤ s.resumedCount ∧
      (s.client.download = some (.replay head.id) ↔ s.resumedCount = 1))
    (hopen : s.isShutDown = false) : (s.notifyCompleted id).1.Counted := by
  rcases s.notifyCompleted_cases id with h | ⟨head, hhead, rfl, haccepts, h⟩
  · rw [h]
    refine ⟨hs, hunresumed, fun head halone => hresumed head halone fun heq => ?_⟩
    have haccepted := notifyCompleted_of_accepts halone.isHead halone.acceptsCompletion
    simp [heq, h] at haccepted
  · rw [h]
    exact complete hs hunresumed hhead haccepts hopen

theorem finish (hs : s.Counted) (hopen : s.isShutDown = false) : s.finishDownload.1.Counted := by
  unfold finishDownload
  split
  · exact hs
  · rename_i download hdownload
    let cleared := clearPercents { s with client := { s.client with download := none } }
    have hpursuit : cleared.Pursuit :=
      hs.toPursuit.move (p := noDrop) not_false hopen (.endDownload hdownload trivial)
    -- If the task that runs had the download, it is completed now.
    have hresumed : ∀ head, cleared.RunsAlone head → download ≠ .replay head.id →
        1 ≤ cleared.resumedCount ∧
          (cleared.client.download = some (.replay head.id) ↔ cleared.resumedCount = 1) := by
      intro head h hne
      obtain ⟨hone, hiff⟩ := hs.resumed head ⟨h.isHead, h.running, h.noTick⟩
      rw [hdownload] at hiff
      exact ⟨hone, by simpa [cleared, clearPercents] using fun h => hne (by simpa using hiff.mpr h)⟩
    cases download with
    | regular => exact ⟨hpursuit, hs.unresumed, fun head h => hresumed head h (by simp)⟩
    | replay task =>
      exact notified hpursuit hs.unresumed (fun head h hne => hresumed head h (by simpa using hne.symm))
        hopen

/-- The terms under which no call is given up midway and nothing is reported to have caught up. -/
def noDropReport : Terms where
  drop := False
  report := False

theorem act (hs : s.Counted) (hticks : s.TicksDriven) {a : Action} (hkept : ¬ s.GivesUp a)
    (hopen : (s.act a).1.isShutDown = false) : (s.act a).1.Counted := by
  have within (h : Within noDropReport s a) : (s.act a).1.Counted :=
    moves_invariant_of_open (fun hs hopen h => hs.move (p := noDropReport) not_false not_false hopen h)
      hs (act_moves hticks h) hopen
  have hopen₀ := isShutDown_eq_false_of_moves (act_moves hticks (within_default s a)) hopen
  cases a with
  | notify id => exact notified hs.toPursuit hs.unresumed (fun head h _ => hs.resumed head h) hopen₀
  | finish => exact hs.finish hopen₀
  | create name kind | cancel name => exact within hkept
  | own | listen | offer | poll | spawn | drive | inject | progress | setHeight | wait =>
    exact within trivial

theorem run (hs : s.Counted) (hticks : s.TicksDriven) {actions : List Action}
    (hkept : Along (fun s a => ¬ s.GivesUp a) s actions)
    (hopen : (s.run actions).isShutDown = false) : (s.run actions).Counted := by
  induction actions generalizing s with
  | nil => exact hs
  | cons a actions ih =>
    have hopen' := isShutDown_eq_false_of_moves (moves_run (hticks.act a) actions) hopen
    exact ih (hs.act hticks hkept.1 hopen') (hticks.act a) hkept.2 hopen

end Counted

theorem counted_fresh (checkpoints : Checkpoints) (retry : RetryPolicy) (interval : Nat)
    (synced : Option Height) : (fresh checkpoints retry interval synced).Counted where
  toPursuit := pursuit_fresh checkpoints retry interval synced
  unresumed _ := by cases synced <;> rfl
  resumed head h := by
    obtain ⟨failures, hrunning⟩ := h.running
    cases synced <;> simp [fresh, start, startSynced] at hrunning

/-! ### Tasks that nothing completes -/

/-- A task runs, no tick is in line, and the client does not keep the download of the task. -/
structure Stranded (t : TaskId) (failures : Nat) (s : Scheduler) : Prop where
  inLine : s.InLine
  headMatches : s.queue.HeadMatches
  running : s.queue.phase = .running t failures
  noTick : s.lineTasks = []
  download : s.client.download ≠ some (.replay t)

namespace Stranded

variable {t : TaskId} {failures : Nat}

/-- Calls leave the queue alone, and leave no download but the one there was or a regular one. -/
theorem step_queue (hs : Stranded t failures s) (h : Step k s s') :
    s'.queue = s.queue ∧ s'.client.download ≠ some (.replay t) := by
  cases h with
  | rest | askRegular | beginRegular | beginShutdown => exact ⟨rfl, hs.download⟩
  | askShutdown =>
    rw [callShutdown_eq]
    exact ⟨rfl, hs.download⟩
  | retire =>
    rcases hs.headMatches.retire_cases with ⟨-, h⟩ | ⟨head, rest, hcons, -⟩
    · rw [h]
      exact ⟨rfl, hs.download⟩
    · have hrunning := hs.running
      simp [hcons] at hrunning
  | dispatch _ _ h =>
    rcases s.queue.dispatch_cases s.clock with hd | ⟨head, n, -, -, ⟨hphase, -⟩ | ⟨retryAt, hphase, -⟩⟩
    · simp [hd] at h
    all_goals
      rw [hs.running] at hphase
      simp at hphase
  | refuse hcall | attempt hcall =>
    obtain ⟨rest, hfirst⟩ := hcall.lineTasks_eq_cons
    rw [hs.noTick] at hfirst
    simp at hfirst
  | declineRegular | declineShutdown =>
    rw [depart_eq]
    exact ⟨rfl, hs.download⟩
  | @succeed w hcall =>
    have hnone := hs.inLine.task?_eq_none hs.noTick hcall
    have hheard : (s.hear k w true).client.download ≠ some (.replay t) :=
      s.download_hear k w true ▸ hs.download
    cases w with
    | replay task floor stage => simp [Work.task?] at hnone
    | starting network => exact ⟨rfl, hheard⟩
    | stopping stack => exact ⟨rfl, by simp [goOn, engage, work, Work.succeed, Client.enter]⟩
    | resuming network =>
      simp only [Work.succeed, goOn]
      rw [depart_eq]
      exact ⟨rfl, by simp⟩
    | closing stack =>
      simp only [Work.succeed, goOn]
      rw [depart_eq]
      exact ⟨rfl, hheard⟩
  | @fail w hcall =>
    rw [hs.inLine.task?_eq_none hs.noTick hcall, depart_eq]
    exact ⟨rfl, s.download_hear k w false ▸ hs.download⟩

theorem noTick_course (hs : Stranded t failures s) (h : Course s s') : s'.lineTasks = [] := by
  have hnil := hs.noTick
  cases h with
  | aside _ _ _ _ hline =>
    rw [hnil] at hline
    exact List.sublist_nil.mp hline
  | accept _ _ _ _ _ hline | retire _ _ _ _ hline | complete _ _ _ _ _ _ hline =>
    rw [hline]
    exact hnil
  | dispatch _ _ _ hready =>
    rcases hready with hphase | ⟨retryAt, hphase⟩ <;> simp [hs.running] at hphase
  | attempt _ _ _ hfirst => simp [hnil] at hfirst

/-- No move but a report that a download has caught up could end that. -/
theorem move {p : Terms} (hreport : ¬ p.report) (hs : Stranded t failures s) (h : Move p s s') :
    Stranded t failures s' := by
  have hc := h.course hs.inLine hs.headMatches
  refine ⟨hs.inLine.move h, hc.headMatches hs.headMatches, ?_, hs.noTick_course hc, ?_⟩
  · cases h with
    | step h =>
      rw [(hs.step_queue h).1]
      exact hs.running
    | complete _ _ hp | endDownload _ hp => exact absurd hp hreport
    | enroll =>
      rw [queue_enroll]
      exact hs.running
    | discard h | drop _ h =>
      rw [cancel_of_some h]
      exact hs.running
    | create | own | listen | progress | inject | setHeight | wait | drivers => exact hs.running
  · cases h with
    | step h => exact (hs.step_queue h).2
    | complete _ _ hp | endDownload _ hp => exact absurd hp hreport
    | enroll =>
      rw [enroll_eq]
      exact hs.download
    | @discard k kind h =>
      rw [cancel_of_some h]
      exact hs.download
    | @drop k c _ h =>
      rw [cancel_of_some h]
      cases c <;> exact hs.download
    | create | own | listen | progress | inject | setHeight | wait | drivers => exact hs.download

/-- A report about another task is ignored. -/
theorem notify (hs : Stranded t failures s) {id : TaskId} (hid : id ≠ t) :
    s.notifyCompleted id = (s, false) := by
  rcases s.notifyCompleted_cases id with h | ⟨head, -, rfl, haccepts, -⟩
  · exact h
  · simp [hs.running, Phase.acceptsCompletion] at haccepts
    exact absurd haccepts.symm hid

/-- Whatever download catches up, it is not that of the task. -/
theorem finish (hs : Stranded t failures s) : Stranded t failures s.finishDownload.1 := by
  unfold finishDownload
  split
  · exact hs
  · rename_i download hdownload
    let cleared := clearPercents { s with client := { s.client with download := none } }
    have hcleared : Stranded t failures cleared :=
      ⟨hs.inLine.congr rfl rfl, hs.headMatches, hs.running, hs.noTick, by simp [cleared, clearPercents]⟩
    cases download with
    | regular => exact hcleared
    | replay task =>
      have hne : task ≠ t := fun h => hs.download (h ▸ hdownload)
      change Stranded t failures (cleared.notifyCompleted task).1
      rw [hcleared.notify hne]
      exact hcleared

/-- The terms under which nothing is reported to have caught up. -/
def noReport : Terms where
  report := False

/-- A task whose download was displaced runs on until its completion is reported by hand. -/
theorem act (hs : Stranded t failures s) (hticks : s.TicksDriven) {a : Action} (ha : a ≠ .notify t) :
    Stranded t failures (s.act a).1 := by
  have within (h : Within noReport s a) : Stranded t failures (s.act a).1 :=
    moves_invariant (fun hs h => hs.move (p := noReport) not_false h) hs (act_moves hticks h)
  cases a with
  | notify id =>
    have hid : id ≠ t := fun h => ha (h ▸ rfl)
    rw [show (s.act (.notify id)).1 = (s.notifyCompleted id).1 from rfl, hs.notify hid]
    exact hs
  | finish => exact hs.finish
  | create name kind | cancel name => exact within fun _ => trivial
  | own | listen | offer | poll | spawn | drive | inject | progress | setHeight | wait =>
    exact within trivial

theorem run (hs : Stranded t failures s) (hticks : s.TicksDriven) {actions : List Action}
    (hactions : ∀ a ∈ actions, a ≠ .notify t) : Stranded t failures (s.run actions) := by
  induction actions generalizing s with
  | nil => exact hs
  | cons a actions ih =>
    exact ih (hs.act hticks (hactions a (by simp))) (hticks.act a)
      fun b hb => hactions b (List.mem_cons_of_mem a hb)

end Stranded

/-! ### Runs -/

/-- **What completes a replay.** Take a run that gives up no call midway and calls no shutdown,
after which the task `t` runs and no call is in progress. Then `t` is at the head, and a download
was resumed since the last attempt began. If it is the only one, `t` is completed once it has caught
up. If more were resumed, `t` runs until its completion is reported by hand. -/
theorem run_completes (checkpoints : Checkpoints) (retry : RetryPolicy) (interval : Nat)
    (synced : Option Height) {actions : List Action}
    (hkept : Along (fun s a => ¬ s.GivesUp a) (fresh checkpoints retry interval synced) actions)
    (hopen : ((fresh checkpoints retry interval synced).run actions).isShutDown = false)
    (hquiet : ∀ k c, ((fresh checkpoints retry interval synced).run actions).calls.get? k = some c →
      c.isBegun = false)
    {t : TaskId} {failures : Nat}
    (hphase : ((fresh checkpoints retry interval synced).run actions).queue.phase =
      .running t failures) :
    let s := (fresh checkpoints retry interval synced).run actions
    let s' := (s.act .finish).1
    ∃ task, s.queue.head? = some task ∧ task.id = t ∧ 1 ≤ s.resumedCount ∧
      (s.resumedCount = 1 → s.client.download = some (.replay t) ∧
        (∃ told, s'.journal = s.journal ++ .completed t :: told) ∧ s'.queue.phase = .retiring t ∧
        ∀ w ∈ task.wallets, (s'.roster.ledger.get w).busy = false) ∧
      (s.resumedCount ≠ 1 → s.client.download ≠ some (.replay t) ∧
        ∀ more : List Action, (∀ a ∈ more, a ≠ .notify t) →
          (s.run more).queue.phase = .running t failures) := by
  intro s s'
  have hticks₀ := ticksDriven_fresh checkpoints retry interval synced
  have hticks : s.TicksDriven := hticks₀.run actions
  have hs : s.Counted := (counted_fresh checkpoints retry interval synced).run hticks₀ hkept hopen
  have hparted := (parted_fresh checkpoints retry interval synced).run hticks₀ actions
  have hnil : s.lineTasks = [] := lineTasks_of_quiet hs.ordered.inLine hquiet
  obtain ⟨task, hhead, rfl⟩ := hs.ordered.headMatches t (by rw [hphase]; rfl)
  have halone : s.RunsAlone task := ⟨hhead, ⟨failures, hphase⟩, hnil⟩
  obtain ⟨hone, hiff⟩ := hs.resumed task halone
  refine ⟨task, hhead, rfl, hone, fun hcount => ?_, fun hcount => ?_⟩
  · have hdownload := hiff.mpr hcount
    let cleared := clearPercents { s with client := { s.client with download := none } }
    have hs' : s' = complete { cleared with
        queue := { cleared.queue with phase := .completing task.id } } task := by
      have hfinish : s' = (cleared.notifyCompleted task.id).1 := by
        simp only [s', act, finishDownload, hdownload]
        rfl
      rw [hfinish, notifyCompleted_of_accepts (s := cleared) hhead halone.acceptsCompletion]
    obtain ⟨told, hjournal⟩ := journal_complete { cleared with
      queue := { cleared.queue with phase := .completing task.id } } task
    rw [hs']
    refine ⟨hdownload, ⟨_, hjournal⟩, by rw [queue_complete rfl], fun w hw => ?_⟩
    have hcleared := hparted.move (p := noMaking) noMaking_own (.endDownload hdownload trivial)
    exact hcleared.busy_complete hhead halone.acceptsCompletion hw
  · have hdownload := fun h => hcount (hiff.mp h)
    have hstranded : Stranded task.id failures s :=
      ⟨hs.ordered.inLine, hs.ordered.headMatches, hphase, hnil, hdownload⟩
    exact ⟨hdownload, fun more hmore => (hstranded.run hticks hmore).running⟩

/-- A wallet is offered, a tick is polled until it is over, and the download catches up: the task
retires, and the wallet is not busy. -/
theorem run_completes_of_tick :
    let actions : List Action := [.own (.make "savings" "w1" {}), .offer ["savings"] .genesis,
      .create "tick" .tick, .poll "tick", .poll "tick", .poll "tick", .poll "tick", .poll "tick",
      .poll "tick"]
    let s := (fresh .empty {} 200 none).run actions
    let s' := (s.act .finish).1
    Along (fun s a => ¬ s.GivesUp a) (fresh .empty {} 200 none) actions ∧ s.isShutDown = false ∧
      (∀ k c, s.calls.get? k = some c → c.isBegun = false) ∧ s.queue.phase = .running 0 0 ∧
      s'.queue.phase = .retiring 0 ∧ (s'.roster.ledger.get ⟨0, "w1"⟩).busy = false := by
  intro actions s s'
  have hkept : Along (fun s a => ¬ s.GivesUp a) (fresh .empty {} 200 none) actions := by
    have hnone : ((fresh .empty {} 200 none).run (actions.take 2)).calls.get? (.named "tick") =
        none := by decide
    refine ⟨id, id, ?_, id, id, id, id, id, id, trivial⟩
    rintro ⟨c, hc, -⟩
    exact absurd (hnone.symm.trans hc) (by simp)
  have hopen : s.isShutDown = false := by decide
  have hquiet : ∀ k c, s.calls.get? k = some c → c.isBegun = false := by
    have hentries : s.calls.entries = [] := by decide
    intro k c hc
    simp [Table.get?, hentries] at hc
  have hphase : s.queue.phase = .running 0 0 := by decide
  have hcount : s.resumedCount = 1 := by decide
  have hhead : s.queue.head? = some ⟨0, [⟨0, "w1"⟩], .genesis, .genesis⟩ := by decide
  obtain ⟨task, htask, -, -, hcompletes, -⟩ :=
    run_completes .empty {} 200 none hkept hopen hquiet hphase
  obtain rfl := Option.some.inj (hhead.symm.trans htask)
  obtain ⟨-, -, hretiring, hbusy⟩ := hcompletes hcount
  exact ⟨hkept, hopen, hquiet, hphase, hretiring, hbusy _ (by simp)⟩

/-- After the tick of a task is over, a regular download is resumed. No call is in progress and the
task runs, but when the download has caught up the task runs on, and its wallet stays busy. -/
theorem running_of_displaced :
    let s := (fresh .empty {} 200 none).run [.own (.make "savings" "w1" {}),
      .offer ["savings"] .genesis, .create "tick" .tick, .poll "tick", .poll "tick", .poll "tick",
      .poll "tick", .poll "tick", .poll "tick", .create "download" .regular, .poll "download",
      .poll "download"]
    let s' := (s.act .finish).1
    s.queue.phase = .running 0 0 ∧ s.calls.entries = [] ∧ s.isShutDown = false ∧
      s.client.download = some .regular ∧ s'.queue.phase = .running 0 0 ∧
      (s'.roster.ledger.get ⟨0, "w1"⟩).busy = true := by
  decide +kernel

end Scheduler

end WalletReplay
