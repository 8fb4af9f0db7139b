import WalletReplay.Proofs.Scheduler.Completion
import WalletReplay.Proofs.Scheduler.Labels

/-!
# Reports of completion

That a task has caught up is reported by the listener of a download, or by hand; the report may be
about any task, and may come late or more than once. It is heeded if the task is the head and was
dispatched, so that the head runs, backs off or has stalled. Then the wallets of the task are
released and the head retires. A report that is not heeded changes nothing at all.

A task is in the journal as completed once for each report about it that was heeded. A head that is
dispatched has not completed, so there is at most one, between the first dispatch of the task and
its retirement.

## What is proved

* `heeds_iff` — which reports are heeded.
* `Parted.notify_of_heeds`, `notify_of_not_heeds` — what a report makes of the scheduler.
* `Ordered.completedTasks_run` — the tasks that have completed are those of the reports heeded.
* `Reported.move` — moves keep it that reports are heeded once, and in time.
* `run_reports` — all this after any run.
-/

namespace WalletReplay

/-- Whether a task is dispatched and has not completed: it runs, backs off or has stalled. -/
def Phase.isUnderWay : Phase → Bool
  | running _ _ | backoff _ _ _ | stalled _ _ => true
  | idle | completing _ | retiring _ => false

/-- Whether a report that a task has caught up is heeded: the task is the head, and is under way. -/
def Queue.heeds (q : Queue) (id : TaskId) : Bool :=
  q.head?.any (·.id = id) && q.phase.isUnderWay

theorem Queue.heeds_iff (q : Queue) (id : TaskId) : q.heeds id = true ↔
    (∃ head, q.head? = some head ∧ head.id = id) ∧ q.phase.isUnderWay = true := by
  rw [heeds, Bool.and_eq_true, Option.any_eq_true]
  simp

/-- The head is under way if its completion can be accepted. -/
theorem Queue.HeadMatches.isUnderWay_iff {q : Queue} (hq : q.HeadMatches) {head : Task}
    (hhead : q.head? = some head) :
    q.phase.isUnderWay = true ↔ q.phase.acceptsCompletion head.id = true := by
  have hid : ∀ id, q.phase.task? = some id → id = head.id := by
    intro id h
    obtain ⟨head', hhead', rfl⟩ := hq id h
    rw [Option.some.inj (hhead.symm.trans hhead')]
  cases hphase : q.phase with
  | idle | completing id | retiring id => simp [Phase.isUnderWay, Phase.acceptsCompletion]
  | running id n | backoff id n t | stalled id n =>
    have := hid id (by rw [hphase]; rfl)
    simp [Phase.isUnderWay, Phase.acceptsCompletion, this]

/-- The task that is completed. -/
def Occurrence.completed? : Occurrence → Option TaskId
  | completed task => some task
  | _ => none

theorem Occurrence.completed?_of_isAside {o : Occurrence} (h : o.isAside = true) :
    o.completed? = none := by
  cases o <;> trivial

theorem Occurrence.eq_completed {o : Occurrence} {id : TaskId} (h : o.completed? = some id) :
    o = .completed id := by
  cases o <;> simp_all [completed?]

/-- What must hold when the completion of a task is accepted: the task was dispatched, and has
neither completed nor retired. -/
def Occurrence.IsTimely (past : List Occurrence) : Occurrence → Prop
  | completed task =>
    (∃ now, dispatched task now ∈ past) ∧ completed task ∉ past ∧ retired task ∉ past
  | _ => True

namespace Scheduler

variable {s s' : Scheduler} {k : Caller} {p : Terms} {ws : List Wallet} {id : TaskId}

/-! ### Single reports -/

/-- A report that is not heeded changes nothing. -/
theorem notify_of_not_heeds (hq : s.queue.HeadMatches) (h : s.queue.heeds id = false) :
    s.act (.notify id) = (s, .flag false) := by
  rcases s.notifyCompleted_cases id with hn | ⟨head, hhead, rfl, haccepts, -⟩
  · simp [act, hn]
  · have hheeds : s.queue.heeds head.id = true := by
      rw [Queue.heeds_iff]
      exact ⟨⟨head, hhead, rfl⟩, (hq.isUnderWay_iff hhead).mpr haccepts⟩
    rw [h] at hheeds
    exact absurd hheeds Bool.false_ne_true

/-- What a report that is heeded makes of the scheduler: the head retires, its wallets are released,
and the busy listeners and a driver may be told. -/
theorem notifyCompleted_of_heeds (hq : s.queue.HeadMatches) (h : s.queue.heeds id = true) :
    ∃ head, s.queue.head? = some head ∧ head.id = id ∧
      s.queue.phase.acceptsCompletion head.id = true ∧ s.notifyCompleted id =
        (complete { s with queue := { s.queue with phase := .completing head.id } } head, true) := by
  obtain ⟨⟨head, hhead, rfl⟩, hphase⟩ := (s.queue.heeds_iff id).mp h
  have haccepts := (hq.isUnderWay_iff hhead).mp hphase
  exact ⟨head, hhead, rfl, haccepts, notifyCompleted_of_accepts hhead haccepts⟩

theorem completed_notifyCompleted (hq : s.queue.HeadMatches) (id : TaskId) :
    (s.notifyCompleted id).2 = s.queue.heeds id := by
  cases h : s.queue.heeds id with
  | true =>
    obtain ⟨head, -, -, -, hn⟩ := notifyCompleted_of_heeds hq h
    rw [hn]
  | false =>
    have hact := congrArg Prod.snd (notify_of_not_heeds hq h)
    simpa [act] using hact

/-- A report that is heeded releases the wallets of the head and leaves all others alone. -/
theorem Parted.notify_of_heeds (hs : Parted ws s) (h : s.queue.heeds id = true) :
    ∃ head, s.queue.head? = some head ∧ head.id = id ∧
      (s.act (.notify id)).1.queue = ⟨s.queue.tasks, .retiring id⟩ ∧ (∀ w ∈ head.wallets, w ∈ ws) ∧
      ∀ w ∈ ws, (s.act (.notify id)).1.roster.ledger.get w =
        if w ∈ head.wallets then (s.roster.ledger.get w).release else s.roster.ledger.get w := by
  obtain ⟨head, hhead, rfl, haccepts, hn⟩ := notifyCompleted_of_heeds hs.headMatches h
  have hmade : ∀ w ∈ head.wallets, w ∈ ws := by
    intro w hw
    exact hs.mem_of_claiming (Queue.mem_claiming_of_accepts hhead haccepts) hw
  have hqueue : (s.act (.notify head.id)).1.queue = ⟨s.queue.tasks, .retiring head.id⟩ := by
    simp only [Scheduler.act, hn]
    rw [queue_complete rfl]
  have hledger : (s.act (.notify head.id)).1.roster.ledger =
      s.roster.ledger.modifyAll head.wallets SyncState.release := by
    simp only [Scheduler.act, hn]
    rw [complete_eq]
    rfl
  refine ⟨head, hhead, rfl, hqueue, hmade, ?_⟩
  intro w hw
  rw [hledger]
  by_cases hmem : w ∈ head.wallets
  · rw [if_pos hmem]
    exact hs.known.get_modifyAll_of_mem hmade hmem SyncState.release_release
  · rw [if_neg hmem]
    exact hs.known.get_modifyAll_of_notMem hmade hw hmem _

/-! ### The reports of a run -/

/-- The tasks that have completed, in order, each once for every report about it that was heeded. -/
def completedTasks (s : Scheduler) : List TaskId :=
  s.journal.filterMap Occurrence.completed?

/-- The task that an action completes, if it reports that a task has caught up and is heeded. -/
def completedBy? (s : Scheduler) : Action → Option TaskId
  | .notify id => if s.queue.heeds id then some id else none
  | .finish =>
    match s.client.download with
    | some (.replay id) => if s.queue.heeds id then some id else none
    | some .regular | none => none
  | _ => none

/-- The tasks that the reports among some actions complete, in order. -/
def reportedTasks : Scheduler → List Action → List TaskId
  | _, [] => []
  | s, a :: actions => (s.completedBy? a).toList ++ (s.act a).1.reportedTasks actions

theorem completedTasks_of_journal (news : List Occurrence) (hjournal : s'.journal = s.journal ++ news)
    (hnews : news.filterMap Occurrence.completed? = []) : s'.completedTasks = s.completedTasks := by
  rw [completedTasks, hjournal, List.filterMap_append, hnews, List.append_nil]
  rfl

/-- A step completes no task. -/
theorem Step.completedTasks_eq (h : Step k s s') : s'.completedTasks = s.completedTasks := by
  cases h with
  | rest | askRegular => rfl
  | retire =>
    refine completedTasks_of_journal (retirement s.queue.retire.2) rfl ?_
    cases s.queue.retire.2 <;> rfl
  | dispatch => exact completedTasks_of_journal [.dispatched _ _] rfl rfl
  | askShutdown =>
    rw [callShutdown_eq]
    rfl
  | refuse | declineRegular | declineShutdown =>
    rw [depart_eq]
    exact completedTasks_of_journal [.acquired k] rfl rfl
  | attempt => exact completedTasks_of_journal [.acquired k, .attempted _] rfl rfl
  | beginRegular | beginShutdown => exact completedTasks_of_journal [.acquired k] rfl rfl
  | @succeed w =>
    rw [goOn_eq]
    exact completedTasks_of_journal [.answered k w.call true] rfl rfl
  | @fail w =>
    rw [depart_eq]
    cases w.task? with
    | none => exact completedTasks_of_journal [.answered k w.call false] rfl rfl
    | some task =>
      exact completedTasks_of_journal [.answered k w.call false, .failed task.id s.clock _]
        (List.append_assoc _ _ _) rfl

/-- Only reports complete tasks. -/
theorem Move.completedTasks_eq (hp : ¬ p.report) (h : Move p s s') :
    s'.completedTasks = s.completedTasks := by
  cases h with
  | step h => exact h.completedTasks_eq
  | complete _ _ hreport => exact absurd hreport hp
  | discard h | drop _ h =>
    rw [cancel_of_some h]
    rfl
  | enroll =>
    obtain ⟨told, hjournal⟩ := journal_enroll s _
    refine completedTasks_of_journal _ hjournal ?_
    exact Occurrence.filterMap_cons_asides Occurrence.completed?_of_isAside isAside_of_told _
  | create | own | listen | progress | endDownload | inject | setHeight | wait | drivers => rfl

theorem completedTasks_notifyCompleted (hq : s.queue.HeadMatches) (id : TaskId) :
    (s.notifyCompleted id).1.completedTasks =
      s.completedTasks ++ (if s.queue.heeds id then some id else none).toList := by
  cases h : s.queue.heeds id with
  | false =>
    have hact := congrArg (fun r => r.1.completedTasks) (notify_of_not_heeds hq h)
    simpa [act] using hact
  | true =>
    obtain ⟨head, -, rfl, -, hn⟩ := notifyCompleted_of_heeds hq h
    obtain ⟨told, hjournal⟩ :=
      journal_complete { s with queue := { s.queue with phase := .completing head.id } } head
    rw [hn, completedTasks, hjournal, List.filterMap_append,
      Occurrence.filterMap_cons_asides Occurrence.completed?_of_isAside isAside_of_told]
    rfl

/-- An action completes the task that it reports, if it is heeded, and no other. -/
theorem completedTasks_act (hq : s.queue.HeadMatches) (hticks : s.TicksDriven) (a : Action) :
    (s.act a).1.completedTasks = s.completedTasks ++ (s.completedBy? a).toList := by
  have within (h : Within Stranded.noReport s a) :
      (s.act a).1.completedTasks = s.completedTasks := by
    refine moves_invariant (I := fun t => t.completedTasks = s.completedTasks) ?_ rfl
      (act_moves hticks h)
    intro t u ht hmove
    rw [hmove.completedTasks_eq not_false, ht]
  cases a with
  | notify id => exact completedTasks_notifyCompleted hq id
  | finish =>
    simp only [act, finishDownload, completedBy?]
    cases s.client.download with
    | none => simp
    | some download =>
      cases download with
      | regular => simp [clearPercents, completedTasks]
      | replay task =>
        exact completedTasks_notifyCompleted
          (s := clearPercents { s with client := { s.client with download := none } }) hq task
  | create name kind | cancel name => simpa [completedBy?] using within fun _ => trivial
  | own | listen | offer | poll | spawn | drive | inject | progress | setHeight | wait =>
    simpa [completedBy?] using within trivial

/-- The tasks that have completed are those about which reports were heeded. -/
theorem Ordered.completedTasks_run (hs : s.Ordered) (hticks : s.TicksDriven)
    (actions : List Action) :
    (s.run actions).completedTasks = s.completedTasks ++ s.reportedTasks actions := by
  induction actions generalizing s with
  | nil => simp [reportedTasks]
  | cons a actions ih =>
    rw [run_cons, ih (hs.act hticks a).ordered (hticks.act a),
      completedTasks_act hs.headMatches hticks a, List.append_assoc]
    rfl

/-! ### Once, and in time -/

theorem isTimely_of_isAside {past : List Occurrence} {o : Occurrence} (h : o.isAside = true) :
    o.IsTimely past := by
  cases o <;> trivial

/-- Whenever the completion of a task was accepted, the task had been dispatched, and had neither
completed nor retired. -/
structure Reported (s : Scheduler) : Prop extends Followed s where
  timely : Throughout (fun past o => o.IsTimely past) s.journal

namespace Reported

/-- A head that accepts its completion was dispatched, and has neither completed nor retired. -/
theorem isTimely (hs : s.Reported) {head : Task} (hhead : s.queue.head? = some head)
    (haccepts : s.queue.phase.acceptsCompletion head.id = true) :
    (Occurrence.completed head.id).IsTimely s.journal := by
  have htask : s.queue.phase.task? = some head.id := by
    rcases (Phase.acceptsCompletion_iff _ _).mp haccepts with ⟨n, h⟩ | ⟨n, t, h⟩ | ⟨n, h⟩ <;>
      rw [h] <;> rfl
  refine ⟨hs.dispatched _ htask, ?_, ?_⟩
  · exact hs.incomplete head (Queue.mem_claiming_of_accepts hhead haccepts)
  · intro hretired
    have hmem : head.id ∈ s.retiredTasks := List.mem_filterMap.mpr ⟨_, hretired, rfl⟩
    rw [hs.mem_retiredTasks_iff, hs.head_id hhead] at hmem
    exact absurd hmem (Nat.lt_irrefl _)

theorem timely_course (hs : s.Reported) (h : Course s s') :
    Throughout (fun past o => o.IsTimely past) s'.journal := by
  have hold := hs.timely
  cases h with
  | aside hnews hjournal =>
    rw [hjournal]
    apply hold.append
    intro o ho past
    exact isTimely_of_isAside (hnews o ho)
  | accept hnews _ hjournal =>
    rw [hjournal]
    apply hold.append
    intro o ho past
    rcases List.mem_cons.mp ho with rfl | ho
    · trivial
    · exact isTimely_of_isAside (hnews o ho)
  | retire hjournal | dispatch hjournal | attempt hjournal =>
    rw [hjournal]
    apply hold.append
    intro o ho past
    cases o <;> simp_all [Occurrence.IsTimely]
  | @complete head news hnews hjournal _ hhead haccepts =>
    rw [hjournal, List.append_cons]
    apply (hold.concat (hs.isTimely hhead haccepts)).append
    intro o ho past
    exact isTimely_of_isAside (hnews o ho)

/-- **Moves keep it that reports are heeded once, and in time.** -/
theorem move (hs : s.Reported) (h : Move p s s') : s'.Reported where
  toFollowed := hs.toFollowed.move h
  timely := hs.timely_course (h.course hs.inLine hs.headMatches)

/-- No task has completed twice. -/
theorem nodup_completedTasks (hs : s.Reported) : s.completedTasks.Nodup := by
  have htimely := hs.timely
  rw [completedTasks]
  generalize s.journal = journal at htimely
  induction journal using List.reverseRecOn with
  | nil => exact List.nodup_nil
  | append_singleton journal o ih =>
    have hpast : Throughout (fun past o => o.IsTimely past) journal := by
      intro past u rest heq
      exact htimely past u (rest ++ [o]) (by rw [heq]; simp)
    have ho : o.IsTimely journal := htimely journal o [] rfl
    rw [List.filterMap_append, List.nodup_append]
    refine ⟨ih hpast, ?_, ?_⟩
    · cases h : o.completed? <;> simp [h]
    · intro id hid id' hid' heq
      obtain ⟨u, hu, hcompleted⟩ := List.mem_filterMap.mp hid
      obtain ⟨v, hv, hcompleted'⟩ := List.mem_filterMap.mp hid'
      obtain rfl := List.mem_singleton.mp hv
      obtain rfl := Occurrence.eq_completed hcompleted
      obtain rfl := Occurrence.eq_completed hcompleted'
      exact ho.2.1 (heq ▸ hu)

end Reported

theorem reported_fresh (checkpoints : Checkpoints) (retry : RetryPolicy) (interval : Nat)
    (synced : Option Height) : (fresh checkpoints retry interval synced).Reported := by
  have hfollowed := followed_fresh checkpoints retry interval synced
  cases synced <;> exact ⟨hfollowed, Throughout.nil⟩

/-! ### Runs -/

/-- **Reports are heeded once, and otherwise change nothing.** After any run, a report that a task
has caught up is heeded if and only if the task is the head and runs, backs off or has stalled. Then
it retires and its wallets are released; otherwise everything stays as it is. The tasks that have
completed are those whose reports were heeded, each once, after it was dispatched and before it
retired. -/
theorem run_reports (checkpoints : Checkpoints) (retry : RetryPolicy) (interval : Nat)
    (synced : Option Height) (actions : List Action) :
    let s₀ := fresh checkpoints retry interval synced
    let s := s₀.run actions
    let made := s₀.madeWallets actions
    (∀ id,
      let s' := (s.act (.notify id)).1
      ((s.act (.notify id)).2 = .flag true ↔
          (∃ head, s.queue.head? = some head ∧ head.id = id) ∧ s.queue.phase.isUnderWay = true) ∧
        ((s.act (.notify id)).2 = .flag true → ∃ head, s.queue.head? = some head ∧ head.id = id ∧
          s'.queue = ⟨s.queue.tasks, .retiring id⟩ ∧ (∀ w ∈ head.wallets, w ∈ made) ∧
          ∀ w ∈ made,
            let state := s.roster.ledger.get w
            s'.roster.ledger.get w =
              if w ∈ head.wallets then
                { state with busy := false, label := none, task := none, percent := none, dirty := true }
              else state) ∧
        ((s.act (.notify id)).2 ≠ .flag true → s.act (.notify id) = (s, .flag false))) ∧
      s.completedTasks = s₀.reportedTasks actions ∧ s.completedTasks.Nodup ∧
      ∀ past id rest, s.journal = past ++ .completed id :: rest →
        (∃ now, .dispatched id now ∈ past) ∧ .retired id ∉ past := by
  intro s₀ s made
  have hticks₀ := ticksDriven_fresh checkpoints retry interval synced
  have hs : s.Reported := moves_invariant (fun hs h => hs.move h)
    (reported_fresh checkpoints retry interval synced) (moves_run hticks₀ actions)
  have hparted : Parted made s :=
    (parted_fresh checkpoints retry interval synced).run hticks₀ actions
  refine ⟨?_, ?_, hs.nodup_completedTasks, ?_⟩
  · intro id s'
    have hanswer : (s.act (.notify id)).2 = .flag (s.queue.heeds id) :=
      congrArg Answer.flag (completed_notifyCompleted hs.headMatches id)
    rw [hanswer, Answer.flag.injEq]
    refine ⟨s.queue.heeds_iff id, ?_, ?_⟩
    · intro hheeds
      exact hparted.notify_of_heeds hheeds
    · intro hheeds
      have hfalse : s.queue.heeds id = false := by simpa using hheeds
      exact notify_of_not_heeds hs.headMatches hfalse
  · have hrun := (reported_fresh checkpoints retry interval synced).toOrdered.completedTasks_run
      hticks₀ actions
    have hnone : s₀.completedTasks = [] := by cases synced <;> rfl
    rwa [hnone, List.nil_append] at hrun
  · intro past id rest hsplit
    obtain ⟨hdispatched, -, hretired⟩ := hs.timely past (.completed id) rest hsplit
    exact ⟨hdispatched, hretired⟩

/-- Two wallets are offered one after the other, and a tick begins an attempt at the first. A report
about the second is not heeded; one about the first is, and a second one about it is not. -/
theorem run_reports_of_stale :
    let s₀ := fresh .empty {} 200 none
    let actions : List Action := [.own (.make "savings" "w1" {}), .own (.make "pension" "w2" {}),
      .offer ["savings"] .genesis, .offer ["pension"] .genesis, .create "tick" .tick, .poll "tick"]
    let s := s₀.run actions
    let s₁ := (s.act (.notify 0)).1
    s.act (.notify 1) = (s, .flag false) ∧ (s.act (.notify 0)).2 = .flag true ∧
      s₁.queue = ⟨s.queue.tasks, .retiring 0⟩ ∧
      s₁.roster.ledger.get ⟨1, "w2"⟩ = s.roster.ledger.get ⟨1, "w2"⟩ ∧
      s₁.act (.notify 0) = (s₁, .flag false) ∧ s₁.completedTasks = [0] := by
  intro s₀ actions s s₁
  have hs : (fresh .empty {} 200 none).run actions = s := rfl
  have hs₁ : (s.act (.notify 0)).1 = s₁ := rfl
  have hrun : s₁ = s₀.run (actions ++ [.notify 0]) := by
    rw [run_append]
    rfl
  obtain ⟨hreport, -, -, -⟩ := run_reports .empty {} 200 none actions
  rw [hs] at hreport
  obtain ⟨hreport₁, htasks₁, -, -⟩ := run_reports .empty {} 200 none (actions ++ [.notify 0])
  have haccepted : (s.act (.notify 0)).2 = .flag true := by decide
  have hrefused : (s.act (.notify 1)).2 ≠ .flag true := by decide
  have hrefused₁ : (s₁.act (.notify 0)).2 ≠ .flag true := by decide
  have hreported : s₀.reportedTasks (actions ++ [.notify 0]) = [0] := by decide
  have hmade : (⟨1, "w2"⟩ : Wallet) ∈ s₀.madeWallets actions := by decide
  have hfirst : s.queue.head? = some ⟨0, [⟨0, "w1"⟩], .genesis, .genesis⟩ := by decide
  have hnot : (⟨1, "w2"⟩ : Wallet) ∉ [(⟨0, "w1"⟩ : Wallet)] := by decide
  obtain ⟨head, hhead, -, hqueue, -, hstates⟩ := (hreport 0).2.1 haccepted
  obtain rfl := Option.some.inj (hfirst.symm.trans hhead)
  have hstate := hstates ⟨1, "w2"⟩ hmade
  simp only [if_neg hnot] at hstate
  rw [hs₁] at hqueue hstate
  have hsecond : s₁.act (.notify 0) = (s₁, .flag false) := by
    rw [hrun] at hrefused₁ ⊢
    exact (hreport₁ 0).2.2 hrefused₁
  have htasks : s₁.completedTasks = [0] := by
    rw [hrun]
    exact htasks₁.trans hreported
  exact ⟨(hreport 1).2.2 hrefused, haccepted, hqueue, hstate, hsecond, htasks⟩

end Scheduler

end WalletReplay
