import WalletReplay.Proofs.Scheduler.Trial

/-!
# The retry policy

A failed attempt is counted against its task, and the count is handed on from one phase to the next:
a head that is dispatched again runs with the failures that it backed off with. What the count is
worth shows in the journal. While a task has not completed, the number that its phase carries is the
number of its failed attempts, up to the limit of the counter; and as often as it was dispatched,
the policy had allowed it.

After a shutdown the dispatch of a head may be taken back, and the count with it. Nothing is
dispatched then any more, so that the policy is kept all the same.

## What is proved

* `Tried.move` — what moves keep: how dispatches, attempts and failures are related, what a failed
  attempt made of its task, and what lies between it and the next dispatch.
* `Tried.dispatches_le`, `Tried.stalled_iff` — how often a task is dispatched, and when it stalls.
* `Manned.turn_of_completed` — a call whose task has completed leaves the queue alone.
* `run_retries` — the retry policy, after any run.
-/

namespace WalletReplay

namespace Occurrence

/-- What an attempt that fails makes of its task: nothing if the task has completed, and otherwise
what the policy says of the failed attempts so far, with this one. -/
def IsJudged (retry : RetryPolicy) (past : List Occurrence) : Occurrence → Prop
  | failed id now outcome =>
    outcome = if completed id ∈ past then .ignored
      else retry.verdict (past.countP (Occurrence.fails id) + 1) now
  | _ => True

/-- What must lie between a failed attempt at a task that has not completed, and a dispatch or an
attempt. Nothing but that task is dispatched, if it is to be tried again, and when it has backed
off; and it is dispatched before it is attempted. -/
def IsRetried (retry : RetryPolicy) (past : List Occurrence) : Occurrence → Prop
  | dispatched id now => ∀ before u failedAt outcome mid,
    past = before ++ failed u failedAt outcome :: mid → completed u ∉ past →
      id = u ∧ failedAt + retry.backoff ≤ now ∧
        ∃ failures retryAt, outcome = .retry failures retryAt
  | attempted id => ∀ before failedAt outcome mid,
    past = before ++ failed id failedAt outcome :: mid → completed id ∉ past →
      ∃ now, dispatched id now ∈ mid ∧ failedAt + retry.backoff ≤ now
  | _ => True

theorem isJudged_of_not_isTrial {retry : RetryPolicy} {past : List Occurrence} {o : Occurrence}
    (h : o.isTrial = false) : o.IsJudged retry past := by
  cases o <;> simp_all [isTrial, IsJudged]

theorem isRetried_of_not_isTrial {retry : RetryPolicy} {past : List Occurrence} {o : Occurrence}
    (h : o.isTrial = false) : o.IsRetried retry past := by
  cases o <;> simp_all [isTrial, IsRetried]

theorem countP_concat_of {f : Occurrence → Bool} {o : Occurrence} (h : f o = true)
    (past : List Occurrence) : (past ++ [o]).countP f = past.countP f + 1 := by
  rw [List.countP_append, List.countP_singleton, if_pos h]

/-- The last of some failed attempts at a task. -/
theorem exists_last_failed {journal : List Occurrence} {id : TaskId} {n : Nat}
    (h : journal.countP (Occurrence.fails id) = n + 1) : ∃ past now outcome rest,
      journal = past ++ .failed id now outcome :: rest ∧
        past.countP (Occurrence.fails id) = n := by
  induction journal using List.reverseRecOn with
  | nil => simp at h
  | append_singleton journal o ih =>
    by_cases ho : o.fails id = true
    · rw [countP_concat_of ho] at h
      cases o <;> simp [fails] at ho
      subst ho
      exact ⟨journal, _, _, [], rfl, by omega⟩
    · have hnot : ∀ u ∈ [o], u.fails id = false := by simpa using ho
      rw [countP_append_of_not hnot] at h
      obtain ⟨past, now, outcome, rest, rfl, hpast⟩ := ih h
      exact ⟨past, now, outcome, rest ++ [o], by simp, hpast⟩

theorem countP_le_concat (f : Occurrence → Bool) (past : List Occurrence) (o : Occurrence) :
    past.countP f ≤ (past ++ [o]).countP f :=
  (List.sublist_append_left past [o]).countP_le

theorem dispatches_self (id : TaskId) (now : Nat) : (dispatched id now).dispatches id = true :=
  decide_eq_true rfl

theorem attempts_self (id : TaskId) : (attempted id).attempts id = true :=
  decide_eq_true rfl

theorem fails_self (id : TaskId) (now : Nat) (outcome : FailureOutcome) :
    (failed id now outcome).fails id = true :=
  decide_eq_true rfl

end Occurrence

namespace RetryPolicy

variable {p : RetryPolicy} {most count : Nat}

/-- With a bound on retries, failed attempts up to the bound may be tried again, and the next may
not. -/
theorem verdict_of_bound (hmost : p.maxRetries = some most) (hlt : most < failureLimit)
    (hcount : count ≤ most + 1) (now : Nat) : p.verdict count now =
      if count ≤ most then .retry count (now + p.backoff) else .stalled count := by
  have hmin : min count failureLimit = count := by omega
  simp only [verdict, hmin, isExhausted, hmost, decide_eq_true_eq]
  split_ifs
  · omega
  · rfl
  · rfl
  · omega

/-- With no bound on retries, or one that the counter does not exceed, nothing is exhausted. -/
theorem isExhausted_of_unbounded (h : ∀ most, p.maxRetries = some most → failureLimit ≤ most)
    (hcount : count ≤ failureLimit) : p.isExhausted count = false := by
  unfold isExhausted
  split
  · rename_i most hmost
    have hle := h most hmost
    simp only [decide_eq_false_iff_not]
    omega
  · rfl

end RetryPolicy

/-- What a phase says of the attempts at its task. Each dispatch but one that runs has failed; the
number is that of the failed attempts, up to the limit; the policy allows another attempt while the
task backs off, until all failures are long enough ago, and none when it has stalled. -/
def Phase.Tells (retry : RetryPolicy) (journal : List Occurrence) : Phase → Prop
  | running id n =>
    n = min (journal.countP (Occurrence.fails id)) failureLimit ∧
      journal.countP (Occurrence.dispatches id) = journal.countP (Occurrence.fails id) + 1
  | backoff id n retryAt =>
    n = min (journal.countP (Occurrence.fails id)) failureLimit ∧
      journal.countP (Occurrence.dispatches id) = journal.countP (Occurrence.fails id) ∧
      retry.isExhausted n = false ∧
      ∀ now outcome, .failed id now outcome ∈ journal → now + retry.backoff ≤ retryAt
  | stalled id n =>
    n = min (journal.countP (Occurrence.fails id)) failureLimit ∧
      journal.countP (Occurrence.dispatches id) = journal.countP (Occurrence.fails id) ∧
      retry.isExhausted n = true
  | idle | completing _ | retiring _ => True

namespace Phase

variable {retry : RetryPolicy} {journal journal' : List Occurrence} {phase : Phase}

theorem tells_of_not_isUnderWay (h : phase.isUnderWay = false) : phase.Tells retry journal := by
  cases phase <;> simp_all [isUnderWay, Tells]

/-- Only the dispatches and failures of the task under way count. -/
theorem Tells.congr (h : phase.Tells retry journal)
    (hdispatches : ∀ id, journal'.countP (Occurrence.dispatches id) =
      journal.countP (Occurrence.dispatches id))
    (hfails : ∀ id, phase.isUnderWay = true → phase.task? = some id →
      journal'.countP (Occurrence.fails id) = journal.countP (Occurrence.fails id) ∧
        ∀ now outcome, .failed id now outcome ∈ journal' → .failed id now outcome ∈ journal) :
    phase.Tells retry journal' := by
  cases phase with
  | idle | completing id | retiring id => trivial
  | running id n =>
    obtain ⟨hcount, -⟩ := hfails id rfl rfl
    simpa only [Tells, hcount, hdispatches id] using h
  | backoff id n retryAt =>
    obtain ⟨hcount, hmem⟩ := hfails id rfl rfl
    obtain ⟨hn, heq, hallowed, hby⟩ := h
    refine ⟨by rw [hn, hcount], by rw [hdispatches, hcount, heq], hallowed, ?_⟩
    intro now outcome hfailed
    exact hby now outcome (hmem now outcome hfailed)
  | stalled id n =>
    obtain ⟨hcount, -⟩ := hfails id rfl rfl
    simpa only [Tells, hcount, hdispatches id] using h

end Phase

/-- The phase that a failed attempt leaves its task in is about the task. -/
theorem FailureOutcome.task?_of_phase? {outcome : FailureOutcome} {id : TaskId} {phase : Phase}
    (h : outcome.phase? id = some phase) : phase.task? = some id := by
  cases outcome <;> simp [phase?] at h <;> subst h <;> rfl

theorem FailureOutcome.ne_running_of_phase? {outcome : FailureOutcome} {id : TaskId} {phase : Phase}
    (h : outcome.phase? id = some phase) (u : TaskId) (n : Nat) : phase ≠ .running u n := by
  cases outcome <;> simp [phase?] at h <;> subst h <;> simp

/-- A phase in which a task was just judged says so. -/
theorem RetryPolicy.tells_verdict {retry : RetryPolicy} {journal : List Occurrence} {id : TaskId}
    {now : Nat} {phase : Phase}
    (h : (retry.verdict (journal.countP (Occurrence.fails id)) now).phase? id = some phase)
    (hdispatches : journal.countP (Occurrence.dispatches id) = journal.countP (Occurrence.fails id))
    (hby : ∀ failedAt outcome, .failed id failedAt outcome ∈ journal → failedAt ≤ now) :
    phase.Tells retry journal := by
  unfold verdict at h
  split at h
  · rename_i hexhausted
    obtain rfl := Option.some.inj h
    exact ⟨rfl, hdispatches, hexhausted⟩
  · rename_i hallowed
    obtain rfl := Option.some.inj h
    refine ⟨rfl, hdispatches, by simpa using hallowed, ?_⟩
    intro failedAt outcome hfailed
    have hle := hby failedAt outcome hfailed
    omega

namespace Scheduler

variable {s s' : Scheduler} {k : Caller} {p : Terms} {u : Task} {id : TaskId}

/-- How the attempts at tasks stand. -/
structure Tried (s : Scheduler) : Prop extends Manned s where
  dispatchedBy : ∀ id now, .dispatched id now ∈ s.journal → now ≤ s.clock
  failedBy : ∀ id now outcome, .failed id now outcome ∈ s.journal →
    now ≤ s.clock ∧ ∃ start, .dispatched id start ∈ s.journal
  current : s.isShutDown = false → ∀ id now, .dispatched id now ∈ s.journal →
    .completed id ∉ s.journal → s.queue.phase.task? = some id
  tells : s.queue.phase.Tells s.retry s.journal
  allowed : ∀ id i, i < s.journal.countP (Occurrence.dispatches id) →
    s.retry.isExhausted (min i failureLimit) = false
  begun : ∀ id,
    s.journal.countP (Occurrence.attempts id) ≤ s.journal.countP (Occurrence.dispatches id)
  waiting : ∀ l u, s.Waits l u →
    s.journal.countP (Occurrence.attempts u.id) < s.journal.countP (Occurrence.dispatches u.id)
  failed : ∀ id, .completed id ∉ s.journal →
    s.journal.countP (Occurrence.fails id) ≤ s.journal.countP (Occurrence.dispatches id)
  judged : Throughout (fun past o => o.IsJudged s.retry past) s.journal
  latest : ∀ past id now outcome rest, s.journal = past ++ .failed id now outcome :: rest →
    .completed id ∉ s.journal → (∀ start, .dispatched id start ∉ rest) →
      outcome.phase? id = some s.queue.phase
  retried : Throughout (fun past o => o.IsRetried s.retry past) s.journal

namespace Tried

/-- A head that is dispatched for the first time was never dispatched. -/
theorem dispatches_eq_zero (hs : s.Tried) (hopen : s.isShutDown = false)
    (hidle : s.queue.phase = .idle) {head : Task} (hhead : s.queue.head? = some head) :
    s.journal.countP (Occurrence.dispatches head.id) = 0 := by
  by_contra hpos
  obtain ⟨now, hnow⟩ := Occurrence.exists_dispatched (Nat.pos_of_ne_zero hpos)
  have hincomplete : .completed head.id ∉ s.journal := by
    apply hs.incomplete head
    rw [Queue.claiming_of_ne (by simp [hidle])]
    exact List.mem_of_head? hhead
  have htask := hs.current hopen head.id now hnow hincomplete
  simp [hidle, Phase.task?] at htask

/-- A task that was never dispatched has not failed. -/
theorem fails_eq_zero (hs : s.Tried) (h : s.journal.countP (Occurrence.dispatches id) = 0) :
    s.journal.countP (Occurrence.fails id) = 0 := by
  by_contra hpos
  obtain ⟨now, outcome, hfailed⟩ := Occurrence.exists_failed (Nat.pos_of_ne_zero hpos)
  obtain ⟨-, start, hstart⟩ := hs.failedBy id now outcome hfailed
  have hone : 0 < s.journal.countP (Occurrence.dispatches id) :=
    List.countP_pos_iff.mpr ⟨_, hstart, by simp [Occurrence.dispatches]⟩
  omega

/-- A head that can be dispatched has failed as often as it was dispatched, and the policy allows
another attempt. -/
theorem ready (hs : s.Tried) (hopen : s.isShutDown = false) {head : Task} {n : Nat}
    (hhead : s.queue.head? = some head)
    (hready : s.queue.phase = .idle ∧ n = 0 ∨
      ∃ retryAt, s.queue.phase = .backoff head.id n retryAt ∧ retryAt ≤ s.clock) :
    n = min (s.journal.countP (Occurrence.fails head.id)) failureLimit ∧
      s.journal.countP (Occurrence.dispatches head.id) = s.journal.countP (Occurrence.fails head.id) ∧
      s.retry.isExhausted n = false := by
  rcases hready with ⟨hidle, rfl⟩ | ⟨retryAt, hphase, -⟩
  · have hdispatches := hs.dispatches_eq_zero hopen hidle hhead
    have hfails := hs.fails_eq_zero hdispatches
    refine ⟨?_, ?_, s.retry.isExhausted_zero⟩ <;> omega
  · have htells := hs.tells
    rw [hphase] at htells
    obtain ⟨hn, heq, hallowed, -⟩ := htells
    exact ⟨hn, heq, hallowed⟩

/-- The calls of two ticks in line have different tasks. -/
theorem ne_of_waits (hs : s.Tried) {task : Task} (hcall : s.Holds k (.replay task)) {l : Caller}
    (hl : l ≠ k) (hu : s.Waits l u) : u.id ≠ task.id := by
  obtain ⟨rest, hcons⟩ := List.head?_eq_some_iff.mp hcall.2
  have hmem : l ∈ rest := by
    have hline : l ∈ s.line := (hs.inLine.mem_iff l).mpr ⟨_, hu, rfl⟩
    rw [hcons] at hline
    exact (List.mem_cons.mp hline).resolve_left hl
  have htasks : s.lineTasks = task :: rest.filterMap s.taskOf? := by
    have htask : s.taskOf? k = some task := taskOf?_of_waiting hcall.1
    rw [lineTasks, hcons, List.filterMap_cons_some htask]
  have hdistinct := hs.distinct
  rw [htasks, List.pairwise_cons] at hdistinct
  exact (hdistinct.1 u (List.mem_filterMap.mpr ⟨l, hmem, taskOf?_of_waiting hu⟩)).symm

/-- A head that is dispatched is the task that failed last, if it has not completed, and has backed
off. -/
theorem isRetried_dispatched (hs : s.Tried) {head : Task} {n : Nat} (hopen : s.isShutDown = false)
    (hready : s.queue.phase = .idle ∧ n = 0 ∨
      ∃ retryAt, s.queue.phase = .backoff head.id n retryAt ∧ retryAt ≤ s.clock) :
    (Occurrence.dispatched head.id s.clock).IsRetried s.retry s.journal := by
  intro before u failedAt outcome mid hsplit hincomplete
  have hfailed : .failed u failedAt outcome ∈ s.journal := by simp [hsplit]
  obtain ⟨-, start, hstart⟩ := hs.failedBy u failedAt outcome hfailed
  have htask := hs.current hopen u start hstart hincomplete
  rcases hready with ⟨hidle, -⟩ | ⟨retryAt, hbackoff, hnow⟩
  · simp [hidle, Phase.task?] at htask
  · rw [hbackoff] at htask
    obtain rfl := Option.some.inj htask
    have htells := hs.tells
    rw [hbackoff] at htells
    have hby := htells.2.2.2 failedAt outcome hfailed
    refine ⟨rfl, by omega, ?_⟩
    by_cases hmid : ∃ start, .dispatched head.id start ∈ mid
    · -- It was dispatched again since, so it had backed off.
      obtain ⟨again, hagain⟩ := hmid
      obtain ⟨mid₁, mid₂, rfl⟩ := List.append_of_mem hagain
      have hpast : s.journal = (before ++ .failed head.id failedAt outcome :: mid₁) ++
          .dispatched head.id again :: mid₂ := by
        simp [hsplit]
      have hbefore : .completed head.id ∉ before ++ .failed head.id failedAt outcome :: mid₁ := by
        intro hcompleted
        exact hincomplete (hpast ▸ List.mem_append_left _ hcompleted)
      exact (hs.retried _ _ mid₂ hpast before head.id failedAt outcome mid₁ rfl hbefore).2.2
    · have hphase := hs.latest before head.id failedAt outcome mid hsplit hincomplete
        fun again hagain => hmid ⟨again, hagain⟩
      rw [hbackoff] at hphase
      cases outcome with
      | retry failures retryAt => exact ⟨failures, retryAt, rfl⟩
      | stalled failures => simp [FailureOutcome.phase?] at hphase
      | ignored => simp [FailureOutcome.phase?] at hphase

/-- A task that is attempted, and has not completed, was dispatched since it failed last. -/
theorem isRetried_attempted (hs : s.Tried) {task : Task} (hcall : s.Holds k (.replay task)) :
    (Occurrence.attempted task.id).IsRetried s.retry (s.journal ++ [.acquired k]) := by
  intro before failedAt outcome mid hsplit hincomplete
  obtain ⟨mid', rfl, hpast⟩ := split_of_append hsplit (by simp)
  have hincomplete' : .completed task.id ∉ s.journal := by simpa using hincomplete
  obtain ⟨rest, hfirst⟩ := hcall.lineTasks_eq_cons
  obtain ⟨n, hrun⟩ := (hs.running task (by simp [hfirst])).resolve_left hincomplete'
  by_cases hmid : ∃ start, .dispatched task.id start ∈ mid'
  · obtain ⟨again, hagain⟩ := hmid
    refine ⟨again, List.mem_append_left _ hagain, ?_⟩
    obtain ⟨mid₁, mid₂, rfl⟩ := List.append_of_mem hagain
    have hpast' : s.journal = (before ++ .failed task.id failedAt outcome :: mid₁) ++
        .dispatched task.id again :: mid₂ := by
      simp [hpast]
    have hbefore : .completed task.id ∉ before ++ .failed task.id failedAt outcome :: mid₁ := by
      intro hcompleted
      exact hincomplete' (hpast' ▸ List.mem_append_left _ hcompleted)
    exact (hs.retried _ _ mid₂ hpast' before task.id failedAt outcome mid₁ rfl hbefore).2.1
  · have hphase := hs.latest before task.id failedAt outcome mid' hpast hincomplete'
      fun again hagain => hmid ⟨again, hagain⟩
    exact absurd hrun (FailureOutcome.ne_running_of_phase? hphase task.id n)

section

variable (hs : s.Tried) (h : Trial s s')

include hs h

theorem dispatchedBy_trial (hclock : s.clock ≤ s'.clock) :
    ∀ id now, .dispatched id now ∈ s'.journal → now ≤ s'.clock := by
  intro id now hmem
  cases h with
  | aside news hnews hjournal | lapse news hnews hjournal =>
    rw [hjournal, Occurrence.mem_of_not_isTrial hnews rfl] at hmem
    exact (hs.dispatchedBy id now hmem).trans hclock
  | dispatch _ hjournal =>
    rw [hjournal, List.mem_append, List.mem_singleton] at hmem
    rcases hmem with hmem | heq
    · exact (hs.dispatchedBy id now hmem).trans hclock
    · obtain ⟨-, rfl⟩ := Occurrence.dispatched.inj heq
      exact hclock
  | attempt _ hjournal | fail _ hjournal =>
    have hold : .dispatched id now ∈ s.journal := by simpa [hjournal] using hmem
    exact (hs.dispatchedBy id now hold).trans hclock

theorem failedBy_trial (hclock : s.clock ≤ s'.clock) :
    ∀ id now outcome, .failed id now outcome ∈ s'.journal →
      now ≤ s'.clock ∧ ∃ start, .dispatched id start ∈ s'.journal := by
  intro id now outcome hmem
  have hold : .failed id now outcome ∈ s.journal → s.journal ⊆ s'.journal →
      now ≤ s'.clock ∧ ∃ start, .dispatched id start ∈ s'.journal := by
    intro hfailed hsub
    obtain ⟨hnow, start, hstart⟩ := hs.failedBy id now outcome hfailed
    exact ⟨hnow.trans hclock, start, hsub hstart⟩
  cases h with
  | aside news hnews hjournal | lapse news hnews hjournal =>
    rw [hjournal, Occurrence.mem_of_not_isTrial hnews rfl] at hmem
    exact hold hmem (by simp [hjournal])
  | dispatch _ hjournal | attempt _ hjournal =>
    exact hold (by simpa [hjournal] using hmem) (by simp [hjournal])
  | @fail k call task htask hjournal =>
    rw [hjournal, List.append_cons, List.mem_append, List.mem_singleton] at hmem
    rcases hmem with hmem | heq
    · exact hold (by simpa using hmem) (by simp [hjournal])
    · obtain ⟨rfl, rfl, -⟩ := Occurrence.failed.inj heq
      obtain ⟨start, hstart⟩ := hs.known task htask
      exact ⟨hclock, start, by simp [hjournal, hstart]⟩

theorem current_trial (hopened : s'.isShutDown = false → s.isShutDown = false) :
    s'.isShutDown = false → ∀ id now, .dispatched id now ∈ s'.journal →
      .completed id ∉ s'.journal → s'.queue.phase.task? = some id := by
  intro hopen' id now hmem hincomplete
  have hopen := hopened hopen'
  have hold : .dispatched id now ∈ s.journal → s.journal ⊆ s'.journal →
      s.queue.phase.task? = some id := by
    intro hdispatched hsub
    apply hs.current hopen id now hdispatched
    intro hcompleted
    exact hincomplete (hsub hcompleted)
  cases h with
  | aside news hnews hjournal _ hphase =>
    rw [hjournal, Occurrence.mem_of_not_isTrial hnews rfl] at hmem
    rw [hphase]
    exact hold hmem (by simp [hjournal])
  | lapse news hnews hjournal _ _ hlapsed =>
    rw [hjournal, Occurrence.mem_of_not_isTrial hnews rfl] at hmem
    rcases hlapsed id (hold hmem (by simp [hjournal])) with hcompleted | ⟨hclosed, -⟩
    · exact absurd hcompleted hincomplete
    · rw [hopen] at hclosed
      exact absurd hclosed Bool.false_ne_true
  | dispatch _ hjournal _ _ hready hphase =>
    rw [hphase]
    rw [hjournal, List.mem_append, List.mem_singleton] at hmem
    rcases hmem with hmem | heq
    · have htask := hold hmem (by simp [hjournal])
      rcases hready with ⟨hidle, -⟩ | ⟨retryAt, hbackoff, -⟩
      · simp [hidle, Phase.task?] at htask
      · rw [hbackoff] at htask
        exact htask
    · obtain ⟨rfl, -⟩ := Occurrence.dispatched.inj heq
      rfl
  | attempt _ hjournal _ hphase =>
    rw [hphase]
    exact hold (by simpa [hjournal] using hmem) (by simp [hjournal])
  | @fail k call task htask hjournal _ hphase =>
    have hkept := hold (by simpa [hjournal] using hmem) (by simp [hjournal])
    rw [hphase]
    rcases hs.fail htask with ⟨-, -, hfail⟩ | ⟨-, n, hrun⟩
    · rw [hfail]
      exact hkept
    · obtain ⟨phase, hverdict, hfail⟩ := Queue.fail_of_running hrun s.retry s.clock
      rw [hrun] at hkept
      obtain rfl := Option.some.inj hkept
      rw [hfail]
      exact FailureOutcome.task?_of_phase? hverdict

theorem tells_trial (hretry : s'.retry = s.retry) : s'.queue.phase.Tells s'.retry s'.journal := by
  rw [hretry]
  cases h with
  | aside news hnews hjournal _ hphase =>
    rw [hphase, hjournal]
    apply hs.tells.congr
    · intro id
      exact Occurrence.countP_append_of_not fun o ho =>
        Occurrence.dispatches_of_not_isTrial (hnews o ho) id
    · intro id _ _
      constructor
      · exact Occurrence.countP_append_of_not fun o ho =>
          Occurrence.fails_of_not_isTrial (hnews o ho) id
      · intro now outcome hmem
        exact (Occurrence.mem_of_not_isTrial hnews rfl).mp hmem
  | lapse _ _ _ _ hphase => exact Phase.tells_of_not_isUnderWay hphase
  | @dispatch k head n hopen hjournal _ hhead hready hphase =>
    obtain ⟨hn, heq, -⟩ := hs.ready hopen hhead hready
    rw [hphase, hjournal]
    have hfails : s'.journal.countP (Occurrence.fails head.id) =
        s.journal.countP (Occurrence.fails head.id) := by
      rw [hjournal]
      exact Occurrence.countP_append_of_not (by simp [Occurrence.fails])
    rw [hjournal] at hfails
    refine ⟨by rw [hfails, hn], ?_⟩
    rw [hfails, Occurrence.countP_concat_of (Occurrence.dispatches_self head.id s.clock), heq]
  | attempt _ hjournal _ hphase =>
    rw [hphase, hjournal]
    apply hs.tells.congr
    · intro id
      exact Occurrence.countP_append_of_not (by simp [Occurrence.dispatches])
    · intro id _ _
      exact ⟨Occurrence.countP_append_of_not (by simp [Occurrence.fails]), by simp⟩
  | @fail k call task htask hjournal _ hphase =>
    have hdispatches : ∀ id, s'.journal.countP (Occurrence.dispatches id) =
        s.journal.countP (Occurrence.dispatches id) := by
      intro id
      rw [hjournal]
      exact Occurrence.countP_append_of_not (by simp [Occurrence.dispatches])
    rcases hs.fail htask with ⟨hcompleted, -, hfail⟩ | ⟨hincomplete, n, hrun⟩
    · -- The task under way has not completed, so it is another.
      rw [hphase, hfail]
      refine hs.tells.congr hdispatches ?_
      intro id hway hid
      have hne : task.id ≠ id := by
        rintro rfl
        refine hs.incomplete_of_phase hid ?_ hcompleted
        intro u hu
        simp [hu, Phase.isUnderWay] at hway
      rw [hjournal]
      constructor
      · exact Occurrence.countP_append_of_not (by simp [Occurrence.fails, hne])
      · intro now outcome hmem
        simpa [Ne.symm hne] using hmem
    · have htells := hs.tells
      rw [hrun] at htells
      obtain ⟨rfl, heq⟩ := htells
      obtain ⟨phase, hverdict, hfail⟩ := Queue.fail_of_running hrun s.retry s.clock
      have hfails : s'.journal.countP (Occurrence.fails task.id) =
          s.journal.countP (Occurrence.fails task.id) + 1 := by
        rw [hjournal, List.append_cons,
          Occurrence.countP_concat_of (Occurrence.fails_self task.id s.clock _),
          Occurrence.countP_append_of_not (by simp [Occurrence.fails])]
      rw [RetryPolicy.verdict_min, ← hfails] at hverdict
      rw [hphase, hfail]
      refine RetryPolicy.tells_verdict hverdict (by rw [hdispatches, hfails, heq]) ?_
      intro failedAt outcome hmem
      rw [hjournal, List.append_cons, List.mem_append, List.mem_singleton] at hmem
      rcases hmem with hmem | hnew
      · exact (hs.failedBy task.id failedAt outcome (by simpa using hmem)).1
      · obtain ⟨-, rfl, -⟩ := Occurrence.failed.inj hnew
        exact Nat.le_refl _

theorem allowed_trial (hretry : s'.retry = s.retry) :
    ∀ id i, i < s'.journal.countP (Occurrence.dispatches id) →
      s'.retry.isExhausted (min i failureLimit) = false := by
  intro id i hi
  rw [hretry]
  cases h with
  | aside news hnews hjournal | lapse news hnews hjournal =>
    rw [hjournal, Occurrence.countP_append_of_not fun o ho =>
      Occurrence.dispatches_of_not_isTrial (hnews o ho) id] at hi
    exact hs.allowed id i hi
  | @dispatch k head n hopen hjournal _ hhead hready =>
    obtain ⟨hn, heq, hallowed⟩ := hs.ready hopen hhead hready
    rw [hjournal] at hi
    by_cases hid : head.id = id
    · subst hid
      rw [Occurrence.countP_concat_of (Occurrence.dispatches_self head.id s.clock)] at hi
      by_cases hlt : i < s.journal.countP (Occurrence.dispatches head.id)
      · exact hs.allowed head.id i hlt
      · have hi' : i = s.journal.countP (Occurrence.fails head.id) := by omega
        rw [hi', ← hn]
        exact hallowed
    · rw [Occurrence.countP_append_of_not (by simp [Occurrence.dispatches, hid])] at hi
      exact hs.allowed id i hi
  | attempt _ hjournal | fail _ hjournal =>
    rw [hjournal, Occurrence.countP_append_of_not (by simp [Occurrence.dispatches])] at hi
    exact hs.allowed id i hi

theorem begun_trial : ∀ id, s'.journal.countP (Occurrence.attempts id) ≤
    s'.journal.countP (Occurrence.dispatches id) := by
  intro id
  have hold := hs.begun id
  cases h with
  | aside news hnews hjournal | lapse news hnews hjournal =>
    rw [hjournal, Occurrence.countP_append_of_not fun o ho =>
        Occurrence.attempts_of_not_isTrial (hnews o ho) id,
      Occurrence.countP_append_of_not fun o ho =>
        Occurrence.dispatches_of_not_isTrial (hnews o ho) id]
    exact hold
  | dispatch _ hjournal =>
    rw [hjournal, Occurrence.countP_append_of_not (by simp [Occurrence.attempts])]
    exact hold.trans (Occurrence.countP_le_concat _ _ _)
  | @attempt k task w hcall hjournal =>
    have hdispatches : s'.journal.countP (Occurrence.dispatches id) =
        s.journal.countP (Occurrence.dispatches id) := by
      rw [hjournal]
      exact Occurrence.countP_append_of_not (by simp [Occurrence.dispatches])
    rw [hdispatches, hjournal]
    by_cases hid : task.id = id
    · subst hid
      have hlt := hs.waiting k task hcall.1
      rw [List.append_cons, Occurrence.countP_concat_of (Occurrence.attempts_self task.id),
        Occurrence.countP_append_of_not (by simp [Occurrence.attempts])]
      omega
    · rw [Occurrence.countP_append_of_not (by simp [Occurrence.attempts, hid])]
      exact hold
  | fail _ hjournal =>
    rw [hjournal, Occurrence.countP_append_of_not (by simp [Occurrence.attempts]),
      Occurrence.countP_append_of_not (by simp [Occurrence.dispatches])]
    exact hold

theorem waiting_trial : ∀ l u, s'.Waits l u →
    s'.journal.countP (Occurrence.attempts u.id) < s'.journal.countP (Occurrence.dispatches u.id) := by
  intro l u hu
  cases h with
  | aside news hnews hjournal hwaits | lapse news hnews hjournal hwaits =>
    rw [hjournal, Occurrence.countP_append_of_not fun o ho =>
        Occurrence.attempts_of_not_isTrial (hnews o ho) u.id,
      Occurrence.countP_append_of_not fun o ho =>
        Occurrence.dispatches_of_not_isTrial (hnews o ho) u.id]
    exact hs.waiting l u (hwaits l u hu)
  | @dispatch k head n _ hjournal hcalls =>
    rw [hjournal, Occurrence.countP_append_of_not (by simp [Occurrence.attempts])]
    rw [Waits, hcalls, Table.get?_set] at hu
    split_ifs at hu with hl
    · obtain rfl : head = u := by simpa using hu
      have hbegun := hs.begun head.id
      rw [Occurrence.countP_concat_of (Occurrence.dispatches_self head.id s.clock)]
      omega
    · have hlt := hs.waiting l u hu
      exact hlt.trans_le (Occurrence.countP_le_concat _ _ _)
  | @attempt k task w hcall hjournal hcalls =>
    rw [Waits, hcalls, Table.get?_set] at hu
    split_ifs at hu with hl
    · simp at hu
    · have hne := hs.ne_of_waits hcall hl hu
      rw [hjournal, Occurrence.countP_append_of_not (by simp [Occurrence.attempts, Ne.symm hne]),
        Occurrence.countP_append_of_not (by simp [Occurrence.dispatches])]
      exact hs.waiting l u hu
  | fail _ hjournal hwaits =>
    rw [hjournal, Occurrence.countP_append_of_not (by simp [Occurrence.attempts]),
      Occurrence.countP_append_of_not (by simp [Occurrence.dispatches])]
    exact hs.waiting l u (hwaits l u hu)

theorem failed_trial : ∀ id, .completed id ∉ s'.journal →
    s'.journal.countP (Occurrence.fails id) ≤ s'.journal.countP (Occurrence.dispatches id) := by
  intro id hincomplete
  have hold : s.journal ⊆ s'.journal →
      s.journal.countP (Occurrence.fails id) ≤ s.journal.countP (Occurrence.dispatches id) := by
    intro hsub
    apply hs.failed id
    intro hcompleted
    exact hincomplete (hsub hcompleted)
  cases h with
  | aside news hnews hjournal | lapse news hnews hjournal =>
    have hle := hold (by simp [hjournal])
    rw [hjournal, Occurrence.countP_append_of_not fun o ho =>
        Occurrence.fails_of_not_isTrial (hnews o ho) id,
      Occurrence.countP_append_of_not fun o ho =>
        Occurrence.dispatches_of_not_isTrial (hnews o ho) id]
    exact hle
  | dispatch _ hjournal =>
    have hle := hold (by simp [hjournal])
    rw [hjournal, Occurrence.countP_append_of_not (by simp [Occurrence.fails])]
    exact hle.trans (Occurrence.countP_le_concat _ _ _)
  | attempt _ hjournal =>
    have hle := hold (by simp [hjournal])
    rw [hjournal, Occurrence.countP_append_of_not (by simp [Occurrence.fails]),
      Occurrence.countP_append_of_not (by simp [Occurrence.dispatches])]
    exact hle
  | @fail k call task htask hjournal =>
    have hle := hold (by simp [hjournal])
    have hdispatches : s'.journal.countP (Occurrence.dispatches id) =
        s.journal.countP (Occurrence.dispatches id) := by
      rw [hjournal]
      exact Occurrence.countP_append_of_not (by simp [Occurrence.dispatches])
    rw [hdispatches, hjournal]
    by_cases hid : task.id = id
    · subst hid
      rcases hs.fail htask with ⟨hcompleted, -⟩ | ⟨-, n, hrun⟩
      · exact absurd (by simp [hjournal, hcompleted]) hincomplete
      · have htells := hs.tells
        rw [hrun] at htells
        obtain ⟨-, heq⟩ := htells
        rw [List.append_cons, Occurrence.countP_concat_of (Occurrence.fails_self task.id s.clock _),
          Occurrence.countP_append_of_not (by simp [Occurrence.fails])]
        omega
    · rw [Occurrence.countP_append_of_not (by simp [Occurrence.fails, hid])]
      exact hle

theorem judged_trial (hretry : s'.retry = s.retry) :
    Throughout (fun past o => o.IsJudged s'.retry past) s'.journal := by
  have hold := hs.judged
  rw [hretry]
  cases h with
  | aside news hnews hjournal | lapse news hnews hjournal =>
    rw [hjournal]
    apply hold.append
    intro o ho past
    exact Occurrence.isJudged_of_not_isTrial (hnews o ho)
  | dispatch _ hjournal =>
    rw [hjournal]
    exact hold.concat (o := .dispatched _ _) trivial
  | attempt _ hjournal =>
    rw [hjournal, List.append_cons]
    exact (hold.concat (o := .acquired _) trivial).concat (o := .attempted _) trivial
  | @fail k call task htask hjournal =>
    rw [hjournal, List.append_cons]
    refine (hold.concat (o := .answered k call false) trivial).concat ?_
    have hcount : (s.journal ++ [Occurrence.answered k call false]).countP
        (Occurrence.fails task.id) = s.journal.countP (Occurrence.fails task.id) :=
      Occurrence.countP_append_of_not (by simp [Occurrence.fails])
    rcases hs.fail htask with ⟨hcompleted, -, hfail⟩ | ⟨hincomplete, n, hrun⟩
    · rw [hfail]
      exact (if_pos (List.mem_append_left _ hcompleted)).symm
    · have htells := hs.tells
      rw [hrun] at htells
      obtain ⟨rfl, -⟩ := htells
      obtain ⟨phase, -, hfail⟩ := Queue.fail_of_running hrun s.retry s.clock
      have hnot : .completed task.id ∉ s.journal ++ [.answered k call false] := by
        simpa using hincomplete
      rw [hfail, RetryPolicy.verdict_min]
      show s.retry.verdict _ _ = if _ then _ else _
      rw [if_neg hnot, hcount]

theorem latest_trial : ∀ past id now outcome rest,
    s'.journal = past ++ .failed id now outcome :: rest → .completed id ∉ s'.journal →
      (∀ start, .dispatched id start ∉ rest) → outcome.phase? id = some s'.queue.phase := by
  intro past id now outcome rest hsplit hincomplete hnone
  -- What a failure before the move says of the phase before the move.
  have hold : ∀ news, s'.journal = s.journal ++ news → .failed id now outcome ∉ news →
      outcome.phase? id = some s.queue.phase := by
    intro news hjournal hnews
    rw [hjournal] at hsplit hincomplete
    obtain ⟨rest', hrest, hpast⟩ := split_of_append hsplit hnews
    refine hs.latest past id now outcome rest' hpast ?_ ?_
    · intro hcompleted
      exact hincomplete (List.mem_append_left _ hcompleted)
    · intro start hstart
      exact hnone start (hrest ▸ List.mem_append_left _ hstart)
  cases h with
  | aside news hnews hjournal _ hphase =>
    rw [hphase]
    refine hold news hjournal fun hmem => ?_
    exact absurd (hnews _ hmem) (by simp [Occurrence.isTrial])
  | lapse news hnews hjournal _ _ hlapsed =>
    have hkept := hold news hjournal fun hmem =>
      absurd (hnews _ hmem) (by simp [Occurrence.isTrial])
    rcases hlapsed id (FailureOutcome.task?_of_phase? hkept) with hcompleted | ⟨-, n, hrun⟩
    · exact absurd hcompleted hincomplete
    · exact absurd hrun (FailureOutcome.ne_running_of_phase? hkept id n)
  | @dispatch k head n _ hjournal _ _ hready =>
    have hkept := hold _ hjournal (by simp)
    have htask := FailureOutcome.task?_of_phase? hkept
    rcases hready with ⟨hidle, -⟩ | ⟨retryAt, hbackoff, -⟩
    · simp [hidle, Phase.task?] at htask
    · -- The head is the task that failed, and now it is dispatched.
      rw [hbackoff] at htask
      obtain rfl := Option.some.inj htask
      rw [hjournal] at hsplit
      obtain ⟨rest', rfl, -⟩ := split_of_append hsplit (by simp)
      exact absurd (by simp) (hnone s.clock)
  | attempt _ hjournal _ hphase =>
    rw [hphase]
    exact hold _ hjournal (by simp)
  | @fail k call task htask hjournal _ hphase =>
    have hsplit' := hsplit
    rw [hjournal, List.append_cons] at hsplit'
    rcases split_of_concat hsplit' with ⟨-, heq, -⟩ | ⟨rest', hrest, hpast⟩
    · obtain ⟨rfl, -, rfl⟩ := Occurrence.failed.inj heq
      rw [hphase]
      rcases hs.fail htask with ⟨hcompleted, -⟩ | ⟨-, n, hrun⟩
      · exact absurd (by simp [hjournal, hcompleted]) hincomplete
      · obtain ⟨phase, hverdict, hfail⟩ := Queue.fail_of_running hrun s.retry s.clock
        rw [hfail]
        exact hverdict
    · obtain ⟨rest'', rfl, hpast'⟩ := split_of_append hpast (by simp)
      have hkept : outcome.phase? id = some s.queue.phase := by
        refine hs.latest past id now outcome rest'' hpast' ?_ ?_
        · intro hcompleted
          exact hincomplete (by simp [hjournal, hcompleted])
        · intro start hstart
          exact hnone start (by simp [hrest, hstart])
      rw [hphase]
      rcases hs.fail htask with ⟨-, -, hfail⟩ | ⟨-, n, hrun⟩
      · rw [hfail]
        exact hkept
      · exact absurd hrun (FailureOutcome.ne_running_of_phase? hkept task.id n)

theorem retried_trial (hretry : s'.retry = s.retry) :
    Throughout (fun past o => o.IsRetried s'.retry past) s'.journal := by
  have hold := hs.retried
  rw [hretry]
  cases h with
  | aside news hnews hjournal | lapse news hnews hjournal =>
    rw [hjournal]
    apply hold.append
    intro o ho past
    exact Occurrence.isRetried_of_not_isTrial (hnews o ho)
  | dispatch hopen hjournal _ _ hready =>
    rw [hjournal]
    exact hold.concat (hs.isRetried_dispatched hopen hready)
  | attempt hcall hjournal =>
    rw [hjournal, List.append_cons]
    exact (hold.concat (o := .acquired _) trivial).concat (hs.isRetried_attempted hcall)
  | fail _ hjournal =>
    rw [hjournal]
    apply hold.append
    intro o ho past
    simp only [List.mem_cons, List.not_mem_nil, or_false] at ho
    rcases ho with rfl | rfl <;> trivial

end

/-- **Moves keep how the attempts at tasks stand.** -/
theorem move (hs : s.Tried) (h : Move p s s') : s'.Tried :=
  have ht := h.trial hs.toOrdered
  { toManned := hs.toManned.move h
    dispatchedBy := hs.dispatchedBy_trial ht h.clock_le
    failedBy := hs.failedBy_trial ht h.clock_le
    current := hs.current_trial ht h.isShutDown_eq_false
    tells := hs.tells_trial ht h.retry_eq
    allowed := hs.allowed_trial ht h.retry_eq
    begun := hs.begun_trial ht
    waiting := hs.waiting_trial ht
    failed := hs.failed_trial ht
    judged := hs.judged_trial ht h.retry_eq
    latest := hs.latest_trial ht
    retried := hs.retried_trial ht h.retry_eq }

/-! ### How often a task is dispatched, and when it stalls -/

section

variable {most : Nat}

/-- A task is dispatched once, and once more for each retry. -/
theorem dispatches_le (hs : s.Tried) (hmost : s.retry.maxRetries = some most)
    (hlt : most < failureLimit) (id : TaskId) :
    s.journal.countP (Occurrence.dispatches id) ≤ most + 1 := by
  by_contra hgt
  have hallowed := hs.allowed id (most + 1) (by omega)
  simp only [RetryPolicy.isExhausted, hmost, decide_eq_false_iff_not] at hallowed
  omega

/-- The failed attempts at a task that has not completed, up to one of them, are at most the retries
and one more. -/
theorem fails_lt (hs : s.Tried) (hmost : s.retry.maxRetries = some most)
    (hlt : most < failureLimit) (hincomplete : .completed id ∉ s.journal)
    {past rest : List Occurrence} {now : Nat} {outcome : FailureOutcome}
    (hsplit : s.journal = past ++ .failed id now outcome :: rest) :
    past.countP (Occurrence.fails id) + 1 ≤ most + 1 := by
  have hle := hs.failed id hincomplete
  have hdispatches := hs.dispatches_le hmost hlt id
  have hfails : past.countP (Occurrence.fails id) + 1 ≤
      s.journal.countP (Occurrence.fails id) := by
    rw [hsplit, List.countP_append, List.countP_cons_of_pos (Occurrence.fails_self id now outcome)]
    omega
  omega

/-- What a failed attempt makes of a task that has not completed is what the policy says. -/
theorem outcome_of_incomplete (hs : s.Tried) {past rest : List Occurrence} {now : Nat}
    {outcome : FailureOutcome} (hsplit : s.journal = past ++ .failed id now outcome :: rest)
    (hbefore : .completed id ∉ past) :
    outcome = s.retry.verdict (past.countP (Occurrence.fails id) + 1) now :=
  (hs.judged past _ rest hsplit).trans (if_neg hbefore)

/-- A task that has not completed stalls with the failed attempt behind the last retry. -/
theorem stalled_iff (hs : s.Tried) (hmost : s.retry.maxRetries = some most)
    (hlt : most < failureLimit) (hincomplete : .completed id ∉ s.journal) :
    (∃ n, s.queue.phase = .stalled id n) ↔
      s.journal.countP (Occurrence.fails id) = most + 1 := by
  have hdispatches := hs.dispatches_le hmost hlt id
  constructor
  · rintro ⟨n, hphase⟩
    have htells := hs.tells
    rw [hphase] at htells
    obtain ⟨hn, heq, hexhausted⟩ := htells
    simp only [RetryPolicy.isExhausted, hmost, decide_eq_true_eq] at hexhausted
    omega
  · intro hcount
    obtain ⟨past, now, outcome, rest, hsplit, hpast⟩ := Occurrence.exists_last_failed hcount
    have hbefore : .completed id ∉ past := by
      intro hcompleted
      exact hincomplete (hsplit ▸ List.mem_append_left _ hcompleted)
    have hverdict : outcome = .stalled (most + 1) := by
      rw [hs.outcome_of_incomplete hsplit hbefore, hpast,
        RetryPolicy.verdict_of_bound hmost hlt (Nat.le_refl _), if_neg (by omega)]
    subst hverdict
    have hnone : ∀ start, .dispatched id start ∉ rest := by
      intro start hstart
      obtain ⟨mid, rest', rfl⟩ := List.append_of_mem hstart
      have hsplit' : s.journal = (past ++ .failed id now (.stalled (most + 1)) :: mid) ++
          .dispatched id start :: rest' := by
        simp [hsplit]
      have hmid : .completed id ∉ past ++ .failed id now (.stalled (most + 1)) :: mid := by
        intro hcompleted
        exact hincomplete (hsplit' ▸ List.mem_append_left _ hcompleted)
      obtain ⟨-, -, n, retryAt, h⟩ := hs.retried _ _ rest' hsplit' past id now _ mid rfl hmid
      simp at h
    have hphase := hs.latest past id now _ rest hsplit hincomplete hnone
    exact ⟨most + 1, (Option.some.inj hphase).symm⟩

/-- A task under way carries the number of its failed attempts, up to the limit of the counter. -/
theorem failures_eq (hs : s.Tried) {n : Nat}
    (h : s.queue.phase = .running id n ∨ (∃ retryAt, s.queue.phase = .backoff id n retryAt) ∨
      s.queue.phase = .stalled id n) :
    n = min (s.journal.countP (Occurrence.fails id)) failureLimit := by
  have htells := hs.tells
  rcases h with hphase | ⟨retryAt, hphase⟩ | hphase
  · rw [hphase] at htells
    exact htells.1
  · rw [hphase] at htells
    exact htells.1
  · rw [hphase] at htells
    exact htells.1

end

end Tried

theorem tried_fresh (checkpoints : Checkpoints) (retry : RetryPolicy) (interval : Nat)
    (synced : Option Height) : (fresh checkpoints retry interval synced).Tried := by
  have hmanned := manned_fresh checkpoints retry interval synced
  cases synced <;> exact
    { toManned := hmanned
      dispatchedBy := fun _ _ h => by simp [fresh, start, startSynced] at h
      failedBy := fun _ _ _ h => by simp [fresh, start, startSynced] at h
      current := fun _ _ _ h => by simp [fresh, start, startSynced] at h
      tells := trivial
      allowed := fun _ _ h => absurd h (Nat.not_lt_zero _)
      begun := fun _ => Nat.le_refl _
      waiting := fun _ _ h => by simp [Waits, fresh, start, startSynced, Table.get?] at h
      failed := fun _ _ => Nat.le_refl _
      judged := Throughout.nil
      latest := fun _ _ _ _ _ h => by simp [fresh, start, startSynced] at h
      retried := Throughout.nil }

/-! ### Calls whose task has completed -/

/-- A step of a call whose task has completed leaves the queue alone, and the wallets too once the
attempt has begun. -/
theorem Manned.step_of_completed (hs : s.Manned) (hu : s.taskOf? k = some u)
    (hcompleted : .completed u.id ∈ s.journal) (h : Step k s s') :
    s'.queue = s.queue ∧ ∀ w, s.calls.get? k = some (.working w) → s'.roster = s.roster := by
  constructor
  · cases h with
    | rest hcall | retire hcall | dispatch hcall | askRegular hcall | askShutdown hcall =>
      simp [taskOf?, hcall, Call.task?] at hu
    | refuse hcall =>
      rw [taskOf?_of_waiting hcall.1] at hu
      obtain rfl := Option.some.inj hu
      rw [queue_depart]
      rcases hs.abandon hcall with ⟨-, hqueue⟩ | ⟨hincomplete, -⟩
      · exact hqueue
      · exact absurd hcompleted hincomplete
    | attempt | beginRegular | beginShutdown => rfl
    | declineRegular | declineShutdown => exact queue_depart _ k
    | succeed =>
      rw [goOn_eq]
      rfl
    | @fail w hcall =>
      rw [taskOf?_of_working hcall] at hu
      rw [queue_depart, hu]
      have hline : u ∈ s.lineTasks :=
        List.mem_filterMap.mpr ⟨k, List.mem_of_head? (hs.inLine.head_of_working hcall),
          (taskOf?_of_working hcall).trans hu⟩
      rcases hs.fail hline with ⟨-, -, hfail⟩ | ⟨hincomplete, -⟩
      · exact congrArg Prod.fst hfail
      · exact absurd hcompleted hincomplete
  · intro w hw
    rcases h.roster_cases with hroster | ⟨task, hcall, -⟩
    · exact hroster
    · rw [hcall.1] at hw
      simp at hw

/-- A poll of a call that has a task is one step, or none. -/
theorem poll_eq_or_step (hu : s.taskOf? k = some u) : (s.poll k).1 = s ∨ Step k s (s.poll k).1 := by
  unfold poll
  split
  · exact Or.inl rfl
  · rename_i kind hcall
    simp [taskOf?, hcall, Call.task?] at hu
  · rename_i errand hcall
    split
    · rename_i hhead
      exact Or.inr (step_enterChain ⟨hcall, hhead⟩)
    · exact Or.inl rfl
  · rename_i w hcall
    exact Or.inr (step_receive hcall)

theorem Manned.poll_of_completed (hs : s.Manned) (hu : s.taskOf? k = some u)
    (hcompleted : .completed u.id ∈ s.journal) : (s.poll k).1.queue = s.queue ∧
      ∀ w, s.calls.get? k = some (.working w) → (s.poll k).1.roster = s.roster := by
  rcases poll_eq_or_step hu with h | h
  · rw [h]
    exact ⟨rfl, fun _ _ => rfl⟩
  · exact hs.step_of_completed hu hcompleted h

/-- A driver that is at a tick runs it to where it waits next, and nothing else. -/
theorem takeTurn_of_ticking {d seen due : Nat} (h : s.drivers[d]? = some (.ticking seen due)) :
    ∃ drivers turns, s.takeTurn d =
      { (poll { s with turns := s.turns.erase d } (.driver d)).1 with drivers, turns } := by
  have hpoll : ∃ drivers, pollDriver { s with turns := s.turns.erase d } d =
      { (poll { s with turns := s.turns.erase d } (.driver d)).1 with drivers } := by
    simp only [pollDriver, h, runTick]
    split <;> rename_i hp <;> rw [hp] <;> exact ⟨_, rfl⟩
  obtain ⟨drivers, hpoll⟩ := hpoll
  obtain ⟨turns, -, hturn⟩ := s.exists_takeTurn d
  rw [hturn, hpoll]
  exact ⟨drivers, turns, rfl⟩

/-- **A call whose task has completed leaves the queue alone**, and the wallets too once the attempt
has begun, be it that of an owner or of a driver. -/
theorem Manned.turn_of_completed (hs : s.Manned) (hticks : s.TicksDriven) (hu : s.taskOf? k = some u)
    (hcompleted : .completed u.id ∈ s.journal) : (s.act k.turn).1.queue = s.queue ∧
      ∀ w, s.calls.get? k = some (.working w) → (s.act k.turn).1.roster = s.roster := by
  cases k with
  | named name => exact hs.poll_of_completed hu hcompleted
  | driver d =>
    have hcall : s.calls.get? (.driver d) ≠ none := by
      intro hnone
      simp [taskOf?, hnone] at hu
    obtain ⟨seen, due, hd⟩ := hticks d hcall
    obtain ⟨drivers, turns, hturn⟩ := takeTurn_of_ticking hd
    have ht : Manned { s with turns := s.turns.erase d } :=
      hs.move (p := {}) (.drivers s.wake s.drivers (s.turns.erase d))
    have hpoll := ht.poll_of_completed (k := .driver d) hu hcompleted
    simp only [Caller.turn, act]
    rw [hturn]
    exact hpoll

/-! ### Runs -/

theorem tried_run (checkpoints : Checkpoints) (retry : RetryPolicy) (interval : Nat)
    (synced : Option Height) (actions : List Action) :
    ((fresh checkpoints retry interval synced).run actions).Tried :=
  moves_invariant (fun hs h => hs.move h) (tried_fresh checkpoints retry interval synced)
    (moves_run (ticksDriven_fresh checkpoints retry interval synced) actions)

theorem retry_run (checkpoints : Checkpoints) (retry : RetryPolicy) (interval : Nat)
    (synced : Option Height) (actions : List Action) :
    ((fresh checkpoints retry interval synced).run actions).retry = retry := by
  refine moves_invariant (I := fun s => s.retry = retry) (fun hs h => h.retry_eq.trans hs) ?_
    (moves_run (ticksDriven_fresh checkpoints retry interval synced) actions)
  cases synced <;> rfl

/-- **The retry policy**, after any run. With a bound on retries below the limit of the counter,
which is 2³² - 1, a task that has not completed is attempted at most once more than the bound, and
stalls when as many attempts have failed; with no such bound none stalls. It carries the number of
its failed attempts, and is dispatched before any other, once it has backed off. A failed attempt at
a task that has completed changes nothing. -/
theorem run_retries (checkpoints : Checkpoints) (retry : RetryPolicy) (interval : Nat)
    (synced : Option Height) (actions : List Action) :
    let s := (fresh checkpoints retry interval synced).run actions
    (∀ most : Nat, retry.maxRetries = some most → most < failureLimit →
      ∀ id : TaskId, .completed id ∉ s.journal →
        s.journal.countP (Occurrence.attempts id) ≤ most + 1 ∧
          (∀ (past rest : List Occurrence) (now : Nat) (outcome : FailureOutcome),
            s.journal = past ++ .failed id now outcome :: rest →
              let count := past.countP (Occurrence.fails id) + 1
              count ≤ most + 1 ∧ outcome =
                if count ≤ most then .retry count (now + retry.backoff) else .stalled count) ∧
          ((∃ n, s.queue.phase = .stalled id n) ↔
            s.journal.countP (Occurrence.fails id) = most + 1)) ∧
      ((∀ most, retry.maxRetries = some most → failureLimit ≤ most) → ∀ id : TaskId,
        (∀ n, s.queue.phase ≠ .stalled id n) ∧
          ∀ (past rest : List Occurrence) (now : Nat) (outcome : FailureOutcome),
            s.journal = past ++ .failed id now outcome :: rest → .completed id ∉ past →
              outcome = .retry (min (past.countP (Occurrence.fails id) + 1) failureLimit)
                (now + retry.backoff)) ∧
      (∀ (id : TaskId) (n : Nat),
        s.queue.phase = .running id n ∨ (∃ retryAt, s.queue.phase = .backoff id n retryAt) ∨
            s.queue.phase = .stalled id n →
          n = min (s.journal.countP (Occurrence.fails id)) failureLimit) ∧
      (∀ (past rest : List Occurrence) (id : TaskId) (now : Nat) (outcome : FailureOutcome),
        s.journal = past ++ .failed id now outcome :: rest → .completed id ∉ s.journal →
          (∀ start, .dispatched id start ∉ rest) → outcome.phase? id = some s.queue.phase) ∧
      (∀ (before mid rest : List Occurrence) (id next : TaskId) (failedAt now : Nat)
          (outcome : FailureOutcome),
        let past := before ++ .failed id failedAt outcome :: mid
        s.journal = past ++ .dispatched next now :: rest → .completed id ∉ past →
          next = id ∧ failedAt + retry.backoff ≤ now ∧
            ∃ failures retryAt, outcome = .retry failures retryAt) ∧
      (∀ (before mid rest : List Occurrence) (id : TaskId) (failedAt : Nat)
          (outcome : FailureOutcome),
        let past := before ++ .failed id failedAt outcome :: mid
        s.journal = past ++ .attempted id :: rest → .completed id ∉ past →
          ∃ now, .dispatched id now ∈ mid ∧ failedAt + retry.backoff ≤ now) ∧
      (∀ (a : Action) (before mid rest : List Occurrence) (id : TaskId) (failedAt : Nat)
          (outcome : FailureOutcome),
        let past := before ++ .failed id failedAt outcome :: mid
        (s.act a).1.journal = past ++ .attempted id :: rest → .completed id ∉ past →
          failedAt + retry.backoff ≤ (s.act a).1.clock) ∧
      (∀ (past rest : List Occurrence) (id : TaskId) (now : Nat) (outcome : FailureOutcome),
        s.journal = past ++ .failed id now outcome :: rest → .completed id ∈ past →
          outcome = .ignored) ∧
      ∀ (k : Caller) (u : Task), s.taskOf? k = some u → .completed u.id ∈ s.journal →
        (s.act k.turn).1.queue = s.queue ∧
          ∀ w, s.calls.get? k = some (.working w) → (s.act k.turn).1.roster = s.roster := by
  intro s
  have hs : s.Tried := tried_run checkpoints retry interval synced actions
  have hretry : s.retry = retry := retry_run checkpoints retry interval synced actions
  have hticks : s.TicksDriven :=
    (ticksDriven_fresh checkpoints retry interval synced).run actions
  refine ⟨?_, ?_, ?_, ?_, ?_, ?_, ?_, ?_, ?_⟩
  · intro most hmost hlt id hincomplete
    rw [← hretry] at hmost ⊢
    refine ⟨?_, ?_, hs.stalled_iff hmost hlt hincomplete⟩
    · have hbegun := hs.begun id
      have hle := hs.dispatches_le hmost hlt id
      omega
    · intro past rest now outcome hsplit count
      have hcount : count ≤ most + 1 := hs.fails_lt hmost hlt hincomplete hsplit
      have hbefore : .completed id ∉ past := by
        intro hcompleted
        exact hincomplete (hsplit ▸ List.mem_append_left _ hcompleted)
      refine ⟨hcount, ?_⟩
      rw [hs.outcome_of_incomplete hsplit hbefore]
      exact RetryPolicy.verdict_of_bound hmost hlt hcount now
  · intro hunbounded id
    rw [← hretry] at hunbounded ⊢
    constructor
    · intro n hphase
      have htells := hs.tells
      rw [hphase] at htells
      obtain ⟨hn, -, hexhausted⟩ := htells
      rw [RetryPolicy.isExhausted_of_unbounded hunbounded (by omega)] at hexhausted
      exact Bool.false_ne_true hexhausted
    · intro past rest now outcome hsplit hbefore
      rw [hs.outcome_of_incomplete hsplit hbefore, RetryPolicy.verdict,
        RetryPolicy.isExhausted_of_unbounded hunbounded (Nat.min_le_right _ _)]
      rfl
  · intro id n hphase
    exact hs.failures_eq hphase
  · intro past rest id now outcome hsplit hincomplete hnone
    exact hs.latest past id now outcome rest hsplit hincomplete hnone
  · intro before mid rest id next failedAt now outcome past hsplit hincomplete
    have hretried := hs.retried past _ rest hsplit before id failedAt outcome mid rfl hincomplete
    rwa [hretry] at hretried
  · intro before mid rest id failedAt outcome past hsplit hincomplete
    have hretried := hs.retried past _ rest hsplit before failedAt outcome mid rfl hincomplete
    rwa [hretry] at hretried
  · intro a before mid rest id failedAt outcome past hsplit hincomplete
    have hrun : (s.act a).1 = (fresh checkpoints retry interval synced).run (actions ++ [a]) := by
      rw [run_append]
      rfl
    have hs' : (s.act a).1.Tried := hrun ▸ tried_run checkpoints retry interval synced _
    have hretry' : (s.act a).1.retry = retry := hrun ▸ retry_run checkpoints retry interval synced _
    obtain ⟨now, hdispatched, hnow⟩ :=
      hs'.retried past _ rest hsplit before failedAt outcome mid rfl hincomplete
    rw [hretry'] at hnow
    have hclock := hs'.dispatchedBy id now (by simp [hsplit, past, hdispatched])
    omega
  · intro past rest id now outcome hsplit hcompleted
    exact (hs.judged past _ rest hsplit).trans (if_pos hcompleted)
  · intro k u hu hcompleted
    exact hs.turn_of_completed hticks hu hcompleted

/-- With one retry, a task whose attempts keep failing backs off once. It is dispatched again when
it has backed off, not before, and then stalls. -/
theorem run_retries_of_failing :
    let s₀ := fresh .empty { maxRetries := some 1, backoff := 50 } 200 none
    let actions : List Action := [.own (.make "savings" "w1" {}), .offer ["savings"] .genesis,
      .inject .createStore 2, .create "tick" .tick, .poll "tick", .poll "tick",
      .create "tick" .tick, .poll "tick", .wait 60, .create "tick" .tick, .poll "tick",
      .poll "tick"]
    let s := s₀.run actions
    .completed 0 ∉ s.journal ∧
      s.journal = [.accepted 0, .dispatched 0 0, .acquired (.named "tick"), .attempted 0,
        .answered (.named "tick") (.createStore 0) false, .failed 0 0 (.retry 1 50)] ++
        [.dispatched 0 60, .acquired (.named "tick"), .attempted 0,
        .answered (.named "tick") (.createStore 0) false, .failed 0 60 (.stalled 2)] ∧
      s.journal.countP (Occurrence.attempts 0) ≤ 2 ∧
      s.journal.countP (Occurrence.fails 0) = 2 ∧ s.queue.phase = .stalled 0 2 ∧ 0 + 50 ≤ 60 := by
  intro s₀ actions s
  have hs : (fresh .empty { maxRetries := some 1, backoff := 50 } 200 none).run actions = s := rfl
  obtain ⟨hbounded, -, hfailures, -, hnext, -⟩ :=
    run_retries .empty { maxRetries := some 1, backoff := 50 } 200 none actions
  rw [hs] at hbounded hfailures hnext
  have hincomplete : .completed 0 ∉ s.journal := by decide
  have hcount : s.journal.countP (Occurrence.fails 0) = 2 := by decide
  have hlt : 1 < failureLimit := by decide
  obtain ⟨hattempts, -, hstalled⟩ := hbounded 1 rfl hlt 0 hincomplete
  obtain ⟨n, hphase⟩ := hstalled.mpr hcount
  obtain rfl : n = 2 := by
    rw [hfailures 0 n (Or.inr (Or.inr hphase)), hcount]
    rfl
  have hjournal : s.journal = [.accepted 0, .dispatched 0 0, .acquired (.named "tick"),
      .attempted 0, .answered (.named "tick") (.createStore 0) false, .failed 0 0 (.retry 1 50)] ++
      [.dispatched 0 60, .acquired (.named "tick"), .attempted 0,
      .answered (.named "tick") (.createStore 0) false, .failed 0 60 (.stalled 2)] := by decide
  obtain ⟨-, hwaited, -⟩ := hnext [.accepted 0, .dispatched 0 0, .acquired (.named "tick"),
    .attempted 0, .answered (.named "tick") (.createStore 0) false] [] _ 0 0 0 60 (.retry 1 50)
    hjournal (by decide)
  exact ⟨hincomplete, hjournal, hattempts, hcount, hphase, hwaited⟩

end Scheduler

end WalletReplay
