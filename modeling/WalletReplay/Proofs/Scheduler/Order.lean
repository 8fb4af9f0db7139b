import Mathlib.Data.List.Infix
import Mathlib.Data.List.Range
import WalletReplay.Proofs.Scheduler.Course

/-!
# First in, first out

Tasks are numbered as they are accepted, retire in that order, and only the oldest that has not
retired is dispatched. The attempts at them begin in that order too, although several ticks may be
in line at once: a tick may still wait for the chain when its task has completed, has been retired
by another tick, and the next task has been dispatched behind it. What carries the order over to the
attempts is that the tasks in line are in order and not younger than the head of the queue.

## What is proved

* `Ordered.move` — moves keep the order.
* `run_fifo` — what was accepted, what has retired and what is in the queue; what comes before a
  dispatch and before a retirement; the order of attempts.
-/

namespace WalletReplay

/-! ### Journals -/

namespace Occurrence

/-- The task that is accepted. -/
def accepted? : Occurrence → Option TaskId
  | accepted task => some task
  | _ => none

/-- The task that is popped. -/
def retired? : Occurrence → Option TaskId
  | retired task => some task
  | _ => none

/-- The task at which an attempt begins. -/
def attempted? : Occurrence → Option TaskId
  | attempted task => some task
  | _ => none

/-- What must have happened before. A task that is dispatched was accepted, and all that were
accepted before it have retired; a task that retires was dispatched and completed. -/
def IsDue (past : List Occurrence) : Occurrence → Prop
  | dispatched task _ => accepted task ∈ past ∧ ∀ u < task, retired u ∈ past
  | retired task => (∃ now, dispatched task now ∈ past) ∧ completed task ∈ past
  | _ => True

section Asides

variable {past news : List Occurrence} {o : Occurrence}

theorem isDue_of_isAside (h : o.isAside = true) : o.IsDue past := by
  cases o <;> trivial

theorem accepted?_of_isAside (h : o.isAside = true) : o.accepted? = none := by
  cases o <;> trivial

theorem retired?_of_isAside (h : o.isAside = true) : o.retired? = none := by
  cases o <;> trivial

theorem attempted?_of_isAside (h : o.isAside = true) : o.attempted? = none := by
  cases o <;> trivial

/-- Asides are about no task. -/
theorem filterMap_asides {f : Occurrence → Option TaskId}
    (hf : ∀ {o}, o.isAside = true → f o = none) (h : ∀ o ∈ news, o.isAside = true) :
    news.filterMap f = [] :=
  List.filterMap_eq_nil_iff.mpr fun o ho => hf (h o ho)

theorem filterMap_cons_asides {f : Occurrence → Option TaskId}
    (hf : ∀ {o}, o.isAside = true → f o = none) (h : ∀ o ∈ news, o.isAside = true)
    (o : Occurrence) : (o :: news).filterMap f = (f o).toList := by
  rw [List.filterMap_cons, filterMap_asides hf h]
  cases f o <;> rfl

end Asides

end Occurrence

/-- A list that is longer by one is split at its last entry, or where it was split before. -/
theorem split_of_concat {α : Type} {l past rest : List α} {a b : α}
    (h : l ++ [a] = past ++ b :: rest) :
    (l = past ∧ a = b ∧ rest = []) ∨ ∃ rest', rest = rest' ++ [a] ∧ l = past ++ b :: rest' := by
  rcases List.eq_nil_or_concat' rest with rfl | ⟨rest, last, rfl⟩
  · obtain ⟨rfl, hlast⟩ := List.append_inj' h rfl
    exact Or.inl ⟨rfl, List.singleton_inj.mp hlast, rfl⟩
  · have h' : l ++ [a] = (past ++ b :: rest) ++ [last] := by simpa using h
    obtain ⟨rfl, hlast⟩ := List.append_inj' h' rfl
    obtain rfl := List.singleton_inj.mp hlast
    exact Or.inr ⟨rest, rfl, rfl⟩

/-- An entry that is not among those that are added was there before. -/
theorem split_of_append {α : Type} {l news past rest : List α} {b : α}
    (h : l ++ news = past ++ b :: rest) (hb : b ∉ news) :
    ∃ rest', rest = rest' ++ news ∧ l = past ++ b :: rest' := by
  rcases List.append_eq_append_iff.mp h with ⟨mid, hpast, hnews⟩ | ⟨mid, hl, hrest⟩
  · exact absurd (by simp [hnews]) hb
  · cases mid with
    | nil =>
      rw [List.nil_append] at hrest
      exact absurd (by simp [← hrest]) hb
    | cons c mid =>
      obtain ⟨rfl, hmid⟩ := List.cons.inj hrest
      exact ⟨mid, hmid, hl⟩

/-- All that has happened met a condition on what had happened before it. -/
def Throughout (P : List Occurrence → Occurrence → Prop) (journal : List Occurrence) : Prop :=
  ∀ past o rest, journal = past ++ o :: rest → P past o

namespace Throughout

variable {P : List Occurrence → Occurrence → Prop} {journal news : List Occurrence}

theorem nil : Throughout P [] := by
  intro past o rest h
  simp at h

theorem concat (h : Throughout P journal) {o : Occurrence} (ho : P journal o) :
    Throughout P (journal ++ [o]) := by
  intro past p rest heq
  rcases split_of_concat heq with ⟨rfl, rfl, -⟩ | ⟨rest, -, rfl⟩
  · exact ho
  · exact h past p rest rfl

/-- What meets the condition whatever has happened before may happen at any time. -/
theorem append (h : Throughout P journal) (hnews : ∀ o ∈ news, ∀ past, P past o) :
    Throughout P (journal ++ news) := by
  induction news generalizing journal with
  | nil => simpa using h
  | cons o news ih =>
    have ho : P journal o := hnews o (by simp) journal
    simpa using ih (h.concat ho) fun p hp => hnews p (List.mem_cons_of_mem o hp)

end Throughout

/-- Everything in a journal was due when it happened. -/
def InSequence (journal : List Occurrence) : Prop :=
  ∀ past o rest, journal = past ++ o :: rest → o.IsDue past

theorem inSequence_nil : InSequence [] :=
  Throughout.nil

theorem InSequence.concat {journal : List Occurrence} (h : InSequence journal) {o : Occurrence}
    (ho : o.IsDue journal) : InSequence (journal ++ [o]) :=
  Throughout.concat h ho

theorem InSequence.append_asides {journal news : List Occurrence} (h : InSequence journal)
    (hnews : ∀ o ∈ news, o.isAside = true) : InSequence (journal ++ news) :=
  Throughout.append h fun o ho _ => Occurrence.isDue_of_isAside (hnews o ho)

namespace Scheduler

/-- The tasks accepted so far, in order. -/
def acceptedTasks (s : Scheduler) : List TaskId :=
  s.journal.filterMap Occurrence.accepted?

/-- The tasks popped so far, in order. -/
def retiredTasks (s : Scheduler) : List TaskId :=
  s.journal.filterMap Occurrence.retired?

/-- The tasks at which attempts have begun, one for each attempt, in order. -/
def attemptedTasks (s : Scheduler) : List TaskId :=
  s.journal.filterMap Occurrence.attempted?

/-- The tasks at which attempts have begun, and those of the calls in line, at which attempts may
begin next. -/
def attemptsAndLine (s : Scheduler) : List TaskId :=
  s.attemptedTasks ++ s.lineTasks.map (·.id)

theorem accepted_mem_journal {s : Scheduler} {id : TaskId} (h : id ∈ s.acceptedTasks) :
    .accepted id ∈ s.journal := by
  obtain ⟨o, ho, hid⟩ := List.mem_filterMap.mp h
  cases o <;> simp_all [Occurrence.accepted?]

theorem retired_mem_journal {s : Scheduler} {id : TaskId} (h : id ∈ s.retiredTasks) :
    .retired id ∈ s.journal := by
  obtain ⟨o, ho, hid⟩ := List.mem_filterMap.mp h
  cases o <;> simp_all [Occurrence.retired?]

/-! ### The order of tasks -/

/-- The order of tasks in the journal, in the queue and in line. -/
structure Ordered (s : Scheduler) : Prop where
  inLine : s.InLine
  headMatches : s.queue.HeadMatches
  accepted : s.acceptedTasks = List.range s.acceptedCount
  retired : s.retiredTasks ++ s.queue.tasks.map (·.id) = List.range s.acceptedCount
  attempts : s.attemptsAndLine.Pairwise (· ≤ ·)
  attempts_le : ∀ id ∈ s.attemptsAndLine, id ≤ s.retiredTasks.length
  sequence : InSequence s.journal
  dispatched : ∀ id, s.queue.phase.task? = some id → ∃ now, .dispatched id now ∈ s.journal
  completed : ∀ id, s.queue.phase = .retiring id → .completed id ∈ s.journal

namespace Ordered

open Occurrence

variable {s s' : Scheduler}

theorem retiredTasks_eq (hs : s.Ordered) : s.retiredTasks = List.range s.retiredTasks.length := by
  have hle : s.retiredTasks.length ≤ s.acceptedCount := by
    have := congrArg List.length hs.retired
    simp at this
    omega
  have htake := congrArg (List.take s.retiredTasks.length) hs.retired
  rwa [List.take_left, List.take_range, Nat.min_eq_left hle] at htake

/-- The tasks that have retired are the first that were accepted. -/
theorem mem_retiredTasks_iff (hs : s.Ordered) {id : TaskId} :
    id ∈ s.retiredTasks ↔ id < s.retiredTasks.length := by
  rw [hs.retiredTasks_eq]
  simp

/-- The head has as many tasks before it as have retired. -/
theorem head_id (hs : s.Ordered) {head : Task} (h : s.queue.head? = some head) :
    head.id = s.retiredTasks.length := by
  obtain ⟨rest, hcons⟩ := List.head?_eq_some_iff.mp h
  have hget := congrArg (fun ids => ids[s.retiredTasks.length]?) hs.retired
  simp only [hcons, List.map_cons] at hget
  rw [List.getElem?_append_right (Nat.le_refl _)] at hget
  have hid : s.retiredTasks.length < s.acceptedCount ∧ s.retiredTasks.length = head.id := by
    simpa [List.getElem?_eq_some_iff] using hget.symm
  exact hid.2.symm

/-- The tasks in the queue are in the order of their numbers. -/
theorem ids_pairwise (hs : s.Ordered) : s.queue.tasks.Pairwise (·.id < ·.id) := by
  have hrange : (s.retiredTasks ++ s.queue.tasks.map (·.id)).Pairwise (· < ·) :=
    hs.retired ▸ List.pairwise_lt_range
  exact List.pairwise_map.mp (List.pairwise_append.mp hrange).2.1

/-- A task in the queue that was dispatched is the head. -/
theorem head_of_dispatched (hs : s.Ordered) {t : Task} (ht : t ∈ s.queue.tasks) {now : Nat}
    (h : .dispatched t.id now ∈ s.journal) : s.queue.head? = some t := by
  obtain ⟨past, rest, hsplit⟩ := List.append_of_mem h
  have hbefore : ∀ u < t.id, u ∈ s.retiredTasks := by
    intro u hu
    have hretired : .retired u ∈ past := (hs.sequence past _ rest hsplit).2 u hu
    refine List.mem_filterMap.mpr ⟨.retired u, ?_, rfl⟩
    rw [hsplit]
    exact List.mem_append_left _ hretired
  cases hcons : s.queue.tasks with
  | nil => simp [hcons] at ht
  | cons head tasks =>
    have hhead : s.queue.head? = some head := by rw [Queue.head?, hcons, List.head?_cons]
    rw [hcons] at ht
    rcases List.mem_cons.mp ht with rfl | ht
    · exact hhead
    -- The head comes before the task, so it would have retired.
    · have hlt : head.id < t.id := by
        have hids := hs.ids_pairwise
        rw [hcons, List.pairwise_cons] at hids
        exact hids.1 t ht
      have hretired := hs.mem_retiredTasks_iff.mp (hbefore head.id hlt)
      rw [hs.head_id hhead] at hretired
      exact absurd hretired (Nat.lt_irrefl _)

theorem accepted_course (hs : s.Ordered) (h : Course s s') :
    s'.acceptedTasks = List.range s'.acceptedCount := by
  have hold := hs.accepted
  rw [acceptedTasks] at hold ⊢
  cases h with
  | aside hnews hjournal hcount =>
    rw [hjournal, hcount, List.filterMap_append, hold,
      filterMap_asides accepted?_of_isAside hnews, List.append_nil]
  | accept hnews hid hjournal hcount =>
    rw [hjournal, hcount, List.filterMap_append, hold,
      filterMap_cons_asides accepted?_of_isAside hnews, List.range_succ, hid]
    rfl
  | retire hjournal hcount | dispatch hjournal hcount | attempt hjournal hcount =>
    rw [hjournal, hcount, List.filterMap_append, hold]
    exact List.append_nil _
  | complete hnews hjournal hcount =>
    rw [hjournal, hcount, List.filterMap_append, hold,
      filterMap_cons_asides accepted?_of_isAside hnews]
    exact List.append_nil _

theorem retired_course (hs : s.Ordered) (h : Course s s') :
    s'.retiredTasks ++ s'.queue.tasks.map (·.id) = List.range s'.acceptedCount := by
  have hold := hs.retired
  rw [retiredTasks] at hold ⊢
  cases h with
  | aside hnews hjournal hcount hqueue =>
    rw [hjournal, hcount, hqueue.tasks, List.filterMap_append,
      filterMap_asides retired?_of_isAside hnews, List.append_nil, hold]
  | accept hnews hid hjournal hcount hqueue =>
    rw [hjournal, hcount, hqueue, List.filterMap_append,
      filterMap_cons_asides retired?_of_isAside hnews, List.range_succ, ← hold]
    simp [retired?, Queue.push, hid]
  | retire hjournal hcount hretiring hqueue =>
    rw [hjournal, hcount, hqueue, ← hold, hretiring]
    simp [retired?]
  | dispatch hjournal hcount _ _ hqueue | attempt hjournal hcount hqueue =>
    rw [hjournal, hcount, hqueue, ← hold]
    simp [retired?]
  | complete hnews hjournal hcount _ _ hqueue =>
    rw [hjournal, hcount, hqueue, List.filterMap_append,
      filterMap_cons_asides retired?_of_isAside hnews, ← hold]
    simp [retired?]

/-- An attempt doubles the first task in line, a dispatch puts the head behind all others, and
other moves at most take tasks out. -/
theorem attemptsAndLine_course (h : Course s s') : s'.attemptsAndLine.Sublist s.attemptsAndLine ∨
    (∃ head, s.queue.head? = some head ∧ s'.attemptsAndLine = s.attemptsAndLine ++ [head.id]) ∨
    ∃ id rest, s.attemptsAndLine = s.attemptedTasks ++ id :: rest ∧
      s'.attemptsAndLine = s.attemptedTasks ++ id :: id :: rest := by
  simp only [attemptsAndLine, attemptedTasks]
  cases h with
  | aside hnews hjournal _ _ hline =>
    refine Or.inl ?_
    rw [hjournal, List.filterMap_append, filterMap_asides attempted?_of_isAside hnews,
      List.append_nil]
    exact (hline.map _).append_left _
  | accept hnews _ hjournal _ _ hline | complete hnews hjournal _ _ _ _ hline =>
    refine Or.inl ?_
    rw [hjournal, List.filterMap_append, filterMap_cons_asides attempted?_of_isAside hnews, hline]
    simp [attempted?]
  | retire hjournal _ _ _ hline =>
    refine Or.inl ?_
    rw [hjournal, hline]
    simp [attempted?]
  | dispatch hjournal _ hhead _ _ hline =>
    refine Or.inr (Or.inl ⟨_, hhead, ?_⟩)
    rw [hjournal, hline]
    simp [attempted?]
  | attempt hjournal _ _ hfirst hline =>
    refine Or.inr (Or.inr ⟨_, _, by rw [hfirst, List.map_cons], ?_⟩)
    rw [hjournal, hline, hfirst, List.filterMap_append, List.append_assoc]
    rfl

theorem attempts_course (hs : s.Ordered) (h : Course s s') :
    s'.attemptsAndLine.Pairwise (· ≤ ·) := by
  have hold := hs.attempts
  rcases attemptsAndLine_course h with hsub | ⟨head, hhead, heq⟩ | ⟨id, rest, heq, heq'⟩
  · exact hold.sublist hsub
  -- Nothing in line is younger than the head.
  · rw [heq, List.pairwise_append]
    refine ⟨hold, List.pairwise_singleton _ _, fun id hid u hu => ?_⟩
    rw [List.mem_singleton.mp hu, hs.head_id hhead]
    exact hs.attempts_le id hid
  -- The first in line is not older than any attempt, and attempted once more.
  · rw [heq, List.pairwise_append, List.pairwise_cons] at hold
    obtain ⟨hattempted, ⟨hle, hrest⟩, hcross⟩ := hold
    rw [heq', List.pairwise_append, List.pairwise_cons, List.pairwise_cons]
    refine ⟨hattempted, ⟨fun u hu => ?_, hle, hrest⟩, fun u hu v hv => hcross u hu v ?_⟩
    · rcases List.mem_cons.mp hu with rfl | hu
      · exact Nat.le_refl _
      · exact hle u hu
    · simpa using hv

theorem attempts_le_course (hs : s.Ordered) (h : Course s s') :
    ∀ id ∈ s'.attemptsAndLine, id ≤ s'.retiredTasks.length := by
  intro id hid
  have hlength : s.retiredTasks.length ≤ s'.retiredTasks.length :=
    (h.journal_prefix.filterMap _).length_le
  refine Nat.le_trans ?_ hlength
  rcases attemptsAndLine_course h with hsub | ⟨head, hhead, heq⟩ | ⟨u, rest, heq, heq'⟩
  · exact hs.attempts_le id (hsub.subset hid)
  · rw [heq, List.mem_append, List.mem_singleton] at hid
    rcases hid with hid | rfl
    · exact hs.attempts_le id hid
    · exact Nat.le_of_eq (hs.head_id hhead)
  · refine hs.attempts_le id ?_
    rw [heq'] at hid
    rw [heq]
    simpa using hid

theorem sequence_course (hs : s.Ordered) (h : Course s s') : InSequence s'.journal := by
  have hold := hs.sequence
  cases h with
  | aside hnews hjournal =>
    rw [hjournal]
    exact hold.append_asides hnews
  | @accept task news hnews _ hjournal =>
    rw [hjournal, List.append_cons]
    exact (hold.concat (o := .accepted task.id) trivial).append_asides hnews
  | @complete head news hnews hjournal =>
    rw [hjournal, List.append_cons]
    exact (hold.concat (o := .completed head.id) trivial).append_asides hnews
  | @retire head rest hjournal _ hretiring =>
    rw [hjournal]
    refine hold.concat ⟨hs.dispatched _ ?_, hs.completed _ ?_⟩
    · rw [hretiring]
      rfl
    · rw [hretiring]
  | @dispatch head failures hjournal _ hhead =>
    rw [hjournal]
    refine hold.concat ⟨?_, fun u hu => ?_⟩
    · refine accepted_mem_journal ?_
      rw [hs.accepted, ← hs.retired]
      exact List.mem_append_right _ (List.mem_map_of_mem (List.mem_of_head? hhead))
    · refine retired_mem_journal (hs.mem_retiredTasks_iff.mpr ?_)
      rwa [← hs.head_id hhead]
  | @attempt k task rest hjournal =>
    rw [hjournal, List.append_cons]
    exact (hold.concat (o := .acquired k) trivial).concat (o := .attempted task.id) trivial

theorem dispatched_course (hs : s.Ordered) (h : Course s s') :
    ∀ id, s'.queue.phase.task? = some id → ∃ now, .dispatched id now ∈ s'.journal := by
  intro id hid
  have hkept : s.queue.phase.task? = some id → ∃ now, .dispatched id now ∈ s'.journal := by
    intro hphase
    obtain ⟨now, hnow⟩ := hs.dispatched id hphase
    exact ⟨now, h.journal_prefix.subset hnow⟩
  cases h with
  | aside _ _ _ hqueue => exact hkept (hqueue.phase id hid)
  | accept _ _ _ _ hqueue | attempt _ _ hqueue =>
    rw [hqueue] at hid
    exact hkept hid
  | retire _ _ _ hqueue =>
    rw [hqueue] at hid
    simp [Phase.task?] at hid
  | dispatch hjournal _ _ _ hqueue =>
    rw [hqueue] at hid
    obtain rfl := Option.some.inj hid
    exact ⟨s.clock, by simp [hjournal]⟩
  | @complete head _ _ _ _ hhead haccepts hqueue =>
    rw [hqueue] at hid
    obtain rfl := Option.some.inj hid
    refine hkept ?_
    rcases (Phase.acceptsCompletion_iff _ _).mp haccepts with ⟨n, h⟩ | ⟨n, t, h⟩ | ⟨n, h⟩ <;>
      rw [h] <;> rfl

theorem completed_course (hs : s.Ordered) (h : Course s s') :
    ∀ id, s'.queue.phase = .retiring id → .completed id ∈ s'.journal := by
  intro id hid
  have hkept : s.queue.phase = .retiring id → .completed id ∈ s'.journal :=
    fun hphase => h.journal_prefix.subset (hs.completed id hphase)
  cases h with
  | aside _ _ _ hqueue => exact hkept ((hqueue.retiring id).mp hid)
  | accept _ _ _ _ hqueue | attempt _ _ hqueue =>
    rw [hqueue] at hid
    exact hkept hid
  | retire _ _ _ hqueue | dispatch _ _ _ _ hqueue =>
    rw [hqueue] at hid
    simp at hid
  | complete _ hjournal _ _ _ hqueue =>
    rw [hqueue] at hid
    obtain rfl := Phase.retiring.inj hid
    simp [hjournal]

/-- **Moves keep the order.** -/
theorem move {p : Terms} (hs : s.Ordered) (h : Move p s s') : s'.Ordered :=
  have hc := h.course hs.inLine hs.headMatches
  { inLine := hs.inLine.move h
    headMatches := hc.headMatches hs.headMatches
    accepted := hs.accepted_course hc
    retired := hs.retired_course hc
    attempts := hs.attempts_course hc
    attempts_le := hs.attempts_le_course hc
    sequence := hs.sequence_course hc
    dispatched := hs.dispatched_course hc
    completed := hs.completed_course hc }

end Ordered

theorem ordered_fresh (checkpoints : Checkpoints) (retry : RetryPolicy) (interval : Nat)
    (synced : Option Height) : (fresh checkpoints retry interval synced).Ordered := by
  have hinLine := inLine_fresh checkpoints retry interval synced
  cases synced <;> exact
    { inLine := hinLine
      headMatches := Queue.headMatches_of_idle rfl
      accepted := rfl
      retired := rfl
      attempts := List.Pairwise.nil
      attempts_le := fun _ h => absurd h (by simp [attemptsAndLine, attemptedTasks, lineTasks,
        fresh, start, startSynced])
      sequence := inSequence_nil
      dispatched := fun _ h => by simp [fresh, start, startSynced, Phase.task?] at h
      completed := fun _ h => by simp [fresh, start, startSynced] at h }

/-! ### Offers -/

/-- The task that an action makes, if it is an offer that is accepted. -/
def madeBy? (s : Scheduler) : Action → Option Task
  | .offer handles target =>
    let request : Request := { wallets := s.heldWallets handles, target }
    (s.offer request).2.map fun id => request.toTask id s.checkpoints
  | _ => none

/-- The tasks that the offers among some actions make, in order. -/
def offeredTasks : Scheduler → List Action → List Task
  | _, [] => []
  | s, a :: actions => (s.madeBy? a).toList ++ (s.act a).1.offeredTasks actions

variable {s s' : Scheduler}

theorem Move.checkpoints_eq {p : Terms} (h : Move p s s') : s'.checkpoints = s.checkpoints := by
  cases h with
  | step h => exact h.untouched.checkpoints
  | discard h | drop _ h => rw [cancel_of_some h]
  | enroll => rw [enroll_eq]
  | complete => rw [complete_eq]
  | create | own | listen | progress | endDownload | inject | setHeight | wait | drivers => rfl

/-- The checkpoints never change. -/
theorem checkpoints_of_moves {p : Terms} (h : Relation.ReflTransGen (Move p) s s') :
    s'.checkpoints = s.checkpoints :=
  moves_invariant (I := fun t => t.checkpoints = s.checkpoints)
    (fun hs h => h.checkpoints_eq.trans hs) rfl h

theorem checkpoints_run (checkpoints : Checkpoints) (retry : RetryPolicy) (interval : Nat)
    (synced : Option Height) (actions : List Action) :
    ((fresh checkpoints retry interval synced).run actions).checkpoints = checkpoints := by
  have hticks := ticksDriven_fresh checkpoints retry interval synced
  have hfresh : (fresh checkpoints retry interval synced).checkpoints = checkpoints := by
    cases synced <;> rfl
  exact (checkpoints_of_moves (moves_run hticks actions)).trans hfresh

theorem start_of_madeBy? {a : Action} {t : Task} (h : s.madeBy? a = some t) :
    t.start = s.checkpoints.resolve t.target := by
  cases a with
  | offer handles target =>
    obtain ⟨id, -, rfl⟩ := Option.map_eq_some_iff.mp h
    rfl
  | own | listen | notify | create | poll | cancel | spawn | drive | inject | progress | finish
  | setHeight | wait => simp [madeBy?] at h

/-- A task starts from the checkpoint that its target was resolved to when it was offered, and the
checkpoints never change. -/
theorem start_of_mem_offeredTasks (hticks : s.TicksDriven) {actions : List Action} {t : Task}
    (h : t ∈ s.offeredTasks actions) : t.start = s.checkpoints.resolve t.target := by
  induction actions generalizing s with
  | nil => simp [offeredTasks] at h
  | cons a actions ih =>
    rcases List.mem_append.mp h with h | h
    · exact start_of_madeBy? (Option.mem_toList.mp h)
    · rw [ih (hticks.act a) h, checkpoints_of_moves (act_moves hticks (within_default s a))]

theorem Move.acceptedCount {p : Terms} (hp : ¬ p.offer) (h : Move p s s') :
    s'.acceptedCount = s.acceptedCount := by
  cases h with
  | step h => exact h.untouched.acceptedCount
  | discard h | drop _ h => rw [cancel_of_some h]
  | enroll hoffer => exact absurd hoffer hp
  | complete => rw [complete_eq]
  | create | own | listen | progress | endDownload | inject | setHeight | wait | drivers => rfl

/-- When no task is accepted, the queue can only lose its head. -/
theorem Course.tasks_suffix (h : Course s s') (hcount : s'.acceptedCount = s.acceptedCount) :
    s'.queue.tasks <:+ s.queue.tasks := by
  cases h with
  | aside _ _ _ hqueue => exact hqueue.tasks ▸ List.suffix_rfl
  | accept _ _ _ hcount' => omega
  | retire _ _ hretiring hqueue =>
    rw [hretiring, hqueue]
    exact List.suffix_cons _ _
  | dispatch _ _ _ _ hqueue | attempt _ _ hqueue | complete _ _ _ _ _ hqueue =>
    rw [hqueue]

/-- An action that makes no task loses at most tasks that have retired. -/
theorem Ordered.moves_suffix {p : Terms} (hp : ¬ p.offer) (hs : s.Ordered)
    (h : Relation.ReflTransGen (Move p) s s') :
    s'.Ordered ∧ s'.queue.tasks <:+ s.queue.tasks ∧ s'.acceptedCount = s.acceptedCount := by
  induction h with
  | refl => exact ⟨hs, List.suffix_rfl, rfl⟩
  | tail _ h ih =>
    obtain ⟨ht, hsuffix, hcount⟩ := ih
    have hc := h.course ht.inLine ht.headMatches
    have hcount' := h.acceptedCount hp
    exact ⟨ht.move h, (hc.tasks_suffix hcount').trans hsuffix, hcount'.trans hcount⟩

/-- The terms under which no request is offered. -/
def noOffer : Terms where
  offer := False

/-- An action that is not an offer makes no task, and makes its moves without accepting one. -/
theorem madeBy?_of_not_offer (s : Scheduler) {a : Action}
    (h : ∀ handles target, a ≠ .offer handles target) :
    s.madeBy? a = none ∧ Within noOffer s a := by
  cases a with
  | offer handles target => exact absurd rfl (h handles target)
  | create name kind | cancel name => exact ⟨rfl, fun _ => trivial⟩
  | own | listen | notify | poll | spawn | drive | inject | progress | finish | setHeight | wait =>
    exact ⟨rfl, trivial⟩

/-- What an action makes of the tasks: it may put the one that it makes behind the others, and take
some away at the front. -/
structure TasksAfter (s s' : Scheduler) (made : List Task) : Prop where
  ordered : s'.Ordered
  tasks : s'.queue.tasks <:+ s.queue.tasks ++ made
  count : s'.acceptedCount = s.acceptedCount + made.length
  ids : made.map (·.id) = List.range' s.acceptedCount made.length

theorem TasksAfter.trans {s t u : Scheduler} {made more : List Task} (h : TasksAfter s t made)
    (h' : TasksAfter t u more) : TasksAfter s u (made ++ more) where
  ordered := h'.ordered
  tasks := by
    obtain ⟨gone, hgone⟩ := h.tasks
    refine h'.tasks.trans ⟨gone, ?_⟩
    rw [← List.append_assoc, hgone, List.append_assoc]
  count := by
    rw [h'.count, h.count, List.length_append, Nat.add_assoc]
  ids := by
    rw [List.map_append, h.ids, h'.ids, h.count, List.length_append, List.range'_append_1]

theorem Ordered.act (hs : s.Ordered) (hticks : s.TicksDriven) (a : Action) :
    TasksAfter s (s.act a).1 (s.madeBy? a).toList := by
  by_cases hoffer : ∃ handles target, a = .offer handles target
  · obtain ⟨handles, target, rfl⟩ := hoffer
    have hordered : (s.act (.offer handles target)).1.Ordered :=
      moves_invariant (p := {}) Ordered.move hs (act_moves hticks trivial)
    simp only [Scheduler.act, madeBy?, offer] at hordered ⊢
    split_ifs at hordered ⊢
    · exact ⟨hordered, by simp [queue_enroll, Queue.push], by rw [enroll_eq]; rfl, rfl⟩
    · exact ⟨hordered, by simp, rfl, rfl⟩
  · obtain ⟨hnone, hwithin⟩ := s.madeBy?_of_not_offer fun handles target h =>
      hoffer ⟨handles, target, h⟩
    obtain ⟨hordered, hsuffix, hcount⟩ := hs.moves_suffix not_false (act_moves hticks hwithin)
    rw [hnone]
    exact ⟨hordered, by simpa using hsuffix, hcount, rfl⟩

theorem Ordered.run (hs : s.Ordered) (hticks : s.TicksDriven) (actions : List Action) :
    TasksAfter s (s.run actions) (s.offeredTasks actions) := by
  induction actions generalizing s with
  | nil => exact ⟨hs, by simp [offeredTasks], rfl, rfl⟩
  | cons a actions ih =>
    have hact := hs.act hticks a
    exact hact.trans (ih hact.ordered (hticks.act a))

/-- **First in, first out.** After any run, the tasks that were offered and accepted are numbered in
the order of the offers; those that have retired, in order of retirement, followed by those in the
queue, are all of them, each once. A task is dispatched only after all that were accepted before it
have retired, and retires only after it was dispatched and completed. Attempts begin in the order of
the offers, repeated attempts at one task next to each other. -/
theorem run_fifo (checkpoints : Checkpoints) (retry : RetryPolicy) (interval : Nat)
    (synced : Option Height) (actions : List Action) :
    let s₀ := fresh checkpoints retry interval synced
    let s := s₀.run actions
    let offered := s₀.offeredTasks actions
    offered.map (·.id) = List.range offered.length ∧ s.acceptedTasks = offered.map (·.id) ∧
      (∃ gone, offered = gone ++ s.queue.tasks ∧ s.retiredTasks = gone.map (·.id)) ∧
      (∀ past task now rest, s.journal = past ++ .dispatched task now :: rest →
        .accepted task ∈ past ∧ ∀ u < task, .retired u ∈ past) ∧
      (∀ past task rest, s.journal = past ++ .retired task :: rest →
        (∃ now, .dispatched task now ∈ past) ∧ .completed task ∈ past) ∧
      s.attemptedTasks.Pairwise (· ≤ ·) := by
  intro s₀ s offered
  have h₀ : s₀.Ordered := ordered_fresh checkpoints retry interval synced
  have hzero : s₀.acceptedCount = 0 ∧ s₀.queue.tasks = [] := by cases synced <;> exact ⟨rfl, rfl⟩
  obtain ⟨hs, htasks, hcount, hids⟩ : TasksAfter s₀ s offered :=
    h₀.run (ticksDriven_fresh checkpoints retry interval synced) actions
  rw [hzero.1, ← List.range_eq_range'] at hids
  rw [hzero.1, Nat.zero_add] at hcount
  rw [hzero.2, List.nil_append] at htasks
  obtain ⟨gone, hgone⟩ := htasks
  refine ⟨hids, by rw [hs.accepted, hcount, hids], ⟨gone, hgone.symm, ?_⟩, ?_, ?_, ?_⟩
  · have hretired := hs.retired
    rw [hcount, ← hids, ← hgone, List.map_append] at hretired
    exact List.append_cancel_right hretired
  · exact fun past task now rest h => hs.sequence past _ rest h
  · exact fun past task rest h => hs.sequence past _ rest h
  · exact hs.attempts.sublist (List.sublist_append_left _ _)

end Scheduler

end WalletReplay
