import WalletReplay.Proofs.Scheduler.Line

/-!
# The course of the tasks

For the order in which tasks are worked on, only the queue, the journal and the tasks in line count.
A move either accepts, dispatches, attempts, completes or retires one task and says so in the
journal, or it does nothing of the kind: then the tasks in the queue stay, its phase at most falls
back, and tasks in line are at most given up.

## What is proved

* `Move.course` — what a move means for the course of the tasks.
-/

namespace WalletReplay

/-- Whether an occurrence leaves every task as far as it was. -/
def Occurrence.isAside : Occurrence → Bool
  | failed _ _ _ | acquired _ | answered _ _ _ | heard _ _ => true
  | accepted _ | dispatched _ _ | attempted _ | completed _ | retired _ => false

namespace Queue

/-- The tasks stay, and the phase is about the task that it was about or about none; it is retiring
if and only if it was. -/
structure FallsBack (q q' : Queue) : Prop where
  tasks : q'.tasks = q.tasks
  phase : ∀ id, q'.phase.task? = some id → q.phase.task? = some id
  retiring : ∀ id, q'.phase = .retiring id ↔ q.phase = .retiring id

theorem FallsBack.refl (q : Queue) : q.FallsBack q :=
  ⟨rfl, fun _ h => h, fun _ => Iff.rfl⟩

theorem FallsBack.headMatches {q q' : Queue} (h : q.FallsBack q') (hq : q.HeadMatches) :
    q'.HeadMatches := by
  intro id hid
  rw [head?, h.tasks]
  exact hq id (h.phase id hid)

theorem fallsBack_fail (q : Queue) (id : TaskId) (policy : RetryPolicy) (now : Nat) :
    q.FallsBack (q.fail id policy now).1 := by
  rcases q.fail_cases id policy now with ⟨-, h⟩ | ⟨failures, count, hphase, -, ⟨-, h⟩ | ⟨-, h⟩⟩
  · rw [h]
    exact .refl q
  all_goals
    rw [h]
    exact ⟨rfl, by simp [hphase, Phase.task?], by simp [hphase]⟩

theorem fallsBack_abandon (q : Queue) (id : TaskId) : q.FallsBack (q.abandon id).1 := by
  rcases q.abandon_cases id with ⟨-, h⟩ | ⟨failures, hphase, h⟩
  · rw [h]
    exact .refl q
  · rw [h]
    exact ⟨rfl, by simp [Phase.task?], by simp [hphase]⟩

end Queue

namespace Scheduler

variable {s s' : Scheduler}

/-- What a move means for the course of the tasks. -/
inductive Course (s s' : Scheduler) : Prop where
  /-- No task gets any further. -/
  | aside {news : List Occurrence} (hnews : ∀ o ∈ news, o.isAside = true)
      (hjournal : s'.journal = s.journal ++ news) (hcount : s'.acceptedCount = s.acceptedCount)
      (hqueue : s.queue.FallsBack s'.queue) (hline : s'.lineTasks.Sublist s.lineTasks)
  /-- A task is accepted. -/
  | accept {task : Task} {news : List Occurrence} (hnews : ∀ o ∈ news, o.isAside = true)
      (hid : task.id = s.acceptedCount) (hjournal : s'.journal = s.journal ++ .accepted task.id :: news)
      (hcount : s'.acceptedCount = s.acceptedCount + 1) (hqueue : s'.queue = s.queue.push task)
      (hline : s'.lineTasks = s.lineTasks)
  /-- The head is popped. -/
  | retire {head : Task} {rest : List Task} (hjournal : s'.journal = s.journal ++ [.retired head.id])
      (hcount : s'.acceptedCount = s.acceptedCount)
      (hretiring : s.queue = ⟨head :: rest, .retiring head.id⟩) (hqueue : s'.queue = ⟨rest, .idle⟩)
      (hline : s'.lineTasks = s.lineTasks)
  /-- The head is dispatched, and its call joins the line. -/
  | dispatch {head : Task} {failures : Nat}
      (hjournal : s'.journal = s.journal ++ [.dispatched head.id s.clock])
      (hcount : s'.acceptedCount = s.acceptedCount) (hhead : s.queue.head? = some head)
      (hready : s.queue.phase = .idle ∨ ∃ retryAt, s.queue.phase = .backoff head.id failures retryAt)
      (hqueue : s'.queue = { s.queue with phase := .running head.id failures })
      (hline : s'.lineTasks = s.lineTasks ++ [head])
  /-- An attempt begins at the first task in line. -/
  | attempt {k : Caller} {task : Task} {rest : List Task}
      (hjournal : s'.journal = s.journal ++ [.acquired k, .attempted task.id])
      (hcount : s'.acceptedCount = s.acceptedCount) (hqueue : s'.queue = s.queue)
      (hfirst : s.lineTasks = task :: rest) (hline : s'.lineTasks = s.lineTasks)
  /-- The head is completed. -/
  | complete {head : Task} {news : List Occurrence} (hnews : ∀ o ∈ news, o.isAside = true)
      (hjournal : s'.journal = s.journal ++ .completed head.id :: news)
      (hcount : s'.acceptedCount = s.acceptedCount) (hhead : s.queue.head? = some head)
      (haccepts : s.queue.phase.acceptsCompletion head.id = true)
      (hqueue : s'.queue = { s.queue with phase := .retiring head.id })
      (hline : s'.lineTasks = s.lineTasks)

/-! ### Moves that change no task -/

/-- A move that leaves the queue and the line alone. -/
theorem course_of_quiet {news : List Occurrence} (hnews : ∀ o ∈ news, o.isAside = true)
    (hjournal : s'.journal = s.journal ++ news) (hcount : s'.acceptedCount = s.acceptedCount)
    (hqueue : s'.queue = s.queue) (hline : s'.lineTasks.Sublist s.lineTasks) : Course s s' :=
  .aside hnews hjournal hcount (hqueue ▸ .refl s.queue) hline

/-- A move that is not recorded, and leaves the queue alone. -/
theorem course_of_silent (hjournal : s'.journal = s.journal)
    (hcount : s'.acceptedCount = s.acceptedCount) (hqueue : s'.queue = s.queue)
    (hline : s'.lineTasks.Sublist s.lineTasks) : Course s s' :=
  course_of_quiet (List.forall_mem_nil _) (by rw [hjournal, List.append_nil]) hcount hqueue hline

/-- A move that is not recorded, and leaves the queue and the line alone. -/
theorem course_of_eq (hjournal : s'.journal = s.journal) (hcount : s'.acceptedCount = s.acceptedCount)
    (hqueue : s'.queue = s.queue) (hline : s'.line = s.line) (hcalls : s'.calls = s.calls) :
    Course s s' :=
  course_of_silent hjournal hcount hqueue (lineTasks_congr hline (fun _ _ => by rw [hcalls]) ▸ List.Sublist.refl _)

/-- A call goes on, and with its task, if it has one. -/
theorem course_of_serve {k : Caller} {news : List Occurrence} (hnews : ∀ o ∈ news, o.isAside = true)
    (hjournal : s'.journal = s.journal ++ news) (hcount : s'.acceptedCount = s.acceptedCount)
    (hqueue : s'.queue = s.queue) {w : Work} (h : s.taskOf? k = w.task?) (hline : s'.line = s.line)
    (hcalls : s'.calls = s.calls.set k (.working w)) : Course s s' :=
  course_of_quiet hnews hjournal hcount hqueue
    (lineTasks_of_serve h hline hcalls ▸ List.Sublist.refl _)

/-! ### Steps -/

/-- What a step means for the course of the tasks. -/
theorem Step.course {k : Caller} (hs : s.InLine) (hq : s.queue.HeadMatches) (h : Step k s s') :
    Course s s' := by
  cases h with
  | rest hcall =>
    exact course_of_silent rfl rfl rfl
      (lineTasks_sublist hs (List.erase_of_not_mem (hs.notMem_of_fresh hcall)).symm rfl)
  | retire hcall hopen =>
    rcases hq.retire_cases with ⟨-, h⟩ | ⟨head, rest, hcons, h⟩
    · rw [h]
      exact course_of_eq (by simp [record, retirement]) rfl rfl rfl rfl
    · rw [h]
      exact .retire rfl rfl hcons rfl (lineTasks_congr rfl fun _ _ => rfl)
  | @dispatch task hcall hopen h =>
    rcases s.queue.dispatch_cases s.clock with hd | ⟨head, failures, hhead, hd, hready⟩
    · rw [hd] at h
      simp at h
    · rw [hd] at h
      obtain rfl := Option.some.inj h
      rw [hd]
      have hphase : s.queue.phase = .idle ∨
          ∃ retryAt, s.queue.phase = .backoff head.id failures retryAt := by
        rcases hready with ⟨hphase, -⟩ | ⟨retryAt, hphase, -⟩
        · exact Or.inl hphase
        · exact Or.inr ⟨retryAt, hphase⟩
      exact .dispatch rfl rfl hhead hphase rfl
        (lineTasks_of_join (hs.notMem_of_fresh hcall) (.replay head) rfl rfl)
  | askRegular hcall =>
    refine course_of_silent rfl rfl rfl ?_
    rw [lineTasks_of_join (hs.notMem_of_fresh hcall) .regular rfl rfl]
    simp [Errand.task?]
  | askShutdown hcall =>
    rw [callShutdown_eq]
    refine course_of_silent rfl rfl rfl ?_
    rw [lineTasks_of_join (hs.notMem_of_fresh hcall) .shutdown rfl rfl]
    simp [Errand.task?]
  | refuse hcall hclosed =>
    have hline := lineTasks_sublist hs (line_depart _ k) (calls_depart _ k)
    rw [depart_eq] at hline ⊢
    exact .aside (by simp [Occurrence.isAside]) rfl rfl (s.queue.fallsBack_abandon _) hline
  | attempt hcall hopen =>
    obtain ⟨rest, hcons⟩ := hcall.lineTasks_eq_cons
    refine .attempt rfl rfl rfl hcons (lineTasks_of_serve (k := k) ?_ rfl rfl)
    rw [taskOf?_of_waiting hcall.1, Work.task?_attempt]
    rfl
  | declineRegular | declineShutdown =>
    have hline := lineTasks_sublist hs (line_depart _ k) (calls_depart _ k)
    rw [depart_eq] at hline ⊢
    exact course_of_quiet (by simp [Occurrence.isAside]) rfl rfl rfl hline
  | beginRegular hcall =>
    refine course_of_serve (k := k) (by simp [Occurrence.isAside]) rfl rfl rfl ?_ rfl rfl
    rw [taskOf?_of_waiting hcall.1]
    split <;> rfl
  | beginShutdown hcall =>
    refine course_of_serve (k := k) (by simp [Occurrence.isAside]) rfl rfl rfl ?_ rfl rfl
    exact taskOf?_of_waiting hcall.1
  | @succeed w hcall =>
    have hnews : ∀ o ∈ [Occurrence.answered k w.call true], o.isAside = true := by
      simp [Occurrence.isAside]
    cases hnext : (w.succeed s.slot (s.hear k w true).client).next with
    | some next =>
      refine course_of_serve (k := k) hnews rfl rfl rfl ?_ rfl rfl
      rw [Work.task?_of_succeed hnext, taskOf?_of_working hcall]
    | none =>
      have hline := lineTasks_sublist hs (line_depart _ k) (calls_depart _ k)
      simp only [goOn]
      rw [depart_eq] at hline ⊢
      exact course_of_quiet hnews rfl rfl rfl hline
  | @fail w hcall =>
    have hline := lineTasks_sublist hs (line_depart _ k) (calls_depart _ k)
    rw [depart_eq] at hline ⊢
    cases w.task? with
    | some task =>
      exact .aside (by simp [Occurrence.isAside]) (List.append_assoc _ _ _) rfl
        (s.queue.fallsBack_fail _ _ _) hline
    | none => exact course_of_quiet (by simp [Occurrence.isAside]) rfl rfl rfl hline

/-! ### Offers and completions -/

/-- What busy listeners are told is aside. -/
theorem isAside_of_told {told : List (String × Bool)} :
    ∀ o ∈ told.map fun h => Occurrence.heard h.1 h.2, o.isAside = true := by
  intro o ho
  obtain ⟨h, -, rfl⟩ := List.mem_map.mp ho
  rfl

/-- Accepting a task is recorded before the busy listeners are told. -/
theorem journal_enroll (s : Scheduler) (task : Task) : ∃ told : List (String × Bool),
    (s.enroll task).journal =
      s.journal ++ .accepted task.id :: told.map fun h => .heard h.1 h.2 := by
  simp only [enroll]
  split
  · exact ⟨_, by rw [wakeOne_eq]; exact List.append_assoc _ _ _⟩
  · exact ⟨[], by rw [wakeOne_eq]; rfl⟩

/-- Completing a task is recorded before the busy listeners are told. -/
theorem journal_complete (s : Scheduler) (task : Task) : ∃ told : List (String × Bool),
    (s.complete task).journal =
      s.journal ++ .completed task.id :: told.map fun h => .heard h.1 h.2 := by
  simp only [complete]
  split
  · exact ⟨_, by rw [wakeOne_eq]; exact List.append_assoc _ _ _⟩
  · exact ⟨[], by rw [wakeOne_eq]; rfl⟩

/-! ### Moves -/

/-- **What a move means for the course of the tasks.** -/
theorem Move.course {p : Terms} (hs : s.InLine) (hq : s.queue.HeadMatches) (h : Move p s s') :
    Course s s' := by
  cases h with
  | step h => exact h.course hs hq
  | @create k kind h =>
    have hline : (s.create k kind).lineTasks = s.lineTasks :=
      lineTasks_of_notMem (hs.notMem_of_none h) rfl fun _ hl => Table.get?_set_of_ne _ hl _
    exact course_of_silent rfl rfl rfl (hline ▸ List.Sublist.refl _)
  | @discard k kind h | @drop k c hp h =>
    have hline := lineTasks_cancel hs k
    rw [cancel_of_some h] at hline ⊢
    exact course_of_silent rfl rfl rfl hline
  | enroll hp haccepts =>
    obtain ⟨told, hjournal⟩ := journal_enroll s _
    exact .accept isAside_of_told rfl hjournal (by rw [enroll_eq]) (by rw [enroll_eq])
      (by rw [enroll_eq]; exact lineTasks_congr rfl fun _ _ => rfl)
  | @complete head hhead haccepts =>
    obtain ⟨told, hjournal⟩ :=
      journal_complete { s with queue := { s.queue with phase := .completing head.id } } head
    exact .complete isAside_of_told hjournal (by rw [complete_eq]) hhead haccepts (queue_complete rfl)
      (by rw [complete_eq]; exact lineTasks_congr rfl fun _ _ => rfl)
  | own hp | listen | progress | endDownload h | inject | setHeight | wait | drivers =>
    exact course_of_eq rfl rfl rfl rfl rfl

/-- What has happened stays in the journal. -/
theorem Course.journal_prefix (h : Course s s') : s.journal <+: s'.journal := by
  cases h with
  | aside _ hjournal | accept _ _ hjournal | retire hjournal | dispatch hjournal
  | attempt hjournal | complete _ hjournal =>
    rw [hjournal]
    exact List.prefix_append _ _

/-- The phase stays about the head. -/
theorem Course.headMatches (hq : s.queue.HeadMatches) (h : Course s s') : s'.queue.HeadMatches := by
  cases h with
  | aside _ _ _ hqueue => exact hqueue.headMatches hq
  | accept _ _ _ _ hqueue =>
    rw [hqueue]
    exact hq.push _
  | retire _ _ _ hqueue =>
    rw [hqueue]
    exact Queue.headMatches_of_idle rfl
  | dispatch _ _ hhead _ hqueue =>
    rw [hqueue]
    exact Queue.headMatches_of_phase hhead (by simp [Phase.task?])
  | attempt _ _ hqueue =>
    rw [hqueue]
    exact hq
  | complete _ _ _ hhead _ hqueue =>
    rw [hqueue]
    exact Queue.headMatches_of_phase hhead (by simp [Phase.task?])

end Scheduler

end WalletReplay
