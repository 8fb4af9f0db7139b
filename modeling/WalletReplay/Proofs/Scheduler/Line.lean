import Mathlib.Data.List.Basic
import WalletReplay.Proofs.Scheduler.Move

/-!
# The line before the chain

The callers in line are those whose calls have begun, and only the first of them works. So the tasks
that the calls in line have dispatched form a list in the order of the line: a dispatch appends to
it, whoever leaves takes its own task out, and an attempt begins only at its front.

## What is proved

* `InLine.move` — moves keep the line as it should be.
* `lineTasks_of_join`, `lineTasks_of_serve`, `lineTasks_of_leave_head`, `lineTasks_sublist` — how the
  tasks in line change.
-/

namespace WalletReplay.Scheduler

/-- The callers in line are those whose calls have begun, each once, and a call that works is that
of the first. -/
structure InLine (s : Scheduler) : Prop where
  nodup : s.line.Nodup
  mem_iff : ∀ k, k ∈ s.line ↔ ∃ c, s.calls.get? k = some c ∧ c.isBegun = true
  head_of_working : ∀ {k w}, s.calls.get? k = some (.working w) → s.line.head? = some k

/-- The task that the call of a caller has dispatched and not finished with. -/
def taskOf? (s : Scheduler) (k : Caller) : Option Task :=
  (s.calls.get? k).bind Call.task?

/-- The tasks of the calls in line, in the order of the line. -/
def lineTasks (s : Scheduler) : List Task :=
  s.line.filterMap s.taskOf?

/-! ### The line -/

namespace InLine

variable {s s' : Scheduler} {k : Caller}

/-- Only the line and the calls count. -/
theorem congr (hs : s.InLine) (hline : s'.line = s.line) (hcalls : s'.calls = s.calls) :
    s'.InLine := by
  obtain ⟨hnodup, hmem, hhead⟩ := hs
  exact ⟨hline ▸ hnodup, hline ▸ hcalls ▸ hmem, hline ▸ hcalls ▸ hhead⟩

/-- Only the first in line works. -/
theorem eq_of_working (hs : s.InLine) (h : s.line.head? = some k) {l : Caller} {w : Work}
    (hw : s.calls.get? l = some (.working w)) : l = k :=
  Option.some.inj ((hs.head_of_working hw).symm.trans h)

theorem notMem_of_fresh (hs : s.InLine) {kind : CallKind}
    (h : s.calls.get? k = some (.fresh kind)) : k ∉ s.line := by
  intro hk
  obtain ⟨c, hc, hbegun⟩ := (hs.mem_iff k).mp hk
  rw [h] at hc
  obtain rfl := Option.some.inj hc
  simp [Call.isBegun] at hbegun

theorem notMem_of_none (hs : s.InLine) (h : s.calls.get? k = none) : k ∉ s.line := by
  intro hk
  obtain ⟨c, hc, -⟩ := (hs.mem_iff k).mp hk
  rw [h] at hc
  simp at hc

/-- A call is made that has not begun. -/
theorem make (hs : s.InLine) (h : s.calls.get? k = none) {kind : CallKind}
    (hline : s'.line = s.line) (hcalls : s'.calls = s.calls.set k (.fresh kind)) : s'.InLine where
  nodup := hline ▸ hs.nodup
  mem_iff l := by
    rw [hline, hcalls, Table.get?_set]
    by_cases hl : l = k
    · subst hl
      simp [Call.isBegun, hs.notMem_of_none h]
    · simpa [hl] using hs.mem_iff l
  head_of_working {l w} hw := by
    rw [hcalls, Table.get?_set] at hw
    split_ifs at hw
    · simp at hw
    · rw [hline]
      exact hs.head_of_working hw

/-- A call that has not begun joins the line. -/
theorem join (hs : s.InLine) {kind : CallKind} (h : s.calls.get? k = some (.fresh kind))
    {errand : Errand} (hline : s'.line = s.line ++ [k])
    (hcalls : s'.calls = s.calls.set k (.waiting errand)) : s'.InLine where
  nodup := by
    rw [hline, List.nodup_append]
    refine ⟨hs.nodup, by simp, fun l hl m hm heq => ?_⟩
    rw [List.mem_singleton.mp hm] at heq
    exact hs.notMem_of_fresh h (heq ▸ hl)
  mem_iff l := by
    rw [hline, hcalls, Table.get?_set]
    by_cases hl : l = k
    · subst hl
      simp [Call.isBegun]
    · simpa [hl] using hs.mem_iff l
  head_of_working {l w} hw := by
    rw [hcalls, Table.get?_set] at hw
    split_ifs at hw
    · simp at hw
    · simp [hline, List.head?_append, hs.head_of_working hw]

/-- The first in line goes on to work. -/
theorem serve (hs : s.InLine) (h : s.line.head? = some k) {w : Work} (hline : s'.line = s.line)
    (hcalls : s'.calls = s.calls.set k (.working w)) : s'.InLine where
  nodup := hline ▸ hs.nodup
  mem_iff l := by
    rw [hline, hcalls, Table.get?_set]
    by_cases hl : l = k
    · subst hl
      simp [Call.isBegun, List.mem_of_head? h]
    · simpa [hl] using hs.mem_iff l
  head_of_working {l v} hw := by
    rw [hcalls, Table.get?_set] at hw
    rw [hline]
    split_ifs at hw with hl
    · rw [hl]
      exact h
    · exact hs.head_of_working hw

/-- A call is over. -/
theorem leave (hs : s.InLine) (hline : s'.line = s.line.erase k)
    (hcalls : s'.calls = s.calls.erase k) : s'.InLine where
  nodup := hline ▸ hs.nodup.erase k
  mem_iff l := by
    rw [hline, hcalls, hs.nodup.mem_erase_iff, Table.get?_erase]
    by_cases hl : l = k
    · simp [hl]
    · simpa [hl] using hs.mem_iff l
  head_of_working {l w} hw := by
    rw [hcalls, Table.get?_erase] at hw
    split_ifs at hw with hl
    have hhead := hs.head_of_working hw
    obtain ⟨rest, hcons⟩ := List.head?_eq_some_iff.mp hhead
    rw [hline, hcons]
    simp [hl]

theorem cancel (hs : s.InLine) (k : Caller) : (s.cancel k).1.InLine := by
  cases h : s.calls.get? k with
  | none =>
    rw [cancel_of_none h]
    exact hs
  | some c => exact hs.leave (k := k) (by rw [cancel_of_some h]) (by rw [cancel_of_some h])

theorem step (hs : s.InLine) (h : Step k s s') : s'.InLine := by
  cases h with
  | rest hcall => exact hs.leave (List.erase_of_not_mem (hs.notMem_of_fresh hcall)).symm rfl
  | retire => exact hs.congr rfl rfl
  | dispatch hcall => exact hs.join hcall rfl rfl
  | askRegular hcall => exact hs.join hcall rfl rfl
  | askShutdown hcall =>
    rw [callShutdown_eq]
    exact hs.join hcall rfl rfl
  | refuse | declineRegular | declineShutdown => exact hs.leave (line_depart _ k) (calls_depart _ k)
  | attempt hcall | beginRegular hcall | beginShutdown hcall => exact hs.serve hcall.2 rfl rfl
  | @succeed w hcall =>
    cases (w.succeed s.slot (s.hear k w true).client).next with
    | some next => exact hs.serve (hs.head_of_working hcall) rfl rfl
    | none => exact hs.leave (line_depart _ k) (calls_depart _ k)
  | fail =>
    rw [countFailure_eq]
    exact hs.leave (line_depart _ k) (calls_depart _ k)

/-- Moves keep the line. -/
theorem move {p : Terms} (hs : s.InLine) (h : Move p s s') : s'.InLine := by
  cases h with
  | step h => exact hs.step h
  | create kind h => exact hs.make h rfl rfl
  | discard h => exact hs.cancel _
  | drop hp h => exact hs.cancel _
  | enroll hp h =>
    rw [enroll_eq]
    exact hs.congr rfl rfl
  | complete =>
    rw [complete_eq]
    exact hs.congr rfl rfl
  | own hp | listen | progress | endDownload h | inject | setHeight | wait | drivers =>
    exact hs.congr rfl rfl

end InLine

theorem inLine_fresh (checkpoints : Checkpoints) (retry : RetryPolicy) (interval : Nat)
    (synced : Option Height) : (fresh checkpoints retry interval synced).InLine := by
  cases synced <;> exact ⟨List.nodup_nil, by simp [fresh, start, startSynced, Table.get?],
    by simp [fresh, start, startSynced, Table.get?]⟩

/-! ### The tasks in line -/

variable {s : Scheduler} {k : Caller}

theorem taskOf?_of_waiting {errand : Errand} (h : s.calls.get? k = some (.waiting errand)) :
    s.taskOf? k = errand.task? := by
  rw [taskOf?, h]
  rfl

theorem taskOf?_of_working {w : Work} (h : s.calls.get? k = some (.working w)) :
    s.taskOf? k = w.task? := by
  rw [taskOf?, h]
  rfl

theorem filterMap_taskOf?_congr {s s' : Scheduler} {line : List Caller}
    (h : ∀ l ∈ line, s'.calls.get? l = s.calls.get? l) :
    line.filterMap s'.taskOf? = line.filterMap s.taskOf? :=
  List.filterMap_congr fun l hl => by rw [taskOf?, taskOf?, h l hl]

/-- When no call is in progress, no tick is in line. -/
theorem lineTasks_of_quiet (hs : s.InLine)
    (hquiet : ∀ k c, s.calls.get? k = some c → c.isBegun = false) : s.lineTasks = [] := by
  have hline : s.line = [] := by
    refine List.eq_nil_iff_forall_not_mem.mpr fun k hk => ?_
    obtain ⟨c, hc, hbegun⟩ := (hs.mem_iff k).mp hk
    simp [hquiet k c hc] at hbegun
  rw [lineTasks, hline, List.filterMap_nil]

/-- Only the line and the calls in it count. -/
theorem lineTasks_congr {s s' : Scheduler} (hline : s'.line = s.line)
    (hcalls : ∀ l ∈ s.line, s'.calls.get? l = s.calls.get? l) : s'.lineTasks = s.lineTasks := by
  rw [lineTasks, hline]
  exact filterMap_taskOf?_congr hcalls

/-- A call that is not in line does not count. -/
theorem lineTasks_of_notMem {s s' : Scheduler} (h : k ∉ s.line) (hline : s'.line = s.line)
    (hcalls : ∀ l, l ≠ k → s'.calls.get? l = s.calls.get? l) : s'.lineTasks = s.lineTasks :=
  lineTasks_congr hline fun l hl => hcalls l (ne_of_mem_of_not_mem hl h)

/-- A caller that joins the line brings its task. -/
theorem lineTasks_of_join {s s' : Scheduler} (h : k ∉ s.line) (errand : Errand)
    (hline : s'.line = s.line ++ [k]) (hcalls : s'.calls = s.calls.set k (.waiting errand)) :
    s'.lineTasks = s.lineTasks ++ errand.task?.toList := by
  have hothers : s.line.filterMap s'.taskOf? = s.lineTasks := by
    refine filterMap_taskOf?_congr fun l hl => ?_
    rw [hcalls]
    exact Table.get?_set_of_ne _ (ne_of_mem_of_not_mem hl h) _
  have hself : s'.taskOf? k = errand.task? :=
    taskOf?_of_waiting (by rw [hcalls, Table.get?_set_self])
  rw [lineTasks, hline, List.filterMap_append, hothers]
  cases herrand : errand.task? <;> simp [hself, herrand]

/-- A call that goes on with its task keeps its place. -/
theorem lineTasks_of_serve {s s' : Scheduler} {w : Work} (h : s.taskOf? k = w.task?)
    (hline : s'.line = s.line) (hcalls : s'.calls = s.calls.set k (.working w)) :
    s'.lineTasks = s.lineTasks := by
  rw [lineTasks, hline]
  refine List.filterMap_congr fun l _ => ?_
  by_cases hl : l = k
  · subst hl
    rw [h, taskOf?_of_working (by rw [hcalls, Table.get?_set_self])]
  · rw [taskOf?, hcalls, Table.get?_set_of_ne _ hl]
    rfl

/-- Without a caller, the others keep their order. -/
theorem lineTasks_of_leave {s s' : Scheduler} (hs : s.InLine) (hline : s'.line = s.line.erase k)
    (hcalls : s'.calls = s.calls.erase k) :
    s'.lineTasks = (s.line.erase k).filterMap s.taskOf? := by
  rw [lineTasks, hline]
  refine filterMap_taskOf?_congr fun l hl => ?_
  rw [hcalls, Table.get?_erase_of_ne _ (hs.nodup.mem_erase_iff.mp hl).1]

theorem lineTasks_sublist {s s' : Scheduler} (hs : s.InLine) (hline : s'.line = s.line.erase k)
    (hcalls : s'.calls = s.calls.erase k) : s'.lineTasks.Sublist s.lineTasks := by
  rw [lineTasks_of_leave hs hline hcalls]
  exact List.erase_sublist.filterMap _

theorem lineTasks_cancel (hs : s.InLine) (k : Caller) :
    (s.cancel k).1.lineTasks.Sublist s.lineTasks := by
  cases h : s.calls.get? k with
  | none =>
    rw [cancel_of_none h]
  | some c => exact lineTasks_sublist hs (by rw [cancel_of_some h]) (by rw [cancel_of_some h])

/-- The first in line takes its task out. -/
theorem lineTasks_of_leave_head {s s' : Scheduler} (hs : s.InLine) (h : s.line.head? = some k)
    (hline : s'.line = s.line.erase k) (hcalls : s'.calls = s.calls.erase k) :
    s.lineTasks = (s.taskOf? k).toList ++ s'.lineTasks := by
  obtain ⟨rest, hcons⟩ := List.head?_eq_some_iff.mp h
  rw [lineTasks_of_leave hs hline hcalls, lineTasks, hcons, List.erase_cons_head]
  cases htask : s.taskOf? k <;> simp [htask]

/-- A call that holds the chain and has a task is in line with it. -/
theorem lineTasks_ne_nil (h : s.line.head? = some k) {u : Task} (hu : s.taskOf? k = some u) :
    s.lineTasks ≠ [] :=
  List.ne_nil_of_mem (List.mem_filterMap.mpr ⟨k, List.mem_of_head? h, hu⟩)

/-- Work that is done while no tick is in line is on no task. -/
theorem InLine.task?_eq_none (hs : s.InLine) (hnil : s.lineTasks = []) {w : Work}
    (hcall : s.calls.get? k = some (.working w)) : w.task? = none := by
  by_contra hsome
  obtain ⟨u, hu⟩ := Option.ne_none_iff_exists'.mp hsome
  exact lineTasks_ne_nil (hs.head_of_working hcall) ((taskOf?_of_working hcall).trans hu) hnil

/-- The task of the caller that holds the chain is the first of those in line. -/
theorem Holds.lineTasks_eq_cons {task : Task} (h : s.Holds k (.replay task)) :
    ∃ rest, s.lineTasks = task :: rest := by
  obtain ⟨rest, hcons⟩ := List.head?_eq_some_iff.mp h.2
  have htask : s.taskOf? k = some task := taskOf?_of_waiting h.1
  exact ⟨rest.filterMap s.taskOf?, by simp [lineTasks, hcons, htask]⟩

end WalletReplay.Scheduler
