import Mathlib.Data.List.Nodup
import WalletReplay.Proofs.Scheduler.Course
import WalletReplay.Proofs.Wallet.Ledger

/-!
# What moves do to wallets

A task in line claims its wallets until it retires. No two tasks claim wallets with the same
identifier, for an offer of a wallet that is claimed is refused. So whatever a move does to wallets,
to a single one it does one of a few things: a task claims it, its task starts to download or
completes, its owner records what it has seen, or nothing happens to it that matters.

A tick may be late: its task may have completed, and retired, when it gets the chain. It then starts
to download wallets that its task does not claim any more.

## What is proved

* `Move.claimMove` — a move keeps all claims, or makes those of one task, or ends them.
* `accepts_iff` — a request is accepted if no task claims one of its wallets.
* `Parted.run` — no two tasks claim wallets with the same identifier.
* `Move.touch` — what a move does to one wallet.
-/

namespace WalletReplay

/-! ### The tasks that claim wallets -/

theorem Phase.ne_retiring_of_acceptsCompletion {phase : Phase} {id : TaskId}
    (h : phase.acceptsCompletion id = true) (u : TaskId) : phase ≠ .retiring u := by
  rintro rfl
  simp [acceptsCompletion] at h

namespace Queue

variable {q q' : Queue}

theorem claiming_of_ne (h : ∀ id, q.phase ≠ .retiring id) : q.claiming = q.tasks := by
  unfold claiming
  split
  · rename_i id hphase
    exact absurd hphase (h id)
  · rfl

theorem claiming_of_retiring {id : TaskId} (h : q.phase = .retiring id) :
    q.claiming = q.tasks.tail := by
  simp [claiming, h]

theorem claiming_subset (q : Queue) : q.claiming ⊆ q.tasks := by
  by_cases h : ∃ id, q.phase = .retiring id
  · obtain ⟨id, h⟩ := h
    rw [claiming_of_retiring h]
    exact (List.tail_sublist _).subset
  · rw [claiming_of_ne fun id hid => h ⟨id, hid⟩]
    exact List.Subset.refl _

theorem FallsBack.claiming (h : q.FallsBack q') : q'.claiming = q.claiming := by
  by_cases hq : ∃ id, q.phase = .retiring id
  · obtain ⟨id, hq⟩ := hq
    rw [claiming_of_retiring hq, claiming_of_retiring ((h.retiring id).mpr hq), h.tasks]
  · rw [claiming_of_ne fun id hid => hq ⟨id, hid⟩,
      claiming_of_ne fun id hid => hq ⟨id, (h.retiring id).mp hid⟩, h.tasks]

/-- A task claims its wallets as soon as it is in line, though the head may be retiring. -/
theorem HeadMatches.claiming_push (hq : q.HeadMatches) (t : Task) :
    (q.push t).claiming = q.claiming ++ [t] := by
  by_cases h : ∃ id, q.phase = .retiring id
  · obtain ⟨id, h⟩ := h
    obtain ⟨head, rest, hcons, -⟩ := hq.exists_eq_cons (by rw [h]; rfl)
    rw [hcons, h]
    rfl
  · have hne : ∀ id, q.phase ≠ .retiring id := fun id hid => h ⟨id, hid⟩
    have hpush : ∀ id, (q.push t).phase ≠ .retiring id := hne
    rw [claiming_of_ne hne, claiming_of_ne hpush]
    rfl

/-- The head that is popped claimed nothing any more. -/
theorem HeadMatches.claiming_retire (hq : q.HeadMatches) : q.retire.1.claiming = q.claiming := by
  rcases hq.retire_cases with ⟨-, h⟩ | ⟨head, rest, hcons, h⟩
  · rw [h]
  · rw [h, hcons]
    rfl

theorem claiming_dispatch (q : Queue) (now : Nat) : (q.dispatch now).1.claiming = q.claiming := by
  rcases q.dispatch_cases now with h | ⟨head, failures, -, h, hready⟩
  · rw [h]
  · have hne : ∀ id, q.phase ≠ .retiring id := by
      rcases hready with ⟨hphase, -⟩ | ⟨retryAt, hphase, -⟩ <;> simp [hphase]
    rw [h, claiming_of_ne hne]
    rfl

/-- The head that completes is the first of the tasks that claim wallets, and claims them no longer. -/
theorem claiming_of_accepts {head : Task} (hhead : q.head? = some head)
    (haccepts : q.phase.acceptsCompletion head.id = true) :
    q.claiming = head :: { q with phase := .retiring head.id }.claiming := by
  obtain ⟨rest, hcons⟩ := List.head?_eq_some_iff.mp hhead
  rw [claiming_of_ne (Phase.ne_retiring_of_acceptsCompletion haccepts), claiming_of_retiring rfl, hcons,
    List.tail_cons]

theorem mem_claiming_of_accepts {head : Task} (hhead : q.head? = some head)
    (haccepts : q.phase.acceptsCompletion head.id = true) : head ∈ q.claiming := by
  rw [claiming_of_accepts hhead haccepts]
  exact List.mem_cons_self

theorem tasks_dispatch (q : Queue) (now : Nat) : (q.dispatch now).1.tasks = q.tasks := by
  rcases q.dispatch_cases now with h | ⟨head, failures, -, h, -⟩ <;> rw [h]

theorem HeadMatches.tasks_retire (hq : q.HeadMatches) : q.retire.1.tasks ⊆ q.tasks := by
  rcases hq.retire_cases with ⟨-, h⟩ | ⟨head, rest, hcons, h⟩
  · rw [h]
    exact List.Subset.refl _
  · rw [h, hcons]
    exact List.subset_cons_self _ _

end Queue

/-! ### Rosters -/

/-- No wallets are made, and owners come to hold no other wallets. -/
structure Roster.Keeps (r r' : Roster) : Prop where
  handles : ∀ handle w, r'.handles.get? handle = some w → r.handles.get? handle = some w
  size : r'.ledger.size = r.ledger.size

namespace Roster.Keeps

theorem refl (r : Roster) : r.Keeps r :=
  ⟨fun _ _ h => h, rfl⟩

theorem modifyAll (r : Roster) (ws : List Wallet) (f : SyncState → SyncState) :
    r.Keeps (r.modifyAll ws f) :=
  ⟨fun _ _ h => h, Ledger.size_modifyAll _ _ _⟩

theorem modifyHeld (r : Roster) (handle : String) (f : SyncState → SyncState) :
    r.Keeps (r.modifyHeld handle f) := by
  unfold Roster.modifyHeld
  split
  · exact ⟨fun _ _ h => h, Ledger.size_modify _ _ _⟩
  · exact .refl r

/-- What owners do short of making wallets. -/
theorem own (r : Roster) {action : OwnerAction}
    (h : ∀ handle id state, action ≠ .make handle id state) : r.Keeps (r.own action) := by
  cases action with
  | make handle id state => exact absurd rfl (h handle id state)
  | drop handle =>
    refine ⟨fun other w hw => ?_, rfl⟩
    simp only [Roster.own, Roster.drop, Table.get?_erase] at hw
    split_ifs at hw
    exact hw
  | see handle height hash => exact .modifyHeld r handle (·.see height hash)
  | save handle => exact .modifyHeld r handle SyncState.save

end Roster.Keeps

namespace Scheduler

variable {s s' : Scheduler}

/-! ### What moves do to claims -/

/-- What a move means for the claims on wallets. -/
inductive ClaimMove (s s' : Scheduler) : Prop where
  /-- All claims are as they were. -/
  | keep (hroster : s.roster.Keeps s'.roster) (hclaiming : s'.queue.claiming = s.queue.claiming)
      (htasks : s'.queue.tasks ⊆ s.queue.tasks)
  /-- A task claims its wallets, which owners hold. -/
  | claim {request : Request} {task : Task} (haccepts : s.accepts request = true)
      (hheld : ∀ w ∈ request.wallets, ∃ handle, s.roster.handles.get? handle = some w)
      (htask : task.wallets = request.wallets) (hqueue : s'.queue = s.queue.push task)
      (hhandles : s'.roster.handles = s.roster.handles)
      (hledger : s'.roster.ledger =
        s.roster.ledger.modifyAll task.wallets (·.claim task.id task.start.height))
  /-- The head claims its wallets no longer. -/
  | release {head : Task} (hclaiming : s.queue.claiming = head :: s'.queue.claiming)
      (htasks : s'.queue.tasks = s.queue.tasks)
      (hroster : s'.roster = s.roster.modifyAll head.wallets SyncState.release)

/-- A step changes the roster only where an attempt at a task begins. -/
theorem Step.roster_cases {k : Caller} (h : Step k s s') : s'.roster = s.roster ∨
    ∃ task, s.Holds k (.replay task) ∧
      s'.roster = s.roster.modifyAll task.wallets SyncState.startDownload ∧
      s'.journal = s.journal ++ [.acquired k, .attempted task.id] := by
  cases h with
  | @attempt task hcall => exact Or.inr ⟨task, hcall, rfl, rfl⟩
  | askShutdown =>
    rw [callShutdown_eq]
    exact Or.inl rfl
  | refuse | declineRegular | declineShutdown =>
    rw [depart_eq]
    exact Or.inl rfl
  | fail =>
    rw [countFailure_eq, depart_eq]
    exact Or.inl rfl
  | succeed =>
    rw [goOn_eq]
    exact Or.inl rfl
  | rest | retire | dispatch | askRegular | beginRegular | beginShutdown => exact Or.inl rfl

theorem Step.roster_keeps {k : Caller} (h : Step k s s') : s.roster.Keeps s'.roster := by
  rcases h.roster_cases with h | ⟨task, -, h, -⟩
  · rw [h]
    exact .refl _
  · rw [h]
    exact .modifyAll _ _ _

/-- A step keeps all claims, and its queue has no new tasks. -/
theorem Step.claiming {k : Caller} (hq : s.queue.HeadMatches) (h : Step k s s') :
    s'.queue.claiming = s.queue.claiming ∧ s'.queue.tasks ⊆ s.queue.tasks := by
  rcases h.queue_cases with h | h | h | ⟨id, h | h⟩
  · rw [h]
    exact ⟨rfl, List.Subset.refl _⟩
  · rw [h]
    exact ⟨hq.claiming_retire, hq.tasks_retire⟩
  · rw [h, Queue.tasks_dispatch]
    exact ⟨s.queue.claiming_dispatch s.clock, List.Subset.refl _⟩
  · have hback := s.queue.fallsBack_abandon id
    rw [h, hback.tasks]
    exact ⟨hback.claiming, List.Subset.refl _⟩
  · have hback := s.queue.fallsBack_fail id s.retry s.clock
    rw [h, hback.tasks]
    exact ⟨hback.claiming, List.Subset.refl _⟩

theorem Step.claimMove {k : Caller} (hq : s.queue.HeadMatches) (h : Step k s s') :
    ClaimMove s s' :=
  .keep h.roster_keeps (h.claiming hq).1 (h.claiming hq).2

/-- The same tasks claim wallets as before, or one more, which is accepted, or one less, which
completes. -/
theorem Course.claiming_cases (hq : s.queue.HeadMatches) (h : Course s s') :
    s'.queue.claiming = s.queue.claiming ∨
      (∃ task, task.id = s.acceptedCount ∧ s'.acceptedCount = s.acceptedCount + 1 ∧
        s'.queue.claiming = s.queue.claiming ++ [task]) ∨
      ∃ head, s.queue.claiming = head :: s'.queue.claiming ∧ .completed head.id ∈ s'.journal := by
  cases h with
  | aside _ _ _ hqueue => exact Or.inl hqueue.claiming
  | @accept task _ _ hid _ hcount hqueue =>
    exact Or.inr (Or.inl ⟨task, hid, hcount, by rw [hqueue, hq.claiming_push]⟩)
  | retire _ _ hretiring hqueue =>
    refine Or.inl ?_
    rw [hretiring, hqueue]
    rfl
  | dispatch _ _ _ hready hqueue =>
    have hne : ∀ id, s.queue.phase ≠ .retiring id := by
      rcases hready with hphase | ⟨retryAt, hphase⟩ <;> simp [hphase]
    refine Or.inl ?_
    rw [hqueue, Queue.claiming_of_ne hne]
    rfl
  | attempt _ _ hqueue => exact Or.inl (by rw [hqueue])
  | @complete head _ _ hjournal _ hhead haccepts hqueue =>
    refine Or.inr (Or.inr ⟨head, ?_, by simp [hjournal]⟩)
    rw [hqueue]
    exact Queue.claiming_of_accepts hhead haccepts

/-- A task claims its wallets until it completes. -/
theorem Course.claiming_or_completed (hq : s.queue.HeadMatches) (h : Course s s') {t : Task}
    (ht : t ∈ s.queue.claiming) : t ∈ s'.queue.claiming ∨ .completed t.id ∈ s'.journal := by
  rcases h.claiming_cases hq with hsame | ⟨task, -, -, hmore⟩ | ⟨head, hless, hcompleted⟩
  · exact Or.inl (hsame ▸ ht)
  · rw [hmore]
    exact Or.inl (List.mem_append_left _ ht)
  · rw [hless] at ht
    rcases List.mem_cons.mp ht with rfl | ht
    · exact Or.inr hcompleted
    · exact Or.inl ht

/-- A task that claims wallets did so before, or is accepted. -/
theorem Course.claiming_or_accepted (hq : s.queue.HeadMatches) (h : Course s s') {t : Task}
    (ht : t ∈ s'.queue.claiming) : t ∈ s.queue.claiming ∨
      t.id = s.acceptedCount ∧ s'.acceptedCount = s.acceptedCount + 1 := by
  rcases h.claiming_cases hq with hsame | ⟨task, hid, hcount, hmore⟩ | ⟨head, hless, -⟩
  · exact Or.inl (hsame ▸ ht)
  · rw [hmore] at ht
    rcases List.mem_append.mp ht with ht | ht
    · exact Or.inl ht
    · exact Or.inr ⟨List.mem_singleton.mp ht ▸ hid, hcount⟩
  · rw [hless]
    exact Or.inl (List.mem_cons_of_mem head ht)

/-- A move that has nothing to do with the queue. -/
theorem claimMove_of_queue_eq (hroster : s.roster.Keeps s'.roster) (hqueue : s'.queue = s.queue) :
    ClaimMove s s' :=
  .keep hroster (by rw [hqueue]) (by rw [hqueue]; exact List.Subset.refl _)

theorem keeps_progress (s : Scheduler) (height : Height) (left : BlockCount) :
    s.roster.Keeps (s.progress height left).roster where
  handles _ _ h := h
  size := Ledger.size_foldl (fun (l : Ledger) (p : ProgressListener) => l.size_modify p.wallet _)
    s.roster.ledger s.client.listeners

/-- Clearing what progress listeners show leaves the rest of every sync state alone. -/
theorem get_clearPercents (s : Scheduler) (w : Wallet) :
    s.clearPercents.roster.ledger.get w = s.roster.ledger.get w ∨
      s.clearPercents.roster.ledger.get w = (s.roster.ledger.get w).setPercent none :=
  Ledger.get_modifyAll_cases (fun state => state.setPercent_setPercent none none) _ _ w

/-- The task that completes is the first of those that claim wallets, and claims them no longer. -/
theorem claiming_complete {head : Task} (hhead : s.queue.head? = some head)
    (haccepts : s.queue.phase.acceptsCompletion head.id = true) :
    s.queue.claiming = head :: (complete
      { s with queue := { s.queue with phase := .completing head.id } } head).queue.claiming := by
  rw [queue_complete rfl]
  exact Queue.claiming_of_accepts hhead haccepts

/-- A move keeps all claims, or makes those of one task, or ends them, as long as owners make no
wallets. -/
theorem Move.claimMove {p : Terms}
    (hmake : ∀ handle id state, ¬ p.own (.make handle id state)) (hq : s.queue.HeadMatches)
    (h : Move p s s') : ClaimMove s s' := by
  cases h with
  | step h => exact h.claimMove hq
  | @own action hp =>
    refine claimMove_of_queue_eq (.own s.roster ?_) rfl
    rintro handle id state rfl
    exact hmake handle id state hp
  | discard h | drop _ h =>
    rw [cancel_of_some h]
    exact claimMove_of_queue_eq (.refl _) rfl
  | enroll _ haccepts hheld =>
    exact .claim haccepts hheld rfl (queue_enroll s _) (handles_enroll s _) (ledger_enroll s _)
  | complete hhead haccepts =>
    exact .release (claiming_complete hhead haccepts) (by rw [queue_complete rfl])
      (by rw [complete_eq])
  | progress height left => exact claimMove_of_queue_eq (keeps_progress s height left) rfl
  | endDownload =>
    exact claimMove_of_queue_eq (.modifyAll _ _ _) rfl
  | create | listen | inject | setHeight | wait | drivers =>
    exact claimMove_of_queue_eq ⟨fun _ _ h => h, rfl⟩ rfl

/-! ### Wallets that were made -/

/-- The wallets made so far, to which those belong that owners hold or that tasks in line replay. -/
structure Known (ws : List Wallet) (s : Scheduler) : Prop where
  keys : ws.map (·.key) = List.range s.roster.ledger.size
  held : ∀ handle w, s.roster.handles.get? handle = some w → w ∈ ws
  queued : ∀ t ∈ s.queue.tasks, ∀ w ∈ t.wallets, w ∈ ws

namespace Known

variable {ws : List Wallet}

theorem lt_size (hs : Known ws s) {w : Wallet} (hw : w ∈ ws) : w.key < s.roster.ledger.size := by
  have hkey : w.key ∈ ws.map (·.key) := List.mem_map_of_mem hw
  rwa [hs.keys, List.mem_range] at hkey

/-- Wallets that were made are told apart by their keys. -/
theorem eq_of_key (hs : Known ws s) {v w : Wallet} (hv : v ∈ ws) (hw : w ∈ ws)
    (h : v.key = w.key) : v = w := by
  have hnodup : (ws.map (·.key)).Nodup := hs.keys ▸ List.nodup_range
  exact List.inj_on_of_nodup_map hnodup hv hw h

/-- Wallets that owners hold were made. -/
theorem mem_of_held (hs : Known ws s) {request : Request} {task : Task}
    (hheld : ∀ w ∈ request.wallets, ∃ handle, s.roster.handles.get? handle = some w)
    (htask : task.wallets = request.wallets) : ∀ w ∈ task.wallets, w ∈ ws := by
  intro w hw
  obtain ⟨handle, hget⟩ := hheld w (htask ▸ hw)
  exact hs.held handle w hget

/-- A change of wallets is none of a wallet that is not among them. -/
theorem get_modifyAll_of_notMem (hs : Known ws s) {vs : List Wallet} (hvs : ∀ v ∈ vs, v ∈ ws)
    {w : Wallet} (hw : w ∈ ws) (h : w ∉ vs) (f : SyncState → SyncState) :
    (s.roster.ledger.modifyAll vs f).get w = s.roster.ledger.get w := by
  refine Ledger.get_modifyAll_of_ne fun v hv hkey => h ?_
  rwa [← hs.eq_of_key (hvs v hv) hw hkey]

theorem get_modifyAll_of_mem (hs : Known ws s) {vs : List Wallet} (hvs : ∀ v ∈ vs, v ∈ ws)
    {w : Wallet} (hw : w ∈ vs) {f : SyncState → SyncState} (hf : ∀ s, f (f s) = f s) :
    (s.roster.ledger.modifyAll vs f).get w = f (s.roster.ledger.get w) :=
  Ledger.get_modifyAll_of_key hf (hs.lt_size (hvs w hw)) ⟨w, hw, rfl⟩

theorem claimMove (hs : Known ws s) (h : ClaimMove s s') : Known ws s' := by
  cases h with
  | keep hroster _ htasks =>
    exact ⟨by rw [hroster.size, hs.keys], fun handle w hw => hs.held handle w (hroster.handles _ _ hw),
      fun t ht => hs.queued t (htasks ht)⟩
  | claim _ hheld htask hqueue hhandles hledger =>
    refine ⟨by rw [hledger, Ledger.size_modifyAll, hs.keys], fun handle w hw => ?_, fun t ht w hw => ?_⟩
    · exact hs.held handle w (by rwa [hhandles] at hw)
    · rw [hqueue] at ht
      rcases List.mem_append.mp ht with ht | ht
      · exact hs.queued t ht w hw
      · rw [List.mem_singleton.mp ht] at hw
        exact hs.mem_of_held hheld htask w hw
  | release _ htasks hroster =>
    refine ⟨?_, fun handle w hw => ?_, fun t ht => hs.queued t (htasks ▸ ht)⟩
    · rw [hroster, Roster.modifyAll, Ledger.size_modifyAll, hs.keys]
    · rw [hroster] at hw
      exact hs.held handle w hw

end Known

/-! ### Claims -/

/-- No two wallets of two tasks have the same identifier. -/
def Apart (t u : Task) : Prop :=
  ∀ v ∈ t.wallets, ∀ w ∈ u.wallets, v.id ≠ w.id

/-- A request is accepted if it names wallets, each identifier once, and none that a task claims. -/
theorem accepts_iff {request : Request} : s.accepts request = true ↔
    request.wallets ≠ [] ∧ (request.wallets.map (·.id)).Nodup ∧
      ∀ t ∈ s.queue.claiming, ∀ v ∈ t.wallets, ∀ w ∈ request.wallets, v.id ≠ w.id := by
  have hclaimant (id : WalletId) :
      s.queue.claimant? id = none ↔ ∀ t ∈ s.queue.claiming, ∀ v ∈ t.wallets, v.id ≠ id := by
    simp [Queue.claimant?, Task.includes]
  simp only [accepts, Request.isMalformed, Bool.and_eq_true, Bool.not_eq_true', Bool.or_eq_false_iff,
    List.isEmpty_eq_false_iff, Bool.not_eq_false', decide_eq_true_eq, List.all_eq_true,
    Option.isNone_iff_eq_none, hclaimant, and_assoc]
  refine and_congr_right' (and_congr_right' ?_)
  exact ⟨fun h t ht v hv w hw => h w hw t ht v hv, fun h w hw t ht v hv => h t ht v hv w hw⟩

/-- A task that is accepted has its wallets apart from those of all that claim any. -/
theorem apart_of_accepts {request : Request} (h : s.accepts request = true) {t u : Task}
    (ht : t ∈ s.queue.claiming) (hu : u.wallets = request.wallets) : Apart t u := by
  intro v hv w hw
  exact (accepts_iff.mp h).2.2 t ht v hv w (hu ▸ hw)

/-- No two tasks claim wallets with the same identifier. -/
structure Parted (ws : List Wallet) (s : Scheduler) : Prop where
  inLine : s.InLine
  headMatches : s.queue.HeadMatches
  known : Known ws s
  disjoint : s.queue.claiming.Pairwise Apart

namespace Parted

variable {ws : List Wallet}

theorem mem_of_claiming (hs : Parted ws s) {t : Task} (ht : t ∈ s.queue.claiming) {w : Wallet}
    (hw : w ∈ t.wallets) : w ∈ ws :=
  hs.known.queued t (s.queue.claiming_subset ht) w hw

/-- The claimant of a wallet that a task claims is that task. -/
theorem claimant? (hs : Parted ws s) {t : Task} (ht : t ∈ s.queue.claiming) {w : Wallet}
    (hw : w ∈ t.wallets) : s.queue.claimant? w.id = some t := by
  obtain ⟨before, after, hsplit⟩ := List.append_of_mem ht
  refine List.find?_eq_some_iff_append.mpr ⟨?_, before, after, hsplit, fun u hu => ?_⟩
  · exact List.any_eq_true.mpr ⟨w, hw, by simp⟩
  · have hdisjoint := hs.disjoint
    rw [hsplit, List.pairwise_append] at hdisjoint
    have hapart : Apart u t := hdisjoint.2.2 u hu t List.mem_cons_self
    rw [Bool.not_eq_true', Task.includes, List.any_eq_false]
    exact fun v hv => by simpa using hapart v hv w hw

/-- A wallet is claimed by one task at most. -/
theorem eq_of_mem (hs : Parted ws s) {t u : Task} (ht : t ∈ s.queue.claiming)
    (hu : u ∈ s.queue.claiming) {w : Wallet} (hwt : w ∈ t.wallets) (hwu : w ∈ u.wallets) : t = u :=
  Option.some.inj ((hs.claimant? ht hwt).symm.trans (hs.claimant? hu hwu))

theorem claimMove (hs : Parted ws s) (h : ClaimMove s s') :
    s'.queue.claiming.Pairwise Apart := by
  cases h with
  | keep _ hclaiming =>
    rw [hclaiming]
    exact hs.disjoint
  | claim haccepts _ htask hqueue =>
    rw [hqueue, hs.headMatches.claiming_push, List.pairwise_append]
    refine ⟨hs.disjoint, List.pairwise_singleton _ _, fun t ht u hu => ?_⟩
    rw [List.mem_singleton.mp hu]
    exact apart_of_accepts haccepts ht htask
  | release hclaiming =>
    have hold := hs.disjoint
    rw [hclaiming] at hold
    exact (List.pairwise_cons.mp hold).2

theorem move {p : Terms} (hmake : ∀ handle id state, ¬ p.own (.make handle id state))
    (hs : Parted ws s) (h : Move p s s') : Parted ws s' :=
  have hc := h.claimMove hmake hs.headMatches
  { inLine := hs.inLine.move h
    headMatches := (h.course hs.inLine hs.headMatches).headMatches hs.headMatches
    known := hs.known.claimMove hc
    disjoint := hs.claimMove hc }

/-- A new wallet has a key of its own, and nothing else changes. -/
theorem make (hs : Parted ws s) (handle : String) (id : WalletId) (state : SyncState) :
    Parted (ws ++ [⟨s.roster.ledger.size, id⟩])
      { s with roster := s.roster.own (.make handle id state) } where
  inLine := hs.inLine.congr rfl rfl
  headMatches := hs.headMatches
  known := by
    refine ⟨?_, fun other w hw => ?_, fun t ht w hw => ?_⟩
    · simp [hs.known.keys, Roster.own, Roster.make, Ledger.add, Ledger.size, List.range_succ]
    · simp only [Roster.own, Roster.make, Table.get?_set] at hw
      split_ifs at hw
      · obtain rfl := Option.some.inj hw
        exact List.mem_append_right _ (List.mem_singleton_self _)
      · exact List.mem_append_left _ (hs.known.held other w hw)
    · exact List.mem_append_left _ (hs.known.queued t ht w hw)
  disjoint := hs.disjoint

end Parted

theorem parted_fresh (checkpoints : Checkpoints) (retry : RetryPolicy) (interval : Nat)
    (synced : Option Height) : Parted [] (fresh checkpoints retry interval synced) := by
  have hinLine := inLine_fresh checkpoints retry interval synced
  cases synced <;> exact
    { inLine := hinLine
      headMatches := Queue.headMatches_of_idle rfl
      known := ⟨rfl, fun _ _ h => by simp [fresh, start, startSynced, Table.get?] at h,
        fun _ h => by simp [fresh, start, startSynced] at h⟩
      disjoint := List.Pairwise.nil }

/-! ### What moves do to one wallet -/

/-- A task claims a wallet. -/
def Claims (s : Scheduler) (t : Task) (w : Wallet) : Prop :=
  t ∈ s.queue.claiming ∧ w ∈ t.wallets

theorem claims_congr (h : s'.queue.claiming = s.queue.claiming) (t : Task) (w : Wallet) :
    s'.Claims t w ↔ s.Claims t w := by
  rw [Claims, Claims, h]

/-- What a move does to one wallet. -/
inductive Touch (p : Terms) (w : Wallet) (s s' : Scheduler) : Prop where
  /-- Nothing that matters. -/
  | rest (hclaims : ∀ t, s'.Claims t w ↔ s.Claims t w)
      (hstate : (s'.roster.ledger.get w).core = (s.roster.ledger.get w).core)
  /-- Its owner records up to which block it has seen the chain. -/
  | see {handle : String} {height : Height} {hash : Option BlockHash}
      (hp : p.own (.see handle height hash)) (hheld : s.roster.handles.get? handle = some w)
      (hclaims : ∀ t, s'.Claims t w ↔ s.Claims t w)
      (hstate : s'.roster.ledger.get w = (s.roster.ledger.get w).see height hash)
  /-- An attempt begins at a task that has it among its wallets, though the task need not claim it
  any more. -/
  | download {k : Caller} {task : Task} (hcall : s.Holds k (.replay task))
      (hwallet : ∃ v ∈ task.wallets, v.key = w.key)
      (hjournal : s'.journal = s.journal ++ [.acquired k, .attempted task.id])
      (hclaims : ∀ t, s'.Claims t w ↔ s.Claims t w)
      (hstate : s'.roster.ledger.get w = (s.roster.ledger.get w).startDownload)
  /-- A task claims it, which nobody did. -/
  | claim {u : Task} (hp : p.offer) (hfree : ∀ t, ¬ s.Claims t w)
      (hclaims : ∀ t, s'.Claims t w ↔ t = u)
      (hstate : s'.roster.ledger.get w = (s.roster.ledger.get w).claim u.id u.start.height)
  /-- The task that claims it completes. -/
  | release {head : Task} (hp : p.report) (hhead : s.Claims head w) (hfree : ∀ t, ¬ s'.Claims t w)
      (hstate : s'.roster.ledger.get w = (s.roster.ledger.get w).release)

namespace Touch

variable {p : Terms} {w : Wallet}

/-- A move that leaves all sync states alone. -/
theorem of_ledger_eq (hledger : s'.roster.ledger = s.roster.ledger)
    (hclaiming : s'.queue.claiming = s.queue.claiming) : Touch p w s s' :=
  .rest (fun t => claims_congr hclaiming t w) (by rw [hledger])

/-- A move that leaves of all sync states alone what matters. -/
theorem of_agree (hledger : s.roster.ledger.Agree SyncState.core s'.roster.ledger)
    (hclaiming : s'.queue.claiming = s.queue.claiming) : Touch p w s s' :=
  .rest (fun t => claims_congr hclaiming t w) (hledger w)

end Touch

section

variable {ws : List Wallet} {p : Terms} {w : Wallet}

theorem Step.touch (hs : Parted ws s) (hw : w ∈ ws) {k : Caller} (h : Step k s s') :
    Touch p w s s' := by
  obtain ⟨hclaiming, -⟩ := h.claiming hs.headMatches
  rcases h.roster_cases with hroster | ⟨task, hcall, hroster, hjournal⟩
  · exact .of_ledger_eq (by rw [hroster]) hclaiming
  by_cases hwallet : ∃ v ∈ task.wallets, v.key = w.key
  · refine .download hcall hwallet hjournal (fun t => claims_congr hclaiming t w) ?_
    rw [hroster]
    exact Ledger.get_modifyAll_of_key SyncState.startDownload_startDownload (hs.known.lt_size hw)
      hwallet
  · refine .rest (fun t => claims_congr hclaiming t w) ?_
    rw [hroster]
    exact congrArg _ (Ledger.get_modifyAll_of_ne fun v hv hkey => hwallet ⟨v, hv, hkey⟩)

namespace Parted

/-- What an owner does to a wallet that was made. -/
theorem touch_own (hs : Parted ws s) (hw : w ∈ ws) {action : OwnerAction} (hp : p.own action) :
    Touch p w s { s with roster := s.roster.own action } := by
  cases action with
  | make handle id state =>
    refine .rest (fun t => Iff.rfl) (congrArg SyncState.core ?_)
    exact Ledger.get_add_of_lt (hs.known.lt_size hw) id state
  | drop handle => exact .of_ledger_eq rfl rfl
  | save handle => exact .of_agree (s.roster.agree_modifyHeld SyncState.core_save handle) rfl
  | see handle height hash =>
    cases hheld : s.roster.handles.get? handle with
    | none => exact .of_ledger_eq (by simp [Roster.own, Roster.modifyHeld, hheld]) rfl
    | some v =>
      have hledger : (s.roster.own (.see handle height hash)).ledger =
          s.roster.ledger.modify v (·.see height hash) := by
        simp [Roster.own, Roster.modifyHeld, hheld, Roster.modify]
      by_cases hvw : v = w
      · subst hvw
        refine .see hp hheld (fun t => Iff.rfl) ?_
        exact (congrArg (·.get v) hledger).trans (Ledger.get_modify_self (hs.known.lt_size hw) _)
      · refine .rest (fun t => Iff.rfl) (congrArg SyncState.core ?_)
        refine (congrArg (·.get w) hledger).trans (Ledger.get_modify_of_ne (fun hkey => hvw ?_) _)
        exact hs.known.eq_of_key (hs.known.held handle v hheld) hw hkey.symm

/-- A task that is accepted claims its wallets and leaves all others alone. -/
theorem get_enroll (hs : Parted ws s) {task : Task} (hmade : ∀ v ∈ task.wallets, v ∈ ws) (hw : w ∈ ws) :
    (s.enroll task).roster.ledger.get w =
      if w ∈ task.wallets then (s.roster.ledger.get w).claim task.id task.start.height
      else s.roster.ledger.get w := by
  rw [ledger_enroll]
  by_cases hmem : w ∈ task.wallets
  · rw [if_pos hmem]
    exact hs.known.get_modifyAll_of_mem hmade hmem fun state => state.claim_claim _ _
  · rw [if_neg hmem]
    exact hs.known.get_modifyAll_of_notMem hmade hw hmem _

/-- What a task that is accepted does to a wallet. -/
theorem touch_enroll (hs : Parted ws s) (hw : w ∈ ws) (hp : p.offer) {request : Request} {task : Task}
    (haccepts : s.accepts request = true)
    (hheld : ∀ v ∈ request.wallets, ∃ handle, s.roster.handles.get? handle = some v)
    (htask : task.wallets = request.wallets) : Touch p w s (s.enroll task) := by
  have hvs := hs.known.mem_of_held hheld htask
  have hclaiming : (s.enroll task).queue.claiming = s.queue.claiming ++ [task] := by
    rw [queue_enroll, hs.headMatches.claiming_push]
  by_cases hmem : w ∈ task.wallets
  · have hfree : ∀ t, ¬ s.Claims t w := fun t ht =>
      apart_of_accepts haccepts ht.1 htask w ht.2 w hmem rfl
    refine .claim (u := task) hp hfree (fun t => ⟨fun ht => ?_, ?_⟩) ?_
    · obtain ⟨ht, hwt⟩ := ht
      rw [hclaiming] at ht
      rcases List.mem_append.mp ht with ht | ht
      · exact absurd ⟨ht, hwt⟩ (hfree t)
      · exact List.mem_singleton.mp ht
    · rintro rfl
      exact ⟨by rw [hclaiming]; simp, hmem⟩
    · rw [hs.get_enroll hvs hw, if_pos hmem]
  · refine .rest (fun t => ?_) ?_
    · rw [Claims, Claims, hclaiming, List.mem_append, List.mem_singleton]
      constructor
      · rintro ⟨ht | rfl, hwt⟩
        · exact ⟨ht, hwt⟩
        · exact absurd hwt hmem
      · rintro ⟨ht, hwt⟩
        exact ⟨Or.inl ht, hwt⟩
    · rw [hs.get_enroll hvs hw, if_neg hmem]

/-- What the completion of a task does to a wallet. -/
theorem touch_release (hs : Parted ws s) (hw : w ∈ ws) (hp : p.report) {head : Task}
    (hclaiming : s.queue.claiming = head :: s'.queue.claiming)
    (hroster : s'.roster = s.roster.modifyAll head.wallets SyncState.release) : Touch p w s s' := by
  have hhead : head ∈ s.queue.claiming := hclaiming ▸ List.mem_cons_self
  have hvs : ∀ v ∈ head.wallets, v ∈ ws := fun v hv => hs.mem_of_claiming hhead hv
  by_cases hmem : w ∈ head.wallets
  · refine .release hp ⟨hhead, hmem⟩ (fun t ht => ?_) ?_
    · have hdisjoint := hs.disjoint
      rw [hclaiming] at hdisjoint
      exact (List.pairwise_cons.mp hdisjoint).1 t ht.1 w hmem w ht.2 rfl
    · rw [hroster]
      exact hs.known.get_modifyAll_of_mem hvs hmem SyncState.release_release
  · refine .rest (fun t => ?_) ?_
    · rw [Claims, Claims, hclaiming, List.mem_cons]
      constructor
      · rintro ⟨ht, hwt⟩
        exact ⟨Or.inr ht, hwt⟩
      · rintro ⟨rfl | ht, hwt⟩
        · exact absurd hwt hmem
        · exact ⟨ht, hwt⟩
    · rw [hroster]
      exact congrArg _ (hs.known.get_modifyAll_of_notMem hvs hw hmem _)

/-- The completion of a task makes its wallets not busy. -/
theorem busy_complete (hs : Parted ws s) {head : Task}
    (hhead : s.queue.head? = some head) (haccepts : s.queue.phase.acceptsCompletion head.id = true)
    {w : Wallet} (hw : w ∈ head.wallets) :
    ((complete { s with queue := { s.queue with phase := .completing head.id } }
      head).roster.ledger.get w).busy = false := by
  have hclaims := Queue.mem_claiming_of_accepts hhead haccepts
  have hreleased := hs.known.get_modifyAll_of_mem (fun v hv => hs.mem_of_claiming hclaims hv) hw
    SyncState.release_release
  rw [complete_eq]
  exact congrArg SyncState.busy hreleased

end Parted

/-- **What a move does to one wallet.** -/
theorem Move.touch (hs : Parted ws s) (hw : w ∈ ws) (h : Move p s s') : Touch p w s s' := by
  cases h with
  | step h => exact h.touch hs hw
  | own hp => exact hs.touch_own hw hp
  | discard h | drop _ h =>
    rw [cancel_of_some h]
    exact .of_ledger_eq rfl rfl
  | enroll hp haccepts hheld => exact hs.touch_enroll hw hp haccepts hheld rfl
  | complete hhead haccepts hp =>
    exact hs.touch_release hw hp (claiming_complete hhead haccepts) (by rw [complete_eq])
  | progress height left =>
    refine .of_agree ?_ rfl
    exact .foldl (fun l (listener : ProgressListener) =>
      .modify (fun state => state.core_setPercent _) l listener.wallet) _ _
  | endDownload => exact .of_agree (.modifyAll (fun state => state.core_setPercent none) _ _) rfl
  | create | listen | inject | setHeight | wait | drivers => exact .of_ledger_eq rfl rfl

end

/-! ### Runs -/

/-- The wallet that an action makes, if it makes one. -/
def madeWallet? (s : Scheduler) : Action → Option Wallet
  | .own (.make _ id state) => some (s.roster.ledger.add id state).1
  | _ => none

/-- The wallets that owners make among some actions, in order. -/
def madeWallets : Scheduler → List Action → List Wallet
  | _, [] => []
  | s, a :: actions => (s.madeWallet? a).toList ++ (s.act a).1.madeWallets actions

/-- The terms under which owners make no wallets. -/
def noMaking : Terms where
  own action := ∀ handle id state, action ≠ .make handle id state

/-- An action that makes no wallet makes its moves without making one. -/
theorem madeWallet?_of_not_make (s : Scheduler) {a : Action}
    (h : ∀ handle id state, a ≠ .own (.make handle id state)) :
    s.madeWallet? a = none ∧ Within noMaking s a := by
  cases a with
  | own action =>
    have haction : ∀ handle id state, action ≠ .make handle id state := by
      rintro handle id state rfl
      exact h handle id state rfl
    refine ⟨?_, haction⟩
    cases action with
    | make handle id state => exact absurd rfl (haction handle id state)
    | drop | see | save => rfl
  | create name kind | cancel name => exact ⟨rfl, fun _ => trivial⟩
  | listen | offer | notify | poll | spawn | drive | inject | progress | finish | setHeight | wait =>
    exact ⟨rfl, trivial⟩

/-- What is kept when a wallet is made, and by moves that make none, is kept by actions. -/
theorem act_invariant {I : List Wallet → Scheduler → Prop} {ws : List Wallet} (hs : I ws s)
    (hticks : s.TicksDriven) (a : Action)
    (hmake : ∀ handle id state, a = .own (.make handle id state) →
      I (ws ++ [⟨s.roster.ledger.size, id⟩]) { s with roster := s.roster.own (.make handle id state) })
    (hmove : ∀ {t u : Scheduler}, I ws t → Move noMaking t u → I ws u) :
    I (ws ++ (s.madeWallet? a).toList) (s.act a).1 := by
  by_cases h : ∃ handle id state, a = .own (.make handle id state)
  · obtain ⟨handle, id, state, rfl⟩ := h
    exact hmake handle id state rfl
  · obtain ⟨hnone, hwithin⟩ := s.madeWallet?_of_not_make fun handle id state heq =>
      h ⟨handle, id, state, heq⟩
    rw [hnone, Option.toList_none, List.append_nil]
    exact moves_invariant (I := I ws) hmove hs (act_moves hticks hwithin)

/-- What actions keep that meet a condition, runs keep that meet it all along. -/
theorem run_invariant {I : List Wallet → Scheduler → Prop} {P : Scheduler → Action → Prop}
    (hact : ∀ {ws : List Wallet} {s : Scheduler} {a : Action}, I ws s → s.TicksDriven → P s a →
      I (ws ++ (s.madeWallet? a).toList) (s.act a).1)
    {ws : List Wallet} (hs : I ws s) (hticks : s.TicksDriven) {actions : List Action}
    (h : Along P s actions) : I (ws ++ s.madeWallets actions) (s.run actions) := by
  induction actions generalizing s ws with
  | nil => simpa [madeWallets] using hs
  | cons a actions ih =>
    have hrun := ih (hact hs hticks h.1) (hticks.act a) h.2
    rwa [List.append_assoc] at hrun

theorem noMaking_own (handle : String) (id : WalletId) (state : SyncState) :
    ¬ noMaking.own (.make handle id state) :=
  fun h => h handle id state rfl

theorem Parted.act {ws : List Wallet} (hs : Parted ws s) (hticks : s.TicksDriven) (a : Action) :
    Parted (ws ++ (s.madeWallet? a).toList) (s.act a).1 :=
  act_invariant hs hticks a (fun handle id state _ => hs.make handle id state)
    fun hs h => hs.move noMaking_own h

theorem Parted.run {ws : List Wallet} (hs : Parted ws s) (hticks : s.TicksDriven)
    (actions : List Action) : Parted (ws ++ s.madeWallets actions) (s.run actions) :=
  run_invariant (fun hs hticks _ => hs.act hticks _) hs hticks
    (along_of_forall (P := fun _ => True) fun _ _ => trivial)

end Scheduler

end WalletReplay
