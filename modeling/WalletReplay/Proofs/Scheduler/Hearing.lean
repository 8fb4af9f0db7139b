import WalletReplay.Proofs.Scheduler.Claims
import WalletReplay.Proofs.Wallet.Registry

/-!
# What busy listeners hear

An offer that is accepted makes all its wallets busy, and a completion that is accepted ends that for
all wallets of its task. Each tells every busy listener once, and nothing else tells them anything.

What they are told is whether a wallet is busy that the registry knows. The registry knows one wallet
of those with one identifier: if a wallet is offered while another with its identifier is tracked and
alive, which may be so although no owner holds that one any more, the registry does not come to know
the wallet that is offered, and listeners are not told that it is busy.

Owners are taken to make wallets that are not busy.

## What is proved

* `Audible.telling` — what an action means for busy flags and for the listeners.
* `run_heard` — after any run, what the next action tells the listeners, and how this compares with
  the tasks that claim wallets.
-/

namespace WalletReplay

namespace Occurrence

/-- What a busy listener is told. -/
def heard? : Occurrence → Option (String × Bool)
  | heard listener anyBusy => some (listener, anyBusy)
  | _ => none

/-- Whether a task begins to claim its wallets or ceases to. -/
def turnsClaims : Occurrence → Bool
  | accepted _ | completed _ => true
  | _ => false

/-- Whether no task begins to claim its wallets or ceases to, and nobody is told anything. -/
def isQuiet : Occurrence → Bool
  | accepted _ | completed _ | heard _ _ => false
  | _ => true

theorem heard?_of_isQuiet {o : Occurrence} (h : o.isQuiet = true) : o.heard? = none := by
  cases o <;> simp_all [isQuiet, heard?]

theorem turnsClaims_of_isQuiet {o : Occurrence} (h : o.isQuiet = true) : o.turnsClaims = false := by
  cases o <;> simp_all [isQuiet, turnsClaims]

end Occurrence

namespace Scheduler

variable {s s' : Scheduler} {ws : List Wallet}

/-! ### Telling -/

/-- What busy listeners are told when they are told something now. -/
def tidings (s : Scheduler) : List Occurrence :=
  (s.roster.announcement s.holdsWallet).map fun h => .heard h.1 h.2

theorem tidings_congr (hroster : s'.roster = s.roster) (htasks : s'.queue.tasks = s.queue.tasks)
    (hclient : s'.client = s.client) (hcalls : s'.calls = s.calls) : s'.tidings = s.tidings := by
  have hholds : s'.holdsWallet = s.holdsWallet := by
    funext w
    rw [holdsWallet, holdsWallet, htasks, hclient, hcalls]
  rw [tidings, tidings, hroster, hholds]

/-- Each listener is told once, in order. -/
theorem heard_tidings (s : Scheduler) : s.tidings.filterMap Occurrence.heard? =
    s.roster.registry.listeners.map fun listener => (listener, s.roster.anyBusy s.holdsWallet) := by
  simp [tidings, Roster.announcement, List.filterMap_map, Function.comp_def, Occurrence.heard?]

/-- If a wallet was not busy, the listeners are told of a task that is accepted, as it is then. -/
theorem journal_enroll_of_flips {task : Task}
    (h : task.wallets.any (fun w => !(s.roster.ledger.get w).busy) = true) :
    (s.enroll task).journal = s.journal ++ .accepted task.id :: (s.enroll task).tidings := by
  simp only [enroll, h, if_true]
  generalize ht : announce (record _ _) = t
  have htidings : t.wakeOne.tidings = t.tidings := by
    rw [wakeOne_eq]
    rfl
  rw [htidings, wakeOne_eq, ← ht]
  exact List.append_assoc _ _ _

/-- If a wallet was busy, the listeners are told of a task that completes, as it is then. -/
theorem journal_complete_of_flips {task : Task}
    (h : task.wallets.any (fun w => (s.roster.ledger.get w).busy) = true) :
    (s.complete task).journal = s.journal ++ .completed task.id :: (s.complete task).tidings := by
  simp only [complete, h, if_true]
  generalize ht : announce (record _ _) = t
  have htidings : (wakeOne { t with queue := (t.queue.finishCompletion task.id).1 }).tidings =
      t.tidings := by
    rw [wakeOne_eq]
    refine tidings_congr rfl ?_ rfl rfl
    rcases t.queue.finishCompletion_cases task.id with h | ⟨-, h⟩ <;> rw [h]
  rw [htidings, wakeOne_eq, ← ht]
  exact List.append_assoc _ _ _

/-! ### Moves that tell nothing -/

/-- No call tells the listeners anything. -/
theorem Step.quiet {k : Caller} (h : Step k s s') :
    ∃ news, (∀ o ∈ news, o.isQuiet = true) ∧ s'.journal = s.journal ++ news := by
  cases h with
  | rest | askRegular => exact ⟨[], by simp, (List.append_nil _).symm⟩
  | retire =>
    refine ⟨retirement s.queue.retire.2, fun o ho => ?_, rfl⟩
    cases hretired : s.queue.retire.2 with
    | none => simp [hretired, retirement] at ho
    | some task =>
      rw [hretired, retirement, List.mem_singleton] at ho
      rw [ho]
      rfl
  | dispatch | attempt | beginRegular | beginShutdown =>
    exact ⟨_, by simp [Occurrence.isQuiet], rfl⟩
  | askShutdown =>
    rw [callShutdown_eq]
    exact ⟨[], by simp, (List.append_nil _).symm⟩
  | refuse | declineRegular | declineShutdown =>
    rw [depart_eq]
    exact ⟨_, by simp [Occurrence.isQuiet], rfl⟩
  | succeed =>
    rw [goOn_eq]
    exact ⟨_, by simp [Occurrence.isQuiet], rfl⟩
  | @fail w =>
    rw [depart_eq]
    cases w.task? with
    | some task => exact ⟨_, by simp [Occurrence.isQuiet], List.append_assoc _ _ _⟩
    | none => exact ⟨_, by simp [Occurrence.isQuiet], rfl⟩

/-- Only offers and reports of completion tell the listeners anything. -/
theorem Move.quiet {p : Terms} (hoffer : ¬ p.offer) (hreport : ¬ p.report) (h : Move p s s') :
    ∃ news, (∀ o ∈ news, o.isQuiet = true) ∧ s'.journal = s.journal ++ news := by
  cases h with
  | step h => exact h.quiet
  | enroll hp => exact absurd hp hoffer
  | complete _ _ hp | endDownload _ hp => exact absurd hp hreport
  | discard h | drop _ h =>
    rw [cancel_of_some h]
    exact ⟨[], by simp, (List.append_nil _).symm⟩
  | create | own | listen | progress | inject | setHeight | wait | drivers =>
    exact ⟨[], by simp, (List.append_nil _).symm⟩

/-- Only a task that is accepted has wallets tracked. -/
theorem Move.tracked {p : Terms} (h : Move p s s') :
    s'.roster.registry.tracked = s.roster.registry.tracked ∨
      p.offer ∧ ∃ request : Request, s.accepts request = true ∧
        (∀ w ∈ request.wallets, ∃ handle, s.roster.handles.get? handle = some w) ∧
        s' = s.enroll (request.toTask s.acceptedCount s.checkpoints) := by
  cases h with
  | @enroll request hp haccepts hheld => exact Or.inr ⟨hp, request, haccepts, hheld, rfl⟩
  | step h =>
    rcases h.roster_cases with h | ⟨task, -, h, -⟩
    · exact Or.inl (by rw [h])
    · exact Or.inl (by rw [h]; rfl)
  | @own action =>
    refine Or.inl ?_
    cases action with
    | make | drop => rfl
    | see handle height hash | save handle =>
      simp only [Roster.own, Roster.modifyHeld]
      split <;> rfl
  | discard h | drop _ h =>
    rw [cancel_of_some h]
    exact Or.inl rfl
  | complete =>
    rw [complete_eq]
    exact Or.inl rfl
  | create | listen | progress | endDownload | inject | setHeight | wait | drivers => exact Or.inl rfl

/-- Whether something holds a wallet when a task is in line. -/
def alivePushed (s : Scheduler) (task : Task) : Wallet → Bool :=
  s.roster.isAlive (holdsWallet { s with queue := s.queue.push task })

theorem registry_enroll (s : Scheduler) (task : Task) : (s.enroll task).roster.registry =
    s.roster.registry.trackAll (s.alivePushed task) task.wallets := by
  simp only [enroll]
  split <;> rw [wakeOne_eq] <;> rfl

/-! ### Busy wallets and the registry -/

/-- The wallets that tasks claim are those that are busy, every task has wallets, and the registry
knows no wallets but those that were made. -/
structure Audible (ws : List Wallet) (s : Scheduler) : Prop
    extends Marked SyncState.busy (fun _ => true) false ws s where
  nonempty : ∀ t ∈ s.queue.tasks, t.wallets ≠ []
  tracked : ∀ w ∈ s.roster.registry.tracked, w ∈ ws

namespace Audible

theorem move {p : Terms} (hmake : ∀ handle id state, ¬ p.own (.make handle id state))
    (hs : Audible ws s) (h : Move p s s') : Audible ws s' where
  toMarked := hs.toMarked.move marks_busy hmake h
  nonempty := by
    cases h.claimMove hmake hs.headMatches with
    | keep _ _ htasks => exact fun t ht => hs.nonempty t (htasks ht)
    | release _ htasks =>
      rw [htasks]
      exact hs.nonempty
    | claim haccepts _ htask hqueue =>
      intro t ht
      rw [hqueue] at ht
      rcases List.mem_append.mp ht with ht | ht
      · exact hs.nonempty t ht
      · rw [List.mem_singleton.mp ht, htask]
        exact (accepts_iff.mp haccepts).1
  tracked := by
    rcases h.tracked with heq | ⟨-, request, -, hheld, rfl⟩
    · rw [heq]
      exact hs.tracked
    · intro w hw
      rw [registry_enroll] at hw
      rcases Registry.mem_of_mem_trackAll hw with hw | hw
      · exact hs.tracked w hw
      · have htask : (request.toTask s.acceptedCount s.checkpoints).wallets = request.wallets := rfl
        exact hs.known.mem_of_held hheld htask w hw

theorem act (hs : Audible ws s) (hticks : s.TicksDriven) {a : Action}
    (ha : a.Makes fun state => state.busy = false) :
    Audible (ws ++ (s.madeWallet? a).toList) (s.act a).1 := by
  refine act_invariant hs hticks a (fun handle id state heq => ?_) fun hs h => hs.move noMaking_own h
  subst heq
  exact ⟨hs.toMarked.make handle id ha, hs.nonempty,
    fun w hw => List.mem_append_left _ (hs.tracked w hw)⟩

theorem run (hs : Audible ws s) (hticks : s.TicksDriven) {actions : List Action}
    (hmade : ∀ a ∈ actions, a.Makes fun state => state.busy = false) :
    Audible (ws ++ s.madeWallets actions) (s.run actions) :=
  run_invariant (fun hs hticks ha => hs.act hticks ha) hs hticks (along_of_forall hmade)

/-- Listeners are told that a wallet is busy if a task claims a wallet that the registry knows. -/
theorem anyBusy_iff (hs : Audible ws s) : s.roster.anyBusy s.holdsWallet = true ↔
    ∃ t w, s.Claims t w ∧ w ∈ s.roster.registry.tracked := by
  rw [Roster.anyBusy, Registry.anyBusy_iff]
  constructor
  · rintro ⟨w, hw, -, hbusy⟩
    by_contra hnone
    have hfree := hs.free w (hs.tracked w hw) fun t ht => hnone ⟨t, w, ht, hw⟩
    simp [hfree] at hbusy
  · rintro ⟨t, w, ht, hw⟩
    refine ⟨w, hw, ?_, hs.claimed t w ht⟩
    have hheld : s.queue.tasks.any (·.wallets.contains w) = true :=
      List.any_eq_true.mpr ⟨t, s.queue.claiming_subset ht.1, by simpa using ht.2⟩
    simp only [Roster.isAlive, holdsWallet, hheld, Bool.true_or, Bool.or_true]

end Audible

theorem audible_fresh (checkpoints : Checkpoints) (retry : RetryPolicy) (interval : Nat)
    (synced : Option Height) : Audible [] (fresh checkpoints retry interval synced) where
  toMarked := marked_fresh checkpoints retry interval synced
  nonempty t ht := by cases synced <;> simp [fresh, start, startSynced] at ht
  tracked w hw := by cases synced <;> simp [fresh, start, startSynced] at hw

/-! ### What actions tell -/

/-- A wallet becomes busy or ceases to be. -/
def Flips (ws : List Wallet) (s s' : Scheduler) : Prop :=
  ∃ w ∈ ws, (s'.roster.ledger.get w).busy ≠ (s.roster.ledger.get w).busy

/-- What an action means for busy flags and for the listeners. -/
inductive Telling (ws : List Wallet) (s s' : Scheduler) : Prop where
  /-- No wallet becomes busy or ceases to be, and nobody is told anything. -/
  | quiet {news : List Occurrence} (hnews : ∀ o ∈ news, o.isQuiet = true)
      (hjournal : s'.journal = s.journal ++ news)
      (hbusy : ∀ w ∈ ws, (s'.roster.ledger.get w).busy = (s.roster.ledger.get w).busy)
  /-- A task begins to claim its wallets or ceases to, of which there are some, and all listeners are
  told. -/
  | loud {o : Occurrence} {w : Wallet} (ho : o.turnsClaims = true)
      (hjournal : s'.journal = s.journal ++ o :: s'.tidings)
      (hlisteners : s'.roster.registry.listeners = s.roster.registry.listeners) (hw : w ∈ ws)
      (hbusy : (s'.roster.ledger.get w).busy ≠ (s.roster.ledger.get w).busy)

namespace Telling

theorem of_silent (hjournal : s'.journal = s.journal)
    (hbusy : ∀ w ∈ ws, (s'.roster.ledger.get w).busy = (s.roster.ledger.get w).busy) :
    Telling ws s s' :=
  .quiet (List.forall_mem_nil _) (by rw [hjournal, List.append_nil]) hbusy

/-- If a wallet becomes busy or ceases to be, this is because a task begins to claim its wallets or
ceases to, and each listener is told once, in order. Otherwise nobody is told anything. -/
theorem heard (h : Telling ws s s') : ∃ news, s'.journal = s.journal ++ news ∧
    (Flips ws s s' ∧ (∃ o ∈ news, o.turnsClaims = true) ∧
        news.filterMap Occurrence.heard? = s.roster.registry.listeners.map
          (fun listener => (listener, s'.roster.anyBusy s'.holdsWallet)) ∨
      ¬ Flips ws s s' ∧ (∀ o ∈ news, o.turnsClaims = false) ∧
        news.filterMap Occurrence.heard? = []) := by
  cases h with
  | @quiet news hnews hjournal hbusy =>
    refine ⟨news, hjournal, Or.inr ⟨?_, fun o ho => ?_, ?_⟩⟩
    · rintro ⟨w, hw, hne⟩
      exact hne (hbusy w hw)
    · exact Occurrence.turnsClaims_of_isQuiet (hnews o ho)
    · exact List.filterMap_eq_nil_iff.mpr fun o ho => Occurrence.heard?_of_isQuiet (hnews o ho)
  | @loud o w ho hjournal hlisteners hw hbusy =>
    refine ⟨_, hjournal, Or.inl ⟨⟨w, hw, hbusy⟩, ⟨o, List.mem_cons_self, ho⟩, ?_⟩⟩
    have hnone : o.heard? = none := by cases o <;> simp_all [Occurrence.turnsClaims, Occurrence.heard?]
    rw [List.filterMap_cons_none hnone, heard_tidings, hlisteners]

/-- What comes before may change what does not matter here. -/
theorem of_same {t : Scheduler} (h : Telling ws t s') (hjournal : t.journal = s.journal)
    (hlisteners : t.roster.registry.listeners = s.roster.registry.listeners)
    (hbusy : ∀ w, (t.roster.ledger.get w).busy = (s.roster.ledger.get w).busy) :
    Telling ws s s' := by
  cases h with
  | quiet hnews hjournal' hbusy' =>
    exact .quiet hnews (by rw [hjournal', hjournal]) fun w hw => (hbusy' w hw).trans (hbusy w)
  | loud ho hjournal' hlisteners' hw hbusy' =>
    exact .loud ho (by rw [hjournal', hjournal]) (hlisteners'.trans hlisteners) hw
      (by rwa [← hbusy])

end Telling

/-- The terms under which nothing is offered or reported, and no wallets are made. -/
def noTurn : Terms where
  offer := False
  report := False
  own action := ∀ handle id state, action ≠ .make handle id state

namespace Audible

theorem telling_of_within (hs : Audible ws s) (hticks : s.TicksDriven) {a : Action}
    (h : Within noTurn s a) : Telling ws s (s.act a).1 := by
  let I (t : Scheduler) : Prop := Audible ws t ∧
    (∃ news, (∀ o ∈ news, o.isQuiet = true) ∧ t.journal = s.journal ++ news) ∧
    ∀ w ∈ ws, (t.roster.ledger.get w).busy = (s.roster.ledger.get w).busy
  have hmove : ∀ {t u : Scheduler}, I t → Move noTurn t u → I u := by
    rintro t u ⟨ht, ⟨news, hnews, hjournal⟩, hbusy⟩ hmove
    refine ⟨ht.move (p := noTurn) noMaking_own hmove, ?_, fun w hw => ?_⟩
    · obtain ⟨more, hmore, hjournal'⟩ := hmove.quiet not_false not_false
      refine ⟨news ++ more, fun o ho => ?_, by rw [hjournal', hjournal, List.append_assoc]⟩
      exact (List.mem_append.mp ho).elim (hnews o) (hmore o)
    · rw [← hbusy w hw]
      cases hmove.touch ht.toParted hw with
      | rest _ hstate => simpa using congrArg SyncState.busy hstate
      | see _ _ _ hstate | download _ _ _ _ hstate =>
        rw [hstate]
        rfl
      | claim hp => exact hp.elim
      | release hp => exact hp.elim
  obtain ⟨-, ⟨news, hnews, hjournal⟩, hbusy⟩ := moves_invariant hmove
    ⟨hs, ⟨[], by simp, (List.append_nil _).symm⟩, fun _ _ => rfl⟩ (act_moves hticks h)
  exact .quiet hnews hjournal hbusy

/-- An offer makes the wallets of the task that it becomes busy. -/
theorem telling_offer (hs : Audible ws s) (handles : List String) (target : Target) :
    Telling ws s (s.act (.offer handles target)).1 := by
  simp only [Scheduler.act, offer]
  split
  · rename_i haccepts
    have hheld : ∀ w ∈ s.heldWallets handles, ∃ handle, s.roster.handles.get? handle = some w :=
      fun _ => held_of_mem_heldWallets
    generalize hrequest : Request.mk (s.heldWallets handles) target = request at haccepts
    replace hheld : ∀ w ∈ request.wallets, ∃ handle, s.roster.handles.get? handle = some w := by
      rw [← hrequest]
      exact hheld
    have hmove : Move noMaking s (s.enroll (request.toTask s.acceptedCount s.checkpoints)) :=
      .enroll trivial haccepts hheld
    have hs' := hs.move noMaking_own hmove
    obtain ⟨w, hw⟩ := List.exists_mem_of_ne_nil _ (accepts_iff.mp haccepts).1
    have hold : (s.roster.ledger.get w).busy = false := by
      obtain ⟨handle, hget⟩ := hheld w hw
      refine hs.free w (hs.known.held handle w hget) fun t ht => ?_
      exact apart_of_accepts haccepts ht.1 (u := request.toTask s.acceptedCount s.checkpoints) rfl
        w ht.2 w hw rfl
    have hnew : ((s.enroll (request.toTask s.acceptedCount s.checkpoints)).roster.ledger.get w).busy =
        true := by
      refine hs'.claimed (request.toTask s.acceptedCount s.checkpoints) w ⟨?_, hw⟩
      rw [queue_enroll, hs.headMatches.claiming_push]
      simp
    obtain ⟨handle, hget⟩ := hheld w hw
    refine .loud rfl (journal_enroll_of_flips ?_) ?_ (hs.known.held handle w hget) ?_
    · exact List.any_eq_true.mpr ⟨w, hw, by simp [hold]⟩
    · rw [registry_enroll, Registry.listeners_trackAll]
    · rw [hold, hnew]
      simp
  · exact .of_silent rfl fun _ _ => rfl

/-- A completion makes the wallets of its task not busy. -/
theorem telling_complete (hs : Audible ws s) {head : Task} (hhead : s.queue.head? = some head)
    (haccepts : s.queue.phase.acceptsCompletion head.id = true) :
    Telling ws s (complete { s with queue := { s.queue with phase := .completing head.id } } head) := by
  have hclaims := Queue.mem_claiming_of_accepts hhead haccepts
  obtain ⟨w, hw⟩ := List.exists_mem_of_ne_nil _ (hs.nonempty head (List.mem_of_head? hhead))
  have hold : (s.roster.ledger.get w).busy = true := hs.claimed head w ⟨hclaims, hw⟩
  refine .loud (w := w) rfl (journal_complete_of_flips ?_) (by rw [complete_eq]; rfl)
    (hs.mem_of_claiming hclaims hw) ?_
  · exact List.any_eq_true.mpr ⟨w, hw, hold⟩
  · rw [hold, hs.busy_complete hhead haccepts hw]
    exact Bool.false_ne_true

theorem telling_notify (hs : Audible ws s) (id : TaskId) : Telling ws s (s.notifyCompleted id).1 := by
  rcases s.notifyCompleted_cases id with h | ⟨head, hhead, rfl, haccepts, h⟩
  · rw [h]
    exact .of_silent rfl fun _ _ => rfl
  · rw [h]
    exact hs.telling_complete hhead haccepts

theorem telling_finish (hs : Audible ws s) : Telling ws s s.finishDownload.1 := by
  have hcleared : s.roster.ledger.Agree SyncState.busy
      (clearPercents { s with client := { s.client with download := none } }).roster.ledger :=
    .modifyAll (f := (·.setPercent none)) (fun _ => rfl) _ _
  unfold finishDownload
  split
  · exact .of_silent rfl fun _ _ => rfl
  · rename_i download hdownload
    cases download with
    | regular =>
      exact .of_silent rfl fun w _ => hcleared w
    | replay task =>
      have hs' : Audible ws (clearPercents { s with client := { s.client with download := none } }) :=
        hs.move noMaking_own (.endDownload hdownload trivial)
      exact (hs'.telling_notify task).of_same rfl rfl hcleared

/-- **What an action means for busy flags and for the listeners.** -/
theorem telling (hs : Audible ws s) (hticks : s.TicksDriven) (a : Action) :
    Telling ws s (s.act a).1 := by
  cases a with
  | offer handles target => exact hs.telling_offer handles target
  | notify id => exact hs.telling_notify id
  | finish => exact hs.telling_finish
  | own action =>
    cases action with
    | make handle id state =>
      refine .of_silent rfl fun w hw => ?_
      exact congrArg SyncState.busy (Ledger.get_add_of_lt (hs.known.lt_size hw) id state)
    | drop | see | save => exact hs.telling_of_within hticks fun _ _ _ => by simp
  | create name kind | cancel name => exact hs.telling_of_within hticks fun _ => trivial
  | listen | poll | spawn | drive | inject | progress | setHeight | wait =>
    exact hs.telling_of_within hticks trivial

end Audible

/-! ### Wallets that the registry overlooks -/

/-- An offer is accepted of a wallet while another with its identifier is tracked and alive. -/
def Overlooks (s : Scheduler) : Action → Prop
  | .offer handles target =>
    s.accepts { wallets := s.heldWallets handles, target } = true ∧
      ∃ w ∈ s.heldWallets handles, ∃ v ∈ s.roster.registry.tracked,
        s.roster.isAlive s.holdsWallet v = true ∧ v.id = w.id ∧ v ≠ w
  | _ => False

/-- The registry knows all wallets that tasks claim. -/
structure Overseen (ws : List Wallet) (s : Scheduler) : Prop extends Audible ws s where
  overseen : ∀ t w, s.Claims t w → w ∈ s.roster.registry.tracked

theorem alivePushed_of_held {task : Task} {w : Wallet} {handle : String}
    (h : s.roster.handles.get? handle = some w) : s.alivePushed task w = true := by
  have hheld : s.roster.isHeld w = true := Table.any_of_get? h fun _ => by simp
  simp only [alivePushed, Roster.isAlive, hheld, Bool.true_or]

theorem alivePushed_of_claims {t task : Task} {w : Wallet} (h : s.Claims t w) :
    s.alivePushed task w = true := by
  have hheld : (s.queue.push task).tasks.any (·.wallets.contains w) = true :=
    List.any_eq_true.mpr
      ⟨t, List.mem_append_left _ (s.queue.claiming_subset h.1), by simpa using h.2⟩
  simp only [alivePushed, Roster.isAlive, holdsWallet, hheld, Bool.true_or, Bool.or_true]

/-- What is alive when a task is in line was alive before, for owners hold the wallets of the task. -/
theorem isAlive_of_alivePushed {task : Task} {v : Wallet}
    (hheld : ∀ w ∈ task.wallets, ∃ handle, s.roster.handles.get? handle = some w)
    (h : s.alivePushed task v = true) : s.roster.isAlive s.holdsWallet v = true := by
  by_cases hv : v ∈ task.wallets
  · obtain ⟨handle, hget⟩ := hheld v hv
    have hheld : s.roster.isHeld v = true := Table.any_of_get? hget fun _ => by simp
    simp only [Roster.isAlive, hheld, Bool.true_or]
  · simpa [alivePushed, Roster.isAlive, holdsWallet, Queue.push, hv] using h

/-- The terms under which nothing is offered and no wallets are made. -/
def noGain : Terms where
  offer := False
  own action := ∀ handle id state, action ≠ .make handle id state

namespace Overseen

theorem enroll (hs : Overseen ws s) {request : Request} (haccepts : s.accepts request = true)
    (hheld : ∀ w ∈ request.wallets, ∃ handle, s.roster.handles.get? handle = some w)
    (hsole : ∀ w ∈ request.wallets, ∀ v ∈ s.roster.registry.tracked,
      s.roster.isAlive s.holdsWallet v = true → v.id = w.id → v = w) :
    Overseen ws (s.enroll (request.toTask s.acceptedCount s.checkpoints)) := by
  let task := request.toTask s.acceptedCount s.checkpoints
  have hmove : Move noMaking s (s.enroll task) := .enroll trivial haccepts hheld
  refine ⟨hs.toAudible.move noMaking_own hmove, fun t w ht => ?_⟩
  obtain ⟨ht, hw⟩ := ht
  rw [registry_enroll]
  rw [queue_enroll, hs.headMatches.claiming_push] at ht
  rcases List.mem_append.mp ht with ht | ht
  · exact Registry.mem_trackAll_of_mem (hs.overseen t w ⟨ht, hw⟩) (alivePushed_of_claims ⟨ht, hw⟩)
  · rw [List.mem_singleton.mp ht] at hw
    refine Registry.mem_trackAll_of_alive (fun v hv => ?_) (accepts_iff.mp haccepts).2.1
      (fun u hu v hv halive => hsole u hu v hv (isAlive_of_alivePushed hheld halive)) w hw
    obtain ⟨handle, hget⟩ := hheld v hv
    exact alivePushed_of_held hget

theorem move {p : Terms} (hoffer : ¬ p.offer)
    (hmake : ∀ handle id state, ¬ p.own (.make handle id state)) (hs : Overseen ws s)
    (h : Move p s s') : Overseen ws s' := by
  have hs' := hs.toAudible.move hmake h
  refine ⟨hs', fun t w ht => ?_⟩
  have htracked : s'.roster.registry.tracked = s.roster.registry.tracked :=
    h.tracked.resolve_right fun hp => hoffer hp.1
  rw [htracked]
  refine hs.overseen t w ?_
  cases h.touch hs.toParted (hs'.mem_of_claiming ht.1 ht.2) with
  | rest hclaims | see _ _ hclaims | download _ _ _ hclaims => exact (hclaims t).mp ht
  | claim hp => exact absurd hp hoffer
  | release _ _ hfree => exact absurd ht (hfree t)

theorem act (hs : Overseen ws s) (hticks : s.TicksDriven) {a : Action}
    (ha : a.Makes fun state => state.busy = false) (hlook : ¬ s.Overlooks a) :
    Overseen (ws ++ (s.madeWallet? a).toList) (s.act a).1 := by
  have within (h : Within noGain s a) : Overseen ws (s.act a).1 :=
    moves_invariant (fun hs h => hs.move (p := noGain) not_false noMaking_own h) hs (act_moves hticks h)
  cases a with
  | offer handles target =>
    simp only [madeWallet?, Option.toList_none, List.append_nil, Scheduler.act, offer]
    split
    · rename_i haccepts
      refine hs.enroll haccepts (fun _ => held_of_mem_heldWallets) fun w hw v hv halive hid => ?_
      by_contra hne
      exact hlook ⟨haccepts, w, hw, v, hv, halive, hid, hne⟩
    · exact hs
  | own action =>
    cases action with
    | make handle id state => exact ⟨hs.toAudible.act hticks ha, hs.overseen⟩
    | drop | see | save =>
      simp only [madeWallet?, Option.toList_none, List.append_nil]
      exact within fun _ _ _ => by simp
  | create name kind | cancel name =>
    simp only [madeWallet?, Option.toList_none, List.append_nil]
    exact within fun _ => trivial
  | listen | notify | poll | spawn | drive | inject | progress | finish | setHeight | wait =>
    simp only [madeWallet?, Option.toList_none, List.append_nil]
    exact within trivial

theorem run (hs : Overseen ws s) (hticks : s.TicksDriven) {actions : List Action}
    (hmade : ∀ a ∈ actions, a.Makes fun state => state.busy = false)
    (hlook : Along (fun s a => ¬ s.Overlooks a) s actions) :
    Overseen (ws ++ s.madeWallets actions) (s.run actions) :=
  run_invariant (fun hs hticks ha => hs.act hticks ha.1 ha.2) hs hticks
    ((along_of_forall hmade).and hlook)

/-- Listeners are told that a wallet is busy if a task claims wallets. -/
theorem anyBusy_iff (hs : Overseen ws s) : s.roster.anyBusy s.holdsWallet = true ↔
    ∃ t, t ∈ s.queue.claiming := by
  rw [hs.toAudible.anyBusy_iff]
  constructor
  · rintro ⟨t, w, ht, -⟩
    exact ⟨t, ht.1⟩
  · rintro ⟨t, ht⟩
    obtain ⟨w, hw⟩ := List.exists_mem_of_ne_nil _ (hs.nonempty t (s.queue.claiming_subset ht))
    exact ⟨t, w, ⟨ht, hw⟩, hs.overseen t w ⟨ht, hw⟩⟩

end Overseen

theorem overseen_fresh (checkpoints : Checkpoints) (retry : RetryPolicy) (interval : Nat)
    (synced : Option Height) : Overseen [] (fresh checkpoints retry interval synced) where
  toAudible := audible_fresh checkpoints retry interval synced
  overseen t w ht := by
    cases synced <;> simp [Claims, fresh, start, startSynced, Queue.claiming] at ht

/-- **What busy listeners hear**, if owners make wallets that are not busy. A wallet becomes busy or
ceases to be only because an offer or a completion is accepted. Each listener is then told once, in
order, whether a task claims a wallet that the registry tracks; otherwise nobody is told anything.
Unless a wallet was offered while another with its identifier was tracked and alive, that is whether
a task claims wallets at all. -/
theorem run_heard (checkpoints : Checkpoints) (retry : RetryPolicy) (interval : Nat)
    (synced : Option Height) {actions : List Action} {a : Action}
    (hmade : ∀ b ∈ actions ++ [a], b.Makes fun state => state.busy = false) :
    let s₀ := fresh checkpoints retry interval synced
    let s := s₀.run actions
    let s' := (s.act a).1
    let told := s'.roster.anyBusy s'.holdsWallet
    (∃ news, s'.journal = s.journal ++ news ∧
        (Flips (s₀.madeWallets actions) s s' ∧ (∃ o ∈ news, o.turnsClaims = true) ∧
            news.filterMap Occurrence.heard? =
              s.roster.registry.listeners.map (fun listener => (listener, told)) ∨
          ¬ Flips (s₀.madeWallets actions) s s' ∧ (∀ o ∈ news, o.turnsClaims = false) ∧
            news.filterMap Occurrence.heard? = [])) ∧
      (told = true ↔ ∃ t ∈ s'.queue.claiming, ∃ w ∈ t.wallets, w ∈ s'.roster.registry.tracked) ∧
      (Along (fun s b => ¬ s.Overlooks b) s₀ (actions ++ [a]) →
        (told = true ↔ ∃ t, t ∈ s'.queue.claiming)) ∧
      ((∃ t, t ∈ s'.queue.claiming) ↔
        ∃ t ∈ s'.queue.claiming, ∃ w ∈ t.wallets, (s'.roster.ledger.get w).busy = true) := by
  intro s₀ s s' told
  have hticks₀ : s₀.TicksDriven := ticksDriven_fresh checkpoints retry interval synced
  have hrun : s₀.run (actions ++ [a]) = s' := run_append s₀ actions [a]
  have hs : Audible (s₀.madeWallets actions) s :=
    (audible_fresh checkpoints retry interval synced).run hticks₀
      fun b hb => hmade b (List.mem_append_left _ hb)
  have hs' : Audible (s₀.madeWallets (actions ++ [a])) s' :=
    hrun ▸ (audible_fresh checkpoints retry interval synced).run hticks₀ hmade
  refine ⟨(hs.telling (hticks₀.run actions) a).heard, ?_, fun hlook => ?_, ?_, ?_⟩
  · rw [hs'.anyBusy_iff]
    constructor
    · rintro ⟨t, w, ⟨ht, hw⟩, htracked⟩
      exact ⟨t, ht, w, hw, htracked⟩
    · rintro ⟨t, ht, w, hw, htracked⟩
      exact ⟨t, w, ⟨ht, hw⟩, htracked⟩
  · have hoverseen : Overseen (s₀.madeWallets (actions ++ [a])) s' :=
      hrun ▸ (overseen_fresh checkpoints retry interval synced).run hticks₀ hmade hlook
    exact hoverseen.anyBusy_iff
  · rintro ⟨t, ht⟩
    obtain ⟨w, hw⟩ := List.exists_mem_of_ne_nil _ (hs'.nonempty t (s'.queue.claiming_subset ht))
    exact ⟨t, ht, w, hw, hs'.claimed t w ⟨ht, hw⟩⟩
  · rintro ⟨t, ht, -⟩
    exact ⟨t, ht⟩

/-- A listener is told of the first offer that a wallet is busy. -/
theorem run_heard_of_offer :
    let actions : List Action := [.own (.make "savings" "w1" {}), .listen "main"]
    let a : Action := .offer ["savings"] .genesis
    let s := (fresh .empty {} 200 none).run actions
    let s' := (s.act a).1
    (∀ b ∈ actions ++ [a], b.Makes fun state => state.busy = false) ∧
      Along (fun s b => ¬ s.Overlooks b) (fresh .empty {} 200 none) (actions ++ [a]) ∧
      ∃ news, s'.journal = s.journal ++ news ∧
        news.filterMap Occurrence.heard? = [("main", true)] := by
  intro actions a s s'
  have hmade : ∀ b ∈ actions ++ [a], b.Makes fun state => state.busy = false := by
    simp [actions, a, Action.Makes]
  have hlook : Along (fun s b => ¬ s.Overlooks b) (fresh .empty {} 200 none) (actions ++ [a]) := by
    refine ⟨id, id, ?_, trivial⟩
    rintro ⟨-, w, -, v, hv, -⟩
    have htracked : s.roster.registry.tracked = [] := by decide
    exact absurd (htracked ▸ hv) List.not_mem_nil
  have hflips : Flips ((fresh .empty {} 200 none).madeWallets actions) s s' :=
    ⟨⟨0, "w1"⟩, by decide, by decide⟩
  have hclaiming : ∃ t, t ∈ s'.queue.claiming :=
    ⟨⟨0, [⟨0, "w1"⟩], .genesis, .genesis⟩, by decide⟩
  obtain ⟨⟨news, hjournal, htelling⟩, -, htold, -⟩ := run_heard .empty {} 200 none hmade
  refine ⟨hmade, hlook, news, hjournal, ?_⟩
  rcases htelling with ⟨-, -, hheard⟩ | ⟨hnot, -⟩
  · rw [hheard, (htold hlook).mpr hclaiming]
    rfl
  · exact absurd hflips hnot

/-- The wallet under a name is let go of after its task has retired, but a progress listener still
holds it. A new wallet with its identifier is offered, and the listener is told that none is busy. -/
theorem heard_idle_of_claimed :
    let s := (fresh .empty {} 200 none).run [.listen "main", .own (.make "w" "w1" {}),
      .offer ["w"] .genesis, .create "tick" .tick, .poll "tick", .poll "tick", .poll "tick",
      .poll "tick", .poll "tick", .poll "tick", .finish, .create "tick" .tick, .poll "tick",
      .own (.drop "w"), .own (.make "w" "w1" {})]
    let s' := (s.act (.offer ["w"] .genesis)).1
    s'.journal = s.journal ++ [.accepted 1, .heard "main" false] ∧
      ∃ t ∈ s'.queue.claiming, ∃ w ∈ t.wallets, (s'.roster.ledger.get w).busy = true := by
  decide +kernel

end Scheduler

end WalletReplay
