import WalletReplay.Proofs.Checkpoint.Resolution
import WalletReplay.Proofs.Scheduler.Order
import WalletReplay.Proofs.Scheduler.Touch

/-!
# Where a replay resumes

When a task is accepted, the height that it starts from is recorded as what its wallets have seen of
the chain. Until the task completes nobody but the owner of a wallet changes that record, so it is
what the owner goes by if the program ends early, and asks for a replay from that height.

That replay does not start where the interrupted one did. A replay starts strictly below the height
that it is asked for, and the recorded height is where a checkpoint is: the highest checkpoint below
it is the one before. Each restart goes back by one checkpoint, down to genesis.

## What is proved

* `Resumable.run` — the recorded height stays that of the start of the task.
* `run_resumes` — what is recorded until the task completes, and where a replay from there starts.
-/

namespace WalletReplay.Scheduler

variable {s s' : Scheduler} {ws : List Wallet} {w : Wallet}

/-- An action records up to which block a wallet has seen the chain. -/
def Sees (s : Scheduler) (w : Wallet) : Action → Prop
  | .own (.see handle _ _) => s.roster.handles.get? handle = some w
  | _ => False

/-- A wallet has seen the chain up to where the task starts that claims it, if one does. -/
structure Resumable (w : Wallet) (ws : List Wallet) (s : Scheduler) : Prop extends Parted ws s where
  made : w ∈ ws
  seen : ∀ t, s.Claims t w → (s.roster.ledger.get w).seenHeight = some t.start.height

/-- The terms under which owners do nothing. -/
def noOwning : Terms where
  own _ := False

/-- An action that is not an owner's makes its moves without them. -/
theorem within_noOwning (s : Scheduler) {a : Action} (h : ∀ action, a ≠ .own action) :
    s.madeWallet? a = none ∧ Within noOwning s a := by
  cases a with
  | own action => exact absurd rfl (h action)
  | create name kind | cancel name => exact ⟨rfl, fun _ => trivial⟩
  | listen | offer | notify | poll | spawn | drive | inject | progress | finish | setHeight | wait =>
    exact ⟨rfl, trivial⟩

namespace Resumable

/-- What a wallet has seen changes with claims only, unless its owner records it. -/
theorem seen_touch {p : Terms} (hs : Resumable w ws s) (h : Touch p w s s')
    (hsee : ∀ handle height hash, p.own (.see handle height hash) →
      s.roster.handles.get? handle ≠ some w) :
    ∀ t, s'.Claims t w → (s'.roster.ledger.get w).seenHeight = some t.start.height := by
  intro t ht
  cases h with
  | rest hclaims hstate =>
    have hseen : (s'.roster.ledger.get w).seenHeight = (s.roster.ledger.get w).seenHeight := by
      simpa using congrArg SyncState.seenHeight hstate
    rw [hseen]
    exact hs.seen t ((hclaims t).mp ht)
  | see hp hheld => exact absurd hheld (hsee _ _ _ hp)
  | download _ _ _ hclaims hstate =>
    rw [hstate]
    exact hs.seen t ((hclaims t).mp ht)
  | claim _ _ hclaims hstate =>
    rw [hstate, (hclaims t).mp ht]
    rfl
  | release _ _ hfree => exact absurd ht (hfree t)

theorem act (hs : Resumable w ws s) (hticks : s.TicksDriven) {a : Action} (ha : ¬ s.Sees w a) :
    Resumable w (ws ++ (s.madeWallet? a).toList) (s.act a).1 := by
  by_cases hown : ∃ action, a = .own action
  · obtain ⟨action, rfl⟩ := hown
    let p : Terms := { own := fun other => other = action }
    have htouch : Touch p w s { s with roster := s.roster.own action } :=
      hs.toParted.touch_own hs.made rfl
    refine ⟨hs.toParted.act hticks _, List.mem_append_left _ hs.made, hs.seen_touch htouch ?_⟩
    intro handle height hash heq hheld
    apply ha
    rw [← show OwnerAction.see handle height hash = action from heq]
    exact hheld
  · obtain ⟨hnone, hwithin⟩ := s.within_noOwning fun action h => hown ⟨action, h⟩
    rw [hnone, Option.toList_none, List.append_nil]
    refine moves_invariant (fun hs h => ?_) hs (act_moves hticks hwithin)
    exact ⟨hs.toParted.move (fun _ _ _ => not_false) h, hs.made,
      hs.seen_touch (h.touch hs.toParted hs.made) fun _ _ _ => False.elim⟩

theorem run (hs : Resumable w ws s) (hticks : s.TicksDriven) {actions : List Action}
    (hunseen : Along (fun s a => ¬ s.Sees w a) s actions) :
    Resumable w (ws ++ s.madeWallets actions) (s.run actions) :=
  run_invariant (fun hs hticks ha => hs.act hticks ha) hs hticks hunseen

end Resumable

/-- A wallet of a task that is accepted is claimed by it, and has seen the chain up to its start. -/
theorem Parted.resumable (hs : Parted ws s) {request : Request} (haccepts : s.accepts request = true)
    (hheld : ∀ v ∈ request.wallets, ∃ handle, s.roster.handles.get? handle = some v)
    (hw : w ∈ request.wallets) :
    let task := request.toTask s.acceptedCount s.checkpoints
    (s.enroll task).Claims task w ∧ Resumable w ws (s.enroll task) := by
  intro task
  have hvs : ∀ v ∈ task.wallets, v ∈ ws := hs.known.mem_of_held hheld rfl
  have hparted : Parted ws (s.enroll task) :=
    hs.move noMaking_own (.enroll trivial haccepts hheld)
  have htask : (s.enroll task).Claims task w := by
    refine ⟨?_, hw⟩
    rw [queue_enroll, hs.headMatches.claiming_push]
    simp
  refine ⟨htask, hparted, hvs w hw, fun t ht => ?_⟩
  obtain rfl := hparted.eq_of_mem ht.1 htask.1 ht.2 htask.2
  rw [ledger_enroll, hs.known.get_modifyAll_of_mem hvs hw fun state => state.claim_claim _ _]
  rfl

/-! ### Runs -/

/-- A task claims its wallets until it completes, in any run. -/
theorem Ordered.claiming_or_completed (hs : s.Ordered) (hticks : s.TicksDriven) {t : Task}
    (ht : t ∈ s.queue.claiming) (actions : List Action) :
    t ∈ (s.run actions).queue.claiming ∨ .completed t.id ∈ (s.run actions).journal := by
  let I (s : Scheduler) : Prop :=
    s.Ordered ∧ (t ∈ s.queue.claiming ∨ .completed t.id ∈ s.journal)
  have hmove : ∀ {s s' : Scheduler}, I s → Move {} s s' → I s' := by
    rintro s s' ⟨hs, hclaims⟩ h
    have hc := h.course hs.inLine hs.headMatches
    refine ⟨hs.move h, ?_⟩
    rcases hclaims with hclaims | hcompleted
    · exact hc.claiming_or_completed hs.headMatches hclaims
    · exact Or.inr (hc.journal_prefix.subset hcompleted)
  exact (moves_invariant hmove ⟨hs, Or.inl ht⟩ (moves_run hticks actions)).2

/-- What an offer is that is accepted. -/
theorem act_offer_eq {handles : List String} {target : Target} {id : TaskId}
    (h : s.act (.offer handles target) = (s', .task (some id))) :
    let request : Request := { wallets := s.heldWallets handles, target }
    s.accepts request = true ∧ id = s.acceptedCount ∧
      s' = s.enroll (request.toTask s.acceptedCount s.checkpoints) := by
  intro request
  simp only [Scheduler.act, offer] at h
  split at h
  · rename_i haccepts
    obtain ⟨hs', hid⟩ := Prod.mk.inj h
    exact ⟨haccepts, (Option.some.inj (Answer.task.inj hid)).symm, hs'.symm⟩
  · simp at h

/-- **Where a replay resumes.** Take any run, then an offer of some wallets that is accepted, and any
run from there on in which what one of them has seen is not recorded. As long as the task is not
completed, that wallet has seen the chain up to the height at which the task starts. A replay from
that height starts at the highest checkpoint below it, or at genesis if none is below it: at a lower
height than the task, unless the task starts at the first block. -/
theorem run_resumes (checkpoints : Checkpoints) (retry : RetryPolicy) (interval : Nat)
    (synced : Option Height) {before after : List Action} {handles : List String} {target : Target}
    {id : TaskId} {w : Wallet} {s₁ s₂ : Scheduler}
    (hbefore : (fresh checkpoints retry interval synced).run before = s₁)
    (hoffer : s₁.act (.offer handles target) = (s₂, .task (some id)))
    (hw : w ∈ s₁.heldWallets handles)
    (hunseen : Along (fun s a => ¬ s.Sees w a) s₂ after)
    (hopen : .completed id ∉ (s₂.run after).journal) :
    let start := checkpoints.resolve target
    let resumed := checkpoints.resolve (.height start.height)
    ((s₂.run after).roster.ledger.get w).seenHeight = some start.height ∧
      (resumed ∈ checkpoints.toList ∧ resumed.height < start.height ∧
          (∀ c ∈ checkpoints.toList, c.height < start.height → c.height ≤ resumed.height) ∨
        resumed = .genesis ∧ ∀ c ∈ checkpoints.toList, ¬ c.height < start.height) ∧
      (start.height = .zero → resumed.height = start.height) ∧
      (start.height ≠ .zero → resumed.height < start.height) := by
  intro start resumed
  refine ⟨?_, checkpoints.beforeHeight_spec start.height, fun hzero => ?_,
    checkpoints.height_resolve_height_lt⟩
  · let s₀ := fresh checkpoints retry interval synced
    have hticks₀ : s₀.TicksDriven := ticksDriven_fresh checkpoints retry interval synced
    have hcheckpoints₀ : s₀.checkpoints = checkpoints := by cases synced <;> rfl
    have hticks : s₁.TicksDriven := hbefore ▸ hticks₀.run before
    have hparted : Parted (s₀.madeWallets before) s₁ :=
      hbefore ▸ (parted_fresh checkpoints retry interval synced).run hticks₀ before
    have hordered : s₁.Ordered :=
      hbefore ▸ ((ordered_fresh checkpoints retry interval synced).run hticks₀ before).ordered
    have hcheckpoints : s₁.checkpoints = checkpoints :=
      hbefore ▸ (checkpoints_of_moves (moves_run hticks₀ before)).trans hcheckpoints₀
    have hticks₂ : s₂.TicksDriven := by
      have hact := hticks.act (.offer handles target)
      rwa [hoffer] at hact
    have hordered₂ : s₂.Ordered := by
      have hact := (hordered.act hticks (.offer handles target)).ordered
      rwa [hoffer] at hact
    obtain ⟨haccepts, rfl, heq⟩ := act_offer_eq hoffer
    -- The task claims the wallet as long as it is not completed, and the record stays meanwhile.
    obtain ⟨hclaims, hresumable⟩ := hparted.resumable haccepts (fun _ => held_of_mem_heldWallets) hw
    rw [← heq] at hclaims hresumable
    have hclaims' := (hordered₂.claiming_or_completed hticks₂ hclaims.1 after).resolve_right hopen
    have hseen := (hresumable.run hticks₂ hunseen).seen _ ⟨hclaims', hw⟩
    rw [hseen, hcheckpoints]
    rfl
  · change (checkpoints.resolve (.height start.height)).height = start.height
    rw [hzero]
    exact checkpoints.height_resolve_height_zero

/-- A wallet is offered from a height between two checkpoints, and a tick begins an attempt. -/
theorem run_resumes_of_tick :
    let cs : Checkpoints := ⟨[⟨⟨100, by decide⟩, .ofSeconds 1600007500, none⟩,
      ⟨⟨200, by decide⟩, .ofSeconds 1600015000, none⟩], by decide⟩
    let s₁ := (fresh cs {} 200 none).run [.own (.make "savings" "w1" {})]
    let s₂ := (s₁.act (.offer ["savings"] (.height ⟨150, by decide⟩))).1
    let s := s₂.run [.create "tick" .tick, .poll "tick"]
    (s.roster.ledger.get ⟨0, "w1"⟩).seenHeight = some ⟨100, by decide⟩ ∧
      (cs.resolve (.height ⟨100, by decide⟩)).height < ⟨100, by decide⟩ := by
  intro cs s₁ s₂ s
  have hunseen : Along (fun s a => ¬ s.Sees ⟨0, "w1"⟩ a) s₂ [.create "tick" .tick, .poll "tick"] :=
    ⟨id, id, trivial⟩
  have hopen : .completed 0 ∉ s.journal := by decide
  have hoffer : s₁.act (.offer ["savings"] (.height ⟨150, by decide⟩)) = (s₂, .task (some 0)) := by
    refine Prod.ext rfl ?_
    decide
  obtain ⟨hseen, -, -, hlower⟩ := run_resumes cs {} 200 none rfl hoffer (by decide) hunseen hopen
  have hstart : (cs.resolve (.height ⟨150, by decide⟩)).height = ⟨100, by decide⟩ := by decide +kernel
  rw [hstart] at hseen hlower
  exact ⟨hseen, hlower (by decide)⟩

/-- A task that starts at a checkpoint is not resumed there, but at the checkpoint before. -/
theorem resumed_start_descends :
    let cs : Checkpoints := ⟨[⟨⟨100, by decide⟩, .ofSeconds 1600007500, none⟩,
      ⟨⟨200, by decide⟩, .ofSeconds 1600015000, none⟩], by decide⟩
    let s := (fresh cs {} 200 none).run
      [.own (.make "savings" "w1" {}), .offer ["savings"] (.height ⟨250, by decide⟩)]
    let start := cs.resolve (.height ⟨250, by decide⟩)
    start.height = ⟨200, by decide⟩ ∧
      (s.roster.ledger.get ⟨0, "w1"⟩).seenHeight = some start.height ∧
      (cs.resolve (.height start.height)).height = ⟨100, by decide⟩ := by
  decide +kernel

end WalletReplay.Scheduler
