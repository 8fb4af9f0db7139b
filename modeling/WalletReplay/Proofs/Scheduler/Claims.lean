import WalletReplay.Proofs.Scheduler.Touch

/-!
# Claims on wallets

A wallet is claimed by one task at most, and is busy with that task exactly as long as the task
claims it. A wallet of a task that retires can be claimed anew while that task is still at the head
of the queue and its tick is still in progress: what is left of the old task then leaves the new
claim alone.

Owners are taken to make wallets that nobody holds.

## What is proved

* `Marked.run` — wallets stay marked with the tasks that claim them.
* `run_claims` — after any run, claims are disjoint and wallets are busy with the tasks that claim
  them.
-/

namespace WalletReplay

/-- Whether an action makes no wallet but one that nobody holds. -/
def Action.MakesIdle : Action → Prop
  | own action => action.MakesIdle
  | _ => True

/-- Whether an action makes no wallet but one in a state of some kind. -/
def Action.Makes (P : SyncState → Prop) : Action → Prop
  | own (.make _ _ state) => P state
  | _ => True

theorem Action.MakesIdle.makes {a : Action} (h : a.MakesIdle) :
    a.Makes fun state => state.holder = (false, none) := by
  cases a with
  | own action =>
    cases action with
    | make handle id state => exact Prod.ext h.1 h.2
    | drop | see | save => trivial
  | listen | offer | notify | create | poll | cancel | spawn | drive | inject | progress | finish
  | setHeight | wait => trivial

namespace Scheduler

variable {s s' : Scheduler} {α : Type} {φ : SyncState → α} {on : Task → α} {off : α}

/-! ### Marks of claims -/

/-- What there is to see in a sync state marks the wallets that tasks claim: a claim and a release
set it, and nothing else changes it. -/
structure Marks (φ : SyncState → α) (on : Task → α) (off : α) : Prop where
  core : ∀ state : SyncState, φ state.core = φ state
  see : ∀ (state : SyncState) height hash, φ (state.see height hash) = φ state
  startDownload : ∀ state : SyncState, φ state.startDownload = φ state
  claim : ∀ (state : SyncState) (task : Task), φ (state.claim task.id task.start.height) = on task
  release : ∀ state : SyncState, φ state.release = off

/-- Claims are disjoint, the wallets that tasks claim are marked with them, and the other wallets
are not marked. -/
structure Marked (φ : SyncState → α) (on : Task → α) (off : α) (ws : List Wallet) (s : Scheduler) :
    Prop extends Parted ws s where
  claimed : ∀ t w, s.Claims t w → φ (s.roster.ledger.get w) = on t
  free : ∀ w ∈ ws, (∀ t, ¬ s.Claims t w) → φ (s.roster.ledger.get w) = off

namespace Marked

variable {ws : List Wallet} {p : Terms} {w : Wallet}

/-- A move that neither claims a wallet nor releases it leaves its mark. -/
theorem kept (hφ : Marks φ on off) (h : Touch p w s s') :
    (∀ t, s'.Claims t w ↔ s.Claims t w) ∧
        φ (s'.roster.ledger.get w) = φ (s.roster.ledger.get w) ∨
      (∃ t, (∀ u, s'.Claims u w ↔ u = t) ∧ φ (s'.roster.ledger.get w) = on t) ∨
      (∀ t, ¬ s'.Claims t w) ∧ φ (s'.roster.ledger.get w) = off := by
  cases h with
  | rest hclaims hstate =>
    exact Or.inl ⟨hclaims, by rw [← hφ.core, hstate, hφ.core]⟩
  | see _ _ hclaims hstate => exact Or.inl ⟨hclaims, by rw [hstate, hφ.see]⟩
  | download _ _ _ hclaims hstate => exact Or.inl ⟨hclaims, by rw [hstate, hφ.startDownload]⟩
  | @claim task _ _ hclaims hstate =>
    exact Or.inr (Or.inl ⟨task, hclaims, by rw [hstate, hφ.claim]⟩)
  | release _ _ hfree hstate => exact Or.inr (Or.inr ⟨hfree, by rw [hstate, hφ.release]⟩)

theorem move (hφ : Marks φ on off) (hmake : ∀ handle id state, ¬ p.own (.make handle id state))
    (hs : Marked φ on off ws s) (h : Move p s s') : Marked φ on off ws s' where
  toParted := hs.toParted.move hmake h
  claimed t w ht := by
    have hw := (hs.toParted.move hmake h).mem_of_claiming ht.1 ht.2
    rcases kept hφ (h.touch hs.toParted hw) with ⟨hclaims, heq⟩ | ⟨u, hclaims, heq⟩ | ⟨hfree, -⟩
    · rw [heq]
      exact hs.claimed t w ((hclaims t).mp ht)
    · rw [heq, (hclaims t).mp ht]
    · exact absurd ht (hfree t)
  free w hw hfree := by
    rcases kept hφ (h.touch hs.toParted hw) with ⟨hclaims, heq⟩ | ⟨u, hclaims, -⟩ | ⟨-, heq⟩
    · rw [heq]
      exact hs.free w hw fun t ht => hfree t ((hclaims t).mpr ht)
    · exact absurd ((hclaims u).mpr rfl) (hfree u)
    · exact heq

/-- A wallet that is made without a mark stays so until a task claims it. -/
theorem make (hs : Marked φ on off ws s) (handle : String) (id : WalletId) {state : SyncState}
    (hstate : φ state = off) : Marked φ on off (ws ++ [⟨s.roster.ledger.size, id⟩])
      { s with roster := s.roster.own (.make handle id state) } where
  toParted := hs.toParted.make handle id state
  claimed t w ht := by
    have hlt := hs.known.lt_size (hs.mem_of_claiming ht.1 ht.2)
    exact (congrArg φ (Ledger.get_add_of_lt hlt id state)).trans (hs.claimed t w ht)
  free w hw hfree := by
    rcases List.mem_append.mp hw with hw | hw
    · have hlt := hs.known.lt_size hw
      exact (congrArg φ (Ledger.get_add_of_lt hlt id state)).trans (hs.free w hw hfree)
    · rw [List.mem_singleton.mp hw]
      exact (congrArg φ (s.roster.ledger.get_add_self id state)).trans hstate

theorem act (hφ : Marks φ on off) (hs : Marked φ on off ws s) (hticks : s.TicksDriven) {a : Action}
    (ha : a.Makes fun state => φ state = off) :
    Marked φ on off (ws ++ (s.madeWallet? a).toList) (s.act a).1 := by
  refine act_invariant hs hticks a (fun handle id state heq => ?_)
    fun hs h => hs.move hφ noMaking_own h
  subst heq
  exact hs.make handle id ha

theorem run (hφ : Marks φ on off) (hs : Marked φ on off ws s) (hticks : s.TicksDriven)
    {actions : List Action} (hmakes : ∀ a ∈ actions, a.Makes fun state => φ state = off) :
    Marked φ on off (ws ++ s.madeWallets actions) (s.run actions) :=
  run_invariant (fun hs hticks ha => hs.act hφ hticks ha) hs hticks (along_of_forall hmakes)

end Marked

theorem marked_fresh (checkpoints : Checkpoints) (retry : RetryPolicy) (interval : Nat)
    (synced : Option Height) : Marked φ on off [] (fresh checkpoints retry interval synced) where
  toParted := parted_fresh checkpoints retry interval synced
  claimed t w ht := by
    cases synced <;> simp [Claims, fresh, start, startSynced, Queue.claiming] at ht
  free w hw := by simp at hw

/-- Whether a wallet is busy marks the wallets that tasks claim. -/
theorem marks_busy : Marks SyncState.busy (fun _ => true) false where
  core _ := rfl
  see _ _ _ := rfl
  startDownload _ := rfl
  claim _ _ := rfl
  release _ := rfl

/-! ### Wallets and the tasks that hold them -/

/-- Claims are disjoint; a wallet is held by the task that claims it, and otherwise by none. -/
structure Claimed (ws : List Wallet) (s : Scheduler) : Prop where
  inLine : s.InLine
  headMatches : s.queue.HeadMatches
  known : Known ws s
  disjoint : s.queue.claiming.Pairwise Apart
  busy : ∀ t ∈ s.queue.claiming, ∀ w ∈ t.wallets, (s.roster.ledger.get w).holder = (true, some t.id)
  free : ∀ w ∈ ws, (∀ t ∈ s.queue.claiming, w ∉ t.wallets) →
    (s.roster.ledger.get w).holder = (false, none)

/-- The task that holds a wallet is the mark of the task that claims it. -/
theorem marks_holder : Marks SyncState.holder (fun t => (true, some t.id)) (false, none) where
  core _ := rfl
  see _ _ _ := rfl
  startDownload _ := rfl
  claim _ _ := rfl
  release _ := rfl

theorem claimed_iff {ws : List Wallet} : Claimed ws s ↔
    Marked SyncState.holder (fun t => (true, some t.id)) (false, none) ws s := by
  constructor
  · intro hs
    exact ⟨⟨hs.inLine, hs.headMatches, hs.known, hs.disjoint⟩, fun t w ht => hs.busy t ht.1 w ht.2,
      fun w hw hfree => hs.free w hw fun t ht hwt => hfree t ⟨ht, hwt⟩⟩
  · intro hs
    exact ⟨hs.inLine, hs.headMatches, hs.known, hs.disjoint, fun t ht w hw => hs.claimed t w ⟨ht, hw⟩,
      fun w hw hfree => hs.free w hw fun t ht => hfree t ht.1 ht.2⟩

theorem claimed_fresh (checkpoints : Checkpoints) (retry : RetryPolicy) (interval : Nat)
    (synced : Option Height) : Claimed [] (fresh checkpoints retry interval synced) :=
  claimed_iff.mpr (marked_fresh checkpoints retry interval synced)

namespace Claimed

variable {ws : List Wallet}

theorem mem_of_claiming (hs : Claimed ws s) {t : Task} (ht : t ∈ s.queue.claiming) {w : Wallet}
    (hw : w ∈ t.wallets) : w ∈ ws :=
  (claimed_iff.mp hs).mem_of_claiming ht hw

theorem claimant? (hs : Claimed ws s) {t : Task} (ht : t ∈ s.queue.claiming) {w : Wallet}
    (hw : w ∈ t.wallets) : s.queue.claimant? w.id = some t :=
  (claimed_iff.mp hs).claimant? ht hw

theorem run (hs : Claimed ws s) (hticks : s.TicksDriven) {actions : List Action}
    (hidle : ∀ a ∈ actions, a.MakesIdle) : Claimed (ws ++ s.madeWallets actions) (s.run actions) :=
  claimed_iff.mpr ((claimed_iff.mp hs).run marks_holder hticks fun a ha => (hidle a ha).makes)

end Claimed

/-- **Claims are disjoint, and a wallet is busy exactly as long as a task claims it.** After any run
in which owners make wallets that nobody holds: no two tasks that claim wallets have wallets with the
same identifier, so that the pending task of a wallet that is claimed is the one that claims it; a
wallet is busy if and only if it names a task, and if and only if a task claims it, which is then
the task that it names. -/
theorem run_claims (checkpoints : Checkpoints) (retry : RetryPolicy) (interval : Nat)
    (synced : Option Height) {actions : List Action} (hidle : ∀ a ∈ actions, a.MakesIdle) :
    let s₀ := fresh checkpoints retry interval synced
    let s := s₀.run actions
    (s.queue.claiming.Pairwise fun t u => ∀ v ∈ t.wallets, ∀ w ∈ u.wallets, v.id ≠ w.id) ∧
      (∀ t ∈ s.queue.claiming, ∀ w ∈ t.wallets,
        w ∈ s₀.madeWallets actions ∧ s.queue.claimant? w.id = some t) ∧
      ∀ w ∈ s₀.madeWallets actions,
        let state := s.roster.ledger.get w
        (state.busy = true ↔ state.task.isSome = true) ∧
          (state.busy = true ↔ ∃ t ∈ s.queue.claiming, w ∈ t.wallets) ∧
          ∀ t ∈ s.queue.claiming, w ∈ t.wallets → state.task = some t.id := by
  intro s₀ s
  have hs : Claimed (s₀.madeWallets actions) s :=
    (claimed_fresh checkpoints retry interval synced).run
      (ticksDriven_fresh checkpoints retry interval synced) hidle
  refine ⟨hs.disjoint, fun t ht w hw => ⟨hs.mem_of_claiming ht hw, hs.claimant? ht hw⟩, ?_⟩
  intro w hw state
  by_cases hclaimed : ∃ t ∈ s.queue.claiming, w ∈ t.wallets
  · obtain ⟨t, ht, hwt⟩ := hclaimed
    obtain ⟨hbusy, htask⟩ := Prod.mk.inj (hs.busy t ht w hwt)
    refine ⟨?_, ?_, fun u hu hwu => ?_⟩
    · exact ⟨fun _ => by rw [htask]; rfl, fun _ => hbusy⟩
    · exact ⟨fun _ => ⟨t, ht, hwt⟩, fun _ => hbusy⟩
    · exact (Prod.mk.inj (hs.busy u hu w hwu)).2
  · have hfree := hs.free w hw fun t ht hwt => hclaimed ⟨t, ht, hwt⟩
    obtain ⟨hbusy, htask⟩ := Prod.mk.inj hfree
    refine ⟨?_, ?_, fun u hu hwu => absurd ⟨u, hu, hwu⟩ hclaimed⟩
    · simp [state, hbusy, htask]
    · exact ⟨fun h => by simp [state, hbusy] at h, fun h => absurd h hclaimed⟩

/-- An owner makes a wallet, offers it, and finds it busy. -/
theorem run_claims_of_offer :
    let actions : List Action := [.own (.make "savings" "w1" {}), .offer ["savings"] .genesis]
    let s := (fresh .empty {} 200 none).run actions
    let w : Wallet := ⟨0, "w1"⟩
    (∀ a ∈ actions, a.MakesIdle) ∧ (s.roster.ledger.get w).busy = true ∧
      ∃ t ∈ s.queue.claiming, w ∈ t.wallets ∧ s.queue.claimant? w.id = some t := by
  intro actions s w
  have hidle : ∀ a ∈ actions, a.MakesIdle := by
    simp [actions, Action.MakesIdle, OwnerAction.MakesIdle, SyncState.IsIdle]
  have hbusy : (s.roster.ledger.get w).busy = true := by decide
  have hmade : w ∈ (fresh .empty {} 200 none).madeWallets actions := by decide
  obtain ⟨-, hclaimant, hstates⟩ := run_claims .empty {} 200 none hidle
  obtain ⟨t, ht, hw⟩ := ((hstates w hmade).2.1).mp hbusy
  exact ⟨hidle, hbusy, t, ht, hw, (hclaimant t ht w hw).2⟩

end Scheduler

end WalletReplay
