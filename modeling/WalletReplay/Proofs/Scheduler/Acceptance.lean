import WalletReplay.Proofs.Scheduler.Order
import WalletReplay.Proofs.Scheduler.Touch

/-!
# Which offers are accepted

Only a task that claims a wallet stands in the way of another offer of it, and every task in the
queue does but a head that is retiring. Its wallets can be offered again before it is popped.

An offer is accepted for all of its wallets or for none. If one of them stands in the way, the others
are not touched; if none does, the new task claims each of them, and nothing else.

## What is proved

* `HeadMatches.mem_claiming_iff` — which tasks of the queue claim wallets.
* `Ordered.accepts_iff` — which requests are accepted.
* `offer_of_eq_none`, `offer_of_eq_some` — what a refused and an accepted offer make of the scheduler.
* `run_offers` — all this after any run.
-/

namespace WalletReplay

/-- The tasks that claim wallets are those in the queue, but for a head that is retiring. -/
theorem Queue.HeadMatches.mem_claiming_iff {q : Queue} (hq : q.HeadMatches)
    (hids : q.tasks.Pairwise (·.id < ·.id)) {t : Task} :
    t ∈ q.claiming ↔ t ∈ q.tasks ∧ ¬ (q.head? = some t ∧ q.phase = .retiring t.id) := by
  by_cases hphase : ∃ id, q.phase = .retiring id
  · obtain ⟨id, hphase⟩ := hphase
    obtain ⟨head, rest, hcons, rfl⟩ := hq.exists_eq_cons (by rw [hphase]; rfl)
    rw [hphase] at hcons
    subst hcons
    -- Identifiers ascend, so the head that is retiring is not behind itself.
    have hlater : ∀ u ∈ rest, head.id < u.id := (List.pairwise_cons.mp hids).1
    rw [claiming_of_retiring rfl]
    change t ∈ rest ↔ t ∈ head :: rest ∧ ¬ (some head = some t ∧ Phase.retiring head.id = .retiring t.id)
    constructor
    · intro ht
      refine ⟨List.mem_cons_of_mem head ht, fun hhead => ?_⟩
      obtain rfl := Option.some.inj hhead.1
      exact absurd (hlater head ht) (Nat.lt_irrefl _)
    · rintro ⟨ht, hnot⟩
      rcases List.mem_cons.mp ht with rfl | ht
      · exact absurd ⟨rfl, rfl⟩ hnot
      · exact ht
  · rw [claiming_of_ne fun id hid => hphase ⟨id, hid⟩]
    exact ⟨fun ht => ⟨ht, fun hhead => hphase ⟨_, hhead.2⟩⟩, fun ht => ht.1⟩

namespace Scheduler

variable {s : Scheduler} {ws : List Wallet} {request : Request}

/-- **Which requests are accepted**: those that name wallets, each identifier once, and none that is
in a task of the queue, unless that task is a head that is retiring. -/
theorem Ordered.accepts_iff (hs : s.Ordered) : s.accepts request = true ↔
    request.wallets ≠ [] ∧ (request.wallets.map (·.id)).Nodup ∧
      ∀ t ∈ s.queue.tasks, (∃ v ∈ t.wallets, ∃ w ∈ request.wallets, v.id = w.id) →
        s.queue.head? = some t ∧ s.queue.phase = .retiring t.id := by
  rw [Scheduler.accepts_iff]
  refine and_congr_right' (and_congr_right' ?_)
  constructor
  · rintro h t ht ⟨v, hv, w, hw, hid⟩
    by_contra hnot
    exact h t ((hs.headMatches.mem_claiming_iff hs.ids_pairwise).mpr ⟨ht, hnot⟩) v hv w hw hid
  · intro h t ht v hv w hw hid
    obtain ⟨ht, hnot⟩ := (hs.headMatches.mem_claiming_iff hs.ids_pairwise).mp ht
    exact hnot (h t ht ⟨v, hv, w, hw, hid⟩)

theorem offer_of_accepts (h : s.accepts request = true) : s.offer request =
    (s.enroll (request.toTask s.acceptedCount s.checkpoints), some s.acceptedCount) :=
  if_pos h

theorem offer_of_not_accepts (h : ¬ s.accepts request = true) : s.offer request = (s, none) :=
  if_neg h

theorem isSome_offer_iff : (s.offer request).2.isSome = true ↔ s.accepts request = true := by
  by_cases h : s.accepts request = true
  · simp [offer_of_accepts h, h]
  · simp [offer_of_not_accepts h, h]

theorem offer_of_eq_none (h : (s.offer request).2 = none) : s.offer request = (s, none) := by
  refine offer_of_not_accepts fun haccepts => ?_
  rw [offer_of_accepts haccepts] at h
  cases h

/-- What an offer is that is accepted. -/
theorem offer_of_eq_some {id : TaskId} (h : (s.offer request).2 = some id) :
    id = s.acceptedCount ∧ (s.offer request).1 = s.enroll (request.toTask id s.checkpoints) := by
  have haccepts : s.accepts request = true := isSome_offer_iff.mp (by rw [h]; rfl)
  rw [offer_of_accepts haccepts] at h ⊢
  obtain rfl := Option.some.inj h
  exact ⟨rfl, rfl⟩

theorem act_offer (s : Scheduler) (handles : List String) (target : Target) :
    (s.act (.offer handles target)).1 = (s.offer ⟨s.heldWallets handles, target⟩).1 := rfl

/-- **Offers are accepted or refused as a whole.** After any run, an offer of wallets that were made
is accepted if and only if it names wallets, each identifier once, and none of a task in the queue
but a head that is retiring. Otherwise everything stays as it is. If it is accepted, a new task is
put at the end of the queue, its wallets are busy and wait for it from its start on, and the other
wallets stay as they are. -/
theorem run_offers (checkpoints : Checkpoints) (retry : RetryPolicy) (interval : Nat)
    (synced : Option Height) (actions : List Action) (request : Request) :
    let s₀ := fresh checkpoints retry interval synced
    let s := s₀.run actions
    let made := s₀.madeWallets actions
    let s' := (s.offer request).1
    let start := checkpoints.resolve request.target
    (∀ w ∈ request.wallets, w ∈ made) →
      ((s.offer request).2.isSome = true ↔
        request.wallets ≠ [] ∧ (request.wallets.map (·.id)).Nodup ∧
          ∀ t ∈ s.queue.tasks, (∃ v ∈ t.wallets, ∃ w ∈ request.wallets, v.id = w.id) →
            s.queue.head? = some t ∧ s.queue.phase = .retiring t.id) ∧
      ((s.offer request).2 = none → s.offer request = (s, none)) ∧
      ∀ id, (s.offer request).2 = some id →
        id ∉ s.acceptedTasks ∧
        s'.queue = ⟨s.queue.tasks ++ [⟨id, request.wallets, request.target, start⟩], s.queue.phase⟩ ∧
        ∀ w ∈ made,
          let state := s.roster.ledger.get w
          s'.roster.ledger.get w =
            if w ∈ request.wallets then
              { state with
                busy := true, label := some .waiting, task := some id,
                seenHeight := some start.height, seenHash := none, dirty := true }
            else state := by
  intro s₀ s made s' start hmade
  have hticks₀ := ticksDriven_fresh checkpoints retry interval synced
  have hs : s.Ordered := ((ordered_fresh checkpoints retry interval synced).run hticks₀ actions).ordered
  have hparted : Parted made s :=
    (parted_fresh checkpoints retry interval synced).run hticks₀ actions
  have hcheckpoints : s.checkpoints = checkpoints :=
    checkpoints_run checkpoints retry interval synced actions
  refine ⟨isSome_offer_iff.trans hs.accepts_iff, offer_of_eq_none, fun id hid => ?_⟩
  obtain ⟨hcount, hs'⟩ : id = s.acceptedCount ∧ s' = s.enroll (request.toTask id s.checkpoints) :=
    offer_of_eq_some hid
  rw [hs', hcheckpoints]
  refine ⟨?_, queue_enroll _ _, fun w hw => hparted.get_enroll hmade hw⟩
  rw [hs.accepted, hcount, List.mem_range]
  exact Nat.lt_irrefl _

/-- The task of a wallet retires while its tick is still in progress. An offer of that wallet and of
another one is accepted then, and a second one is not. -/
theorem run_offers_of_retiring :
    let s₀ := fresh .empty {} 200 none
    let actions : List Action := [.own (.make "savings" "w1" {}), .own (.make "pension" "w2" {}),
      .offer ["savings"] .genesis, .create "tick" .tick, .poll "tick", .notify 0]
    let s := s₀.run actions
    let request : Request := ⟨[⟨1, "w2"⟩, ⟨0, "w1"⟩], .genesis⟩
    let s' := (s.offer request).1
    s.queue.phase = .retiring 0 ∧
      s'.queue = ⟨s.queue.tasks ++ [⟨1, request.wallets, .genesis, .genesis⟩], s.queue.phase⟩ ∧
      (s'.roster.ledger.get ⟨0, "w1"⟩).task = some 1 ∧ s'.offer request = (s', none) := by
  intro s₀ actions s request s'
  have hs : (fresh .empty {} 200 none).run actions = s := rfl
  have hmade : ∀ w ∈ request.wallets, w ∈ s₀.madeWallets actions := by decide
  obtain ⟨-, -, haccept⟩ := run_offers .empty {} 200 none actions request hmade
  rw [hs] at haccept
  obtain ⟨-, hqueue, hstates⟩ := haccept 1 (by decide)
  have hfirst : (⟨0, "w1"⟩ : Wallet) ∈ request.wallets := by decide
  have hstate := hstates ⟨0, "w1"⟩ (hmade _ hfirst)
  simp only [if_pos hfirst] at hstate
  let again : Action := .offer ["pension", "savings"] .genesis
  have hrun : s₀.run (actions ++ [again]) = s' := by
    have hheld : s.heldWallets ["pension", "savings"] = request.wallets := by decide
    rw [run_append, run_cons, run_nil, act_offer, hheld]
  have hmade' : ∀ w ∈ request.wallets, w ∈ s₀.madeWallets (actions ++ [again]) := by decide
  have hrefused : ((s₀.run (actions ++ [again])).offer request).2 = none := by decide
  have hsecond := (run_offers .empty {} 200 none (actions ++ [again]) request hmade').2.1 hrefused
  have hphase : s.queue.phase = .retiring 0 := by decide
  rw [hrun] at hsecond
  refine ⟨hphase, ?_, ?_, hsecond⟩
  · rw [hqueue]
    rfl
  · rw [hstate]

end Scheduler

end WalletReplay
