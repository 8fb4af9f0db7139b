import WalletReplay.Proofs.Scheduler.Plan

/-!
# What an attempt makes and what it leaves

An attempt at a task makes its client calls in order until one fails. Where it ends is told by that
call alone: it leaves the old stack if that could not be stopped, nothing if it could not be closed
or a part of the new stack could not be made, and otherwise the new stack, running or not.

The stack that an attempt leaves is the one that the next attempt takes down. What is neither in the
place of the chain nor in the hands of the call at work is gone for good, for networks and stores are
numbered as they are made, and no number is given out twice.

## What is proved

* `Work.Parts.succeed`, `Work.Parts.fail` — what there is at each stage of an attempt, and what is left.
* `Numbered.discarded` — what an attempt has taken out and not left is out of everybody's hands.
* `Discarded.run` — what is out of everybody's hands stays so, and is never stopped or closed.
* `run_attempts` — the calls of an attempt, its result, and what it leaves for the next.
-/

namespace WalletReplay

/-- The stack that an attempt at a task builds, where its store and its network have these
numbers. -/
def Task.stack (task : Task) (store network : Nat) (running : Bool) : Stack :=
  ⟨⟨store, task.start⟩, ⟨task.wallets.map (·.id)⟩, ⟨network, running⟩⟩

/-- What an attempt leaves in the place of the chain when the client fails at a step, where there
was an old stack or none, and the new one is made to run by starting it. -/
def ClientStep.leaves (old : Option Stack) (new : Bool → Stack) : ClientStep → Option Stack
  | stopNetwork => old
  | closeStore | createStore | buildChain | buildNetwork => none
  | startNetwork => some (new false)
  | resumeDownload => some (new true)

/-- What an attempt leaves is what was there before or what it has built. -/
theorem ClientStep.leaves_cases {step : ClientStep} {old : Option Stack} {new : Bool → Stack}
    {stack : Stack} (h : step.leaves old new = some stack) :
    old = some stack ∨ ∃ running, stack = new running := by
  cases step with
  | stopNetwork => exact Or.inl h
  | closeStore | createStore | buildChain | buildNetwork => simp [leaves] at h
  | startNetwork => exact Or.inr ⟨false, (Option.some.inj h).symm⟩
  | resumeDownload => exact Or.inr ⟨true, (Option.some.inj h).symm⟩

/-! ### The parts at each stage -/

/-- What there is at a stage of an attempt, where `old` was in the place of the chain when it began
and the client had made so many stores and networks. -/
def Stage.Parts (task : Task) (old : Option Stack) (stores networks : Nat) (slot : Option Stack)
    (c : Client) : Stage → Prop
  | stopping stack =>
    old = some stack ∧ slot = none ∧ c.storeCount = stores ∧ c.networkCount = networks
  | closing _ | creating => slot = none ∧ c.storeCount = stores ∧ c.networkCount = networks
  | building store => slot = none ∧ store = ⟨stores, task.start⟩ ∧ c.networkCount = networks
  | connecting store chain => slot = none ∧ store = ⟨stores, task.start⟩ ∧
      chain = ⟨task.wallets.map (·.id)⟩ ∧ c.networkCount = networks
  | starting _ => slot = some (task.stack stores networks false)
  | resuming _ => slot = some (task.stack stores networks true)

/-- What there is while the client works on an attempt at a task. -/
def Work.Parts (task : Task) (old : Option Stack) (stores networks : Nat) (slot : Option Stack)
    (c : Client) : Work → Prop
  | replay task' _ stage => task' = task ∧ stage.Parts task old stores networks slot c
  | starting _ | resuming _ | stopping _ | closing _ => False

namespace Work.Parts

variable {task : Task} {old slot : Option Stack} {stores networks : Nat} {c c' : Client}
  {w next : Work} {p : Terms}

theorem congr (h : w.Parts task old stores networks slot c) (hc : c.Stays p c') :
    w.Parts task old stores networks slot c' := by
  cases w with
  | replay task' floor stage =>
    obtain ⟨rfl, hparts⟩ := h
    refine ⟨rfl, ?_⟩
    cases stage <;>
      simpa only [Stage.Parts, hc.stores, hc.networks] using hparts
  | starting | resuming | stopping | closing => exact h

theorem attempt (task : Task) (old : Option Stack) (floor : Option Height) (c : Client) :
    (Work.attempt task old floor).Parts task old c.storeCount c.networkCount none c := by
  cases old with
  | some old => exact ⟨rfl, rfl, rfl, rfl, rfl⟩
  | none => exact ⟨rfl, rfl, rfl, rfl⟩

/-- A client call that succeeds adds its part. -/
theorem succeed (h : w.Parts task old stores networks slot c)
    (hnext : (w.succeed slot c).next = some next) :
    next.Parts task old stores networks (w.succeed slot c).slot (w.succeed slot c).client := by
  cases w with
  | replay task' floor stage =>
    obtain ⟨rfl, hparts⟩ := h
    cases stage with
    | stopping stack =>
      obtain rfl := Option.some.inj hnext
      obtain ⟨-, hslot, hstores, hnetworks⟩ := hparts
      exact ⟨rfl, hslot, hstores, hnetworks⟩
    | closing stack =>
      obtain rfl := Option.some.inj hnext
      exact ⟨rfl, hparts⟩
    | creating =>
      obtain rfl := Option.some.inj hnext
      obtain ⟨hslot, rfl, hnetworks⟩ := hparts
      exact ⟨rfl, hslot, rfl, hnetworks⟩
    | building store =>
      obtain rfl := Option.some.inj hnext
      obtain ⟨hslot, hstore, hnetworks⟩ := hparts
      exact ⟨rfl, hslot, hstore, rfl, hnetworks⟩
    | connecting store chain =>
      obtain rfl := Option.some.inj hnext
      obtain ⟨-, rfl, rfl, rfl⟩ := hparts
      exact ⟨rfl, rfl⟩
    | starting n =>
      obtain rfl := Option.some.inj hnext
      exact ⟨rfl, congrArg (Option.map (Stack.setRunning · true)) hparts⟩
    | resuming n => simp [Work.succeed, Stage.succeed] at hnext
  | starting | resuming | stopping | closing => exact h.elim

/-- An attempt that has come to its end leaves the stack that it has built, running. -/
theorem finish (h : w.Parts task old stores networks slot c)
    (hnext : (w.succeed slot c).next = none) :
    (w.succeed slot c).slot = some (task.stack stores networks true) := by
  cases w with
  | replay task' floor stage =>
    obtain ⟨rfl, hparts⟩ := h
    cases stage with
    | resuming n => exact hparts
    | stopping | closing | creating | building | connecting | starting =>
      simp [Work.succeed, Stage.succeed] at hnext
  | starting | resuming | stopping | closing => exact h.elim

/-- What an attempt leaves that fails is told by the step. -/
theorem fail (h : w.Parts task old stores networks slot c) :
    w.slotAfterFailure slot = w.call.step.leaves old (task.stack stores networks) := by
  cases w with
  | replay task' floor stage =>
    obtain ⟨rfl, hparts⟩ := h
    cases stage with
    | stopping stack => exact hparts.1.symm
    | closing | creating | building | connecting => exact hparts.1
    | starting | resuming => exact hparts
  | starting | resuming | stopping | closing => exact h.elim

end Work.Parts

/-! ### What is out of everybody's hands -/

/-- A stack has neither the network nor the store of these numbers. -/
def Stack.Spares (network store : Nat) (stack : Stack) : Prop :=
  stack.network.number ≠ network ∧ stack.store.number ≠ store

/-- A stage has neither the network nor the store of these numbers in its hands. -/
def Stage.Spares (network store : Nat) : Stage → Prop
  | stopping stack | closing stack => stack.Spares network store
  | building part | connecting part _ => part.number ≠ store
  | creating | starting _ | resuming _ => True

section

variable {network store : Nat} {slot : Option Stack} {c : Client} {w next : Work}

/-- Whoever has them not in its hands neither stops the network nor closes the store. -/
theorem Work.call_ne_of_spares (h : w.stage.Spares network store) :
    w.call ≠ .stopNetwork network ∧ w.call ≠ .closeStore store := by
  have takesDown {stack : Stack} (h : stack.Spares network store) :
      (ClientCall.stopNetwork stack.network.number ≠ .stopNetwork network ∧
        ClientCall.stopNetwork stack.network.number ≠ .closeStore store) ∧
      (ClientCall.closeStore stack.store.number ≠ .stopNetwork network ∧
        ClientCall.closeStore stack.store.number ≠ .closeStore store) := by
    simp [h.1, h.2]
  cases w with
  | replay task floor stage =>
    cases stage with
    | stopping stack => exact (takesDown h).1
    | closing stack => exact (takesDown h).2
    | creating | building | connecting | starting | resuming => simp [Work.call, Stage.call]
  | starting | resuming => simp [Work.call]
  | stopping stack => exact (takesDown h).1
  | closing stack => exact (takesDown h).2

/-- A client call that succeeds brings nothing into hand but what it has made. -/
theorem Work.spares_succeed (hslot : ∀ stack, slot = some stack → stack.Spares network store)
    (hw : w.stage.Spares network store)
    (hnetwork : network = c.networkCount →
      (w.succeed slot c).client.networkCount = c.networkCount)
    (hstore : store = c.storeCount → (w.succeed slot c).client.storeCount = c.storeCount) :
    (∀ stack, (w.succeed slot c).slot = some stack → stack.Spares network store) ∧
      ∀ next, (w.succeed slot c).next = some next → next.stage.Spares network store := by
  have started (stack : Stack) (h : slot.map (·.setRunning true) = some stack) :
      stack.Spares network store := by
    obtain ⟨old, hold, rfl⟩ := Option.map_eq_some_iff.mp h
    exact hslot old hold
  cases w with
  | replay task floor stage =>
    cases stage with
    | stopping stack => exact ⟨hslot, fun next hnext => Option.some.inj hnext ▸ hw⟩
    | closing stack => exact ⟨hslot, fun next hnext => Option.some.inj hnext ▸ trivial⟩
    | creating =>
      refine ⟨hslot, fun next hnext => ?_⟩
      obtain rfl := Option.some.inj hnext
      exact fun heq => Nat.succ_ne_self _ (hstore heq.symm)
    | building part => exact ⟨hslot, fun next hnext => Option.some.inj hnext ▸ hw⟩
    | connecting part chain =>
      refine ⟨fun stack hstack => ?_, fun next hnext => Option.some.inj hnext ▸ trivial⟩
      obtain rfl := Option.some.inj hstack
      exact ⟨fun heq => Nat.succ_ne_self _ (hnetwork heq.symm), hw⟩
    | starting n => exact ⟨started, fun next hnext => Option.some.inj hnext ▸ trivial⟩
    | resuming n => exact ⟨hslot, fun next hnext => by simp [succeed, Stage.succeed] at hnext⟩
  | starting n => exact ⟨started, fun next hnext => Option.some.inj hnext ▸ trivial⟩
  | stopping stack => exact ⟨hslot, fun next hnext => Option.some.inj hnext ▸ hw⟩
  | resuming n | closing stack => exact ⟨hslot, fun next hnext => by simp [succeed] at hnext⟩

/-- What a client call that fails leaves was there before. -/
theorem Work.spares_fail (hslot : ∀ stack, slot = some stack → stack.Spares network store)
    (hw : w.stage.Spares network store) :
    ∀ stack, w.slotAfterFailure slot = some stack → stack.Spares network store := by
  cases w with
  | replay task floor stage =>
    cases stage with
    | stopping old => exact fun stack hstack => Option.some.inj hstack ▸ hw
    | closing | creating | building | connecting | starting | resuming => exact hslot
  | starting | resuming | stopping | closing => exact hslot

end

namespace Scheduler

variable {s s' t : Scheduler} {k l : Caller} {p : Terms} {task : Task} {v w : Work}
  {network store : Nat} {actions : List Action}

/-- Neither the network nor the store of these numbers is in the place of the chain or in anybody's
hands. -/
structure Spares (network store : Nat) (s : Scheduler) : Prop where
  slot : ∀ stack, s.slot = some stack → stack.Spares network store
  work : ∀ k w, s.AtWork k w → w.stage.Spares network store

/-- Whoever begins to work takes up what was in the place of the chain. -/
theorem spares_opening (hslot : ∀ stack, s.slot = some stack → stack.Spares network store)
    {errand : Errand} {slot : Option Stack} (h : s.opening errand = some (w, slot)) :
    (∀ stack, slot = some stack → stack.Spares network store) ∧
      w.stage.Spares network store := by
  cases errand with
  | replay task =>
    simp only [opening] at h
    split_ifs at h
    obtain ⟨rfl, rfl⟩ := Prod.mk.inj (Option.some.inj h)
    refine ⟨by simp, ?_⟩
    cases hold : s.slot with
    | none => trivial
    | some old => exact hslot old hold
  | regular =>
    simp only [opening] at h
    split_ifs at h
    obtain ⟨stack, hstack, heq⟩ := Option.map_eq_some_iff.mp h
    obtain ⟨rfl, rfl⟩ := Prod.mk.inj heq
    refine ⟨fun stack' hstack' => hslot stack' (hstack.trans hstack'), ?_⟩
    split <;> trivial
  | shutdown =>
    obtain ⟨stack, hstack, heq⟩ := Option.map_eq_some_iff.mp h
    obtain ⟨rfl, rfl⟩ := Prod.mk.inj heq
    exact ⟨by simp, hslot stack hstack⟩

/-- What is out of everybody's hands comes back only if it is made. -/
theorem Spares.shift (h : s.Spares network store) (hline : s'.InLine) (hshift : Shift p s s')
    (hnetwork : network = s.client.networkCount →
      s'.client.networkCount = s.client.networkCount)
    (hstore : store = s.client.storeCount → s'.client.storeCount = s.client.storeCount) :
    s'.Spares network store := by
  have honly {k l : Caller} {v w : Work} (hw : s'.AtWork k w) (hv : s'.AtWork l v) : v = w :=
    (hline.atWork_unique hw hv).2
  cases hshift with
  | rest hwork _ hslot =>
    exact ⟨by rw [hslot]; exact h.slot, fun l v hv => h.work l v (hwork l v hv)⟩
  | decline _ hover hslot =>
    exact ⟨by rw [hslot]; exact h.slot, fun l v hv => absurd hv (hover l v)⟩
  | begin _ hslot _ hopening _ hwork =>
    obtain ⟨hslot', hw⟩ := spares_opening (by rw [hslot]; exact h.slot) hopening
    exact ⟨hslot', fun l v hv => honly hwork hv ▸ hw⟩
  | @goOn k w next c hcall hclient hnext hslot hafter hwork =>
    rw [← hclient.networks, hafter.networks] at hnetwork
    rw [← hclient.stores, hafter.stores] at hstore
    obtain ⟨hslot', hw⟩ := Work.spares_succeed h.slot (h.work k w hcall) hnetwork hstore
    exact ⟨by rw [hslot]; exact hslot', fun l v hv => honly hwork hv ▸ hw next hnext⟩
  | @finish k w c hcall hclient hnext hslot hafter hover =>
    rw [← hclient.networks, hafter.networks] at hnetwork
    rw [← hclient.stores, hafter.stores] at hstore
    obtain ⟨hslot', -⟩ := Work.spares_succeed h.slot (h.work k w hcall) hnetwork hstore
    exact ⟨by rw [hslot]; exact hslot', fun l v hv => absurd hv (hover l v)⟩
  | @fail k w hcall hslot hclient hover =>
    refine ⟨?_, fun l v hv => absurd hv (hover l v)⟩
    rw [hslot]
    exact Work.spares_fail h.slot (h.work k w hcall)

/-- A network and a store were made, and are in nobody's hands any more. -/
structure Discarded (network store : Nat) (s : Scheduler) : Prop extends Spares network store s where
  network_lt : network < s.client.networkCount
  store_lt : store < s.client.storeCount

/-- **What was discarded stays discarded.** -/
theorem Discarded.run (h : s.Discarded network store) (hs : s.InLine) (hticks : s.TicksDriven)
    (actions : List Action) : (s.run actions).Discarded network store := by
  refine shift_invariant (p := {}) (fun {s s'} _ hline hshift h => ?_) hs hticks
    (along_default s actions) h
  obtain ⟨hnetworks, hstores⟩ := hshift.made_le
  exact
    { toSpares := h.toSpares.shift hline hshift (fun heq => absurd heq (Nat.ne_of_lt h.network_lt))
        fun heq => absurd heq (Nat.ne_of_lt h.store_lt)
      network_lt := Nat.lt_of_lt_of_le h.network_lt hnetworks
      store_lt := Nat.lt_of_lt_of_le h.store_lt hstores }

/-- What was not made yet is in nobody's hands. -/
def Numbered (s : Scheduler) : Prop :=
  ∀ network store, s.client.networkCount ≤ network → s.client.storeCount ≤ store →
    s.Spares network store

theorem Numbered.run (h : s.Numbered) (hs : s.InLine) (hticks : s.TicksDriven)
    (actions : List Action) : (s.run actions).Numbered := by
  refine shift_invariant (p := {}) (fun {s s'} _ hline hshift h network store hnetwork hstore => ?_)
    hs hticks (along_default s actions) h
  obtain ⟨hnetworks, hstores⟩ := hshift.made_le
  exact (h network store (hnetworks.trans hnetwork) (hstores.trans hstore)).shift hline hshift
    (fun heq => Nat.le_antisymm (heq ▸ hnetwork) hnetworks)
    fun heq => Nat.le_antisymm (heq ▸ hstore) hstores

theorem numbered_fresh (checkpoints : Checkpoints) (retry : RetryPolicy) (interval : Nat)
    (synced : Option Height) : (fresh checkpoints retry interval synced).Numbered := by
  intro network store hnetwork hstore
  cases synced with
  | none => exact ⟨fun stack hstack => by simp [fresh, start] at hstack, fun k w hw => by
      simp [AtWork, fresh, start, Table.get?] at hw⟩
  | some height =>
    refine ⟨fun stack hstack => ?_, fun k w hw => by
      simp [AtWork, fresh, startSynced, Table.get?] at hw⟩
    obtain rfl := Option.some.inj hstack
    exact ⟨Nat.ne_of_lt hnetwork, Nat.ne_of_lt hstore⟩

/-- The client never makes less. -/
theorem made_le_run (hs : s.InLine) (hticks : s.TicksDriven) (actions : List Action) :
    s.client.networkCount ≤ (s.run actions).client.networkCount ∧
      s.client.storeCount ≤ (s.run actions).client.storeCount :=
  shift_invariant (p := {}) (I := fun t => s.client.networkCount ≤ t.client.networkCount ∧
      s.client.storeCount ≤ t.client.storeCount)
    (fun _ _ hshift h => ⟨h.1.trans hshift.made_le.1, h.2.trans hshift.made_le.2⟩) hs hticks
    (along_default s actions) ⟨Nat.le_refl _, Nat.le_refl _⟩

/-- The stack in its place was made. -/
theorem Numbered.lt_of_slot (h : s.Numbered) {stack : Stack} (hslot : s.slot = some stack) :
    stack.network.number < s.client.networkCount ∧ stack.store.number < s.client.storeCount := by
  constructor
  · by_contra hle
    exact ((h _ _ (Nat.le_of_not_lt hle) (Nat.le_refl _)).slot stack hslot).1 rfl
  · by_contra hle
    exact ((h _ _ (Nat.le_refl _) (Nat.le_of_not_lt hle)).slot stack hslot).2 rfl

/-- What was in the place of the chain is in nobody's hands any more once an attempt has come to its
end and has not left it there. -/
theorem Numbered.discarded (h : s.Numbered) {old : Stack} (hold : s.slot = some old)
    (hmade : s.client.networkCount ≤ s'.client.networkCount ∧
      s.client.storeCount ≤ s'.client.storeCount)
    (hidle : ∀ l v, ¬ s'.AtWork l v) (hgone : s'.slot ≠ some old)
    (hleft : ∀ stack, s'.slot = some stack → s.slot = some stack ∨
      ∃ running, stack = task.stack s.client.storeCount s.client.networkCount running) :
    s'.Discarded old.network.number old.store.number := by
  obtain ⟨hnetwork, hstore⟩ := h.lt_of_slot hold
  refine ⟨⟨fun stack hstack => ?_, fun l v hv => absurd hv (hidle l v)⟩,
    Nat.lt_of_lt_of_le hnetwork hmade.1, Nat.lt_of_lt_of_le hstore hmade.2⟩
  rcases hleft stack hstack with hsame | ⟨running, rfl⟩
  · exact absurd (hstack.trans (hsame.symm.trans hold)) hgone
  · exact ⟨(Nat.ne_of_lt hnetwork).symm, (Nat.ne_of_lt hstore).symm⟩

/-! ### Attempts -/

/-- From one state to the next, the call of a caller gets hold of the chain and begins to work on a
task. -/
structure Begins (k : Caller) (task : Task) (s s' : Scheduler) : Prop where
  idle : s.works k = false
  working : ∃ w, s'.AtWork k w ∧ w.task? = some task

/-- An attempt begins with the stack in its place, and takes it out. -/
theorem Begins.attempt (h : Begins k task s s') (hline : s'.InLine) (hshift : Shift p s s') :
    ∃ floor, s'.AtWork k (.attempt task s.slot floor) ∧ s'.slot = none ∧
      s.client.Stays p s'.client ∧ s'.traffic = s.traffic ++ [.acquired k] := by
  obtain ⟨w, hw, htask⟩ := h.working
  obtain ⟨-, htraffic, t, errand, hslot, hclient, hopening, hafter⟩ :=
    hshift.cases_of_begins hline h.idle hw
  obtain ⟨rfl, hnone⟩ := attempt_of_opening hopening htask
  exact ⟨t.bestHeight?, hslot ▸ hw, hnone, hclient.trans hafter, htraffic⟩

/-- **As long as an attempt is at work, the parts are there that it has made.** -/
theorem parts_run (hs : s.InLine) (hticks : s.TicksDriven) (hv : s.AtWork k v) {old : Option Stack}
    {stores networks : Nat} (hparts : v.Parts task old stores networks s.slot s.client)
    (h : Along (fun t _ => t.works k = true) s actions) (hw : (s.run actions).AtWork k w) :
    w.Parts task old stores networks (s.run actions).slot (s.run actions).client := by
  refine works_run (I := fun w t => w.Parts task old stores networks t.slot t.client) ?_ hs hticks hv
    hparts h hw
  intro t t' v' w' ht hshift hv' hw' hparts'
  rcases hshift.cases_of_atWork ht hv' hw' with
    ⟨rfl, hslot, hclient, -⟩ | ⟨c, hclient, hnext, hslot, hafter, -⟩
  · rw [hslot]
    exact hparts'.congr hclient
  · rw [hslot]
    exact ((hparts'.congr hclient).succeed hnext).congr hafter

/-- As long as nobody is at work, the stack stays in its place, and nothing is made. -/
theorem stays_run_of_idle (hs : s.InLine) (hticks : s.TicksDriven) {b : Action}
    (h : Along (fun t _ => t.current? = none) s (actions ++ [b])) :
    (s.run actions).slot = s.slot ∧ s.client.Stays {} (s.run actions).client := by
  induction actions generalizing s with
  | nil => exact ⟨rfl, .refl _ _⟩
  | cons a actions ih =>
    have hact : (s.act a).1.InLine := hs.act hticks a
    have hnone : (s.act a).1.current? = none := by cases actions <;> exact h.2.1
    have hidle := (current?_eq_none_iff hact).mp hnone
    obtain ⟨hslot, hclient⟩ := ih hact (hticks.act a) h.2
    cases shift_act hs hticks (within_default s a) with
    | rest _ _ hslot' hclient' | decline _ _ hslot' hclient' =>
      exact ⟨hslot.trans hslot', hclient'.trans hclient⟩
    | begin _ _ _ _ _ hwork => exact absurd hwork (hidle _ _)
    | goOn hcall | finish hcall | fail hcall =>
      exact absurd hcall ((current?_eq_none_iff hs).mp h.1 _ _)

/-- **An attempt makes its calls in order until one fails, and leaves what the last one tells.**
Take any run in which an attempt at a task begins and is still at work after some more actions. The
client has answered the first of its calls, all well, and nobody else. With the answer to the next
it returns or goes on. What it leaves in the place of the chain is there for the next attempt, and
the old stack, if that is not what it leaves, is never touched again. -/
theorem run_attempts (checkpoints : Checkpoints) (retry : RetryPolicy) (interval : Nat)
    (synced : Option Height) (before during : List Action) (a : Action) (k : Caller) (task : Task)
    (w : Work) :
    let s := (fresh checkpoints retry interval synced).run before
    let s₁ := (s.act a).1
    let s₂ := s₁.run during
    let s₃ := (s₂.act k.turn).1
    let new := task.stack s.client.storeCount s.client.networkCount
    Begins k task s s₁ → Along (fun t _ => t.works k = true) s₁ during → s₂.AtWork k w →
      ∃ made todo : List ClientCall,
        task.calls s.slot s.client.networkCount = made ++ w.call :: todo ∧
        s₂.traffic = s.traffic ++ .acquired k :: made.map (fun call => .answered k call true) ∧
        s₃.traffic = s₂.traffic ++ [.answered k w.call (s₂.answersWell w)] ∧
        (s₂.pursue k w).2 =
          (if s₂.answersWell w then if todo = [] then .done none else .pending
            else .done (some (.client w.call.step))) ∧
        ((s₂.pursue k w).2 = .pending → s₃.works k = true) ∧
        ((s₂.pursue k w).2 ≠ .pending → s₃.current? = none ∧
          s₃.slot =
            (if s₂.answersWell w then some (new true) else w.call.step.leaves s.slot new) ∧
          (∀ between b l next, Along (fun t _ => t.current? = none) s₃ (between ++ [b]) →
            let u := s₃.run between
            Begins l next u (u.act b).1 →
              ∃ floor, (u.act b).1.AtWork l (.attempt next s₃.slot floor)) ∧
          ∀ old, s.slot = some old → s₃.slot ≠ some old → ∀ later l v,
            (s₃.run later).AtWork l v → v.call ≠ .stopNetwork old.network.number ∧
              v.call ≠ .closeStore old.store.number) := by
  intro s s₁ s₂ s₃ new hbegins hduring hw
  have hline₀ := inLine_fresh checkpoints retry interval synced
  have hticks₀ := ticksDriven_fresh checkpoints retry interval synced
  have hline : s.InLine := hline₀.run hticks₀ before
  have hticks : s.TicksDriven := hticks₀.run before
  have hline₁ : s₁.InLine := hline.act hticks a
  have hticks₁ : s₁.TicksDriven := hticks.act a
  have hline₂ : s₂.InLine := hline₁.run hticks₁ during
  have hticks₂ : s₂.TicksDriven := hticks₁.run during
  have hline₃ : s₃.InLine := hline₂.act hticks₂ k.turn
  have hticks₃ : s₃.TicksDriven := hticks₂.act k.turn
  obtain ⟨floor, hattempt, hempty, hclient, htraffic⟩ :=
    hbegins.attempt hline₁ (shift_act hline hticks (within_default s a))
  obtain ⟨made, hmade, hheard⟩ := plan_run hline₁ hticks₁ hattempt hduring hw
  have hparts : w.Parts task s.slot s.client.storeCount s.client.networkCount s₂.slot s₂.client :=
    parts_run hline₁ hticks₁ hattempt
      (hempty ▸ (Work.Parts.attempt task s.slot floor s.client).congr hclient) hduring hw
  obtain ⟨todo, htodo⟩ : ∃ todo, w.plan s₂.client.networkCount = w.call :: todo :=
    ⟨_, w.plan_eq s₂.slot s₂.client⟩
  have hlast (c : Client) : (w.succeed s₂.slot c).next = none ↔ todo = [] :=
    Work.next_eq_none_iff htodo s₂.slot c
  have hcalls : task.calls s.slot s.client.networkCount = made ++ w.call :: todo := by
    rw [← htodo, ← hmade, Work.plan_attempt, hclient.networks]
  have hresult := pursue_snd_of_plan htodo s₂ k
  refine ⟨made, todo, hcalls, ?_, act_turn_traffic hticks₂ hw, hresult, fun hpending => ?_,
    fun hended => ?_⟩
  · rw [hheard, htraffic, List.append_assoc, List.singleton_append]
  · rw [hresult] at hpending
    rcases act_turn_cases hline₂ hticks₂ hw with
      ⟨hwell, c, -, -, -, hgoes, -⟩ | ⟨hfailed, -⟩
    · have hmore : todo ≠ [] := fun hnil => by simp [hwell, hnil] at hpending
      obtain ⟨next, hnext⟩ := Option.ne_none_iff_exists'.mp
        (fun hnone => hmore ((hlast c).mp hnone))
      exact works_iff.mpr ⟨next, hgoes next hnext⟩
    · simp [hfailed] at hpending
  · rw [hresult] at hended
    obtain ⟨hidle, hslot⟩ : (∀ l v, ¬ s₃.AtWork l v) ∧ s₃.slot =
        if s₂.answersWell w then some (new true) else w.call.step.leaves s.slot new := by
      rcases act_turn_cases hline₂ hticks₂ hw with
        ⟨hwell, c, hstays, hslot, -, -, hends⟩ | ⟨hfailed, hslot, hidle⟩
      · have hnil : todo = [] := by
          by_contra hmore
          simp [hwell, hmore] at hended
        have hnext := (hlast c).mpr hnil
        refine ⟨hends hnext, ?_⟩
        rw [hslot, if_pos hwell]
        exact (hparts.congr hstays).finish hnext
      · refine ⟨hidle, ?_⟩
        rw [hslot, hfailed, hparts.fail]
        rfl
    refine ⟨(current?_eq_none_iff hline₃).mpr hidle, hslot, ?_, fun old hold hgone later l v hv => ?_⟩
    · -- The next attempt takes up what it finds, and nothing has touched that meanwhile.
      intro between b l next hbetween u hnext
      have hticksᵤ : u.TicksDriven := hticks₃.run between
      have hlineᵤ : u.InLine := hline₃.run hticks₃ between
      obtain ⟨floor', hwork, -⟩ := hnext.attempt (hlineᵤ.act hticksᵤ b)
        (shift_act hlineᵤ hticksᵤ (within_default u b))
      rw [(stays_run_of_idle hline₃ hticks₃ hbetween).1] at hwork
      exact ⟨floor', hwork⟩
    · -- The old stack has a number that is not given out again, so it does not come back.
      have hnumbered : s.Numbered :=
        (numbered_fresh checkpoints retry interval synced).run hline₀ hticks₀ before
      have hmade := made_le_run hline hticks (a :: (during ++ [k.turn]))
      rw [run_cons, run_append] at hmade
      have hdiscarded : s₃.Discarded old.network.number old.store.number :=
        hnumbered.discarded hold hmade hidle hgone fun stack hstack => by
          rw [hslot] at hstack
          split_ifs at hstack
          · exact Or.inr ⟨true, (Option.some.inj hstack).symm⟩
          · exact ClientStep.leaves_cases hstack
      exact Work.call_ne_of_spares ((hdiscarded.run hline₃ hticks₃ later).work l v hv)

/-- A chain was synced before. The attempt takes it down and builds the new one, whose network cannot
be started. It returns this, and leaves the new stack; the old one is never touched again. -/
theorem run_attempts_of_failure :
    let task : Task := ⟨0, [⟨0, "w1"⟩], .genesis, .genesis⟩
    let old : Stack := ⟨⟨0, .genesis⟩, ⟨[]⟩, ⟨0, false⟩⟩
    let before : List Action := [.own (.make "savings" "w1" {}), .offer ["savings"] .genesis,
      .inject .startNetwork 1, .create "tick" .tick]
    let s := (fresh .empty {} 200 (some ⟨5000, by decide⟩)).run before
    let s₁ := (s.act (.poll "tick")).1
    let s₂ := s₁.run (.replicate 5 (.poll "tick"))
    let s₃ := (s₂.act (Caller.named "tick").turn).1
    let w : Work := .replay task (some ⟨5000, by decide⟩) (.starting 1)
    Begins (.named "tick") task s s₁ ∧
      Along (fun t _ => t.works (.named "tick") = true) s₁ (.replicate 5 (.poll "tick")) ∧
      s₂.AtWork (.named "tick") w ∧
      s₂.traffic = s.traffic ++ .acquired (.named "tick") ::
        [.answered (.named "tick") (.stopNetwork 0) true,
          .answered (.named "tick") (.closeStore 0) true,
          .answered (.named "tick") (.createStore 0) true,
          .answered (.named "tick") (.buildChain ["w1"]) true,
          .answered (.named "tick") .buildNetwork true] ∧
      (s₂.pursue (.named "tick") w).2 = .done (some (.client .startNetwork)) ∧
      s₃.slot = some (task.stack 1 1 false) ∧
      ∀ later l v, (s₃.run later).AtWork l v →
        v.call ≠ .stopNetwork old.network.number ∧ v.call ≠ .closeStore old.store.number := by
  intro task old before s s₁ s₂ s₃ w
  have hbegins : Begins (.named "tick") task s s₁ :=
    ⟨by decide +kernel, .replay task (some ⟨5000, by decide⟩)
      (.stopping old), by unfold AtWork; decide +kernel, rfl⟩
  have hduring : Along (fun t _ => t.works (.named "tick") = true) s₁
      (.replicate 5 (.poll "tick")) := by decide +kernel
  have hw : s₂.AtWork (.named "tick") w := by
    unfold AtWork
    decide +kernel
  have hfailed : ¬ s₂.answersWell w = true := by decide +kernel
  have hslot : s.slot = some old := by decide +kernel
  obtain ⟨made, todo, -, -, -, hresult, -, hended⟩ :=
    run_attempts .empty {} 200 (some ⟨5000, by decide⟩) before (.replicate 5 (.poll "tick"))
      (.poll "tick") (.named "tick") task w hbegins hduring hw
  have hreturned : (s₂.pursue (.named "tick") w).2 = .done (some (.client .startNetwork)) :=
    hresult.trans (if_neg hfailed)
  obtain ⟨-, -, -, hgone⟩ := hended fun hpending => nomatch hreturned.symm.trans hpending
  have hnew : s₃.slot = some (task.stack 1 1 false) := by decide +kernel
  exact ⟨hbegins, hduring, hw, by decide +kernel, hreturned, hnew,
    hgone old hslot (by decide +kernel)⟩

end Scheduler

end WalletReplay
