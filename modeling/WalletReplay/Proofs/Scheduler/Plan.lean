import WalletReplay.Proofs.Scheduler.Inventory
import WalletReplay.Proofs.Scheduler.Shift

/-!
# The calls that a call makes to the client

When a call begins to work it is settled which calls it will make to the client, and in which order,
if none fails: its plan. As long as it is at work, what it has made so far and what is still to come
are the plan, whatever else happens meanwhile, and all that was answered meanwhile are the calls that
it has made.

## What is proved

* `Work.plan_eq` — the plan is the client call that is waited for and the plan of what comes next.
* `works_run` — what a call at work keeps from one action to the next, it keeps as long as it is at
  work.
* `plan_run` — a call at work follows its plan.
* `pursue_snd_of_plan` — it returns when its plan is done, or when the client fails.
-/

namespace WalletReplay

/-! ### Plans -/

/-- The client calls that take a stack down. -/
def Stack.teardown (old : Stack) : List ClientCall :=
  [.stopNetwork old.network.number, .closeStore old.store.number]

/-- The client calls that build the chain of a task and start its download, where the network that
is built will have this number. -/
def Task.rebuild (task : Task) (network : Nat) : List ClientCall :=
  [.createStore task.start.height, .buildChain (task.wallets.map (·.id)), .buildNetwork,
    .startNetwork network, .resumeDownload network]

/-- The client calls of an attempt at a task: the stack in the place of the chain, if there is one,
is taken down, and the chain of the task is built. -/
def Task.calls (task : Task) (old : Option Stack) (network : Nat) : List ClientCall :=
  (old.map Stack.teardown).getD [] ++ task.rebuild network

/-- The client calls of an attempt from a stage on, if none fails. -/
def Stage.plan (task : Task) (network : Nat) : Stage → List ClientCall
  | stopping old => old.teardown ++ task.rebuild network
  | closing old => .closeStore old.store.number :: task.rebuild network
  | creating => task.rebuild network
  | building _ => (task.rebuild network).drop 1
  | connecting _ _ => (task.rebuild network).drop 2
  | starting n => [.startNetwork n, .resumeDownload n]
  | resuming n => [.resumeDownload n]

namespace Work

/-- The client calls still to come, if none fails, where the next network that is built will have
this number. -/
def plan (network : Nat) : Work → List ClientCall
  | replay task _ stage => stage.plan task network
  | starting n => [.startNetwork n, .resumeDownload n]
  | resuming n => [.resumeDownload n]
  | stopping stack => stack.teardown
  | closing stack => [.closeStore stack.store.number]

/-- The plan is the client call that is waited for and the plan of what comes next. -/
theorem plan_eq (slot : Option Stack) (c : Client) (w : Work) : w.plan c.networkCount = w.call ::
    ((w.succeed slot c).next.map (plan (w.succeed slot c).client.networkCount)).getD [] := by
  cases w with
  | replay task floor stage => cases stage <;> rfl
  | starting | resuming | stopping | closing => rfl

theorem plan_attempt (task : Task) (old : Option Stack) (floor : Option Height) (network : Nat) :
    (attempt task old floor).plan network = task.calls old network := by
  cases old <;> rfl

/-- Nothing comes next if nothing else is planned. -/
theorem next_eq_none_iff {w : Work} {network : Nat} {todo : List ClientCall}
    (h : w.plan network = w.call :: todo) (slot : Option Stack) (c : Client) :
    (w.succeed slot c).next = none ↔ todo = [] := by
  obtain rfl : (w.plan network).tail = todo := congrArg List.tail h
  cases w with
  | replay task floor stage =>
    cases stage <;> simp [succeed, Stage.succeed, plan, Stage.plan, Stack.teardown, Task.rebuild]
  | starting | resuming | stopping | closing => simp [succeed, plan, Stack.teardown]

end Work

namespace Scheduler

variable {s s' : Scheduler} {k : Caller} {v w : Work} {actions : List Action}

/-! ### Runs during which a call is at work -/

/-- Whoever is at work throughout a run and at its end is so at its beginning. -/
theorem exists_atWork_of_along (h : Along (fun t _ => t.works k = true) s actions)
    (hw : (s.run actions).AtWork k w) : ∃ v, s.AtWork k v := by
  cases actions with
  | nil => exact ⟨w, hw⟩
  | cons a actions => exact works_iff.mp h.1

/-- **What a call at work keeps from one action to the next, it keeps as long as it is at work.** -/
theorem works_run {I : Work → Scheduler → Prop}
    (hkeep : ∀ {s s' v w}, s.InLine → Shift {} s s' → s.AtWork k v → s'.AtWork k w → I v s → I w s')
    (hs : s.InLine) (hticks : s.TicksDriven) (hv : s.AtWork k v) (hI : I v s)
    (h : Along (fun t _ => t.works k = true) s actions) (hw : (s.run actions).AtWork k w) :
    I w (s.run actions) := by
  induction actions generalizing s v with
  | nil =>
    obtain rfl := hv.unique hw
    exact hI
  | cons a actions ih =>
    obtain ⟨u, hu⟩ := exists_atWork_of_along h.2 hw
    have hshift := shift_act hs hticks (within_default s a)
    exact ih (hs.act hticks a) (hticks.act a) hu (hkeep hs hshift hv hu hI) h.2 hw

/-- **A call at work follows its plan**: what it has made and what is still to come are the plan, and
all that was answered are the calls that it has made. -/
theorem plan_run (hs : s.InLine) (hticks : s.TicksDriven) (hv : s.AtWork k v)
    (h : Along (fun t _ => t.works k = true) s actions) (hw : (s.run actions).AtWork k w) :
    ∃ made : List ClientCall,
      v.plan s.client.networkCount = made ++ w.plan (s.run actions).client.networkCount ∧
        (s.run actions).traffic = s.traffic ++ made.map fun call => .answered k call true := by
  refine works_run (I := fun w t => ∃ made : List ClientCall,
    v.plan s.client.networkCount = made ++ w.plan t.client.networkCount ∧
      t.traffic = s.traffic ++ made.map fun call => .answered k call true)
    ?_ hs hticks hv ⟨[], rfl, by simp⟩ h hw
  rintro t t' v' w' ht hshift hv' hw' ⟨made, hmade, htraffic⟩
  rcases hshift.cases_of_atWork ht hv' hw' with
    ⟨rfl, -, hclient, hquiet⟩ | ⟨c, hclient, hnext, -, hafter, hanswer⟩
  · exact ⟨made, by rw [hmade, hclient.networks], by rw [hquiet, htraffic]⟩
  · refine ⟨made ++ [v'.call], ?_, ?_⟩
    · have hplan := v'.plan_eq t.slot c
      rw [hnext, Option.map_some, Option.getD_some, ← hafter.networks, hclient.networks] at hplan
      rw [hmade, hplan, List.append_assoc, List.singleton_append]
    · rw [hanswer, htraffic, List.map_append, List.append_assoc, List.map_singleton]

/-- A call returns when its plan is done, or when the client fails. -/
theorem pursue_snd_of_plan {network : Nat} {todo : List ClientCall}
    (h : w.plan network = w.call :: todo) (s : Scheduler) (k : Caller) :
    (s.pursue k w).2 = if s.answersWell w then if todo = [] then .done none else .pending
      else .done (some (.client w.call.step)) := by
  rw [pursue_snd]
  cases hnext : (w.succeed s.slot (s.clientAfter w)).next with
  | none => simp [(Work.next_eq_none_iff h _ _).mp hnext]
  | some next =>
    have hmore : todo ≠ [] := fun hnil => by simp [(Work.next_eq_none_iff h _ _).mpr hnil] at hnext
    simp [hmore]

end Scheduler

end WalletReplay
