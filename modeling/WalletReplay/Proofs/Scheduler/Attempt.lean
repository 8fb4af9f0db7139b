import WalletReplay.Proofs.Scheduler.Line

/-!
# What an attempt builds

An attempt at a task builds the chain layer by layer, and other calls that are in progress leave the
layers alone, for they wait for the chain. So at every stage the parts that are there already are
those of the task, and when the attempt has come to its end the chain in its place is that of the
task.

## What is proved

* `SoundWork.step` — steps keep the parts that are there already.
* `Work.live_of_succeed` — an attempt that has come to its end leaves the chain of its task.
-/

namespace WalletReplay

/-! ### The chain of a task -/

/-- The networks that were made are the same, with the same listeners. -/
structure Client.SameNetworks (c c' : Client) : Prop where
  count : c'.networkCount = c.networkCount
  listeners : c'.listeners = c.listeners

namespace Client.SameNetworks

theorem refl (c : Client) : c.SameNetworks c :=
  ⟨rfl, rfl⟩

theorem trans {c c' c'' : Client} (h : c.SameNetworks c') (h' : c'.SameNetworks c'') :
    c.SameNetworks c'' :=
  ⟨h'.count.trans h.count, h'.listeners.trans h.listeners⟩

theorem enter (c : Client) : c.SameNetworks c.enter :=
  ⟨rfl, rfl⟩

theorem leave (c : Client) : c.SameNetworks c.leave :=
  ⟨rfl, rfl⟩

theorem answer (c : Client) (step : ClientStep) : c.SameNetworks (c.answer step).1 := by
  unfold Client.answer
  split <;> exact ⟨rfl, rfl⟩

end Client.SameNetworks

/-- A stack was built for a task: its store begins where the task starts, the wallets of the task
are attached to its chain, and its network is the newest, with a listener for each of them. -/
structure Stack.Serves (stack : Stack) (client : Client) (task : Task) : Prop where
  base : stack.store.base = task.start
  wallets : stack.chain.wallets = task.wallets.map (·.id)
  newest : stack.network.number + 1 = client.networkCount
  listeners : client.listeners.map (·.wallet) = task.wallets

theorem Stack.Serves.congr {stack : Stack} {c c' : Client} {task : Task} (h : stack.Serves c task)
    (hc : c.SameNetworks c') : stack.Serves c' task :=
  ⟨h.base, h.wallets, by rw [hc.count, h.newest], by rw [hc.listeners, h.listeners]⟩

theorem Stack.Serves.setRunning {stack : Stack} {c : Client} {task : Task} (h : stack.Serves c task)
    (running : Bool) : (stack.setRunning running).Serves c task :=
  ⟨h.base, h.wallets, h.newest, h.listeners⟩

/-- The chain in its place is that of a task, and its network runs. -/
def Live (slot : Option Stack) (client : Client) (task : Task) : Prop :=
  ∃ stack, slot = some stack ∧ stack.Serves client task ∧ stack.network.running = true

theorem Live.congr {slot : Option Stack} {c c' : Client} {task : Task} (h : Live slot c task)
    (hc : c.SameNetworks c') : Live slot c' task := by
  obtain ⟨stack, hslot, hserves, hrunning⟩ := h
  exact ⟨stack, hslot, hserves.congr hc, hrunning⟩

/-! ### The parts at each stage -/

/-- The parts that are there at a stage are those of the task. -/
def Stage.Sound (slot : Option Stack) (client : Client) (task : Task) : Stage → Prop
  | stopping _ | closing _ | creating => True
  | building store => store.base = task.start
  | connecting store chain => store.base = task.start ∧ chain.wallets = task.wallets.map (·.id)
  | starting _ => ∃ stack, slot = some stack ∧ stack.Serves client task
  | resuming _ => Live slot client task

namespace Work

/-- The parts that are there while the client works on an attempt are those of its task. -/
def Sound (slot : Option Stack) (client : Client) : Work → Prop
  | replay task _ stage => stage.Sound slot client task
  | starting _ | resuming _ | stopping _ | closing _ => True

variable {slot : Option Stack} {c c' : Client} {w next : Work} {task : Task}

theorem Sound.congr (h : w.Sound slot c) (hc : c.SameNetworks c') : w.Sound slot c' := by
  cases w with
  | replay task floor stage =>
    cases stage with
    | stopping | closing | creating => trivial
    | building | connecting => exact h
    | starting network =>
      obtain ⟨stack, hslot, hserves⟩ := h
      exact ⟨stack, hslot, hserves.congr hc⟩
    | resuming network => exact Live.congr h hc
  | starting | resuming | stopping | closing => trivial

theorem sound_attempt (task : Task) (old : Option Stack) (floor : Option Height) :
    (attempt task old floor).Sound slot c := by
  cases old <;> trivial

/-- A client call that succeeds adds its part to those that were there. -/
theorem sound_succeed (h : w.Sound slot c) (hnext : (w.succeed slot c).next = some next) :
    next.Sound (w.succeed slot c).slot (w.succeed slot c).client := by
  cases w with
  | replay task floor stage =>
    cases stage with
    | stopping | closing =>
      obtain rfl := Option.some.inj hnext
      trivial
    | creating =>
      obtain rfl := Option.some.inj hnext
      rfl
    | building store =>
      obtain rfl := Option.some.inj hnext
      exact ⟨h, rfl⟩
    | connecting store chain =>
      obtain rfl := Option.some.inj hnext
      refine ⟨_, rfl, h.1, h.2, rfl, ?_⟩
      simp [succeed, Stage.succeed, Client.newNetwork, Scheduler.listenersFor, Function.comp_def]
    | starting network =>
      obtain rfl := Option.some.inj hnext
      obtain ⟨stack, rfl, hserves⟩ := h
      exact ⟨stack.setRunning true, rfl, hserves.setRunning true, rfl⟩
    | resuming network => simp [succeed, Stage.succeed] at hnext
  | starting network | stopping stack =>
    obtain rfl := Option.some.inj hnext
    trivial
  | resuming network | closing stack => simp [succeed] at hnext

/-- An attempt that has come to its end leaves the chain of its task. -/
theorem live_of_succeed (h : w.Sound slot c) (htask : w.task? = some task)
    (hnext : (w.succeed slot c).next = none) :
    Live (w.succeed slot c).slot (w.succeed slot c).client task := by
  cases w with
  | replay task floor stage =>
    obtain rfl := Option.some.inj htask
    cases stage with
    | resuming network => exact Live.congr h ⟨rfl, rfl⟩
    | stopping | closing | creating | building | connecting | starting =>
      simp [succeed, Stage.succeed] at hnext
  | starting | resuming | stopping | closing => simp [Work.task?] at htask

/-- Work on no task leaves the chain that there is alone, but that it starts its network. -/
theorem live_succeed (h : Live slot c task) (htask : w.task? = none) :
    Live (w.succeed slot c).slot (w.succeed slot c).client task := by
  cases w with
  | replay task floor stage => simp [Work.task?] at htask
  | starting network =>
    obtain ⟨stack, rfl, hserves, -⟩ := h
    exact ⟨stack.setRunning true, rfl, hserves.setRunning true, rfl⟩
  | resuming | stopping | closing => exact h.congr ⟨rfl, rfl⟩

end Work

namespace Scheduler

variable {s s' : Scheduler} {k : Caller}

theorem sameNetworks_hear (s : Scheduler) (k : Caller) (w : Work) (succeeded : Bool) :
    s.client.SameNetworks (s.hear k w succeeded).client :=
  (Client.SameNetworks.leave _).trans (.answer _ _)

/-- Whatever the client works on, the parts that are there are those of the task. -/
def SoundWork (s : Scheduler) : Prop :=
  ∀ k w, s.calls.get? k = some (.working w) → w.Sound s.slot s.client

/-- Where no call begins to work, it is enough that the chain stays. -/
theorem SoundWork.of_eq (hs : s.SoundWork) (hslot : s'.slot = s.slot)
    (hclient : s.client.SameNetworks s'.client)
    (hcalls : ∀ l w, s'.calls.get? l = some (.working w) → s.calls.get? l = some (.working w)) :
    s'.SoundWork := by
  intro l w hw
  rw [hslot]
  exact (hs l w (hcalls l w hw)).congr hclient

/-- The first in line is the only one that works. -/
theorem soundWork_of_head (hs : s.InLine) (hhead : s.line.head? = some k)
    (hothers : ∀ l, l ≠ k → s'.calls.get? l = s.calls.get? l)
    (hself : ∀ w, s'.calls.get? k = some (.working w) → w.Sound s'.slot s'.client) :
    s'.SoundWork := by
  intro l w hw
  by_cases hl : l = k
  · subst hl
    exact hself w hw
  · rw [hothers l hl] at hw
    exact absurd (hs.eq_of_working hhead hw) hl

/-- Steps keep the parts that are there already. -/
theorem SoundWork.step (hs : s.SoundWork) (hline : s.InLine) (h : Step k s s') : s'.SoundWork := by
  have hothers : ∀ l, l ≠ k → s'.calls.get? l = s.calls.get? l := fun l hl => h.others hl
  have notWorking {t : Scheduler} (ht : t.calls = s.calls.erase k) :
      ∀ w, t.calls.get? k = some (.working w) → w.Sound t.slot t.client := by
    intro w hw
    rw [ht, Table.get?_erase_self] at hw
    simp at hw
  have engaged {t : Scheduler} {v : Work} (hv : v.Sound t.slot t.client) :
      ∀ w, (t.engage k v).calls.get? k = some (.working w) →
        w.Sound (t.engage k v).slot (t.engage k v).client := by
    intro w hw
    obtain rfl : v = w := by simpa [engage, work, Table.get?_set_self] using hw
    exact hv.congr (.enter t.client)
  have joined {t : Scheduler} {errand : Errand}
      (ht : t.calls = s.calls.set k (.waiting errand)) :
      ∀ l w, t.calls.get? l = some (.working w) → s.calls.get? l = some (.working w) := by
    intro l w hw
    rw [ht, Table.get?_set] at hw
    split_ifs at hw
    · simp at hw
    · exact hw
  cases h with
  | rest hcall =>
    refine hs.of_eq rfl (.refl _) fun l w hw => ?_
    simp only [Table.get?_erase] at hw
    split_ifs at hw
    exact hw
  | retire => exact hs.of_eq rfl (.refl _) fun _ _ hw => hw
  | dispatch | askRegular => exact hs.of_eq rfl (.refl _) (joined rfl)
  | askShutdown =>
    rw [callShutdown_eq]
    exact hs.of_eq rfl (.refl _) (joined rfl)
  | refuse hcall | declineRegular hcall | declineShutdown hcall =>
    exact soundWork_of_head hline hcall.2 hothers (notWorking (calls_depart _ k))
  | attempt hcall =>
    exact soundWork_of_head hline hcall.2 hothers (engaged (Work.sound_attempt _ _ _))
  | beginRegular hcall =>
    refine soundWork_of_head hline hcall.2 hothers (engaged ?_)
    split <;> trivial
  | beginShutdown hcall =>
    exact soundWork_of_head hline hcall.2 hothers (engaged trivial)
  | @succeed w hcall =>
    have hsound : w.Sound s.slot (s.hear k w true).client :=
      (hs k w hcall).congr (s.sameNetworks_hear k w true)
    have hhead := hline.head_of_working hcall
    cases hnext : (w.succeed s.slot (s.hear k w true).client).next with
    | some next =>
      rw [hnext] at hothers
      exact soundWork_of_head hline hhead hothers (engaged (Work.sound_succeed hsound hnext))
    | none =>
      rw [hnext] at hothers
      exact soundWork_of_head hline hhead hothers (notWorking (calls_depart _ k))
  | fail hcall =>
    refine soundWork_of_head hline (hline.head_of_working hcall) hothers (notWorking ?_)
    rw [countFailure_eq]
    exact calls_depart _ k

end Scheduler

end WalletReplay
