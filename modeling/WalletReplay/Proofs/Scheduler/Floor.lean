import WalletReplay.Proofs.Scheduler.Execution
import WalletReplay.Proofs.Scheduler.Labels

/-!
# The height that progress is measured by

When an attempt begins it notes how high the chain is that it finds in its place, and the wallets
show how far the download is on the way to that height at least. An attempt that could only not stop
the old network leaves the old chain, and the next attempt notes the same. Any other failure leaves
no chain, or the new one, which is as high as the start of the task; the next attempt then notes
nothing that tells where the old chain ended.

## What is proved

* `Work.Floored.succeed`, `Work.Floored.fail` — what is noted, at each stage of an attempt and after it.
* `floored_run` — what the next attempt is going to note, after any number of attempts that fail.
* `run_floors` — what the wallets of a task show once an attempt at it has succeeded.
-/

namespace WalletReplay

/-- A height at the start of a download tells no more than none where it ends. -/
theorem percentComplete_start (start height : Height) (left : BlockCount) :
    percentComplete start height left (some start) = percentComplete start height left none := by
  have hend : downloadEnd (max height.val start.val) left (some start) =
      downloadEnd (max height.val start.val) left none := by
    simp only [downloadEnd]
    omega
  simp only [percentComplete, hend]

/-! ### What is noted -/

/-- Whether a client call has failed after which the old chain is not in its place any more. -/
def Occurrence.losesChain : Occurrence → Bool
  | answered _ call succeeded => !succeeded && call.step != .stopNetwork
  | accepted _ | dispatched _ _ | attempted _ | failed _ _ _ | completed _ | retired _ | acquired _
  | heard _ _ => false

/-- Whether a network has been asked to download, and does. -/
def Occurrence.isResumed : Occurrence → Bool
  | answered _ call succeeded => succeeded && call.step == .resumeDownload
  | accepted _ | dispatched _ _ | attempted _ | failed _ _ _ | completed _ | retired _ | acquired _
  | heard _ _ => false

/-- What an attempt notes at a task with this start, where the chain was so high before the first one
and this has happened since. -/
def Noted (best start : Height) (news : List Occurrence) (floor : Option Height) : Prop :=
  if news.any Occurrence.losesChain then floor = none ∨ floor = some start else floor = some best

namespace Noted

variable {best start height : Height} {news : List Occurrence} {floor : Option Height}
  {o : Occurrence}

/-- As long as the chain is not lost, the same is noted. -/
theorem concat (h : Noted best start news floor) (ho : o.losesChain = false) :
    Noted best start (news ++ [o]) floor := by
  simpa [Noted, ho] using h

/-- When the chain is lost, there is none, or one as high as the start. -/
theorem of_losesChain (ho : o.losesChain = true) (h : floor = none ∨ floor = some start) :
    Noted best start (news ++ [o]) floor := by
  simpa [Noted, ho] using h

/-- What the wallets show is as if nothing had been noted, once the chain is lost. -/
theorem percentComplete_eq (h : Noted best start news floor) (left : BlockCount) :
    percentComplete start height left floor = percentComplete start height left
      (if news.any Occurrence.losesChain then none else some best) := by
  unfold Noted at h
  split at h
  · rename_i hlost
    rw [if_pos hlost]
    rcases h with rfl | rfl
    · rfl
    · exact percentComplete_start start height left
  · rename_i hkept
    rw [if_neg hkept, h]

end Noted

/-! ### Attempts -/

/-- What an attempt at a stage leaves to be noted. -/
def Stage.Floored (task : Task) (best : Height) (news : List Occurrence) (floor : Option Height)
    (slot : Option Stack) (c : Client) : Stage → Prop
  | stopping _ => slot = none ∧ Noted best task.start.height news (some c.bestHeight)
  | closing _ | creating => slot = none
  | building _ | connecting _ _ => slot = none ∧ c.bestHeight = task.start.height
  | starting _ | resuming _ =>
    c.bestHeight = task.start.height ∧ c.listeners = Scheduler.listenersFor task floor

/-- What an attempt at a task has noted, and leaves to be noted. -/
def Work.Floored (task : Task) (best : Height) (news : List Occurrence) (slot : Option Stack)
    (c : Client) : Work → Prop
  | replay task' floor stage => task' = task ∧ Noted best task.start.height news floor ∧
      stage.Floored task best news floor slot c
  | starting _ | resuming _ | stopping _ | closing _ => False

/-- The terms under which no call is given up and only a new store gives the chain a height. -/
def undisturbed : Terms where
  drop := False
  progress _ := False
  setHeight := False

/-- Whether an action gives the chain of the client a height. -/
def Action.setsHeight : Action → Bool
  | progress _ _ | setHeight _ => true
  | own _ | listen _ | offer _ _ | notify _ | create _ _ | poll _ | cancel _ | spawn | drive _
  | inject _ _ | finish | wait _ => false

theorem keepsHeight_undisturbed : undisturbed.KeepsHeight :=
  ⟨fun _ => not_false, not_false⟩

/-- A network that is asked to download keeps its listeners. -/
theorem Work.listeners_succeed {slot : Option Stack} {c : Client} {w : Work}
    (hstep : w.call.step = .resumeDownload) : (w.succeed slot c).client.listeners = c.listeners := by
  cases w with
  | replay task floor stage =>
    cases stage with
    | connecting => simp [call, Stage.call, ClientCall.step] at hstep
    | stopping | closing | creating | building | starting | resuming => rfl
  | starting | resuming | stopping | closing => rfl

namespace Work.Floored

variable {task : Task} {best : Height} {news : List Occurrence} {slot : Option Stack}
  {c c' : Client} {w next : Work} {o : Occurrence}

theorem congr (h : w.Floored task best news slot c) (hc : c.Stays undisturbed c') :
    w.Floored task best news slot c' := by
  have hheight := hc.height keepsHeight_undisturbed
  cases w with
  | replay task' floor stage =>
    refine ⟨h.1, h.2.1, ?_⟩
    cases stage <;> simpa only [Stage.Floored, hheight, hc.listeners] using h.2.2
  | starting | resuming | stopping | closing => exact h

theorem concat (h : w.Floored task best news slot c) (ho : o.losesChain = false) :
    w.Floored task best (news ++ [o]) slot c := by
  cases w with
  | replay task' floor stage =>
    obtain ⟨htask, hfloor, hstage⟩ := h
    refine ⟨htask, hfloor.concat ho, ?_⟩
    cases stage with
    | stopping old => exact ⟨hstage.1, hstage.2.concat ho⟩
    | closing | creating | building | connecting | starting | resuming => exact hstage
  | starting | resuming | stopping | closing => exact h

/-- An attempt notes the height of the chain that it takes out of its place. -/
theorem attempt (h : Noted best task.start.height news (slot.map fun _ => c.bestHeight)) :
    (Work.attempt task slot (slot.map fun _ => c.bestHeight)).Floored task best news none c := by
  cases slot with
  | some old => exact ⟨rfl, h, rfl, h⟩
  | none => exact ⟨rfl, h, rfl⟩

/-- A client call that succeeds changes nothing of what is noted; a new store is as high as the start,
and a new network has the listeners of the task. -/
theorem succeed (h : w.Floored task best news slot c)
    (hnext : (w.succeed slot c).next = some next) :
    next.Floored task best news (w.succeed slot c).slot (w.succeed slot c).client := by
  cases w with
  | replay task' floor stage =>
    obtain ⟨rfl, hfloor, hstage⟩ := h
    cases stage with
    | stopping old =>
      obtain rfl := Option.some.inj hnext
      exact ⟨rfl, hfloor, hstage.1⟩
    | closing old =>
      obtain rfl := Option.some.inj hnext
      exact ⟨rfl, hfloor, hstage⟩
    | creating =>
      obtain rfl := Option.some.inj hnext
      exact ⟨rfl, hfloor, hstage, rfl⟩
    | building store =>
      obtain rfl := Option.some.inj hnext
      exact ⟨rfl, hfloor, hstage⟩
    | connecting store chain =>
      obtain rfl := Option.some.inj hnext
      exact ⟨rfl, hfloor, hstage.2, rfl⟩
    | starting n =>
      obtain rfl := Option.some.inj hnext
      exact ⟨rfl, hfloor, hstage⟩
    | resuming n => simp [Work.succeed, Stage.succeed] at hnext
  | starting | resuming | stopping | closing => exact h.elim

/-- The last step of an attempt is to ask the network to download. -/
theorem step_of_next_eq_none (h : w.Floored task best news slot c)
    (hnext : (w.succeed slot c).next = none) : w.call.step = .resumeDownload := by
  cases w with
  | replay task' floor stage =>
    cases stage with
    | resuming n => rfl
    | stopping | closing | creating | building | connecting | starting =>
      simp [Work.succeed, Stage.succeed] at hnext
  | starting | resuming | stopping | closing => exact h.elim

/-- An attempt that has come to its last step is about its task, and has given the network the
listeners of the task. -/
theorem last (h : w.Floored task best news slot c) (hstep : w.call.step = .resumeDownload) :
    w.task? = some task ∧ ∃ floor, c.listeners = Scheduler.listenersFor task floor ∧
      Noted best task.start.height news floor := by
  cases w with
  | replay task' floor stage =>
    obtain ⟨rfl, hfloor, hstage⟩ := h
    cases stage with
    | resuming n => exact ⟨rfl, floor, hstage.2, hfloor⟩
    | stopping | closing | creating | building | connecting | starting =>
      simp [Work.call, Stage.call, ClientCall.step] at hstep
  | starting | resuming | stopping | closing => exact h.elim

/-- An attempt that fails leaves the old chain, if it could not stop its network, and otherwise none
or one as high as the start. -/
theorem fail (h : w.Floored task best news slot c) (k : Caller) :
    Noted best task.start.height (news ++ [.answered k w.call false])
      ((w.slotAfterFailure slot).map fun _ => c.bestHeight) := by
  cases w with
  | replay task' floor stage =>
    obtain ⟨rfl, -, hstage⟩ := h
    cases stage with
    | stopping old => exact hstage.2.concat rfl
    | closing | creating =>
      obtain rfl : slot = none := hstage
      exact .of_losesChain rfl (Or.inl rfl)
    | building | connecting =>
      obtain ⟨rfl, -⟩ := hstage
      exact .of_losesChain rfl (Or.inl rfl)
    | starting | resuming =>
      refine .of_losesChain rfl ?_
      rw [hstage.1]
      cases slot with
      | none => exact Or.inl rfl
      | some stack => exact Or.inr rfl
  | starting | resuming | stopping | closing => exact h.elim

end Work.Floored

namespace Scheduler

variable {s s' : Scheduler} {k : Caller} {task : Task} {w : Work} {best : Height}
  {news : List Occurrence} {actions : List Action}

/-! ### Runs of attempts -/

/-- Whoever is at work makes an attempt at a task, and while nobody is, the next attempt is going to
note this. -/
structure Floored (task : Task) (best : Height) (news : List Occurrence) (s : Scheduler) : Prop where
  idle : (∀ l v, ¬ s.AtWork l v) → Noted best task.start.height news s.bestHeight?
  working : ∀ k w, s.AtWork k w → w.Floored task best news s.slot s.client

/-- An action amid attempts at a task: it gives up no call and gives the chain no height, and whoever
is at work afterwards makes an attempt at the task. -/
structure Retries (task : Task) (s : Scheduler) (a : Action) : Prop where
  kept : ¬ s.GivesUp a
  height : a.setsHeight = false
  only : ∀ w ∈ (s.act a).1.current?, w.task? = some task

instance decidableRetries (task : Task) (s : Scheduler) (a : Action) : Decidable (Retries task s a) :=
  decidable_of_iff (¬ s.GivesUp a ∧ a.setsHeight = false ∧
      ∀ w ∈ (s.act a).1.current?, w.task? = some task)
    ⟨fun ⟨hkept, hheight, honly⟩ => ⟨hkept, hheight, honly⟩,
      fun ⟨hkept, hheight, honly⟩ => ⟨hkept, hheight, honly⟩⟩

theorem Retries.within {a : Action} (h : Retries task s a) : Within undisturbed s a := by
  cases a with
  | create name kind | cancel name => exact h.kept
  | progress | setHeight => exact absurd h.height (by simp [Action.setsHeight])
  | own | listen | offer | notify | poll | spawn | drive | inject | finish | wait => trivial

theorem bestHeight?_congr (hslot : s'.slot = s.slot)
    (hclient : s.client.Stays undisturbed s'.client) : s'.bestHeight? = s.bestHeight? := by
  rw [bestHeight?, bestHeight?, hslot, hclient.height keepsHeight_undisturbed]

/-- An action during which only attempts at the task are at work, none of which succeeds, leaves what
is noted as it tells. -/
theorem Floored.shift (h : s.Floored task best news) (hs' : s'.InLine)
    (hshift : Shift undisturbed s s') (honly : ∀ l v, s'.AtWork l v → v.task? = some task) :
    ∃ more, s'.traffic = s.traffic ++ more ∧
      (more.any Occurrence.isResumed = false → s'.Floored task best (news ++ more)) := by
  -- Where a call is at work afterwards, only what it has noted counts.
  have atWork {k : Caller} {w : Work} {news' : List Occurrence} (hwork : s'.AtWork k w)
      (hw : w.Floored task best news' s'.slot s'.client) : s'.Floored task best news' :=
    ⟨fun hidle => absurd hwork (hidle k w), fun l v hv => (hs'.atWork_unique hwork hv).2 ▸ hw⟩
  cases hshift with
  | rest hwork hkept hslot hclient htraffic =>
    refine ⟨[], by rw [htraffic, List.append_nil], fun _ => ?_⟩
    rw [List.append_nil]
    refine ⟨fun hidle => ?_, fun l v hv => ?_⟩
    · rw [bestHeight?_congr hslot hclient]
      exact h.idle fun l v hv => hidle l v (hkept not_false l v hv)
    · rw [hslot]
      exact (h.working l v (hwork l v hv)).congr hclient
  | @decline k hidle hover hslot hclient htraffic =>
    refine ⟨[.acquired k], htraffic, fun _ => ⟨fun _ => ?_, fun l v hv => absurd hv (hover l v)⟩⟩
    rw [bestHeight?_congr hslot hclient]
    exact (h.idle hidle).concat rfl
  | @begin k t errand w hidle hslot hclient hopening hafter hwork htraffic =>
    refine ⟨[.acquired k], htraffic, fun _ => atWork hwork ?_⟩
    obtain ⟨rfl, hnone⟩ := attempt_of_opening hopening (honly k w hwork)
    have hnoted : Noted best task.start.height news t.bestHeight? := by
      rw [bestHeight?_congr hslot hclient]
      exact h.idle hidle
    rw [hnone]
    exact ((Work.Floored.attempt hnoted).concat rfl).congr hafter
  | @goOn k w next c hcall hclient hnext hslot hafter hwork htraffic =>
    refine ⟨[.answered k w.call true], htraffic, fun _ => atWork hwork ?_⟩
    rw [hslot]
    exact ((((h.working k w hcall).congr hclient).succeed hnext).concat rfl).congr hafter
  | @finish k w c hcall hclient hnext _ _ _ htraffic =>
    have hstep := ((h.working k w hcall).congr hclient).step_of_next_eq_none hnext
    exact ⟨[.answered k w.call true], htraffic, fun hnot => by
      simp [Occurrence.isResumed, hstep] at hnot⟩
  | @fail k w hcall hslot hclient hover htraffic =>
    refine ⟨[.answered k w.call false], htraffic, fun _ =>
      ⟨fun _ => ?_, fun l v hv => absurd hv (hover l v)⟩⟩
    rw [bestHeight?, hslot]
    exact ((h.working k w hcall).congr hclient).fail k

/-- **What the next attempt is going to note, after any number of attempts at a task that fail.** -/
theorem floored_run (h : s.Floored task best news) (hs : s.InLine) (hticks : s.TicksDriven)
    (hretries : Along (Retries task) s actions) {more : List Occurrence}
    (hmore : (s.run actions).traffic = s.traffic ++ more)
    (hnot : more.any Occurrence.isResumed = false) :
    (s.run actions).Floored task best (news ++ more) := by
  induction actions generalizing s news more with
  | nil =>
    obtain rfl : more = [] := List.self_eq_append_right.mp hmore
    rwa [List.append_nil]
  | cons a actions ih =>
    have hact : (s.act a).1.InLine := hs.act hticks a
    obtain ⟨first, hfirst, hfloored⟩ := h.shift hact (shift_act hs hticks hretries.1.within)
      fun l v hv => hretries.1.only v ((current?_eq_some_iff hact).mpr ⟨l, hv⟩)
    obtain ⟨rest, hrest⟩ := traffic_prefix_run hact (hticks.act a) actions
    obtain rfl : more = first ++ rest := by
      rw [run_cons, ← hrest, hfirst, List.append_assoc] at hmore
      exact (List.append_cancel_left hmore).symm
    rw [List.any_append, Bool.or_eq_false_iff] at hnot
    rw [run_cons, ← List.append_assoc]
    exact ih (hfloored hnot.1) hact (hticks.act a) hretries.2 hrest.symm hnot.2

/-! ### The wallets of the task that is attempted -/

/-- The wallets of a task in line were made. -/
structure Enlisted (ws : List Wallet) (s : Scheduler) : Prop extends Parted ws s where
  lined : ∀ t ∈ s.lineTasks, ∀ w ∈ t.wallets, w ∈ ws

namespace Enlisted

variable {ws : List Wallet}

theorem move (hs : Enlisted ws s) (h : Move noMaking s s') : Enlisted ws s' where
  toParted := hs.toParted.move noMaking_own h
  lined t ht w hw := by
    rcases Followed.mem_lineTasks (h.course hs.inLine hs.headMatches) ht with ht | ⟨hclaiming, -⟩
    · exact hs.lined t ht w hw
    · exact (hs.toParted.move noMaking_own h).mem_of_claiming hclaiming hw

theorem run (hs : Enlisted ws s) (hticks : s.TicksDriven) (actions : List Action) :
    Enlisted (ws ++ s.madeWallets actions) (s.run actions) := by
  refine run_invariant (fun {ws s a} hs hticks _ => ?_) hs hticks
    (along_of_forall (P := fun _ => True) fun _ _ => trivial)
  refine act_invariant (I := Enlisted) hs hticks a (fun handle id state _ => ?_) Enlisted.move
  exact ⟨hs.toParted.make handle id state, fun t ht w hw =>
    List.mem_append_left _ (hs.lined t ht w hw)⟩

/-- The wallets of the task that is at work were made. -/
theorem mem_of_atWork (hs : Enlisted ws s) (hw : s.AtWork k w) (htask : w.task? = some task)
    {v : Wallet} (hv : v ∈ task.wallets) : v ∈ ws := by
  refine hs.lined task (List.mem_filterMap.mpr ⟨k, ?_, ?_⟩) v hv
  · exact (hs.inLine.mem_iff k).mpr ⟨_, hw, rfl⟩
  · rw [taskOf?_of_working hw, htask]

end Enlisted

theorem enlisted_fresh (checkpoints : Checkpoints) (retry : RetryPolicy) (interval : Nat)
    (synced : Option Height) : Enlisted [] (fresh checkpoints retry interval synced) := by
  have hparted := parted_fresh checkpoints retry interval synced
  cases synced <;> exact ⟨hparted, fun t ht => by simp [lineTasks, fresh, start, startSynced] at ht⟩

/-! ### What the wallets show -/

/-- If the listeners of the network are those of a task, its wallets show how far it is. -/
theorem percent_progress {floor : Option Height}
    (hlisteners : s.client.listeners = listenersFor task floor) (height : Height)
    (left : BlockCount) {v : Wallet} (hv : v ∈ task.wallets) (hsize : v.key < s.roster.ledger.size) :
    ((s.progress height left).roster.ledger.get v).percent =
      some (percentComplete task.start.height height left floor) := by
  have hledger : (s.progress height left).roster.ledger = s.roster.ledger.modifyAll task.wallets
      (·.setPercent (some (percentComplete task.start.height height left floor))) := by
    simp only [progress, hlisteners, listenersFor, List.foldl_map, Ledger.modifyAll]
  rw [hledger, Ledger.get_modifyAll_of_key (fun state => state.setPercent_setPercent _ _) hsize
    ⟨v, hv, rfl⟩]
  rfl

/-- **Retries change how progress is measured once the old chain is gone.** Take a run after which
nobody is at work and there is a chain of some height, and from there on attempts at one task, of
which the last succeeds. The wallets of the task then show how much of the download is done:
measured up to the height that the chain had at first, if the only failures were to stop the old
network, and else up to what the client reports alone. -/
theorem run_floors (checkpoints : Checkpoints) (retry : RetryPolicy) (interval : Nat)
    (synced : Option Height) (before during after : List Action) (news : List Occurrence)
    (k : Caller) (task : Task) (w : Work) (best height : Height) (left : BlockCount) :
    let s := (fresh checkpoints retry interval synced).run before
    let s₁ := s.run during
    let s₂ := (s₁.act k.turn).1
    let s₃ := s₂.run after
    s.current? = none → s.bestHeight? = some best → Along (Retries task) s during →
    s₁.traffic = s.traffic ++ news → news.any Occurrence.isResumed = false →
    s₁.AtWork k w → w.call.step = .resumeDownload → s₁.answersWell w = true →
    Along (fun t _ => t.current? = none) s₂ (after ++ [.progress height left]) →
      ∀ v ∈ task.wallets, ((s₃.progress height left).roster.ledger.get v).percent =
        some (percentComplete task.start.height height left
          (if news.any Occurrence.losesChain then none else some best)) := by
  intro s s₁ s₂ s₃ hidle hbest hretries hnews hnot hw hstep hwell hafter v hv
  have hline₀ := inLine_fresh checkpoints retry interval synced
  have hticks₀ := ticksDriven_fresh checkpoints retry interval synced
  have hline : s.InLine := hline₀.run hticks₀ before
  have hticks : s.TicksDriven := hticks₀.run before
  have hline₁ : s₁.InLine := hline.run hticks during
  have hticks₁ : s₁.TicksDriven := hticks.run during
  have hline₂ : s₂.InLine := hline₁.act hticks₁ k.turn
  have hticks₂ : s₂.TicksDriven := hticks₁.act k.turn
  have hstart : s.Floored task best [] :=
    ⟨fun _ => hbest, fun l u hu => absurd hu ((current?_eq_none_iff hline).mp hidle l u)⟩
  have hfloored : s₁.Floored task best news :=
    floored_run hstart hline hticks hretries hnews hnot
  obtain ⟨htask, floor, hlisteners, hnoted⟩ := (hfloored.working k w hw).last hstep
  have hlisteners₂ : s₂.client.listeners = s₁.client.listeners := by
    rcases act_turn_cases hline₁ hticks₁ hw with
      ⟨-, c, hclient, -, hafter, -⟩ | ⟨hfailed, -⟩
    · rw [hafter.listeners, Work.listeners_succeed hstep, hclient.listeners]
    · rw [hfailed] at hwell
      exact absurd hwell Bool.false_ne_true
  have hlisteners₃ : s₃.client.listeners = listenersFor task floor := by
    rw [(stays_run_of_idle hline₂ hticks₂ hafter).2.listeners, hlisteners₂, hlisteners]
  have hsize : v.key < s₃.roster.ledger.size := by
    have hmade := ((enlisted_fresh checkpoints retry interval synced).run hticks₀ before).run hticks
      during
    have hmem := hmade.mem_of_atWork hw htask hv
    exact (hmade.run hticks₁ (k.turn :: after)).known.lt_size (List.mem_append_left _ hmem)
  rw [percent_progress hlisteners₃ height left hv hsize, hnoted.percentComplete_eq left]

/-- A chain was synced up to height 5000. The first attempt cannot stop its network, the second
succeeds, and progress is measured up to that height. -/
theorem run_floors_of_retry :
    let best : Height := ⟨5000, by decide⟩
    let task : Task := ⟨0, [⟨0, "w1"⟩], .genesis, .genesis⟩
    let before : List Action := [.own (.make "savings" "w1" {}), .offer ["savings"] .genesis,
      .inject .stopNetwork 1]
    let during : List Action := [.create "tick" .tick, .poll "tick", .poll "tick",
      .create "tick" .tick, .poll "tick", .poll "tick", .poll "tick", .poll "tick", .poll "tick",
      .poll "tick", .poll "tick"]
    let w : Work := .replay task (some best) (.resuming 1)
    let s := (fresh .empty {} 200 (some best)).run before
    let s₁ := s.run during
    let news := s₁.traffic.drop s.traffic.length
    Along (Retries task) s during ∧ .answered (.named "tick") (.stopNetwork 0) false ∈ news ∧
      s₁.AtWork (.named "tick") w ∧ s₁.answersWell w = true ∧
      ∀ height left, (((((((fresh .empty {} 200 (some best)).run before).run during).act
        (Caller.named "tick").turn).1.run []).progress height left).roster.ledger.get
          ⟨0, "w1"⟩).percent = some (percentComplete task.start.height height left (some best)) := by
  intro best task before during w s s₁ news
  have hretries : Along (Retries task) s during := by decide +kernel
  have hnews : s₁.traffic = s.traffic ++ news := by decide +kernel
  have hw : s₁.AtWork (.named "tick") w := by
    unfold AtWork
    decide +kernel
  have hwell : s₁.answersWell w = true := by decide +kernel
  have hkept : ¬ news.any Occurrence.losesChain = true := by decide +kernel
  have hover : (s₁.act (Caller.named "tick").turn).1.current? = none := by decide +kernel
  refine ⟨hretries, by decide +kernel, hw, hwell, fun height left => ?_⟩
  have hshown := run_floors .empty {} 200 (some best) before during [] news (.named "tick") task w
    best height left (by decide +kernel) (by decide +kernel) hretries hnews (by decide +kernel) hw
    rfl hwell ⟨hover, trivial⟩ ⟨0, "w1"⟩ (by decide +kernel)
  rwa [if_neg hkept] at hshown

/-- Once a store could not be created, the old chain is gone: the same report shows that all is
done, though it were 60 percent of the way to the height that the chain had before. -/
theorem done_of_retry :
    let before : List Action := [.own (.make "savings" "w1" {}), .offer ["savings"] .genesis]
    let during : List Action := [.inject .createStore 1, .create "tick" .tick, .poll "tick",
      .poll "tick", .poll "tick", .poll "tick", .create "tick" .tick, .poll "tick", .poll "tick",
      .poll "tick", .poll "tick", .poll "tick", .poll "tick"]
    let s := (fresh .empty {} 200 (some ⟨5000, by decide⟩)).run before
    let s₁ := s.run during
    s.current? = none ∧ s.bestHeight? = some ⟨5000, by decide⟩ ∧
      Along (Retries ⟨0, [⟨0, "w1"⟩], .genesis, .genesis⟩) s during ∧
      s₁.client.download = some (.replay 0) ∧
      ((s₁.progress ⟨3000, by decide⟩ 0).roster.ledger.get ⟨0, "w1"⟩).percent = some 100 ∧
      percentComplete .zero ⟨3000, by decide⟩ 0 (some ⟨5000, by decide⟩) = 60 := by
  decide +kernel

end Scheduler

end WalletReplay
