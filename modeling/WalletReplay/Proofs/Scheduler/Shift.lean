import WalletReplay.Proofs.Scheduler.Retry

/-!
# Who is at work

At most one call is at work at a time, and an action means one of few things for it: it waits on, it
goes on to its next client call, it comes to its end, it fails, or it is given up. If nobody is at
work, a caller may get hold of the chain, and is turned away or begins. What becomes of the chain in
its place and of the client is said along with it, so that a property of the chain needs to be
checked for these cases only.

What a call makes of its errand is seen when it has its turn: it is pending or has ended, well or
with the step at which the client failed.

## What is proved

* `shift_act` — what an action means for whoever is at work.
* `Shift.forall_atWork` — what holds of whoever is at work, as far as the chain in its place goes.
* `pursue_snd` — how far a call comes that the client answers.
* `act_turn_traffic` — a call at work that has its turn hears the answer to its client call.
-/

namespace WalletReplay

/-- The client never makes less. -/
theorem Work.made_le (slot : Option Stack) (c : Client) (w : Work) :
    c.networkCount ≤ (w.succeed slot c).client.networkCount ∧
      c.storeCount ≤ (w.succeed slot c).client.storeCount := by
  cases w with
  | replay task floor stage =>
    cases stage with
    | creating => exact ⟨Nat.le_refl _, Nat.le_succ _⟩
    | connecting => exact ⟨Nat.le_succ _, Nat.le_refl _⟩
    | stopping | closing | building | starting | resuming => exact ⟨Nat.le_refl _, Nat.le_refl _⟩
  | starting | resuming | stopping | closing => exact ⟨Nat.le_refl _, Nat.le_refl _⟩

namespace Scheduler

open Relation

variable {s s' t t' : Scheduler} {k l : Caller} {p : Terms} {v w : Work}

/-- Whether a caller is at work. -/
def works (s : Scheduler) (k : Caller) : Bool :=
  match s.calls.get? k with
  | some (.working _) => true
  | _ => false

theorem works_iff : s.works k = true ↔ ∃ w, s.AtWork k w := by
  unfold works AtWork
  split
  · rename_i w h
    exact ⟨fun _ => ⟨w, h⟩, fun _ => rfl⟩
  · rename_i h
    constructor
    · intro hfalse
      simp at hfalse
    · rintro ⟨w, hw⟩
      exact absurd hw (h w)

/-- The work that is under way, if somebody is at work. -/
def current? (s : Scheduler) : Option Work :=
  match s.line.head?.bind s.calls.get? with
  | some (.working w) => some w
  | _ => none

theorem current?_eq_some_iff (hs : s.InLine) : s.current? = some w ↔ ∃ k, s.AtWork k w := by
  constructor
  · intro h
    unfold current? at h
    split at h
    · rename_i v hv
      obtain rfl := Option.some.inj h
      obtain ⟨k, -, hk⟩ := Option.bind_eq_some_iff.mp hv
      exact ⟨k, hk⟩
    · simp at h
  · rintro ⟨k, hk⟩
    have hcall : s.line.head?.bind s.calls.get? = some (.working w) := by
      rw [hs.head_of_working hk]
      exact hk
    simp [current?, hcall]

theorem current?_eq_none_iff (hs : s.InLine) : s.current? = none ↔ ∀ l v, ¬ s.AtWork l v := by
  rw [Option.eq_none_iff_forall_ne_some]
  exact ⟨fun h l v hv => h v ((current?_eq_some_iff hs).mpr ⟨l, hv⟩),
    fun h v hv => ((current?_eq_some_iff hs).mp hv).elim fun l hl => h l v hl⟩

/-- Whether the client is going to answer well what is waited for. -/
def answersWell (s : Scheduler) (w : Work) : Bool :=
  (s.client.leave.answer w.call.step).2

/-- Only one call is at work. -/
theorem InLine.atWork_unique (hs : s.InLine) (hv : s.AtWork k v) (hw : s.AtWork l w) :
    l = k ∧ w = v := by
  obtain rfl := hs.eq_of_working (hs.head_of_working hv) hw
  exact ⟨rfl, hw.unique hv⟩

/-- Actions keep the line as it should be. -/
theorem InLine.act (hs : s.InLine) (hticks : s.TicksDriven) (a : Action) : (s.act a).1.InLine :=
  moves_invariant (fun hs h => hs.move h) hs (act_moves hticks (within_default s a))

theorem InLine.run (hs : s.InLine) (hticks : s.TicksDriven) (actions : List Action) :
    (s.run actions).InLine :=
  moves_invariant (fun hs h => hs.move h) hs (moves_run hticks actions)

theorem stays_clientAfter (p : Terms) (s : Scheduler) (w : Work) :
    s.client.Stays p (s.clientAfter w) :=
  (Client.stays_leave p _).trans (Client.stays_answer p _ _)

/-! ### What an action means for the chain -/

/-- What happens from one state to the next, for whoever is at work. -/
inductive Shift (p : Terms) (s s' : Scheduler) : Prop where
  /-- Nobody begins to work and nothing is answered. Only a call that is given up ceases to work. -/
  | rest (hwork : ∀ l v, s'.AtWork l v → s.AtWork l v)
      (hkept : ¬ p.drop → ∀ l v, s.AtWork l v → s'.AtWork l v)
      (hslot : s'.slot = s.slot) (hclient : s.client.Stays p s'.client)
      (htraffic : s'.traffic = s.traffic)
  /-- A call gets hold of the chain and is turned away. -/
  | decline {k : Caller} (hidle : ∀ l v, ¬ s.AtWork l v) (hover : ∀ l v, ¬ s'.AtWork l v)
      (hslot : s'.slot = s.slot) (hclient : s.client.Stays p s'.client)
      (htraffic : s'.traffic = s.traffic ++ [.acquired k])
  /-- A call gets hold of the chain and begins to work. -/
  | begin {k : Caller} {t : Scheduler} {errand : Errand} {w : Work}
      (hidle : ∀ l v, ¬ s.AtWork l v) (hslot : t.slot = s.slot)
      (hclient : s.client.Stays p t.client) (hopening : t.opening errand = some (w, s'.slot))
      (hafter : t.client.Stays p s'.client) (hwork : s'.AtWork k w)
      (htraffic : s'.traffic = s.traffic ++ [.acquired k])
  /-- The client answers well, and the call goes on. -/
  | goOn {k : Caller} {w next : Work} {c : Client} (hcall : s.AtWork k w)
      (hclient : s.client.Stays p c) (hnext : (w.succeed s.slot c).next = some next)
      (hslot : s'.slot = (w.succeed s.slot c).slot)
      (hafter : (w.succeed s.slot c).client.Stays p s'.client) (hwork : s'.AtWork k next)
      (htraffic : s'.traffic = s.traffic ++ [.answered k w.call true])
  /-- The client answers well, and the call is over. -/
  | finish {k : Caller} {w : Work} {c : Client} (hcall : s.AtWork k w)
      (hclient : s.client.Stays p c) (hnext : (w.succeed s.slot c).next = none)
      (hslot : s'.slot = (w.succeed s.slot c).slot)
      (hafter : (w.succeed s.slot c).client.Stays p s'.client) (hover : ∀ l v, ¬ s'.AtWork l v)
      (htraffic : s'.traffic = s.traffic ++ [.answered k w.call true])
  /-- The client fails, and the call is over. -/
  | fail {k : Caller} {w : Work} (hcall : s.AtWork k w)
      (hslot : s'.slot = w.slotAfterFailure s.slot) (hclient : s.client.Stays p s'.client)
      (hover : ∀ l v, ¬ s'.AtWork l v)
      (htraffic : s'.traffic = s.traffic ++ [.answered k w.call false])

/-- An action that gives up no call is within terms that forbid it. -/
theorem within_of_not_givesUp {a : Action} (h : Within p s a) (hkept : ¬ s.GivesUp a) :
    Within { p with drop := False } s a := by
  cases a with
  | create name kind | cancel name => exact hkept
  | own | listen | offer | notify | poll | spawn | drive | inject | progress | finish | setHeight
  | wait => exact h

/-- One loud step among quiet moves that give up no call. -/
theorem shift_of_loud (hs : s.InLine) (hdrop : ¬ p.drop) (hbefore : Quiet p s t)
    (hloud : Loud k t t') (hafter : Quiet p t' s') : Shift p s s' := by
  have hline : t.InLine := moves_invariant (fun hs h => hs.move h) hs hbefore.moves
  obtain ⟨hslot₁, hclient₁⟩ := hbefore.stays
  obtain ⟨hslot₂, hclient₂⟩ := hafter.stays
  have htraffic {o : Occurrence} (h : t'.traffic = t.traffic ++ [o]) :
      s'.traffic = s.traffic ++ [o] := by
    rw [hafter.traffic, h, hbefore.traffic]
  have hidle (h : ∀ l v, ¬ t.AtWork l v) : ∀ l v, ¬ s.AtWork l v :=
    fun l v hv => h l v (hbefore.kept hdrop hv)
  have hover (hcalls : t'.calls = t.calls.erase k) : ∀ l v, ¬ s'.AtWork l v :=
    fun l v hv => hloud.not_atWork hline hcalls l v (hafter.atWork hv)
  cases hloud with
  | decline hcall hopening hslot hclient hcalls hnew =>
    refine .decline (hidle (hcall.not_atWork hline)) (hover hcalls) ?_ ?_ (htraffic hnew)
    · rw [hslot₂, hslot, hslot₁]
    · rw [hclient] at hclient₂
      exact hclient₁.trans hclient₂
  | begin hcall hopening hclient hcalls hnew =>
    refine .begin (hidle (hcall.not_atWork hline)) hslot₁ hclient₁ (hslot₂ ▸ hopening) ?_
      (hafter.kept hdrop (atWork_of_set_working hcalls)) (htraffic hnew)
    rw [hclient] at hclient₂
    exact (Client.stays_enter p _).trans hclient₂
  | @goOn w next hcall hnext hslot hclient hcalls hnew =>
    rw [hslot₁] at hnext hslot hclient
    refine .goOn (hbefore.atWork hcall) (hclient₁.trans (stays_clientAfter p t w)) hnext
      (hslot₂.trans hslot) ?_ (hafter.kept hdrop (atWork_of_set_working hcalls)) (htraffic hnew)
    rw [hclient] at hclient₂
    exact (Client.stays_enter p _).trans hclient₂
  | @finish w hcall hnext hslot hclient hcalls hnew =>
    rw [hslot₁] at hnext hslot hclient
    refine .finish (hbefore.atWork hcall) (hclient₁.trans (stays_clientAfter p t w)) hnext
      (hslot₂.trans hslot) ?_ (hover hcalls) (htraffic hnew)
    rwa [hclient] at hclient₂
  | @fail w hcall hslot hclient hcalls hnew =>
    rw [hslot₁] at hslot
    refine .fail (hbefore.atWork hcall) (hslot₂.trans hslot) ?_ (hover hcalls) (htraffic hnew)
    rw [hclient] at hclient₂
    exact (hclient₁.trans (stays_clientAfter p t w)).trans hclient₂

/-- Terms that differ in what does not matter for the client make no difference. -/
theorem Shift.mono {q : Terms} (h : Shift q s s') (hdrop : ¬ p.drop → ¬ q.drop)
    (hreport : q.report → p.report) (hheight : p.KeepsHeight → q.KeepsHeight) : Shift p s s' := by
  have hmono {c c' : Client} (h : c.Stays q c') : c.Stays p c' := h.mono hreport hheight
  cases h with
  | rest hwork hkept hslot hclient htraffic =>
    exact .rest hwork (fun h => hkept (hdrop h)) hslot (hmono hclient) htraffic
  | decline hidle hover hslot hclient htraffic =>
    exact .decline hidle hover hslot (hmono hclient) htraffic
  | begin hidle hslot hclient hopening hafter hwork htraffic =>
    exact .begin hidle hslot (hmono hclient) hopening (hmono hafter) hwork htraffic
  | goOn hcall hclient hnext hslot hafter hwork htraffic =>
    exact .goOn hcall (hmono hclient) hnext hslot (hmono hafter) hwork htraffic
  | finish hcall hclient hnext hslot hafter hover htraffic =>
    exact .finish hcall (hmono hclient) hnext hslot (hmono hafter) hover htraffic
  | fail hcall hslot hclient hover htraffic =>
    exact .fail hcall hslot (hmono hclient) hover htraffic

/-- **What holds of whoever begins to work, and is kept when the client answers well, holds of whoever
is at work.** -/
theorem Shift.forall_atWork {I : Work → Option Stack → Prop}
    (hopening : ∀ {t : Scheduler} {errand w slot}, t.opening errand = some (w, slot) → I w slot)
    (hsucceed : ∀ {slot c w next}, (w.succeed slot c).next = some next → I w slot →
      I next (w.succeed slot c).slot)
    (h : Shift p s s') (hs' : s'.InLine) (hs : ∀ k w, s.AtWork k w → I w s.slot) :
    ∀ k w, s'.AtWork k w → I w s'.slot := by
  intro l v hv
  cases h with
  | rest hwork _ hslot =>
    rw [hslot]
    exact hs l v (hwork l v hv)
  | begin _ _ _ hopen _ hwork =>
    obtain ⟨-, rfl⟩ := hs'.atWork_unique hwork hv
    exact hopening hopen
  | goOn hcall _ hnext hslot _ hwork =>
    obtain ⟨-, rfl⟩ := hs'.atWork_unique hwork hv
    rw [hslot]
    exact hsucceed hnext (hs _ _ hcall)
  | decline _ hover | finish _ _ _ _ _ hover | fail _ _ _ hover => exact absurd hv (hover l v)

theorem shift_of_quiet (h : Quiet p s s') : Shift p s s' :=
  .rest (fun _ _ => h.atWork) (fun hdrop _ _ => h.kept hdrop) h.stays.1 h.stays.2 h.traffic

/-- **What an action means for whoever is at work.** -/
theorem shift_act (hs : s.InLine) (hticks : s.TicksDriven) {a : Action} (h : Within p s a) :
    Shift p s (s.act a).1 := by
  -- To give up a call is a quiet move; any other action is within terms that forbid to give up one,
  -- under which a call at work stays at work until the loud step.
  by_cases hgives : s.GivesUp a
  · exact shift_of_quiet (quiet_of_moves (act_moves hticks h)
      (Nat.le_of_eq (by rw [traffic_of_givesUp hgives])))
  · refine Shift.mono (q := { p with drop := False }) ?_ (fun _ => not_false) id id
    rcases act_quiet_or_loud hticks (within_of_not_givesUp h hgives) with
      hquiet | ⟨k, t, t', hbefore, -, hloud, hafter⟩
    · exact shift_of_quiet hquiet
    · exact shift_of_loud hs not_false hbefore hloud hafter

/-- What every action keeps, for whoever is at work, every run keeps. -/
theorem shift_invariant {I : Scheduler → Prop}
    (hkeep : ∀ {s s'}, s.InLine → s'.InLine → Shift p s s' → I s → I s') (hs : s.InLine)
    (hticks : s.TicksDriven) {actions : List Action} (h : Along (Within p) s actions) (hI : I s) :
    I (s.run actions) := by
  induction actions generalizing s with
  | nil => exact hI
  | cons a actions ih =>
    have hs' : (s.act a).1.InLine := hs.act hticks a
    exact ih hs' (hticks.act a) h.2 (hkeep hs hs' (shift_act hs hticks h.1) hI)

/-- The client never makes less. -/
theorem Shift.made_le (h : Shift p s s') : s.client.networkCount ≤ s'.client.networkCount ∧
    s.client.storeCount ≤ s'.client.storeCount := by
  have hstays {c c' : Client} (h : c.Stays p c') :
      c.networkCount ≤ c'.networkCount ∧ c.storeCount ≤ c'.storeCount :=
    ⟨Nat.le_of_eq h.networks.symm, Nat.le_of_eq h.stores.symm⟩
  have htrans {c c' c'' : Client} (h : c.networkCount ≤ c'.networkCount ∧ c.storeCount ≤ c'.storeCount)
      (h' : c'.networkCount ≤ c''.networkCount ∧ c'.storeCount ≤ c''.storeCount) :
      c.networkCount ≤ c''.networkCount ∧ c.storeCount ≤ c''.storeCount :=
    ⟨h.1.trans h'.1, h.2.trans h'.2⟩
  cases h with
  | rest _ _ _ hclient | decline _ _ _ hclient | fail _ _ hclient => exact hstays hclient
  | begin _ _ hclient _ hafter => exact hstays (hclient.trans hafter)
  | goOn _ hclient _ _ hafter | finish _ hclient _ _ hafter =>
    exact htrans (hstays hclient) (htrans (Work.made_le _ _ _) (hstays hafter))

/-- The traffic only grows. -/
theorem Shift.traffic_prefix (h : Shift p s s') : s.traffic <+: s'.traffic := by
  cases h with
  | rest _ _ _ _ htraffic => exact ⟨[], by rw [htraffic, List.append_nil]⟩
  | decline _ _ _ _ htraffic | begin _ _ _ _ _ _ htraffic | goOn _ _ _ _ _ _ htraffic
  | finish _ _ _ _ _ _ htraffic | fail _ _ _ _ htraffic => exact ⟨_, htraffic.symm⟩

theorem traffic_prefix_run (hs : s.InLine) (hticks : s.TicksDriven) (actions : List Action) :
    s.traffic <+: (s.run actions).traffic :=
  shift_invariant (p := {}) (I := fun t => s.traffic <+: t.traffic)
    (fun _ _ hshift h => h.trans hshift.traffic_prefix) hs hticks (along_default s actions)
    (List.prefix_refl _)

/-- A call that is at work before and after has waited on, or has gone on. -/
theorem Shift.cases_of_atWork (hs : s.InLine) (h : Shift p s s')
    (hv : s.AtWork k v) (hw : s'.AtWork k w) :
    (w = v ∧ s'.slot = s.slot ∧ s.client.Stays p s'.client ∧ s'.traffic = s.traffic) ∨
      ∃ c, s.client.Stays p c ∧ (v.succeed s.slot c).next = some w ∧
        s'.slot = (v.succeed s.slot c).slot ∧ (v.succeed s.slot c).client.Stays p s'.client ∧
        s'.traffic = s.traffic ++ [.answered k v.call true] := by
  cases h with
  | rest hwork _ hslot hclient htraffic =>
    exact Or.inl ⟨(hwork k w hw).unique hv, hslot, hclient, htraffic⟩
  | decline hidle | begin hidle => exact absurd hv (hidle k v)
  | goOn hcall hclient hnext hslot hafter hwork htraffic =>
    obtain ⟨rfl, rfl⟩ := hs.atWork_unique hcall hv
    obtain rfl := hw.unique hwork
    exact Or.inr ⟨_, hclient, hnext, hslot, hafter, htraffic⟩
  | finish _ _ _ _ _ hover | fail _ _ _ hover => exact absurd hw (hover k w)

/-- Whoever begins to work on a task makes an attempt at it, and takes the stack out of its place. -/
theorem attempt_of_opening {errand : Errand} {slot : Option Stack} {task : Task}
    (h : s.opening errand = some (w, slot)) (htask : w.task? = some task) :
    w = .attempt task s.slot s.bestHeight? ∧ slot = none := by
  cases errand with
  | replay task' =>
    simp only [opening] at h
    split_ifs at h
    obtain ⟨rfl, rfl⟩ := Prod.mk.inj (Option.some.inj h)
    obtain rfl := Option.some.inj ((Work.task?_attempt task' _ _).symm.trans htask)
    exact ⟨rfl, rfl⟩
  | regular =>
    simp only [opening] at h
    split_ifs at h
    obtain ⟨stack, -, heq⟩ := Option.map_eq_some_iff.mp h
    obtain ⟨rfl, -⟩ := Prod.mk.inj heq
    split_ifs at htask <;> simp [Work.task?] at htask
  | shutdown =>
    obtain ⟨stack, -, heq⟩ := Option.map_eq_some_iff.mp h
    obtain ⟨rfl, -⟩ := Prod.mk.inj heq
    simp [Work.task?] at htask

/-- A call that begins to work from one state to the next has got hold of the chain. -/
theorem Shift.cases_of_begins (h : Shift p s s') (hs' : s'.InLine) (hidle : s.works k = false)
    (hw : s'.AtWork k w) : (∀ l v, ¬ s.AtWork l v) ∧ s'.traffic = s.traffic ++ [.acquired k] ∧
      ∃ (t : Scheduler) (errand : Errand), t.slot = s.slot ∧ s.client.Stays p t.client ∧
        t.opening errand = some (w, s'.slot) ∧ t.client.Stays p s'.client := by
  have hnot (v : Work) : ¬ s.AtWork k v := by
    intro hv
    rw [works_iff.mpr ⟨v, hv⟩] at hidle
    exact Bool.false_ne_true hidle.symm
  cases h with
  | rest hwork => exact absurd (hwork k w hw) (hnot w)
  | decline _ hover => exact absurd hw (hover k w)
  | begin hidle hslot hclient hopening hafter hwork htraffic =>
    obtain ⟨rfl, rfl⟩ := hs'.atWork_unique hwork hw
    exact ⟨hidle, htraffic, _, _, hslot, hclient, hopening, hafter⟩
  | goOn hcall _ _ _ _ hwork =>
    obtain ⟨rfl, -⟩ := hs'.atWork_unique hwork hw
    exact absurd hcall (hnot _)
  | finish _ _ _ _ _ hover | fail _ _ _ hover => exact absurd hw (hover k w)

/-! ### What a call at work makes of its turn -/

/-- How far a call comes that the client answers. -/
theorem pursue_snd (s : Scheduler) (k : Caller) (w : Work) : (s.pursue k w).2 =
    if s.answersWell w then
      if (w.succeed s.slot (s.clientAfter w)).next.isSome then .pending else .done none
    else .done (some (.client w.call.step)) := by
  rw [pursue_eq, answersWell]
  split
  · exact advance_snd _ k w
  · rw [abort_eq]

theorem traffic_receive (s : Scheduler) (k : Caller) (w : Work) : (s.receive k w).1.traffic =
    s.traffic ++ [.answered k w.call (s.answersWell w)] := by
  cases hanswer : s.answersWell w with
  | true =>
    have hnext := s.traffic_hear k w true
    rw [receive_of_succeeded hanswer, advance_eq]
    cases (w.succeed (s.hear k w true).slot (s.hear k w true).client).next with
    | some next => exact hnext
    | none =>
      rw [goOn, traffic_depart]
      exact hnext
  | false =>
    rw [receive_of_failed hanswer, traffic_depart, traffic_countFailure]
    exact s.traffic_hear k w false

/-- The turn of a call at work is to hear the answer of the client, be it the call of an owner or of
a driver. -/
theorem exists_turn (hticks : s.TicksDriven) (hw : s.AtWork k w) :
    ∃ turns drivers turns', (s.act k.turn).1 =
      { (receive { s with turns } k w).1 with drivers, turns := turns' } := by
  cases k with
  | named name =>
    refine ⟨s.turns, (s.poll (.named name)).1.drivers, (s.poll (.named name)).1.turns, ?_⟩
    have hpoll : s.poll (.named name) = s.receive (.named name) w := by
      simp [poll, show s.calls.get? (.named name) = _ from hw]
    simp only [Caller.turn, act, hpoll]
  | driver d =>
    obtain ⟨seen, due, hd⟩ := hticks d (by rw [show s.calls.get? (.driver d) = _ from hw]; simp)
    obtain ⟨drivers, turns', hturn⟩ := takeTurn_of_ticking hd
    refine ⟨s.turns.erase d, drivers, turns', ?_⟩
    have hpoll : poll { s with turns := s.turns.erase d } (.driver d) =
        receive { s with turns := s.turns.erase d } (.driver d) w := by
      simp [poll, show s.calls.get? (.driver d) = _ from hw]
    simp only [Caller.turn, act, hturn, hpoll]

/-- **A call at work that has its turn hears the answer of the client.** -/
theorem act_turn_traffic (hticks : s.TicksDriven) (hw : s.AtWork k w) :
    (s.act k.turn).1.traffic = s.traffic ++ [.answered k w.call (s.answersWell w)] := by
  obtain ⟨turns, drivers, turns', hturn⟩ := exists_turn hticks hw
  rw [hturn]
  exact traffic_receive { s with turns } k w

/-- **What a call at work makes of its turn**: it goes on or comes to its end if the client answers
well, and otherwise it fails. -/
theorem act_turn_cases (hs : s.InLine) (hticks : s.TicksDriven) (hw : s.AtWork k w) :
    (s.answersWell w = true ∧ ∃ c, s.client.Stays {} c ∧
        (s.act k.turn).1.slot = (w.succeed s.slot c).slot ∧
        (w.succeed s.slot c).client.Stays {} (s.act k.turn).1.client ∧
        (∀ next, (w.succeed s.slot c).next = some next → (s.act k.turn).1.AtWork k next) ∧
        ((w.succeed s.slot c).next = none → ∀ l v, ¬ (s.act k.turn).1.AtWork l v)) ∨
      s.answersWell w = false ∧ (s.act k.turn).1.slot = w.slotAfterFailure s.slot ∧
        ∀ l v, ¬ (s.act k.turn).1.AtWork l v := by
  have hheard := act_turn_traffic hticks hw
  cases shift_act hs hticks (within_default s k.turn) with
  | rest _ _ _ _ htraffic => simp [htraffic] at hheard
  | decline hidle | begin hidle => exact absurd hw (hidle k w)
  | goOn hcall hclient hnext hslot hafter hwork htraffic =>
    obtain ⟨rfl, -, hwell⟩ := by simpa [htraffic] using hheard
    obtain rfl := hcall.unique hw
    refine Or.inl ⟨hwell, _, hclient, hslot, hafter, fun next h => ?_, fun h => ?_⟩
    · obtain rfl := Option.some.inj (hnext.symm.trans h)
      exact hwork
    · simp [hnext] at h
  | finish hcall hclient hnext hslot hafter hover htraffic =>
    obtain ⟨rfl, -, hwell⟩ := by simpa [htraffic] using hheard
    obtain rfl := hcall.unique hw
    exact Or.inl ⟨hwell, _, hclient, hslot, hafter, fun next h => by simp [hnext] at h,
      fun _ => hover⟩
  | fail hcall hslot _ hover htraffic =>
    obtain ⟨rfl, -, hwell⟩ := by simpa [htraffic] using hheard
    obtain rfl := hcall.unique hw
    exact Or.inr ⟨hwell, hslot, hover⟩

end Scheduler

end WalletReplay
