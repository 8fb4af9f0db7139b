import WalletReplay.Proofs.Scheduler.Traffic

/-!
# One call at a time

Whoever works at the client holds the chain, and only one caller does. So at most one call is in
progress at the client at any time, and what the client answers to one caller between getting hold
of the chain and leaving it lies together: the traffic is a sequence of visits. This holds for calls
that are given up, too, for the client is rid of them and the next in line holds the chain.

## What is proved

* `Flight.move` — moves keep the calls at the client apart.
* `InVisits.move` — moves keep the traffic a sequence of visits.
* `run_single_flight` — both, for any run.
-/

namespace WalletReplay.Scheduler

variable {s s' : Scheduler} {k : Caller} {p : Terms}

/-- At most one call is in progress at the client, and that is the call at work. -/
structure Flight (s : Scheduler) : Prop extends InLine s where
  busy : ∀ {k w}, s.AtWork k w → s.client.inFlight = 1
  idle : (∀ k w, ¬ s.AtWork k w) → s.client.inFlight = 0
  max : s.client.maxInFlight ≤ 1

namespace Flight

/-- A call begins at the client, which had none. -/
theorem enter (hline : s'.InLine) {c : Client} (hidle : c.inFlight = 0) (hmax : c.maxInFlight ≤ 1)
    (hclient : s'.client = c.enter) {w : Work} (hw : s'.AtWork k w) : s'.Flight where
  toInLine := hline
  busy _ := by rw [hclient, Client.enter, hidle]
  idle hnone := absurd hw (hnone k w)
  max := by
    rw [hclient, Client.enter, hidle]
    exact Nat.max_le.mpr ⟨hmax, Nat.le_refl 1⟩

/-- No call is left at the client. -/
theorem land (hline : s'.InLine) (hidle : s'.client.inFlight = 0) (hmax : s'.client.maxInFlight ≤ 1)
    (hnone : ∀ l w, ¬ s'.AtWork l w) : s'.Flight :=
  ⟨hline, fun hw => absurd hw (hnone _ _), fun _ => hidle, hmax⟩

/-- When the client has answered, no call is in progress. -/
theorem clientAfter (hs : s.Flight) {w : Work} (hw : s.AtWork k w) :
    (s.clientAfter w).inFlight = 0 ∧ (s.clientAfter w).maxInFlight ≤ 1 := by
  obtain ⟨hinFlight, hmax⟩ := s.client.leave.inFlight_answer w.call.step
  refine ⟨?_, ?_⟩
  · rw [Scheduler.clientAfter, hinFlight, Client.leave, hs.busy hw]
  · rw [Scheduler.clientAfter, hmax]
    exact hs.max

theorem loud (hs : s.Flight) (hline : s'.InLine) (h : Loud k s s') : s'.Flight := by
  have hnone := h.not_atWork hs.toInLine
  cases h with
  | decline hcall _ _ hclient hcalls =>
    refine land hline ?_ (hclient ▸ hs.max) (hnone hcalls)
    rw [hclient]
    exact hs.idle (hcall.not_atWork hs.toInLine)
  | begin hcall _ hclient hcalls =>
    exact enter hline (hs.idle (hcall.not_atWork hs.toInLine)) hs.max hclient
      (atWork_of_set_working hcalls)
  | @goOn w next hcall _ _ hclient hcalls =>
    obtain ⟨hidle, hmax⟩ := hs.clientAfter hcall
    obtain ⟨hidle', hmax'⟩ := Work.inFlight_succeed s.slot (s.clientAfter w) w
    exact enter hline (hidle'.trans hidle) (hmax' ▸ hmax) hclient (atWork_of_set_working hcalls)
  | @finish w hcall _ _ hclient hcalls =>
    obtain ⟨hidle, hmax⟩ := hs.clientAfter hcall
    obtain ⟨hidle', hmax'⟩ := Work.inFlight_succeed s.slot (s.clientAfter w) w
    refine land hline ?_ ?_ (hnone hcalls)
    · rw [hclient, hidle', hidle]
    · rw [hclient, hmax']
      exact hmax
  | fail hcall _ hclient hcalls =>
    obtain ⟨hidle, hmax⟩ := hs.clientAfter hcall
    exact land hline (hclient ▸ hidle) (hclient ▸ hmax) (hnone hcalls)

/-- **Moves keep the calls at the client apart.** -/
theorem move (hs : s.Flight) (h : Move p s s') : s'.Flight := by
  have hline := hs.toInLine.move h
  rcases h.cases with hsilent | ⟨k, hloud⟩ | ⟨-, k, v, hcall, rfl⟩
  · refine ⟨hline, fun {l w} hw => ?_, fun hnone => ?_, ?_⟩
    · rw [hsilent.client.inFlight]
      exact hs.busy ((hsilent.working l w).mp hw)
    · rw [hsilent.client.inFlight]
      exact hs.idle fun l w hw => hnone l w ((hsilent.working l w).mpr hw)
    · rw [hsilent.client.maxInFlight]
      exact hs.max
  · exact hs.loud hline hloud
  · have hcalls : (s.cancel k).1.calls = s.calls.erase k := by rw [cancel_of_some hcall]
    have hclient : (s.cancel k).1.client = s.client.leave := by
      rw [cancel_of_some hcall]
      rfl
    refine land hline ?_ ?_ fun l w hw => ?_
    · rw [hclient, Client.leave, hs.busy hcall]
    · rw [hclient]
      exact hs.max
    · by_cases hl : l = k
      · subst hl
        exact not_atWork_of_erase hcalls w hw
      · rw [AtWork, hcalls, Table.get?_erase_of_ne _ hl] at hw
        exact hl (hs.eq_of_working (hs.head_of_working hcall) hw)

end Flight

theorem flight_fresh (checkpoints : Checkpoints) (retry : RetryPolicy) (interval : Nat)
    (synced : Option Height) : (fresh checkpoints retry interval synced).Flight := by
  have hline := inLine_fresh checkpoints retry interval synced
  cases synced with
  | none =>
    exact .land hline rfl (Nat.zero_le 1) fun _ _ h => by
      simp [AtWork, fresh, start, Table.get?] at h
  | some height =>
    exact .land hline rfl (Nat.le_refl 1) fun _ _ h => by
      simp [AtWork, fresh, startSynced, Table.get?] at h

/-! ### Visits -/

/-- What one call had to do with the client while it held the chain. -/
structure Visit where
  /-- The caller. -/
  caller : Caller
  /-- What the client answered, and whether well, oldest first. -/
  answers : List (ClientCall × Bool) := []

/-- The traffic of a visit: the caller gets hold of the chain, and its calls are answered. -/
def Visit.traffic (v : Visit) : List Occurrence :=
  .acquired v.caller :: v.answers.map fun r => .answered v.caller r.1 r.2

/-- The traffic is that of visits, one after another, and whoever is at work is at the last. -/
def InVisits (s : Scheduler) : Prop :=
  ∃ visits : List Visit, s.traffic = visits.flatMap Visit.traffic ∧
    ∀ k w, s.AtWork k w → ∃ past last, visits = past ++ [last] ∧ last.caller = k

namespace InVisits

/-- A caller gets hold of the chain. -/
theorem acquire (hs : s.InVisits) (hline : s.InLine) (h : Loud k s s')
    (htraffic : s'.traffic = s.traffic ++ [.acquired k]) : s'.InVisits := by
  obtain ⟨visits, heq, -⟩ := hs
  refine ⟨visits ++ [{ caller := k }], ?_, fun l w hw => ?_⟩
  · rw [htraffic, heq, List.flatMap_append]
    rfl
  · obtain rfl := h.eq_of_atWork hline hw
    exact ⟨visits, _, rfl, rfl⟩

/-- The call at work is answered. -/
theorem hear (hs : s.InVisits) (hline : s.InLine) (h : Loud k s s') {w : Work}
    (hcall : s.AtWork k w) {succeeded : Bool}
    (htraffic : s'.traffic = s.traffic ++ [.answered k w.call succeeded]) : s'.InVisits := by
  obtain ⟨visits, heq, hlast⟩ := hs
  obtain ⟨past, last, rfl, rfl⟩ := hlast k w hcall
  refine ⟨past ++ [{ last with answers := last.answers ++ [(w.call, succeeded)] }], ?_,
    fun l v hv => ?_⟩
  · rw [htraffic, heq]
    simp [Visit.traffic]
  · obtain rfl := h.eq_of_atWork hline hv
    exact ⟨past, _, rfl, rfl⟩

/-- Moves keep visits apart. -/
theorem move (hs : s.InVisits) (hline : s.InLine) (h : Move p s s') : s'.InVisits := by
  rcases h.traffic_eq_or_loud with heq | ⟨k, hloud⟩
  · obtain ⟨visits, htraffic, hlast⟩ := hs
    exact ⟨visits, heq.trans htraffic, fun k w hw => hlast k w (Hushed.atWork ⟨h, heq⟩ hw)⟩
  · have hstep := hloud
    cases hloud with
    | decline _ _ _ _ _ htraffic | begin _ _ _ _ htraffic => exact hs.acquire hline hstep htraffic
    | goOn hcall _ _ _ _ htraffic | finish hcall _ _ _ _ htraffic | fail hcall _ _ _ htraffic =>
      exact hs.hear hline hstep hcall htraffic

end InVisits

theorem inVisits_fresh (checkpoints : Checkpoints) (retry : RetryPolicy) (interval : Nat)
    (synced : Option Height) : (fresh checkpoints retry interval synced).InVisits := by
  cases synced <;> exact
    ⟨[], rfl, fun _ _ h => by simp [AtWork, fresh, start, startSynced, Table.get?] at h⟩

/-! ### Runs -/

/-- A call is in progress at the client if and only if some call is at work. -/
theorem Flight.inFlight_iff (hs : s.Flight) :
    s.client.inFlight = 1 ↔ ∃ k w, s.AtWork k w := by
  constructor
  · intro hone
    by_contra hnone
    have hzero := hs.idle fun k w hw => hnone ⟨k, w, hw⟩
    omega
  · rintro ⟨k, w, hw⟩
    exact hs.busy hw

/-- **One call at a time.** After any run there never was more than one call in progress at the
client, and one is in progress if and only if a call is at work. The traffic is a sequence of
visits, one for each time that a caller got hold of the chain, in which the client answers that
caller only; and whatever is done next keeps to this. -/
theorem run_single_flight (checkpoints : Checkpoints) (retry : RetryPolicy) (interval : Nat)
    (synced : Option Height) (actions : List Action) :
    let s := (fresh checkpoints retry interval synced).run actions
    s.client.maxInFlight ≤ 1 ∧ s.client.inFlight ≤ 1 ∧
      (s.client.inFlight = 1 ↔ ∃ k w, s.AtWork k w) ∧
      (∀ k l v w, s.AtWork k v → s.AtWork l w → k = l) ∧
      (∀ k, s.line.head? = some k → ∃ c, s.calls.get? k = some c ∧ c.isBegun = true) ∧
      (∃ visits : List Visit, s.traffic = visits.flatMap Visit.traffic) ∧
      ∀ a, ∃ news, Adds s (s.act a).1 news := by
  intro s
  have hticks := ticksDriven_fresh checkpoints retry interval synced
  have hmoves := moves_run hticks actions
  have hs : s.Flight := moves_invariant (fun hs h => hs.move h)
    (flight_fresh checkpoints retry interval synced) hmoves
  have hordered : s.Ordered := moves_invariant (fun hs h => hs.move h)
    (ordered_fresh checkpoints retry interval synced) hmoves
  obtain ⟨-, visits, htraffic, -⟩ : s.InLine ∧ s.InVisits := moves_invariant
    (I := fun s => s.InLine ∧ s.InVisits) (fun hs h => ⟨hs.1.move h, hs.2.move hs.1 h⟩)
    ⟨inLine_fresh checkpoints retry interval synced,
      inVisits_fresh checkpoints retry interval synced⟩ hmoves
  refine ⟨hs.max, ?_, hs.inFlight_iff, fun k l v w hv hw => ?_, fun k hk => ?_, ⟨visits, htraffic⟩,
    act_adds hordered (hticks.run actions)⟩
  · by_cases hwork : ∃ k w, s.AtWork k w
    · exact Nat.le_of_eq (hs.inFlight_iff.mpr hwork)
    · rw [hs.idle fun k w hw => hwork ⟨k, w, hw⟩]
      exact Nat.zero_le 1
  · exact hs.eq_of_working (hs.head_of_working hw) hv
  · exact (hs.mem_iff k).mp (List.mem_of_head? hk)

end WalletReplay.Scheduler
