import WalletReplay.Proofs.Scheduler.Lifecycle

/-!
# What a shutdown leaves behind

A shutdown takes the stack out of its place before it stops the network. When the network is
stopped, nothing runs any more. When it cannot be stopped, the shutdown returns the error, and the
stack is lost with its network running: the next shutdown finds nothing in the place of the chain
and returns without an error, and nobody can stop the network any more. An attempt at a task puts
the stack back in this case, so that it is not lost there.

## What is proved

* `Spotless.act` — an action that gives up no call and loses no network leaves nothing running that
  nobody knows of.
* `closed_of_losesNetwork` — a shutdown that loses a network is the end.
* `run_shutdown_clean` — a shutdown that returns without an error has left nothing running if none
  before it lost a network, and a network that was lost runs for good.
-/

namespace WalletReplay.Scheduler

open Relation

variable {s s' t t' : Scheduler} {k : Caller} {p : Terms} {first : Inventory}

/-! ### Losing a network -/

/-- From one state to the next, a shutdown is told that its network, which runs, could not be
stopped. -/
def LosesNetwork (n : Nat) (s s' : Scheduler) : Prop :=
  ∃ k stack, s.AtWork k (.stopping stack) ∧ stack.network = ⟨n, true⟩ ∧
    s'.traffic = s.traffic ++ [.answered k (.stopNetwork n) false]

/-- What is lost by a loud step is lost by the action that it is part of. -/
theorem LosesNetwork.of_quiet {n : Nat} (hbefore : Quiet p s t) (h : LosesNetwork n t t')
    (hafter : Quiet p t' s') : LosesNetwork n s s' := by
  obtain ⟨k, stack, hwork, hnetwork, htraffic⟩ := h
  refine ⟨k, stack, hbefore.atWork hwork, hnetwork, ?_⟩
  rw [hafter.traffic, htraffic, hbefore.traffic]

/-- A run in which no network fails to stop loses none. -/
theorem along_not_losesNetwork (hs : s.Ordered) (hticks : s.TicksDriven) {actions : List Action}
    (h : ∀ k n, .answered k (.stopNetwork n) false ∉ (s.run actions).traffic) :
    Along (fun s a => ∀ n, ¬ LosesNetwork n s (s.act a).1) s actions := by
  induction actions generalizing s with
  | nil => trivial
  | cons a actions ih =>
    have hact : (s.act a).1.Ordered := moves_invariant (fun hs h => hs.move h) hs
      (act_moves hticks (within_default s a))
    refine ⟨?_, ih hact (hticks.act a) h⟩
    rintro n ⟨k, stack, -, -, htraffic⟩
    obtain ⟨news, hjournal⟩ := exists_news_of_moves hact (moves_run (hticks.act a) actions)
    refine h k n ?_
    rw [run_cons, traffic_of_journal news hjournal rfl, htraffic]
    simp

/-- **A shutdown that loses a network is the end.** -/
theorem closed_of_losesNetwork (hs : s.Guarded) (hticks : s.TicksDriven) {a : Action} {n : Nat}
    (h : LosesNetwork n s (s.act a).1) : (s.act a).1.Closed := by
  obtain ⟨k, stack, hwork, -, htraffic⟩ := h
  rcases act_quiet_or_loud hticks (within_default s a) with
    hquiet | ⟨l, t, t', hbefore, hmove, hloud, hafter⟩
  · rw [hquiet.traffic] at htraffic
    simp at htraffic
  · rw [hafter.traffic, ← hbefore.traffic] at htraffic
    have ht : t.Guarded := moves_invariant (fun hs h => hs.move h) hs hbefore.moves
    have hmiddle := hloud
    cases hloud with
    | decline _ _ _ _ _ htraffic' | begin _ _ _ _ htraffic' | goOn _ _ _ _ _ htraffic'
    | finish _ _ _ _ _ htraffic' => simp [htraffic'] at htraffic
    | @fail w hcall _ _ hcalls htraffic' =>
      obtain ⟨rfl, -⟩ : l = k ∧ _ := by simpa [htraffic'] using htraffic
      obtain rfl := hwork.unique (hbefore.atWork hcall)
      rcases ht.loud_shutdown hmove hmiddle hcall rfl with ⟨c, hc, -⟩ | ⟨hclosed, -⟩
      · rw [hcalls, Table.get?_erase_self] at hc
        simp at hc
      · exact (hclosed.moves (ht.toInLine.move hmove) hafter.moves).1

/-- A shutdown that returns without an error loses nothing. -/
theorem not_losesNetwork_of_returned (hs : s.Guarded) {name : String} {c : Call}
    (hcall : s.calls.get? (.named name) = some c) (hkind : c.kind = .shutdown)
    (hok : (s.poll (.named name)).2 = .done none) (n : Nat) :
    ¬ LosesNetwork n s (s.poll (.named name)).1 := by
  rintro ⟨k, stack, hwork, -, -⟩
  by_cases hk : k = .named name
  · -- A shutdown that stops its network goes on to close the store, or returns the error.
    subst hk
    rw [poll, show s.calls.get? (.named name) = _ from hwork] at hok
    simp only [receive_of_no_task (rfl : (Work.stopping stack).task? = none), pursue_eq] at hok
    split at hok <;> simp [advance, abort, work, finish] at hok
  · have hend := hs.closed_of_returned hcall hkind hok
    refine hend.idle k (.stopping stack) ?_
    rw [AtWork, poll_others s hk]
    exact hwork

/-! ### What runs unknown -/

/-- Nothing runs that nobody knows of. -/
structure Spotless (first : Inventory) (s : Scheduler) : Prop extends Accounted first s where
  clean : (∀ k w, ¬ s.AtWork k w) → s.slot = none → (first.tally s.traffic).running = []

namespace Spotless

theorem loud (hs : s.Spotless first) (hafter : s'.Accounted first)
    (hkeeps : ∀ n, ¬ LosesNetwork n s s') (h : Loud k s s') : s'.Spotless first := by
  refine ⟨hafter, fun hidle hnone => ?_⟩
  cases h with
  | decline hholds _ hslot _ _ htraffic =>
    rw [htraffic, Inventory.tally_concat, Inventory.note_acquired]
    exact hs.clean (hholds.not_atWork hs.toInLine) (hslot ▸ hnone)
  | begin _ _ _ hcalls | goOn _ _ _ _ hcalls =>
    exact absurd (atWork_of_set_working hcalls) (hidle k _)
  | finish hcall hnext hslot _ _ htraffic =>
    rw [htraffic, Inventory.tally_concat]
    exact (hs.goes hcall).rest hnext (hslot ▸ hnone)
  | fail hcall hslot _ _ htraffic =>
    rw [htraffic, Inventory.tally_concat]
    refine ((hs.fails hcall).2 (hslot ▸ hnone)).resolve_right ?_
    rintro ⟨stack, rfl, hrun, -⟩
    exact hkeeps stack.network.number ⟨k, stack, hcall, congrArg (Network.mk _) hrun, htraffic⟩

/-- Moves that give up no call and lose no network leave nothing running unknown. -/
theorem move (hdrop : ¬ p.drop) (hs : s.Spotless first) (hkeeps : ∀ n, ¬ LosesNetwork n s s')
    (h : Move p s s') : s'.Spotless first := by
  have hafter := hs.toAccounted.move hdrop h
  rcases h.cases with hsilent | ⟨k, hloud⟩ | ⟨hp, -⟩
  · refine ⟨hafter, fun hidle hnone => ?_⟩
    rw [hsilent.traffic]
    exact hs.clean (fun l w hw => hidle l w ((hsilent.working l w).mpr hw)) (hsilent.slot ▸ hnone)
  · exact hs.loud hafter hkeeps hloud
  · exact absurd hp hdrop

theorem quiet (hdrop : ¬ p.drop) (hs : s.Spotless first) (h : Quiet p s s') :
    s'.Spotless first := by
  induction h with
  | refl => exact hs
  | tail _ h ih =>
    refine ih.move hdrop ?_ h.1
    rintro n ⟨k, stack, -, -, htraffic⟩
    rw [h.2] at htraffic
    simp at htraffic

/-- **An action that gives up no call and loses no network leaves nothing running unknown.** -/
theorem act (hs : s.Spotless first) (hticks : s.TicksDriven) {a : Action} (hkept : ¬ s.GivesUp a)
    (hkeeps : ∀ n, ¬ LosesNetwork n s (s.act a).1) : (s.act a).1.Spotless first := by
  rcases act_quiet_or_loud hticks (within_noDrop hkept) with
    hquiet | ⟨l, t, t', hbefore, hmove, hloud, hafter⟩
  · exact hs.quiet not_false hquiet
  · have ht := hs.quiet not_false hbefore
    have ht' := ht.move not_false (fun n h => hkeeps n (h.of_quiet hbefore hafter)) hmove
    exact ht'.quiet not_false hafter

theorem run (hs : s.Spotless first) (hticks : s.TicksDriven) {actions : List Action}
    (hkept : Along (fun s a => ¬ s.GivesUp a) s actions)
    (hkeeps : Along (fun s a => ∀ n, ¬ LosesNetwork n s (s.act a).1) s actions) :
    (s.run actions).Spotless first := by
  induction actions generalizing s with
  | nil => exact hs
  | cons a actions ih =>
    exact ih (hs.act hticks hkept.1 hkeeps.1) (hticks.act a) hkept.2 hkeeps.2

end Spotless

theorem spotless_fresh (checkpoints : Checkpoints) (retry : RetryPolicy) (interval : Nat)
    (synced : Option Height) :
    (fresh checkpoints retry interval synced).Spotless (.initial synced.isSome) := by
  have haccounted := accounted_fresh checkpoints retry interval synced
  cases synced <;> exact ⟨haccounted, fun _ _ => rfl⟩

/-! ### Runs -/

/-- **A shutdown leaves nothing running, unless one before it lost a network**, in any run that
gives up no call midway. When it returns without an error, and none before it was told that its
running network could not be stopped, every network was stopped, no download is active and the place
of the chain is empty, and no network ever runs again. A network that could not be stopped runs for
good. -/
theorem run_shutdown_clean (checkpoints : Checkpoints) (retry : RetryPolicy) (interval : Nat)
    (synced : Option Height) {actions : List Action}
    (hkept : Along (fun s a => ¬ s.GivesUp a) (fresh checkpoints retry interval synced) actions) :
    let s₀ := fresh checkpoints retry interval synced
    let s := s₀.run actions
    (∀ name c, s.calls.get? (.named name) = some c → c.kind = .shutdown →
        (s.act (.poll name)).2 = .poll (.done none) →
        Along (fun s a => ∀ n, ¬ LosesNetwork n s (s.act a).1) s₀ actions →
        let s' := (s.act (.poll name)).1
        s'.slot = none ∧ s'.client.download = none ∧ ∀ more n, ¬ Runs (s'.run more).traffic n) ∧
      ∀ a n, LosesNetwork n s (s.act a).1 →
        Runs s.traffic n ∧ ∀ more, Runs ((s.act a).1.run more).traffic n := by
  intro s₀ s
  have hticks₀ := ticksDriven_fresh checkpoints retry interval synced
  have hticks : s.TicksDriven := hticks₀.run actions
  have hfirst : (Inventory.initial synced.isSome).running = [] := by cases synced <;> rfl
  have hruns (traffic : List Occurrence) (n : Nat) :
      n ∈ ((Inventory.initial synced.isSome).tally traffic).running ↔ Runs traffic n :=
    Inventory.mem_running_iff (by simp [hfirst]) traffic
  have hs : s.Accounted (.initial synced.isSome) :=
    moves_invariant (fun hs h => hs.move not_false h)
      (accounted_fresh checkpoints retry interval synced) (run_moves hticks₀ (along_noDrop hkept))
  refine ⟨fun name c hcall hkind hdone hkeeps => ?_, fun a n hloses => ?_⟩
  · intro s'
    have hok : (s.poll (.named name)).2 = .done none := Answer.poll.inj hdone
    have hend : s'.Closed := hs.closed_of_returned hcall hkind hok
    have hs' : s'.Spotless (.initial synced.isSome) :=
      ((spotless_fresh checkpoints retry interval synced).run hticks₀ hkept hkeeps).act hticks
        not_false (not_losesNetwork_of_returned hs.toGuarded hcall hkind hok)
    have hnone := hs'.clean hend.idle hend.slot
    refine ⟨hend.slot, hs'.fits.download_eq_none hnone, fun more n hn => ?_⟩
    obtain ⟨-, callers, htraffic⟩ := hend.moves hs'.toInLine (moves_run (hticks.act _) more)
    rw [htraffic, runs_append_acquired, ← hruns, hnone] at hn
    exact List.not_mem_nil hn
  · have hend := closed_of_losesNetwork hs.toGuarded hticks hloses
    obtain ⟨k, stack, hwork, hnetwork, htraffic⟩ := hloses
    have hn : Runs s.traffic n := by
      rw [← hruns, (hs.lawful hwork).2.running, hnetwork]
      exact List.mem_singleton_self n
    refine ⟨hn, fun more => ?_⟩
    have hline : (s.act a).1.InLine := moves_invariant (fun hs h => hs.move h) hs.toInLine
      (act_moves hticks (within_default s a))
    obtain ⟨-, callers, hmore⟩ := hend.moves hline (moves_run (hticks.act a) more)
    rw [hmore, runs_append_acquired, htraffic, runs_concat]
    exact Or.inr ⟨hn, by simp⟩

/-- A regular download runs. A shutdown stops the network and cannot close the store; the next one
returns without an error, and nothing runs. -/
theorem run_shutdown_clean_of_retry :
    let s₀ := fresh .empty {} 200 (some ⟨5000, by decide⟩)
    let actions : List Action := [.create "download" .regular, .poll "download", .poll "download",
      .poll "download", .inject .closeStore 1, .create "stop" .shutdown, .poll "stop", .poll "stop",
      .poll "stop", .create "again" .shutdown]
    let s := s₀.run actions
    let s' := (s.act (.poll "again")).1
    Along (fun s a => ¬ s.GivesUp a) s₀ actions ∧
      (s₀.run (actions.take 6)).client.download = some .regular ∧
      ((s₀.run (actions.take 8)).act (.poll "stop")).2 =
        .poll (.done (some (.client .closeStore))) ∧
      (s.act (.poll "again")).2 = .poll (.done none) ∧
      s'.slot = none ∧ s'.client.download = none ∧ ∀ more n, ¬ Runs (s'.run more).traffic n := by
  intro s₀ actions s s'
  have hkept : Along (fun s a => ¬ s.GivesUp a) s₀ actions := by decide +kernel
  have hactive : (s₀.run (actions.take 6)).client.download = some .regular := by decide +kernel
  have hfailed : ((s₀.run (actions.take 8)).act (.poll "stop")).2 =
      .poll (.done (some (.client .closeStore))) := by decide +kernel
  have hfresh : s.calls.get? (.named "again") = some (.fresh .shutdown) := by decide +kernel
  have hok : (s.act (.poll "again")).2 = .poll (.done none) := by decide +kernel
  have htraffic : s.traffic = [.acquired (.named "download"),
      .answered (.named "download") (.startNetwork 0) true,
      .answered (.named "download") (.resumeDownload 0) true, .acquired (.named "stop"),
      .answered (.named "stop") (.stopNetwork 0) true,
      .answered (.named "stop") (.closeStore 0) false] := by decide +kernel
  have hstops : ∀ k n, .answered k (.stopNetwork n) false ∉ s.traffic := by
    rw [htraffic]
    simp
  have hkeeps : Along (fun s a => ∀ n, ¬ LosesNetwork n s (s.act a).1) s₀ actions :=
    along_not_losesNetwork (ordered_fresh _ _ _ _) (ticksDriven_fresh _ _ _ _) hstops
  have hclean : s'.slot = none ∧ s'.client.download = none ∧
      ∀ more n, ¬ Runs (s'.run more).traffic n :=
    (run_shutdown_clean .empty {} 200 (some ⟨5000, by decide⟩) hkept).1 "again" (.fresh .shutdown)
      hfresh rfl hok hkeeps
  exact ⟨hkept, hactive, hfailed, hok, hclean⟩

/-- A regular download runs. A shutdown cannot stop the network and returns the error; the next one
returns without an error, and the network runs and downloads still. -/
theorem runs_of_lost :
    let s₀ := fresh .empty {} 200 (some ⟨5000, by decide⟩)
    let actions : List Action := [.create "download" .regular, .poll "download", .poll "download",
      .poll "download", .inject .stopNetwork 1, .create "stop" .shutdown, .poll "stop",
      .poll "stop", .create "again" .shutdown]
    let s := s₀.run actions
    let s' := (s.act (.poll "again")).1
    Along (fun s a => ¬ s.GivesUp a) s₀ actions ∧
      ((s₀.run (actions.take 7)).act (.poll "stop")).2 =
        .poll (.done (some (.client .stopNetwork))) ∧
      s.calls.get? (.named "again") = some (.fresh .shutdown) ∧
      (s.act (.poll "again")).2 = .poll (.done none) ∧ Runs s'.traffic 0 ∧
      s'.client.download = some .regular := by
  intro s₀ actions s s'
  have htraffic : s'.traffic = [.acquired (.named "download")] ++
      .answered (.named "download") (.startNetwork 0) true ::
      [.answered (.named "download") (.resumeDownload 0) true, .acquired (.named "stop"),
        .answered (.named "stop") (.stopNetwork 0) false, .acquired (.named "again")] := by
    decide +kernel
  refine ⟨by decide +kernel, by decide +kernel, by decide +kernel, by decide +kernel,
    ⟨_, _, _, htraffic, ?_⟩, by decide +kernel⟩
  simp

end WalletReplay.Scheduler
