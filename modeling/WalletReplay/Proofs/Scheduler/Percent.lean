import WalletReplay.Proofs.Scheduler.Claims
import WalletReplay.Proofs.Scheduler.Shift

/-!
# The percentage of a download

The wallets that a network has for listeners show how much of its download is done. When the download
has caught up they show nothing any more. But a download also comes to an end when its network is
stopped, for another attempt or for a shutdown, and nobody tells the listeners then; nor does anybody
when a new network takes the place of one that was lost with its download. Whoever showed a percentage
goes on showing it. There is no other way for a percentage to be shown without a download.

## What is proved

* `Move.agree_percent` — few moves change what wallets show.
* `Shown.act` — a percentage that is shown belongs to the download that runs, unless that is cut short.
* `run_percents` — a wallet shows a percentage without a download only if its download was cut short.
-/

namespace WalletReplay

/-- Whether the client has put an end to a download of which nobody tells the listeners. -/
def Occurrence.isCut : Occurrence → Bool
  | answered _ call succeeded =>
    succeeded && (call.step == .stopNetwork || call.step == .buildNetwork)
  | accepted _ | dispatched _ _ | attempted _ | failed _ _ _ | completed _ | retired _ | acquired _
  | heard _ _ => false

/-- What the client answers well leaves the download and the listeners of the network alone, unless a
network is stopped or built, or asked to download. -/
theorem Work.download_succeed (slot : Option Stack) (c : Client) (k : Caller) (w : Work) :
    (Occurrence.answered k w.call true).isCut = true ∨
      (w.succeed slot c).client.listeners = c.listeners ∧
        ((w.succeed slot c).client.download = c.download ∨
          (w.succeed slot c).client.download ≠ none) := by
  cases w with
  | replay task floor stage =>
    cases stage with
    | stopping | connecting => exact Or.inl rfl
    | closing | creating | building | starting => exact Or.inr ⟨rfl, Or.inl rfl⟩
    | resuming => exact Or.inr ⟨rfl, Or.inr (Option.some_ne_none _)⟩
  | stopping => exact Or.inl rfl
  | starting | closing => exact Or.inr ⟨rfl, Or.inl rfl⟩
  | resuming => exact Or.inr ⟨rfl, Or.inr (Option.some_ne_none _)⟩

/-- No download runs when its network has been stopped. -/
theorem Work.download_of_stop {slot : Option Stack} {c : Client} {n : Nat} (w : Work)
    (h : w.call = .stopNetwork n) : (w.succeed slot c).client.download = none := by
  cases w with
  | replay task floor stage =>
    cases stage with
    | stopping => rfl
    | closing | creating | building | connecting | starting | resuming =>
      simp [call, Stage.call] at h
  | stopping => rfl
  | starting | resuming | closing => simp [call] at h

namespace Scheduler

open Relation

variable {s s' : Scheduler} {p : Terms} {w : Wallet} {k : Caller}

/-- The percentage that a wallet shows. -/
def percent (s : Scheduler) (w : Wallet) : Option Nat :=
  (s.roster.ledger.get w).percent

/-! ### What changes the percentage of a wallet -/

/-- The terms under which nothing is reported and no wallet is made. -/
def untold : Terms where
  report := False
  own action := ∀ handle id state, action ≠ .make handle id state
  progress _ := False

/-- Moves that report nothing and make no wallet leave all percentages alone. -/
theorem Move.agree_percent (h : Move untold s s') :
    s.roster.ledger.Agree SyncState.percent s'.roster.ledger := by
  cases h with
  | step h =>
    rcases h.roster_cases with hroster | ⟨task, -, hroster, -⟩
    · rw [hroster]
      exact .refl _
    · rw [hroster]
      exact .modifyAll SyncState.percent_startDownload _ _
  | @own action hp =>
    cases action with
    | make handle id state => exact absurd rfl (hp handle id state)
    | drop => exact .refl _
    | see handle height hash =>
      exact Roster.agree_modifyHeld (fun state => state.percent_see height hash) _ handle
    | save handle => exact Roster.agree_modifyHeld SyncState.percent_save _ handle
  | enroll =>
    rw [ledger_enroll]
    exact .modifyAll (fun state => state.percent_claim _ _) _ _
  | discard h | drop _ h =>
    rw [cancel_of_some h]
    exact .refl _
  | complete _ _ hp | endDownload _ hp | progress _ _ hp => exact hp.elim
  | create | listen | inject | setHeight | wait | drivers => exact .refl _

theorem agree_percent_of_moves (h : ReflTransGen (Move untold) s s') :
    s.roster.ledger.Agree SyncState.percent s'.roster.ledger := by
  induction h with
  | refl => exact .refl _
  | tail _ h ih => exact ih.trans h.agree_percent

/-- A report that a task has caught up leaves the client alone, and what a wallet shows, or it shows
nothing any more. -/
theorem percent_notifyCompleted (s : Scheduler) (id : TaskId) (w : Wallet) :
    (s.notifyCompleted id).1.client = s.client ∧
      ((s.notifyCompleted id).1.percent w = s.percent w ∨
        (s.notifyCompleted id).1.percent w = none) := by
  rcases s.notifyCompleted_cases id with h | ⟨head, -, -, -, h⟩
  · rw [h]
    exact ⟨rfl, Or.inl rfl⟩
  · rw [h, complete_eq]
    refine ⟨rfl, ?_⟩
    rcases Ledger.get_modifyAll_cases SyncState.release_release s.roster.ledger head.wallets w with
      heq | heq
    · exact Or.inl (congrArg SyncState.percent heq)
    · exact Or.inr (congrArg SyncState.percent heq)

/-- A wallet that is none of the listeners does not hear of progress. -/
theorem percent_progress_of_ne (h : ∀ l ∈ s.client.listeners, l.wallet.key ≠ w.key)
    (height : Height) (left : BlockCount) : (s.progress height left).percent w = s.percent w :=
  congrArg SyncState.percent (Ledger.get_foldl_modify_of_ne h)

/-! ### What is shown -/

/-- A wallet that shows a percentage is a listener of the network, and a download runs. -/
def Shown (w : Wallet) (s : Scheduler) : Prop :=
  s.percent w ≠ none →
    s.client.download ≠ none ∧ ∃ l ∈ s.client.listeners, l.wallet.key = w.key

/-- An action cuts the download short whose percentage a wallet shows. -/
def CutsShort (w : Wallet) (s s' : Scheduler) : Prop :=
  s.client.download ≠ none ∧ s.percent w ≠ none ∧
    (s'.traffic.drop s.traffic.length).any Occurrence.isCut = true

instance decidableCutsShort (w : Wallet) (s s' : Scheduler) : Decidable (CutsShort w s s') :=
  inferInstanceAs (Decidable (_ ∧ _ ∧ _))

/-- Whether the client, if it reports progress, does so of a download that runs. -/
def reportsRunning (s : Scheduler) : Action → Bool
  | .progress _ _ => s.client.download.isSome
  | .own _ | .listen _ | .offer _ _ | .notify _ | .create _ _ | .poll _ | .cancel _ | .spawn
  | .drive _ | .inject _ _ | .finish | .setHeight _ | .wait _ => true

/-- A wallet that was not made shows nothing. -/
theorem percent_of_size_le (h : s.roster.ledger.size ≤ w.key) : s.percent w = none := by
  rw [percent, Ledger.get_of_size_le h]

namespace Shown

theorem congr (h : s.Shown w) (hpercent : s'.percent w = s.percent w)
    (hdownload : s'.client.download = s.client.download)
    (hlisteners : s'.client.listeners = s.client.listeners) : s'.Shown w := by
  intro hshown
  rw [hpercent] at hshown
  rw [hdownload, hlisteners]
  exact h hshown

theorem of_percent_eq_none (h : s.percent w = none) : s.Shown w :=
  fun hshown => absurd h hshown

/-- Whoever hears of progress is a listener, and a download runs. -/
theorem progress (h : s.Shown w) (hrunning : s.client.download ≠ none) (height : Height)
    (left : BlockCount) : (s.progress height left).Shown w := by
  by_cases hlistens : ∃ l ∈ s.client.listeners, l.wallet.key = w.key
  · exact fun _ => ⟨hrunning, hlistens⟩
  · refine h.congr (percent_progress_of_ne (fun l hl hkey => hlistens ⟨l, hl, hkey⟩) height left)
      rfl rfl

/-- When the listeners show nothing any more, nobody does. -/
theorem percent_clearPercents (h : s.Shown w) (download : Option Download) :
    (clearPercents { s with client := { s.client with download } }).percent w = none := by
  by_cases hshown : s.percent w = none
  · rcases get_clearPercents { s with client := { s.client with download } } w with heq | heq
    · exact (congrArg SyncState.percent heq).trans hshown
    · exact congrArg SyncState.percent heq
  · obtain ⟨-, l, hl, hkey⟩ := h hshown
    have hsize : w.key < s.roster.ledger.size := by
      by_contra hle
      exact hshown (percent_of_size_le (Nat.not_lt.mp hle))
    exact congrArg SyncState.percent (Ledger.get_modifyAll_of_key
      (fun state => state.setPercent_setPercent none none) hsize
      ⟨l.wallet, List.mem_map_of_mem hl, hkey⟩)

theorem notify (h : s.Shown w) (id : TaskId) : (s.notifyCompleted id).1.Shown w := by
  obtain ⟨hclient, hpercent⟩ := percent_notifyCompleted s id w
  rcases hpercent with hpercent | hpercent
  · exact h.congr hpercent (by rw [hclient]) (by rw [hclient])
  · exact .of_percent_eq_none hpercent

/-- When a download has caught up, nobody shows anything any more. -/
theorem finish (h : s.Shown w) : s.finishDownload.1.Shown w := by
  unfold Scheduler.finishDownload
  split
  · exact h
  · have hcleared := of_percent_eq_none (h.percent_clearPercents none)
    simp only
    split
    · exact hcleared
    · exact hcleared.notify _

/-- A wallet that is made shows what it is made with, which is nothing. -/
theorem make (h : s.Shown w) (handle : String) (id : WalletId) {state : SyncState}
    (hstate : state.percent = none) :
    Shown w { s with roster := s.roster.own (.make handle id state) } := by
  have hget := s.roster.ledger.get_add id state w
  split_ifs at hget
  · exact .of_percent_eq_none ((congrArg SyncState.percent hget).trans hstate)
  · exact h.congr (congrArg SyncState.percent hget) rfl rfl

/-- What the client answers leaves what a wallet shows to the download, unless that is cut short. -/
theorem shift (h : s.Shown w) (hshift : Shift untold s s') (hpercent : s'.percent w = s.percent w)
    (hcut : ¬ CutsShort w s s') : s'.Shown w := by
  have stays {c c' : Client} (h : c.Stays untold c') : c'.download = c.download :=
    h.download.resolve_right fun ⟨hreport, _⟩ => hreport
  -- Only here the download can change hands: the client has answered well, and if that was about a
  -- network that is stopped or built, then the percentage that is shown has been cut short.
  have answered {k : Caller} {v : Work} {c : Client} (hclient : s.client.Stays untold c)
      (hafter : (v.succeed s.slot c).client.Stays untold s'.client)
      (htraffic : s'.traffic = s.traffic ++ [.answered k v.call true]) : s'.Shown w := by
    intro hshown
    rw [hpercent] at hshown
    obtain ⟨hrunning, hlistens⟩ := h hshown
    rcases v.download_succeed s.slot c k with hends | ⟨hlisteners, hdownload⟩
    · refine absurd ⟨hrunning, hshown, ?_⟩ hcut
      rw [htraffic, List.drop_left]
      simp [hends]
    · rw [stays hafter, hafter.listeners, hlisteners, hclient.listeners]
      refine ⟨?_, hlistens⟩
      rcases hdownload with hsame | hnew
      · rw [hsame, stays hclient]
        exact hrunning
      · exact hnew
  cases hshift with
  | rest _ _ _ hclient | decline _ _ _ hclient | fail _ _ hclient =>
    exact h.congr hpercent (stays hclient) hclient.listeners
  | begin _ _ hclient _ hafter =>
    have hstays := hclient.trans hafter
    exact h.congr hpercent (stays hstays) hstays.listeners
  | goOn _ hclient _ _ hafter _ htraffic | finish _ hclient _ _ hafter _ htraffic =>
    exact answered hclient hafter htraffic

/-- **A percentage that is shown belongs to the download that runs, unless that is cut short.** -/
theorem act (h : s.Shown w) (hs : s.InLine) (hticks : s.TicksDriven) {a : Action}
    (hmakes : a.Makes fun state => state.percent = none) (hrunning : s.reportsRunning a = true)
    (hcut : ¬ CutsShort w s (s.act a).1) : (s.act a).1.Shown w := by
  have plain (hp : Within untold s a) : (s.act a).1.Shown w :=
    h.shift (shift_act hs hticks hp) (agree_percent_of_moves (act_moves hticks hp) w) hcut
  cases a with
  | own action =>
    cases action with
    | make handle id state => exact h.make handle id hmakes
    | drop | see | save => exact plain fun handle id state heq => OwnerAction.noConfusion heq
  | progress height left => exact h.progress (Option.isSome_iff_ne_none.mp hrunning) height left
  | finish => exact h.finish
  | notify task => exact h.notify task
  | create name kind | cancel name => exact plain fun _ => trivial
  | listen | offer | poll | spawn | drive | inject | setHeight | wait => exact plain trivial

theorem run (h : s.Shown w) (hs : s.InLine) (hticks : s.TicksDriven) {actions : List Action}
    (hmakes : ∀ a ∈ actions, a.Makes fun state => state.percent = none)
    (hrunning : Along (fun t a => t.reportsRunning a = true) s actions)
    (hcut : Along (fun t a => ¬ CutsShort w t (t.act a).1) s actions) : (s.run actions).Shown w := by
  induction actions generalizing s with
  | nil => exact h
  | cons a actions ih =>
    exact ih (h.act hs hticks (hmakes a (by simp)) hrunning.1 hcut.1) (hs.act hticks a)
      (hticks.act a) (fun b hb => hmakes b (List.mem_cons_of_mem a hb)) hrunning.2 hcut.2

end Shown

/-! ### Downloads that are cut short -/

/-- What adds to the traffic reports nothing and makes no wallet. -/
theorem within_untold_of_traffic {a : Action} (h : (s.act a).1.traffic ≠ s.traffic) :
    Within untold s a := by
  cases a with
  | own | progress => exact absurd rfl h
  | finish => exact absurd (traffic_finishDownload s) h
  | notify task => exact absurd (traffic_notifyCompleted s task) h
  | create name kind | cancel name => exact fun _ => trivial
  | listen | offer | poll | spawn | drive | inject | setHeight | wait => trivial

/-- When a network has been stopped, no download runs, and all wallets show what they showed. -/
theorem percent_of_stop (hs : s.InLine) (hticks : s.TicksDriven) {a : Action} {n : Nat}
    (h : (s.act a).1.traffic = s.traffic ++ [.answered k (.stopNetwork n) true]) (w : Wallet) :
    (s.act a).1.client.download = none ∧ (s.act a).1.percent w = s.percent w := by
  have hwithin : Within untold s a := within_untold_of_traffic fun heq => by simp [heq] at h
  refine ⟨?_, agree_percent_of_moves (act_moves hticks hwithin) w⟩
  have stopped {v : Work} {c c' : Client} (hcall : v.call = .stopNetwork n)
      (hafter : (v.succeed s.slot c).client.Stays untold c') : c'.download = none := by
    rw [hafter.download.resolve_right fun ⟨hreport, _⟩ => hreport]
    exact v.download_of_stop hcall
  cases shift_act hs hticks hwithin with
  | rest _ _ _ _ htraffic | decline _ _ _ _ htraffic | begin _ _ _ _ _ _ htraffic
  | fail _ _ _ _ htraffic => simp [htraffic] at h
  | goOn _ _ _ _ hafter _ htraffic | finish _ _ _ _ hafter _ htraffic =>
    obtain ⟨-, hcall⟩ := by simpa [htraffic] using h
    exact stopped hcall hafter

/-- **A percentage is shown without a download only if the download was cut short**, if owners make
wallets that show nothing and the client reports progress only of a download that runs. It is cut
short when its network is stopped, and then every wallet shows what it showed before; or when a
network is built while the download of one runs that a call which was given up has lost. -/
theorem run_percents (checkpoints : Checkpoints) (retry : RetryPolicy) (interval : Nat)
    (synced : Option Height) (actions : List Action) (w : Wallet) :
    let s₀ := fresh checkpoints retry interval synced
    let s := s₀.run actions
    (∀ a ∈ actions, a.Makes fun state => state.percent = none) →
    Along (fun t a => t.reportsRunning a = true) s₀ actions →
      (Along (fun t a => ¬ CutsShort w t (t.act a).1) s₀ actions → s.client.download = none →
        s.percent w = none) ∧
      ∀ a k n, (s.act a).1.traffic = s.traffic ++ [.answered k (.stopNetwork n) true] →
        (s.act a).1.client.download = none ∧ (s.act a).1.percent w = s.percent w := by
  intro s₀ s hmakes hrunning
  have hline₀ := inLine_fresh checkpoints retry interval synced
  have hticks₀ := ticksDriven_fresh checkpoints retry interval synced
  have hstart : s₀.Shown w := .of_percent_eq_none (by
    refine percent_of_size_le (Nat.le_trans (Nat.le_of_eq ?_) (Nat.zero_le _))
    cases synced <;> rfl)
  refine ⟨fun hcut hnone => ?_, fun a k n hstopped => ?_⟩
  · by_contra hshown
    exact (hstart.run hline₀ hticks₀ hmakes hrunning hcut hshown).1 hnone
  · exact percent_of_stop (hline₀.run hticks₀ actions) (hticks₀.run actions) hstopped w

/-- A wallet shows that half of a download is done, and once the download has caught up it shows
nothing. -/
theorem run_percents_of_finish :
    let actions : List Action := [.own (.make "savings" "w1" {}), .offer ["savings"] .genesis,
      .create "tick" .tick, .poll "tick", .poll "tick", .poll "tick", .poll "tick", .poll "tick",
      .poll "tick", .progress ⟨10, by decide⟩ 10, .finish]
    let s₀ := fresh .empty {} 200 none
    (∀ a ∈ actions, a.Makes fun state => state.percent = none) ∧
      Along (fun t a => t.reportsRunning a = true) s₀ actions ∧
      Along (fun t a => ¬ CutsShort ⟨0, "w1"⟩ t (t.act a).1) s₀ actions ∧
      (s₀.run actions.dropLast).percent ⟨0, "w1"⟩ = some 50 ∧
      ((fresh .empty {} 200 none).run actions).percent ⟨0, "w1"⟩ = none := by
  intro actions s₀
  have hmakes : ∀ a ∈ actions, a.Makes fun state => state.percent = none := by
    simp [actions, Action.Makes]
  have hrunning : Along (fun t a => t.reportsRunning a = true) s₀ actions := by decide +kernel
  have hcut : Along (fun t a => ¬ CutsShort ⟨0, "w1"⟩ t (t.act a).1) s₀ actions := by decide +kernel
  refine ⟨hmakes, hrunning, hcut, by decide +kernel, ?_⟩
  exact (run_percents .empty {} 200 none actions ⟨0, "w1"⟩ hmakes hrunning).1 hcut
    (by decide +kernel)

/-- A shutdown stops the network half way through a download. Then no call is in progress and no
download runs, but the wallet shows as before that half is done. -/
theorem percent_of_shutdown :
    let actions : List Action := [.own (.make "savings" "w1" {}), .offer ["savings"] .genesis,
      .create "tick" .tick, .poll "tick", .poll "tick", .poll "tick", .poll "tick", .poll "tick",
      .poll "tick", .progress ⟨10, by decide⟩ 10, .create "stop" .shutdown, .poll "stop",
      .poll "stop", .poll "stop"]
    let s₀ := fresh .empty {} 200 none
    let s := s₀.run actions
    Along (fun t a => t.reportsRunning a = true) s₀ actions ∧ s.calls.entries = [] ∧
      s.client.download = none ∧ s.percent ⟨0, "w1"⟩ = some 50 := by
  decide +kernel

end Scheduler

end WalletReplay
