import WalletReplay.Proofs.Scheduler.Touch

/-!
# What is to be saved

A sync state bears a flag that tells its owner to save it, and the flag must not miss a change.
Whatever happens to a wallet raises it, unless it changes nothing but the percentage of a download,
which is not saved: a task that claims or releases the wallet, an attempt that begins, an owner who
records what the wallet has seen. Only a save takes the flag down. So a wallet without the flag is as
it was when it was made or last saved.

Listeners of networks that are no more may still be told how far their downloads are. They are not
among those that the client tells here, so what they do is no action on the scheduler; a run is a
sequence of actions and of such reports.

## What is proved

* `SyncState.flags_change`, `SyncState.flags_setPercent` — all changes of a sync state but a save.
* `Move.each_flags` — a move raises the flag of what it changes, if no wallet is made or saved.
* `flags_happen` — so does whatever happens, but for the wallet that is made or saved.
* `run_saved` — a wallet without the flag is as it was when it was made or last saved.
-/

namespace WalletReplay

namespace SyncState

/-- A change raises the flag: without it, nothing but the percentage was changed. -/
def Flags (s s' : SyncState) : Prop :=
  s'.dirty = false → s' = s.setPercent s'.percent

variable {s s' s'' : SyncState}

theorem Flags.refl (s : SyncState) : s.Flags s :=
  fun _ => rfl

theorem Flags.trans (h : s.Flags s') (h' : s'.Flags s'') : s.Flags s'' := by
  intro hclean
  have hlast := h' hclean
  have hclean' : s'.dirty = false := by
    rw [hlast] at hclean
    exact hclean
  rw [h hclean'] at hlast
  exact hlast

/-- What is to be saved raises the flag. -/
theorem flags_change (s : SyncState) (f : SyncState → SyncState) : s.Flags (s.change f) :=
  fun hclean => Bool.noConfusion hclean

theorem flags_setPercent (s : SyncState) (percent : Option Nat) : s.Flags (s.setPercent percent) :=
  fun _ => rfl

end SyncState

namespace Ledger

theorem Each.flags_trans {l l' l'' : Ledger} (h : Each SyncState.Flags l l')
    (h' : Each SyncState.Flags l' l'') : Each SyncState.Flags l l'' :=
  Each.trans (R := SyncState.Flags) (fun _ _ _ => SyncState.Flags.trans) h h'

theorem each_flags_modify {f : SyncState → SyncState} (hf : ∀ s : SyncState, s.Flags (f s)) (l : Ledger)
    (w : Wallet) : Each SyncState.Flags l (l.modify w f) :=
  Each.modify (R := SyncState.Flags) SyncState.Flags.refl hf l w

theorem each_flags_foldl {α : Type} {step : Ledger → α → Ledger}
    (h : ∀ l a, Each SyncState.Flags l (step l a)) (l : Ledger) (as : List α) :
    Each SyncState.Flags l (as.foldl step l) :=
  Each.foldl (R := SyncState.Flags) SyncState.Flags.refl (fun _ _ _ => SyncState.Flags.trans) h l as

theorem each_flags_modifyAll {f : SyncState → SyncState} (hf : ∀ s : SyncState, s.Flags (f s)) (l : Ledger)
    (ws : List Wallet) : Each SyncState.Flags l (l.modifyAll ws f) :=
  each_flags_foldl (fun l w => each_flags_modify hf l w) l ws

end Ledger

/-- What happens to a scheduler and its wallets. -/
inductive Event where
  /-- An action. -/
  | act (action : Action)
  /-- A listener of whatever network is told of progress. -/
  | hear (listener : ProgressListener) (height : Height) (left : BlockCount)
  /-- A listener of whatever network is told that its download has caught up. -/
  | hearEnd (listener : ProgressListener)

namespace Scheduler

open Relation

variable {s s' : Scheduler} {w : Wallet}

/-- What an event makes of a scheduler. -/
def happen (s : Scheduler) : Event → Scheduler
  | .act action => (s.act action).1
  | .hear listener height left =>
    let percent := percentComplete listener.start height left listener.floor
    { s with roster := s.roster.modify listener.wallet (·.setPercent (some percent)) }
  | .hearEnd listener => { s with roster := s.roster.modify listener.wallet (·.setPercent none) }

/-- What events make of a scheduler, one after another. -/
def runEvents (s : Scheduler) (events : List Event) : Scheduler :=
  events.foldl happen s

/-- Whether an event leaves a wallet saved: the wallet is made, and without the flag, or its owner saves
it. -/
def saves (s : Scheduler) (w : Wallet) : Event → Bool
  | .act (.own (.make _ _ state)) => s.roster.ledger.size = w.key && !state.dirty
  | .act (.own (.save handle)) => (s.roster.handles.get? handle).any (·.key = w.key)
  | .act _ | .hear _ _ _ | .hearEnd _ => false

/-- Whether one of these events leaves a wallet saved. -/
def savesWithin (w : Wallet) : Scheduler → List Event → Bool
  | _, [] => false
  | s, e :: events => s.saves w e || (s.happen e).savesWithin w events

/-- The terms under which owners neither make wallets nor save them. -/
def unsaved : Terms where
  own action :=
    (∀ handle id state, action ≠ .make handle id state) ∧ ∀ handle, action ≠ .save handle

/-! ### What raises the flag -/

/-- **Moves raise the flag of what they change**, if no wallet is made or saved. -/
theorem Move.each_flags (h : Move unsaved s s') :
    s.roster.ledger.Each SyncState.Flags s'.roster.ledger := by
  cases h with
  | step h =>
    rcases h.roster_cases with hroster | ⟨task, -, hroster, -⟩
    · rw [hroster]
      exact .refl SyncState.Flags.refl _
    · rw [hroster]
      exact Ledger.each_flags_modifyAll (fun state => state.flags_change _) _ _
  | @own action hp =>
    cases action with
    | make handle id state => exact absurd rfl (hp.1 handle id state)
    | save handle => exact absurd rfl (hp.2 handle)
    | drop => exact .refl SyncState.Flags.refl _
    | see handle height hash =>
      simp only [Roster.own, Roster.modifyHeld]
      split
      · exact Ledger.each_flags_modify (fun state => state.flags_change _) _ _
      · exact .refl SyncState.Flags.refl _
  | enroll =>
    rw [ledger_enroll]
    exact Ledger.each_flags_modifyAll (fun state => state.flags_change _) _ _
  | complete =>
    rw [complete_eq]
    exact Ledger.each_flags_modifyAll (fun state => state.flags_change _) _ _
  | progress height left =>
    exact Ledger.each_flags_foldl
      (fun l (p : ProgressListener) => Ledger.each_flags_modify (fun state => state.flags_setPercent _)
        l p.wallet) _ _
  | endDownload => exact Ledger.each_flags_modifyAll (fun state => state.flags_setPercent none) _ _
  | discard h | drop _ h =>
    rw [cancel_of_some h]
    exact .refl SyncState.Flags.refl _
  | create | listen | inject | setHeight | wait | drivers => exact .refl SyncState.Flags.refl _

theorem each_flags_of_moves (h : ReflTransGen (Move unsaved) s s') :
    s.roster.ledger.Each SyncState.Flags s'.roster.ledger := by
  induction h with
  | refl => exact .refl SyncState.Flags.refl _
  | tail _ h ih => exact ih.flags_trans h.each_flags

/-- A wallet that is made with the flag bears it, and all others stay as they are. -/
theorem flags_make (h : (s.roster.ledger.size = w.key && !state.dirty) = false) (handle : String)
    (id : WalletId) :
    (s.roster.ledger.get w).Flags ((s.roster.own (.make handle id state)).ledger.get w) := by
  change (s.roster.ledger.get w).Flags ((s.roster.ledger.add id state).2.get w)
  rw [Ledger.get_add]
  split_ifs with hkey
  · have hdirty : state.dirty = true := by simpa [hkey] using h
    exact fun hclean => absurd (hclean.symm.trans hdirty) Bool.false_ne_true
  · exact .refl _

/-- A save is of one wallet alone. -/
theorem flags_save {handle : String} (h : (s.roster.handles.get? handle).any (·.key = w.key) = false) :
    (s.roster.ledger.get w).Flags ((s.roster.own (.save handle)).ledger.get w) := by
  simp only [Roster.own, Roster.modifyHeld]
  split
  · rename_i v hv
    have hkey : v.key ≠ w.key := by simpa [hv] using h
    rw [Roster.modify, Ledger.get_modify_of_ne (Ne.symm hkey)]
    exact .refl _
  · exact .refl _

/-- **Whatever happens raises the flag of the wallets that it changes**, but for one that is made or
saved. -/
theorem flags_happen (hticks : s.TicksDriven) {e : Event} (h : s.saves w e = false) :
    (s.roster.ledger.get w).Flags ((s.happen e).roster.ledger.get w) := by
  have within {a : Action} (ha : Within unsaved s a) :
      (s.roster.ledger.get w).Flags ((s.act a).1.roster.ledger.get w) :=
    each_flags_of_moves (act_moves hticks ha) w
  cases e with
  | hear listener height left =>
    exact Ledger.each_flags_modify (fun state => state.flags_setPercent _) _ _ w
  | hearEnd listener => exact Ledger.each_flags_modify (fun state => state.flags_setPercent none) _ _ w
  | act action =>
    cases action with
    | own action =>
      cases action with
      | make handle id state => exact flags_make h handle id
      | save handle => exact flags_save h
      | drop handle | see handle height hash => exact within ⟨by simp, by simp⟩
    | create name kind | cancel name => exact within fun _ => trivial
    | listen | offer | notify | poll | spawn | drive | inject | progress | finish | setHeight | wait =>
      exact within trivial

/-! ### Runs -/

theorem TicksDriven.happen (h : s.TicksDriven) (e : Event) : (s.happen e).TicksDriven := by
  cases e with
  | act action => exact h.act action
  | hear | hearEnd => exact h

theorem TicksDriven.runEvents (h : s.TicksDriven) (events : List Event) :
    (s.runEvents events).TicksDriven := by
  induction events generalizing s with
  | nil => exact h
  | cons e events ih => exact ih (h.happen e)

/-- As long as a wallet is not saved, no change of it is missed. -/
theorem flags_runEvents (hticks : s.TicksDriven) {events : List Event}
    (h : s.savesWithin w events = false) :
    (s.roster.ledger.get w).Flags ((s.runEvents events).roster.ledger.get w) := by
  induction events generalizing s with
  | nil => exact .refl _
  | cons e events ih =>
    obtain ⟨hfirst, hrest⟩ := Bool.or_eq_false_iff.mp h
    exact (flags_happen hticks hfirst).trans (ih (hticks.happen e) hrest)

/-- **The flag misses no change.** Take any run, whatever owners, calls, drivers, the client and the
listeners of all its networks do, and an event in it that leaves a wallet saved: the wallet is made
without the flag, or its owner saves it. As long as no later event leaves it saved, its sync state is
what it was after that event whenever it bears no flag, but for the percentage of a download. -/
theorem run_saved (checkpoints : Checkpoints) (retry : RetryPolicy) (interval : Nat)
    (synced : Option Height) (before after : List Event) (e : Event) (w : Wallet) :
    let s := (fresh checkpoints retry interval synced).runEvents before
    let s₁ := s.happen e
    let state := (s₁.runEvents after).roster.ledger.get w
    s.saves w e = true → s₁.savesWithin w after = false → state.dirty = false →
      state = { s₁.roster.ledger.get w with percent := state.percent } := by
  intro s s₁ state _ hafter hclean
  have hticks : s.TicksDriven :=
    (ticksDriven_fresh checkpoints retry interval synced).runEvents before
  exact flags_runEvents (hticks.happen e) hafter hclean

/-- A wallet is claimed and saved, and a listener of some old network shows a percentage in it. It bears
no flag and is as it was saved but for that. An attempt that begins then raises the flag. -/
theorem run_saved_of_late :
    let w : Wallet := ⟨0, "w1"⟩
    let before : List Event := [.act (.own (.make "savings" "w1" {})),
      .act (.offer ["savings"] .genesis)]
    let save : Event := .act (.own (.save "savings"))
    let late : List Event := [.hear ⟨w, .zero, none⟩ ⟨10, by decide⟩ 10]
    let tick : List Event := [.act (.create "tick" .tick), .act (.poll "tick")]
    let s₀ := fresh .empty {} 200 none
    let s₁ := (s₀.runEvents before).happen save
    let state := (s₁.runEvents late).roster.ledger.get w
    (s₀.runEvents before).saves w save = true ∧ s₁.savesWithin w late = false ∧
      state.dirty = false ∧ state.percent = some 50 ∧
      state = { s₁.roster.ledger.get w with percent := state.percent } ∧
      ((s₁.runEvents (late ++ tick)).roster.ledger.get w).dirty = true := by
  intro w before save late tick s₀ s₁ state
  have hsaves : (s₀.runEvents before).saves w save = true := by decide
  have hlate : s₁.savesWithin w late = false := by decide
  have hclean : state.dirty = false := by decide
  exact ⟨hsaves, hlate, hclean, by decide,
    run_saved .empty {} 200 none before late save w hsaves hlate hclean, by decide⟩

end Scheduler

end WalletReplay
