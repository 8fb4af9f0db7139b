import Mathlib.Tactic.Common
import WalletReplay.Wallet.Owner

/-!
# Sync states and their changes

A wallet is held by the task that its sync state names, and is then busy. Only a claim and a release
change that, for the wallets of one task at a time; wallets are told apart by their keys.

## What is proved

* `get_modifyAll_of_key`, `get_modifyAll_of_ne` — what becomes of a wallet when several are changed.
* `Each.modify`, `Each.foldl` — what every change does to the wallet that it is of, changes do to all.
* `Agree.modifyAll`, `Roster.agree_modifyHeld` — changes that leave something alone leave it alone
  in every wallet.
-/

namespace WalletReplay

/-- Whether the wallet is busy, and the task that holds it. -/
def SyncState.holder (s : SyncState) : Bool × Option TaskId :=
  (s.busy, s.task)

theorem SyncState.claim_claim (s : SyncState) (task : TaskId) (start : Height) :
    (s.claim task start).claim task start = s.claim task start := rfl

theorem SyncState.startDownload_startDownload (s : SyncState) :
    s.startDownload.startDownload = s.startDownload := rfl

theorem SyncState.release_release (s : SyncState) : s.release.release = s.release := rfl

theorem SyncState.setPercent_setPercent (s : SyncState) (percent next : Option Nat) :
    (s.setPercent percent).setPercent next = s.setPercent next := rfl

/-- What a sync state says of replays and of the chain: all of it but the percentage of a running
download and whether it was saved. -/
def SyncState.core (s : SyncState) : SyncState :=
  { s with percent := none, dirty := false }

@[simp]
theorem SyncState.busy_core (s : SyncState) : s.core.busy = s.busy := rfl

@[simp]
theorem SyncState.label_core (s : SyncState) : s.core.label = s.label := rfl

@[simp]
theorem SyncState.seenHeight_core (s : SyncState) : s.core.seenHeight = s.seenHeight := rfl

theorem SyncState.core_setPercent (s : SyncState) (percent : Option Nat) :
    (s.setPercent percent).core = s.core := rfl

theorem SyncState.core_save (s : SyncState) : s.save.core = s.core := rfl

theorem SyncState.percent_startDownload (s : SyncState) : s.startDownload.percent = s.percent := rfl

theorem SyncState.percent_claim (s : SyncState) (task : TaskId) (start : Height) :
    (s.claim task start).percent = s.percent := rfl

theorem SyncState.percent_see (s : SyncState) (height : Height) (hash : Option BlockHash) :
    (s.see height hash).percent = s.percent := rfl

theorem SyncState.percent_save (s : SyncState) : s.save.percent = s.percent := rfl

/-- Nobody holds a wallet that is not busy and names no task. -/
def SyncState.IsIdle (s : SyncState) : Prop :=
  s.busy = false ∧ s.task = none

namespace Ledger

variable {l : Ledger} {w : Wallet} {f : SyncState → SyncState}

theorem get_modify (l : Ledger) (v w : Wallet) (f : SyncState → SyncState) :
    (l.modify v f).get w = if v.key = w.key ∧ w.key < l.size then f (l.get w) else l.get w := by
  by_cases hkey : v.key = w.key
  · by_cases hsize : w.key < l.size
    · have hmodify : l.modify v f = l.modify w f := by rw [modify, modify, hkey]
      rw [if_pos ⟨hkey, hsize⟩, hmodify, get_modify_self hsize]
    · rw [if_neg fun h => hsize h.2]
      have hout : l.states[w.key]? = none := List.getElem?_eq_none (Nat.not_lt.mp hsize)
      simp [get, modify, hkey, hout]
  · rw [if_neg fun h => hkey h.1, get_modify_of_ne (Ne.symm hkey)]

theorem size_foldl {α : Type} {step : Ledger → α → Ledger} (h : ∀ l a, (step l a).size = l.size)
    (l : Ledger) (as : List α) : (as.foldl step l).size = l.size := by
  induction as generalizing l with
  | nil => rfl
  | cons a as ih => exact (ih (step l a)).trans (h l a)

@[simp]
theorem size_modifyAll (l : Ledger) (ws : List Wallet) (f : SyncState → SyncState) :
    (l.modifyAll ws f).size = l.size :=
  size_foldl (fun l w => l.size_modify w f) l ws

/-- A wallet that is not among those that are changed, each in its own way, stays as it is. -/
theorem get_foldl_modify_of_ne {α : Type} {wallet : α → Wallet} {g : α → SyncState → SyncState}
    {as : List α} (h : ∀ a ∈ as, (wallet a).key ≠ w.key) :
    (as.foldl (fun l a => l.modify (wallet a) (g a)) l).get w = l.get w := by
  induction as generalizing l with
  | nil => rfl
  | cons a as ih =>
    have ha := h a (by simp)
    have has := ih (l := l.modify (wallet a) (g a)) fun b hb => h b (List.mem_cons_of_mem a hb)
    exact has.trans (get_modify_of_ne (Ne.symm ha) (g a))

/-- A wallet that is not among those that are changed stays as it is. -/
theorem get_modifyAll_of_ne {ws : List Wallet} (h : ∀ v ∈ ws, v.key ≠ w.key) :
    (l.modifyAll ws f).get w = l.get w :=
  get_foldl_modify_of_ne h

/-- A wallet that is among those that are changed is changed once, if a second time makes no
difference. -/
theorem get_modifyAll_of_key (hf : ∀ s, f (f s) = f s) (hsize : w.key < l.size) {ws : List Wallet}
    (h : ∃ v ∈ ws, v.key = w.key) : (l.modifyAll ws f).get w = f (l.get w) := by
  induction ws generalizing l with
  | nil => simp at h
  | cons v ws ih =>
    change ((l.modify v f).modifyAll ws f).get w = f (l.get w)
    by_cases hws : ∃ u ∈ ws, u.key = w.key
    · rw [ih (by rwa [size_modify]) hws, get_modify]
      split
      · exact hf _
      · rfl
    · have hv : v.key = w.key := by
        obtain ⟨u, hu, hkey⟩ := h
        rcases List.mem_cons.mp hu with rfl | hu
        · exact hkey
        · exact absurd ⟨u, hu, hkey⟩ hws
      rw [get_modifyAll_of_ne fun u hu hkey => hws ⟨u, hu, hkey⟩, get_modify, if_pos ⟨hv, hsize⟩]

/-- Any wallet stays as it is or is changed once, if a second time makes no difference. -/
theorem get_modifyAll_cases (hf : ∀ s, f (f s) = f s) (l : Ledger) (ws : List Wallet) (w : Wallet) :
    (l.modifyAll ws f).get w = l.get w ∨ (l.modifyAll ws f).get w = f (l.get w) := by
  induction ws generalizing l with
  | nil => exact Or.inl rfl
  | cons v ws ih =>
    have hws := ih (l.modify v f)
    rw [get_modify] at hws
    split at hws
    · rw [hf, or_self] at hws
      exact Or.inr hws
    · exact hws

/-- A wallet that was not made has the state that new ones have by default. -/
theorem get_of_size_le (h : l.size ≤ w.key) : l.get w = {} := by
  rw [get, List.getElem?_eq_none h, Option.getD_none]

/-- A new wallet has the state that it is made with, and all others stay as they are. -/
theorem get_add (l : Ledger) (id : WalletId) (s : SyncState) (w : Wallet) :
    (l.add id s).2.get w = if w.key = l.size then s else l.get w := by
  have hget : (l.add id s).2.get w = ((l.states ++ [s])[w.key]?).getD {} := rfl
  rw [hget]
  split_ifs with hkey
  · rw [hkey, size, List.getElem?_concat_length, Option.getD_some]
  · rcases Nat.lt_or_gt_of_ne hkey with hlt | hgt
    · rw [List.getElem?_append_left hlt, get]
    · have hlength : (l.states ++ [s]).length ≤ w.key := by
        rw [List.length_append]
        exact hgt
      rw [get_of_size_le (Nat.le_of_lt hgt), List.getElem?_eq_none hlength, Option.getD_none]

/-- A new wallet has the state that it is made with. -/
theorem get_add_self (l : Ledger) (id : WalletId) (s : SyncState) :
    (l.add id s).2.get (l.add id s).1 = s := by
  rw [get_add]
  exact if_pos rfl

/-- A wallet that was made stays as it is when another is made. -/
theorem get_add_of_lt (h : w.key < l.size) (id : WalletId) (s : SyncState) :
    (l.add id s).2.get w = l.get w := by
  rw [get_add, if_neg (Nat.ne_of_lt h)]

/-! ### What becomes of every wallet -/

section Each

variable {R : SyncState → SyncState → Prop}

/-- Of every wallet, the states in the two ledgers are related. -/
def Each (R : SyncState → SyncState → Prop) (l l' : Ledger) : Prop :=
  ∀ w, R (l.get w) (l'.get w)

namespace Each

theorem refl (hR : ∀ s, R s s) (l : Ledger) : Each R l l :=
  fun _ => hR _

theorem trans (hR : ∀ ⦃s s' s''⦄, R s s' → R s' s'' → R s s'') {l l' l'' : Ledger}
    (h : Each R l l') (h' : Each R l' l'') : Each R l l'' :=
  fun w => hR (h w) (h' w)

theorem modify (hR : ∀ s, R s s) (hf : ∀ s, R s (f s)) (l : Ledger) (v : Wallet) :
    Each R l (l.modify v f) := by
  intro w
  rw [get_modify]
  split
  · exact hf _
  · exact hR _

theorem foldl (hR : ∀ s, R s s) (htrans : ∀ ⦃s s' s''⦄, R s s' → R s' s'' → R s s'') {β : Type}
    {step : Ledger → β → Ledger} (h : ∀ l b, Each R l (step l b)) (l : Ledger) (bs : List β) :
    Each R l (bs.foldl step l) := by
  induction bs generalizing l with
  | nil => exact refl hR l
  | cons b bs ih => exact (h l b).trans htrans (ih (step l b))

end Each

end Each

/-! ### Changes that leave something alone -/

section Agree

variable {α : Type} {φ : SyncState → α}

/-- Of every wallet, the two ledgers show the same. -/
def Agree (φ : SyncState → α) (l l' : Ledger) : Prop :=
  ∀ w, φ (l'.get w) = φ (l.get w)

namespace Agree

theorem refl (l : Ledger) : Agree φ l l :=
  fun _ => rfl

theorem trans {l l' l'' : Ledger} (h : Agree φ l l') (h' : Agree φ l' l'') : Agree φ l l'' :=
  fun w => (h' w).trans (h w)

theorem modify (hf : ∀ s, φ (f s) = φ s) (l : Ledger) (v : Wallet) :
    Agree φ l (l.modify v f) :=
  Each.modify (R := fun s s' => φ s' = φ s) (fun _ => rfl) hf l v

theorem foldl {β : Type} {step : Ledger → β → Ledger} (h : ∀ l b, Agree φ l (step l b))
    (l : Ledger) (bs : List β) : Agree φ l (bs.foldl step l) :=
  Each.foldl (R := fun s s' => φ s' = φ s) (fun _ => rfl) (fun _ _ _ h h' => h'.trans h) h l bs

theorem modifyAll (hf : ∀ s, φ (f s) = φ s) (l : Ledger) (ws : List Wallet) :
    Agree φ l (l.modifyAll ws f) :=
  foldl (fun l w => modify hf l w) l ws

end Agree

end Agree

end Ledger

/-- Whether an owner makes a wallet that nobody holds, if the owner makes one. -/
def OwnerAction.MakesIdle : OwnerAction → Prop
  | make _ _ state => state.IsIdle
  | drop _ | see _ _ _ | save _ => True

theorem Roster.agree_modifyHeld {α : Type} {φ : SyncState → α} {f : SyncState → SyncState}
    (hf : ∀ s, φ (f s) = φ s) (r : Roster) (handle : String) :
    r.ledger.Agree φ (r.modifyHeld handle f).ledger := by
  unfold Roster.modifyHeld
  split
  · exact .modify hf _ _
  · exact .refl _

end WalletReplay
