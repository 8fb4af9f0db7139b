import Mathlib.Tactic.Common
import WalletReplay.Wallet.Roster

/-!
# What the registry remembers

A wallet that is tracked stays tracked as long as it is alive. A wallet that is to be tracked is, or
another wallet with its identifier is that is alive: then the registry does not come to know it.

## What is proved

* `mem_trackAll_of_alive` — of wallets with different identifiers all are tracked, if none of them is
  overlooked for another wallet with its identifier.
* `anyBusy_iff` — what busy listeners are told is whether a wallet is busy that is tracked and alive.
-/

namespace WalletReplay

theorem Table.any_of_get? {κ α : Type} [DecidableEq κ] {t : Table κ α} {k : κ} {a : α}
    (h : t.get? k = some a) {p : κ → α → Bool} (hp : ∀ l, p l a = true) : t.any p = true := by
  obtain ⟨e, he, rfl⟩ := Option.map_eq_some_iff.mp h
  exact List.any_eq_true.mpr ⟨e, List.mem_of_find?_eq_some he, hp e.1⟩

namespace Registry

variable {r : Registry} {alive : Wallet → Bool} {v w : Wallet} {ws : List Wallet}

theorem mem_living : w ∈ r.living alive ↔ w ∈ r.tracked ∧ alive w = true :=
  List.mem_filter

/-- Nothing is tracked but what was, and what was to be. -/
theorem mem_of_mem_track (h : v ∈ (r.track alive w).tracked) : v ∈ r.tracked ∨ v = w := by
  simp only [track] at h
  split at h
  · exact Or.inl (mem_living.mp h).1
  · rcases List.mem_append.mp h with h | h
    · exact Or.inl (mem_living.mp h).1
    · exact Or.inr (List.mem_singleton.mp h)

/-- What is tracked and alive stays tracked. -/
theorem mem_track_of_mem (hv : v ∈ r.tracked) (halive : alive v = true) :
    v ∈ (r.track alive w).tracked := by
  have hliving : v ∈ r.living alive := mem_living.mpr ⟨hv, halive⟩
  simp only [track]
  split
  · exact hliving
  · exact List.mem_append_left _ hliving

/-- A wallet is tracked if no other with its identifier is tracked and alive. -/
theorem mem_track_self (h : ∀ v ∈ r.tracked, alive v = true → v.id = w.id → v = w) :
    w ∈ (r.track alive w).tracked := by
  simp only [track]
  split
  · rename_i hany
    obtain ⟨v, hv, hid⟩ := List.any_eq_true.mp hany
    obtain ⟨htracked, halive⟩ := mem_living.mp hv
    rwa [← h v htracked halive (by simpa using hid)]
  · exact List.mem_append_right _ (List.mem_singleton_self w)

theorem mem_of_mem_trackAll (h : v ∈ (r.trackAll alive ws).tracked) : v ∈ r.tracked ∨ v ∈ ws := by
  induction ws generalizing r with
  | nil => exact Or.inl h
  | cons w ws ih =>
    rcases ih (r := r.track alive w) h with h | h
    · rcases mem_of_mem_track h with h | rfl
      · exact Or.inl h
      · exact Or.inr List.mem_cons_self
    · exact Or.inr (List.mem_cons_of_mem w h)

theorem mem_trackAll_of_mem (hv : v ∈ r.tracked) (halive : alive v = true) :
    v ∈ (r.trackAll alive ws).tracked := by
  induction ws generalizing r with
  | nil => exact hv
  | cons w ws ih => exact ih (r := r.track alive w) (mem_track_of_mem hv halive)

/-- Wallets with different identifiers are all tracked, if for none of them another with its
identifier is tracked and alive. -/
theorem mem_trackAll_of_alive (halive : ∀ w ∈ ws, alive w = true) (hids : (ws.map (·.id)).Nodup)
    (h : ∀ w ∈ ws, ∀ v ∈ r.tracked, alive v = true → v.id = w.id → v = w) :
    ∀ w ∈ ws, w ∈ (r.trackAll alive ws).tracked := by
  induction ws generalizing r with
  | nil => simp
  | cons u ws ih =>
    rw [List.map_cons, List.nodup_cons] at hids
    have hu : u ∈ (r.track alive u).tracked := mem_track_self (h u List.mem_cons_self)
    have hws : ∀ w ∈ ws, ∀ v ∈ (r.track alive u).tracked, alive v = true → v.id = w.id → v = w := by
      intro w hw v hv hvalive hid
      rcases mem_of_mem_track hv with hv | rfl
      · exact h w (List.mem_cons_of_mem u hw) v hv hvalive hid
      · exact absurd (hid ▸ List.mem_map_of_mem hw) hids.1
    intro w hw
    rcases List.mem_cons.mp hw with rfl | hw
    · exact mem_trackAll_of_mem (r := r.track alive w) hu (halive w List.mem_cons_self)
    · exact ih (r := r.track alive u) (fun w hw => halive w (List.mem_cons_of_mem u hw)) hids.2 hws w hw

@[simp]
theorem listeners_trackAll (r : Registry) (alive : Wallet → Bool) (ws : List Wallet) :
    (r.trackAll alive ws).listeners = r.listeners := by
  induction ws generalizing r with
  | nil => rfl
  | cons w ws ih => exact ih (r.track alive w)

/-- Listeners are told whether a wallet is busy that is tracked and alive. -/
theorem anyBusy_iff {l : Ledger} : r.anyBusy alive l = true ↔
    ∃ w ∈ r.tracked, alive w = true ∧ (l.get w).busy = true := by
  simp only [anyBusy, List.any_eq_true, mem_living]
  constructor
  · rintro ⟨w, ⟨hw, halive⟩, hbusy⟩
    exact ⟨w, hw, halive, hbusy⟩
  · rintro ⟨w, hw, halive, hbusy⟩
    exact ⟨w, ⟨hw, halive⟩, hbusy⟩

end Registry

end WalletReplay
