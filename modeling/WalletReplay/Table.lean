/-!
# Tables

A table holds at most one entry for each key. Setting an entry replaces the one that was there.
-/

namespace WalletReplay

/-- Entries under keys, each key once, the one set last first. -/
structure Table (κ α : Type) where
  /-- The entries with their keys. -/
  entries : List (κ × α) := []

namespace Table

variable {κ α : Type} [DecidableEq κ]

/-- The entry under a key. -/
def get? (t : Table κ α) (k : κ) : Option α :=
  (t.entries.find? (·.1 = k)).map (·.2)

/-- Without the entry under a key. -/
def erase (t : Table κ α) (k : κ) : Table κ α :=
  ⟨t.entries.filter (·.1 ≠ k)⟩

/-- With this entry under a key, and no other. -/
def set (t : Table κ α) (k : κ) (a : α) : Table κ α :=
  ⟨(k, a) :: (t.erase k).entries⟩

/-- Whether some entry passes a test. -/
def any (t : Table κ α) (p : κ → α → Bool) : Bool :=
  t.entries.any fun e => p e.1 e.2

theorem get?_set_self (t : Table κ α) (k : κ) (a : α) : (t.set k a).get? k = some a := by
  simp [get?, set]

theorem get?_erase_self (t : Table κ α) (k : κ) : (t.erase k).get? k = none := by
  simp [get?, erase, List.find?_filter]

theorem get?_erase_of_ne (t : Table κ α) {k l : κ} (h : l ≠ k) :
    (t.erase k).get? l = t.get? l := by
  simp only [get?, erase, List.find?_filter]
  congr 2
  funext e
  by_cases he : e.1 = l
  · simp [he, h]
  · simp [he]

theorem get?_set_of_ne (t : Table κ α) {k l : κ} (h : l ≠ k) (a : α) :
    (t.set k a).get? l = t.get? l := by
  rw [← t.get?_erase_of_ne h]
  simp [get?, set, Ne.symm h]

theorem get?_set (t : Table κ α) (k l : κ) (a : α) :
    (t.set k a).get? l = if l = k then some a else t.get? l := by
  split
  · rename_i h
    rw [h, get?_set_self]
  · rename_i h
    exact get?_set_of_ne t h a

theorem get?_erase (t : Table κ α) (k l : κ) :
    (t.erase k).get? l = if l = k then none else t.get? l := by
  split
  · rename_i h
    rw [h, get?_erase_self]
  · rename_i h
    exact get?_erase_of_ne t h

@[simp]
theorem erase_set (t : Table κ α) (k : κ) (a : α) : (t.set k a).erase k = t.erase k := by
  simp [set, erase, List.filter_filter]

@[simp]
theorem set_set (t : Table κ α) (k : κ) (a b : α) : (t.set k a).set k b = t.set k b := by
  rw [set, erase_set, set]

end Table

end WalletReplay
