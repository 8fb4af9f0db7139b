import WalletReplay.Checkpoint.Error

/-!
# Collections of checkpoints

A collection holds checkpoints of strictly ascending height, lowest first. A list is a collection
when no checkpoint is at or below the one before it; the first that is, is reported with its
position.
-/

namespace WalletReplay

/-- Strictly ascending heights. -/
def Ascending (cs : List Checkpoint) : Prop :=
  cs.Pairwise fun a b => a.height < b.height

instance (cs : List Checkpoint) : Decidable (Ascending cs) :=
  inferInstanceAs (Decidable (cs.Pairwise _))

/-- Checkpoints of strictly ascending height. -/
structure Checkpoints where
  /-- The checkpoints, lowest first. -/
  toList : List Checkpoint
  /-- Each is above all before it. -/
  ascending : Ascending toList
  deriving DecidableEq

namespace Checkpoints

/-- The collection that holds nothing. -/
def empty : Checkpoints :=
  ⟨[], .nil⟩

/-- How many checkpoints there are. -/
def size (cs : Checkpoints) : Nat :=
  cs.toList.length

/-- The first checkpoint that is not above the one before it: its position, counted so that the
first of the list has the given position, its height and the height before it. -/
def firstDescent (position : Nat) : List Checkpoint → Option (Nat × Height × Height)
  | a :: b :: cs =>
    if b.height ≤ a.height then some (position + 1, b.height, a.height)
    else firstDescent (position + 1) (b :: cs)
  | _ => none

/-- There is no descent exactly when the heights ascend. -/
theorem firstDescent_eq_none_iff {position : Nat} {cs : List Checkpoint} :
    firstDescent position cs = none ↔ Ascending cs := by
  match cs with
  | [] => simp [firstDescent, Ascending]
  | [a] => simp [firstDescent, Ascending]
  | a :: b :: cs =>
    have ih := @firstDescent_eq_none_iff (position + 1) (b :: cs)
    simp only [Ascending] at ih ⊢
    rw [firstDescent]
    split
    · rename_i h
      simp only [reduceCtorEq, List.pairwise_cons, false_iff]
      intro hall
      exact absurd (hall.1 b (by simp)) (by simpa [Fin.not_lt] using h)
    · rename_i h
      rw [ih, List.pairwise_cons (a := a)]
      refine ⟨fun hb => ⟨fun c hc => ?_, hb⟩, fun hab => hab.2⟩
      have hab : a.height < b.height := by simpa [Fin.not_le] using h
      rcases List.mem_cons.1 hc with rfl | hc
      · exact hab
      · exact Fin.lt_trans hab ((List.pairwise_cons.1 hb).1 c hc)

/-- The collection of a list of checkpoints, if their heights ascend. -/
def ofList (cs : List Checkpoint) : Except CheckpointError Checkpoints :=
  match h : firstDescent 1 cs with
  | none => .ok ⟨cs, firstDescent_eq_none_iff.1 h⟩
  | some (position, height, previous) => .error (.unordered position height previous)

end Checkpoints

end WalletReplay
