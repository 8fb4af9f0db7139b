import WalletReplay.Checkpoint.Collection

/-!
# Where a replay starts

A replay is asked for from a target: the start of the chain, a time or a height. It starts from the
highest checkpoint strictly before the target, or from genesis when no checkpoint is before it.

Heights ascend, so the checkpoints below a height are found by halving the range in which the first
one that is not below must lie (`partitionPoint`). Times need not ascend with heights, so all
checkpoints are looked at and the highest of those before the time is kept (`highest?`).
-/

namespace WalletReplay

/-- Where a replay is asked to begin. -/
inductive Target where
  /-- At the start of the chain. -/
  | genesis
  /-- At a point in time. -/
  | time (t : Timestamp)
  /-- At a height. -/
  | height (h : Height)
  deriving DecidableEq

/-- The first index from `lo` on and below `hi` at which `p` fails, or `hi` if there is none,
provided that `p` does not hold again after it has failed. -/
def partitionPoint (p : Nat → Bool) (lo hi : Nat) : Nat :=
  if lo < hi then
    let mid := lo + (hi - lo) / 2
    if p mid then partitionPoint p (mid + 1) hi else partitionPoint p lo mid
  else lo
termination_by hi - lo

namespace Checkpoints

/-- The checkpoint at an index, if there is one, has a height below the given one. -/
def isBelow (cs : Checkpoints) (height : Height) (i : Nat) : Bool :=
  match cs.toList[i]? with
  | some c => c.height < height
  | none => false

/-- The highest checkpoint strictly below a height, or genesis. -/
def beforeHeight (cs : Checkpoints) (height : Height) : Checkpoint :=
  match partitionPoint (cs.isBelow height) 0 cs.size with
  | 0 => .genesis
  | i + 1 => (cs.toList[i]?).getD .genesis

/-- The higher of two checkpoints, the second if neither is. -/
def higher (a b : Checkpoint) : Checkpoint :=
  if b.height < a.height then a else b

/-- The highest of a list of checkpoints. -/
def highest? : List Checkpoint → Option Checkpoint
  | [] => none
  | c :: cs => some (cs.foldl higher c)

/-- The highest checkpoint created strictly before a time, or genesis. -/
def beforeTime (cs : Checkpoints) (time : Timestamp) : Checkpoint :=
  (highest? (cs.toList.filter (·.time < time))).getD .genesis

/-- The checkpoint that a replay to a target starts from. -/
def resolve (cs : Checkpoints) : Target → Checkpoint
  | .genesis => .genesis
  | .time t => cs.beforeTime t
  | .height h => cs.beforeHeight h

end Checkpoints

end WalletReplay
