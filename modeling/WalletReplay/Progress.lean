import WalletReplay.Checkpoint.Basic

/-!
# How much of a download is done

A download begins at a start height and reports the height it has reached and how many blocks peers
say are left. Before peers have said so, the end may be further than they know: the height that the
chain had before it was rebuilt is a floor under the end.
-/

namespace WalletReplay

/-- A number of blocks, an unsigned 32-bit number. -/
abbrev BlockCount := Fin 4294967296

/-- The height that a download runs up to, as far as is known. -/
def downloadEnd (reached : Nat) (left : BlockCount) (floor : Option Height) : Nat :=
  max (reached + left.val) (match floor with | some h => h.val | none => 0)

/-- The part of the way from the start to the end that is done, in whole percent, rounded down. A
download that has nowhere to go is done. -/
def percentComplete (start height : Height) (left : BlockCount) (floor : Option Height) : Nat :=
  let reached := max height.val start.val
  let target := downloadEnd reached left floor
  if target ≤ start.val then 100
  else (reached - start.val) * 100 / (target - start.val)

end WalletReplay
