import WalletReplay.Checkpoint.Reader

/-!
# Loading a checkpoint file

A file is loaded when it is there, is no directory, is UTF-8 and reads as a collection. Where a
replay may do without checkpoints, a file that cannot be loaded counts as one that holds none.
-/

namespace WalletReplay

namespace Checkpoints

/-- The collection in a file. -/
def load (file : FileState) : Except CheckpointError Checkpoints :=
  match file.text with
  | .ok text => read text.toList
  | .error fault => .error (.unreadable fault)

/-- The collection in a file, or none of its checkpoints where it cannot be loaded. -/
def loadOrEmpty (file : FileState) : Checkpoints :=
  match load file with
  | .ok cs => cs
  | .error _ => empty

end Checkpoints

end WalletReplay
