import WalletReplay.Checkpoint.Basic
import WalletReplay.File

/-!
# What can be wrong with a checkpoint file

The file cannot be read, a line is no checkpoint, or a height does not follow the one before it.
-/

namespace WalletReplay

/-- Why a line is no checkpoint. -/
inductive LineFault where
  /-- There are not exactly three fields. -/
  | fields
  /-- The first is no height. -/
  | height
  /-- The second is no time in range. -/
  | time
  /-- The third is no hash. -/
  | hash
  deriving DecidableEq, Repr

/-- The wording of a line fault. -/
def LineFault.message : LineFault → String
  | .fields => "expected `<height> <timestamp> <hash>`"
  | .height => "invalid height"
  | .time => "invalid timestamp"
  | .hash => "invalid block hash"

/-- Why a collection of checkpoints cannot be had. -/
inductive CheckpointError where
  /-- The file cannot be read. -/
  | unreadable (fault : ReadFault)
  /-- A line, counted from 1, is no checkpoint. -/
  | malformed (line : Nat) (fault : LineFault)
  /-- The height on a line, counted from 1, is not above the height before it. -/
  | unordered (line : Nat) (height previous : Height)
  deriving DecidableEq

namespace CheckpointError

/-- The wording of an error. -/
def message : CheckpointError → String
  | unreadable fault => fault.message
  | malformed line fault => s!"line {line}: {fault.message}"
  | unordered line height previous =>
    s!"line {line}: height {height.val} does not follow height {previous.val}"

/-- The error behind this one, which only a read fault has. -/
def cause? : CheckpointError → Option ReadFault
  | unreadable fault => some fault
  | _ => none

end CheckpointError

end WalletReplay
