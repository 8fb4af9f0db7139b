import WalletReplay.Checkpoint.File
import WalletReplay.Disk.Basic
import WalletReplay.Scheduler.State
import WalletReplay.Settings.Basic

/-!
# Setting a scheduler up

A scheduler is set up from settings and the checkpoint file that they name in the data directory. It
can do without the file: what cannot be loaded counts as a collection without checkpoints.
-/

namespace WalletReplay.Scheduler

/-- A scheduler with these checkpoints and the settings on replays. If a chain was synced before,
its height is given. -/
def withCheckpoints (settings : Settings) (checkpoints : Checkpoints) (synced : Option Height) :
    Scheduler :=
  fresh checkpoints settings.retryPolicy settings.interval synced

/-- A scheduler with the checkpoints of a file and the settings on replays. -/
def setUp (settings : Settings) (file : FileState) (synced : Option Height) : Scheduler :=
  withCheckpoints settings (Checkpoints.loadOrEmpty file) synced

/-- A scheduler set up from what stands on the disk where the settings say, seen from the data
directory. -/
def init [Monad m] (disk : Disk m) (settings : Settings) (directory : String)
    (synced : Option Height) : m Scheduler := do
  return setUp settings (← disk.look (settings.checkpointsPathIn directory)) synced

end WalletReplay.Scheduler
