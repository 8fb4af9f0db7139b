import WalletReplay.File

/-!
# Disks

What the program does to files: it looks at a path, and it writes a text to one.
-/

namespace WalletReplay

/-- How files are reached. -/
structure Disk (m : Type → Type) where
  /-- What stands at a path. -/
  look : String → m FileState
  /-- Writes a text to a path, where a file may be replaced or not. -/
  write : (path : String) → (replace : Bool) → (text : String) → m (Except WriteFault Unit)

end WalletReplay
