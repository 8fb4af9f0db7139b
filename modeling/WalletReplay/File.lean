import WalletReplay.Path

/-!
# Files

What stands at a path, and why it cannot be read or written.
-/

namespace WalletReplay

/-- What stands at a path. -/
inductive FileState where
  /-- Nothing. -/
  | missing
  /-- A directory. -/
  | directory
  /-- A file with these bytes. -/
  | file (bytes : ByteArray)
  /-- Nothing can stand there. -/
  | blocked (fault : Path.Fault)

/-- Why a file cannot be read as text. -/
inductive ReadFault where
  /-- There is no such file. -/
  | notFound
  /-- It is a directory. -/
  | isDirectory
  /-- Nothing can stand at its path. -/
  | blocked (fault : Path.Fault)
  /-- Its bytes are not UTF-8. -/
  | invalidText
  deriving DecidableEq, Repr

/-- The system's wording of a read fault. -/
def ReadFault.message : ReadFault → String
  | .notFound => "No such file or directory (os error 2)"
  | .isDirectory => "Is a directory (os error 21)"
  | .blocked fault => fault.message
  | .invalidText => "stream did not contain valid UTF-8"

/-- Why a file cannot be written. -/
inductive WriteFault where
  /-- There is no directory to write it to. -/
  | notFound
  /-- It is there already and is not to be replaced. -/
  | exists
  /-- It is a directory. -/
  | isDirectory
  /-- Nothing can stand at its path. -/
  | blocked (fault : Path.Fault)
  /-- Any other reason, in the system's words. -/
  | other (message : String)
  deriving DecidableEq, Repr

/-- The system's wording of a write fault. -/
def WriteFault.message : WriteFault → String
  | .notFound => "No such file or directory (os error 2)"
  | .exists => "File exists (os error 17)"
  | .isDirectory => "Is a directory (os error 21)"
  | .blocked fault => fault.message
  | .other message => message

namespace FileState

/-- Whether anything stands there. -/
def isThere : FileState → Bool
  | missing | blocked _ => false
  | directory | file _ => true

/-- Whether a file stands there. -/
def isFile : FileState → Bool
  | file _ => true
  | missing | directory | blocked _ => false

/-- The text that stands there. -/
def text : FileState → Except ReadFault String
  | missing => .error .notFound
  | directory => .error .isDirectory
  | blocked fault => .error (.blocked fault)
  | file bytes =>
    match String.fromUTF8? bytes with
    | some text => .ok text
    | none => .error .invalidText

end FileState

end WalletReplay
