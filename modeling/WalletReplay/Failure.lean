import WalletReplay.Checkpoint.Error

/-!
# Failures shown to the user

A failure has a kind and possibly a cause. It is shown as the kind with the cause behind a colon,
followed by a question to the user.
-/

namespace WalletReplay

/-- The kinds of failure. -/
inductive FailureKind where
  /-- No more specific kind. -/
  | generic
  /-- The program could not be set up. -/
  | init
  /-- The checkpoint file could not be used. -/
  | checkpoint
  deriving DecidableEq, Repr

/-- The wording of a kind. -/
def FailureKind.message : FailureKind → String
  | generic => "Error"
  | init => "Failed to initialize rewind"
  | checkpoint => "Failed to load checkpoints"

/-- A failure of the program. -/
structure Failure where
  /-- What failed. -/
  kind : FailureKind
  /-- Why, in words. -/
  cause? : Option String

namespace Failure

/-- What is asked below every failure. -/
def question : String :=
  "[ Did rewind not do what you expected? Could the error be more useful? ]"

/-- The text of a failure. -/
def message (f : Failure) : String :=
  let head := match f.cause? with
    | some cause => f.kind.message ++ ": " ++ cause
    | none => f.kind.message
  head ++ "\n\n" ++ question

/-- The failure that a checkpoint error causes. -/
def ofCheckpointError (e : CheckpointError) : Failure :=
  { kind := .checkpoint, cause? := some e.message }

end Failure

end WalletReplay
