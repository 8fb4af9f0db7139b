import WalletReplay.CommandLine.Run

/-!
# The program

The program on the disk, the environment and the arguments that the system gives it.
-/

namespace WalletReplay

/-- What an error about an argument says about a path. -/
def Path.Fault.ofCode (code : UInt32) : Path.Fault :=
  if code = 22 then .zeroCharacter else .tooLong

/-- What an error says about a path that was looked at. Whatever else keeps a file from being read
counts as nothing being there. -/
def FileState.ofError : IO.Error → FileState
  | .inappropriateType _ code _ => if code = 21 then .directory else .blocked .throughFile
  | .invalidArgument _ code _ => .blocked (.ofCode code)
  | _ => .missing

/-- What an error says about a path that was written to. -/
def WriteFault.ofError : IO.Error → WriteFault
  | .alreadyExists _ _ _ => .exists
  | .noFileOrDirectory _ _ _ => .notFound
  | .inappropriateType _ code _ => if code = 21 then .isDirectory else .blocked .throughFile
  | .invalidArgument _ code _ => .blocked (.ofCode code)
  | e => .other (toString e)

/-- The disk of the system. -/
def systemDisk : Disk IO where
  look path := do
    try
      return .file (← IO.FS.readBinFile path)
    catch e => return .ofError e
  write path replace text := do
    try
      let handle ← IO.FS.Handle.mk path (if replace then .write else .writeNew)
      handle.putStr text
      handle.flush
      return .ok ()
    catch e => return .error (.ofError e)

/-- Pieces of bytes, each ended by a zero byte. -/
def zeroTerminated (bytes : List UInt8) : List (List UInt8) :=
  bytes.foldr
    (fun b pieces => if b = 0 then [] :: pieces else
      match pieces with
      | [] => [[b]]
      | piece :: more => (b :: piece) :: more)
    []

/-- An environment variable that is written with an equals sign. -/
def binding? (bytes : List UInt8) : Option (String × String) := do
  let text ← String.fromUTF8? ⟨bytes.toArray⟩
  let cs := text.toList
  return (String.ofList (cs.takeWhile (· ≠ '=')), String.ofList ((cs.dropWhile (· ≠ '=')).drop 1))

/-- What surrounds the program on the system. -/
def systemSurroundings : IO CommandLine.Surroundings := do
  let bindings := match ← systemDisk.look "/proc/self/environ" with
    | .file bytes => (zeroTerminated bytes.toList).filterMap binding?
    | _ => []
  return { home := (bindings.lookup "HOME").getD "", bindings }

end WalletReplay

/-- Runs the program. -/
def main (args : List String) : IO UInt32 := do
  let outcome ← WalletReplay.CommandLine.run WalletReplay.systemDisk
    (← WalletReplay.systemSurroundings) args
  (← IO.getStdout).putStr outcome.shown
  (← IO.getStderr).putStr outcome.report
  return outcome.exitCode.toUInt32
