import WalletReplay.Calendar.Moment
import WalletReplay.Checkpoint.Resolve

/-!
# Requests on the command line

What a command line asks for: a command, and the surroundings in which it is to be done.
-/

namespace WalletReplay.CommandLine

/-- What a replay has to cover. -/
inductive Aim where
  /-- Everything up to a height. -/
  | height (height : Height)
  /-- Everything since a date. -/
  | date (date : Moment)
  deriving DecidableEq

/-- The target of a replay that covers it. -/
def Aim.target : Aim → Target
  | height h => .height h
  | date m => .time m.time

/-- A command with its options. -/
inductive Command where
  /-- Writes the example settings to a path, `-` standing for the output of the program. A file that
  is there is replaced if forced. -/
  | exampleConfig (output : String) (force : Bool)
  /-- Shows where a replay would start. It may be strict about the checkpoint file. -/
  | checkpoint (aim : Aim) (strict : Bool)
  deriving DecidableEq

/-- A request. -/
structure Request where
  /-- Whether more messages are asked for. -/
  verbose : Bool
  /-- The data directory. -/
  datadir : Option String
  /-- The settings file, seen from the data directory. -/
  config : Option String
  /-- What is to be done. -/
  command : Command
  deriving DecidableEq

end WalletReplay.CommandLine
