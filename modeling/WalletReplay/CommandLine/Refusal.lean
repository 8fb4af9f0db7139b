import WalletReplay.Calendar.Moment

/-!
# Command lines that are no request

A command line may ask for help or for the version, or may be wrong in one of several ways.
-/

namespace WalletReplay.CommandLine

/-- The pages of help. -/
inductive HelpPage where
  /-- About the program, in short. -/
  | summary
  /-- About the program. -/
  | program
  /-- About writing the example settings. -/
  | exampleConfig
  /-- About showing a checkpoint. -/
  | checkpoint
  /-- About asking for help. -/
  | help
  deriving DecidableEq, Repr

/-- Why a value is no height. -/
inductive HeightFault where
  /-- It is empty. -/
  | empty
  /-- It is no integer. -/
  | digit
  /-- It is more than an integer of 64 bits can be. -/
  | tooLarge
  /-- It is less than an integer of 64 bits can be. -/
  | tooSmall
  /-- It is an integer that is no height. -/
  | range (n : Int)
  deriving DecidableEq, Repr

/-- The wording of a fault. -/
def HeightFault.message : HeightFault → String
  | empty => "cannot parse integer from empty string"
  | digit => "invalid digit found in string"
  | tooLarge => "number too large to fit in target type"
  | tooSmall => "number too small to fit in target type"
  | range n => toString n ++ " is not in 0..=4294967295"

/-- Why a command line is no request. -/
inductive Refusal where
  /-- It asks for help. -/
  | help (page : HelpPage)
  /-- It asks for the version. -/
  | version
  /-- There is nothing on it. -/
  | nothingGiven
  /-- There is no command. -/
  | noCommand
  /-- What stands where a command may stand is none. -/
  | unknownCommand
  /-- An argument is not known where it stands. -/
  | unknownArgument
  /-- An option has no value, or an empty one. -/
  | noValue
  /-- An option that takes no value has one. -/
  | unwantedValue
  /-- The value is no height. -/
  | badHeight (fault : HeightFault)
  /-- The value is no date. -/
  | badDate (fault : MomentFault)
  /-- An option is given twice, or together with one that excludes it. -/
  | conflict
  /-- There is neither a height nor a date. -/
  | noTarget
  deriving DecidableEq, Repr

namespace Refusal

/-- What is wrong with a value. -/
def valueMessage? : Refusal → Option String
  | badHeight fault => some fault.message
  | badDate fault => some fault.message
  | _ => none

end Refusal

end WalletReplay.CommandLine
