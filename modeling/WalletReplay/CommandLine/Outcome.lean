import WalletReplay.CommandLine.Help
import WalletReplay.Failure

/-!
# How the program ends

The program ends well with a text to show, or it ends for one of three reasons: the command line is
no request, the settings cannot be loaded, or the command has failed. A command line that is wrong
ends the program with the code 2, the other reasons with 1.
-/

namespace WalletReplay.CommandLine

/-- How the program ends. -/
inductive Outcome where
  /-- Well, showing a text. -/
  | done (text : String)
  /-- The command line is wrong. -/
  | misused
  /-- The settings cannot be loaded. -/
  | unconfigured
  /-- The command has failed. -/
  | failed (failure : Failure)

namespace Outcome

/-- The code that the program ends with. -/
def exitCode : Outcome → Nat
  | done _ => 0
  | misused => 2
  | unconfigured | failed _ => 1

/-- What is shown. -/
def shown : Outcome → String
  | done text => text
  | misused | unconfigured | failed _ => ""

/-- What is reported beside it. -/
def report : Outcome → String
  | done _ => ""
  | misused => "usage error"
  | unconfigured => "config error"
  | failed failure => failure.message ++ "\n"

/-- Lines to be shown. -/
def ofLines (lines : List String) : Outcome :=
  done (String.join (lines.map (· ++ "\n")))

/-- How the program ends when the command line is no request. -/
def ofRefusal : Refusal → Outcome
  | .help page => done page.text
  | .version => ofLines [versionLine]
  | _ => misused

end Outcome

end WalletReplay.CommandLine
