import WalletReplay.CommandLine.Refusal
import WalletReplay.CommandLine.Request
import WalletReplay.CommandLine.Switch

/-!
# Reading the command line

Arguments are read from left to right, and the first that is wrong decides what is reported.

**Options.** Behind two dashes stands the name of an option, behind one the letters of one or more.
A value stands in the same argument, behind an equals sign, or directly behind the letter; or else
in the next argument, unless that begins with a dash and has more to it.

**Values.** A value in the same argument is settled at once. One in the next argument is settled
when the next option is met, or at the end: what is wrong with it does not come before an argument
that is not known. An option of the program that has its value when the command begins is settled
behind the options of the command.

**Two dashes** say that no options follow. As nothing else can follow them either, any argument
behind them is not known. Only where a command is expected, an argument behind them that is not the
word of one is an unknown command.

**At the end** the options have to agree with each other.
-/

namespace WalletReplay.CommandLine

/-- The options that were met, and their values. -/
structure Draft where
  /-- The options that were met. -/
  given : List Switch := []
  /-- The data directory. -/
  datadir : Option String := none
  /-- The settings file. -/
  config : Option String := none
  /-- Where the example is written to. -/
  output : Option String := none
  /-- The height. -/
  height : Option Height := none
  /-- The date. -/
  date : Option Moment := none

/-- Where reading has come to on one level. -/
structure Reading where
  /-- Whose options may stand here. -/
  level : Level
  /-- What is settled. -/
  draft : Draft := {}
  /-- An option that is not settled, and its value, if that was met. -/
  pending : Option (Switch × Option String) := none

/-! ### Values -/

/-- Reads digits as an integer of 64 bits, from the highest. -/
def readDigits (negative : Bool) : Nat → List Char → Except HeightFault Nat
  | n, [] => .ok n
  | n, c :: cs =>
    if c.isDigit then
      let m := 10 * n + (c.toNat - '0'.toNat)
      if negative then
        if m ≤ 9223372036854775808 then readDigits negative m cs else .error .tooSmall
      else
        if m ≤ 9223372036854775807 then readDigits negative m cs else .error .tooLarge
    else .error .digit

/-- Reads an integer of 64 bits. -/
def readInteger : List Char → Except HeightFault Int
  | [] => .error .empty
  | ['+'] | ['-'] => .error .digit
  | '+' :: cs => (readDigits false 0 cs).map Int.ofNat
  | '-' :: cs => (readDigits true 0 cs).map fun n => -Int.ofNat n
  | cs => (readDigits false 0 cs).map Int.ofNat

/-- Reads a height. -/
def readHeight (cs : List Char) : Except HeightFault Height := do
  let n ← readInteger cs
  match n with
  | .ofNat m =>
    match Height.ofNat? m with
    | some h => return h
    | none => throw (.range n)
  | .negSucc _ => throw (.range n)

/-- A value that may not be empty. -/
def nonempty (value : String) : Except Refusal String :=
  if value = "" then .error .noValue else .ok value

/-- The page of help about the options of a level. -/
def Level.helpPage : Level → HelpPage
  | none => .program
  | some .exampleConfig => .exampleConfig
  | some .checkpoint => .checkpoint

namespace Draft

/-- Takes an option with its value. -/
def setValue (d : Draft) (value : String) : Switch → Except Refusal Draft
  | .datadir => do return { d with datadir := some (← nonempty value) }
  | .config => do return { d with config := some (← nonempty value) }
  | .output => return { d with output := some value }
  | .height => do return { d with height := some (← (readHeight value.toList).mapError .badHeight) }
  | .date => do return { d with date := some (← (Moment.read value.toList).mapError .badDate) }
  | _ => return d

/-- Settles an option that takes a value: there has to be one, and the option may not have been met
before. -/
def settleValue (d : Draft) (switch : Switch) : Option String → Except Refusal Draft
  | none => .error .noValue
  | some value =>
    if switch ∈ d.given then .error .conflict
    else setValue { d with given := switch :: d.given } value switch

/-- Settles an option that takes no value. -/
def settleFlag (d : Draft) (switch : Switch) : Except Refusal Draft :=
  if switch ∈ d.given then .error .conflict else .ok { d with given := switch :: d.given }

end Draft

namespace Reading

/-- Whether the next argument may be the value of an option. -/
def awaitsValue (r : Reading) : Bool :=
  match r.pending with
  | some (_, none) => true
  | _ => false

/-- Settles the option that is pending. -/
def settle (r : Reading) : Except Refusal Reading :=
  match r.pending with
  | none => .ok r
  | some (switch, value) => do
    return { r with draft := ← r.draft.settleValue switch value, pending := none }

/-- Meets an option that takes a value, which may be in the same argument. -/
def meetOption (r : Reading) (switch : Switch) : Option String → Except Refusal Reading
  | none => do return { ← r.settle with pending := some (switch, none) }
  | some value => do
    let r ← r.settle
    return { r with draft := ← r.draft.settleValue switch (some value) }

/-- Meets an option that takes no value. Asking for help or for the version takes effect here. -/
def meetFlag (r : Reading) (switch : Switch) (page : HelpPage) : Except Refusal Reading := do
  let r ← r.settle
  match switch with
  | .help => throw (.help page)
  | .version => throw .version
  | _ => return { r with draft := ← r.draft.settleFlag switch }

/-- The value behind a letter, if anything is there. -/
def valueBehind : List Char → Option String
  | [] => none
  | '=' :: cs => some (String.ofList cs)
  | cs => some (String.ofList cs)

/-- Reads letters. -/
def letters (r : Reading) : List Char → Except Refusal Reading
  | [] => .ok r
  | c :: cs =>
    match r.level.lettered? c with
    | none => .error .unknownArgument
    | some switch =>
      if switch.takesValue then r.meetOption switch (valueBehind cs)
      else do
        let page := if r.level = none then .summary else r.level.helpPage
        (← r.meetFlag switch page).letters cs

/-- Reads a name, and a value if there is an equals sign. -/
def name (r : Reading) (cs : List Char) : Except Refusal Reading :=
  let value := match cs.dropWhile (· ≠ '=') with
    | [] => none
    | _ :: v => some (String.ofList v)
  match r.level.named? (cs.takeWhile (· ≠ '=')) with
  | none => .error .unknownArgument
  | some switch =>
    if switch.takesValue then r.meetOption switch value
    else if value.isSome then .error .unwantedValue
    else r.meetFlag switch r.level.helpPage

/-- Reads an argument that is no command and not two dashes. -/
def argument (r : Reading) (arg : String) : Except Refusal Reading :=
  match arg.toList with
  | '-' :: '-' :: cs => r.name cs
  | '-' :: c :: cs => r.letters (c :: cs)
  | _ =>
    match r.pending with
    | some (switch, none) => .ok { r with pending := some (switch, some arg) }
    | _ => .error (if r.level = none then .unknownCommand else .unknownArgument)

/-- What is settled at the end, given the arguments behind two dashes: there may be none. -/
def finish (r : Reading) : List String → Except Refusal Draft
  | [] => do return (← r.settle).draft
  | arg :: _ =>
    .error (if r.level = none ∧ ¬ isCommandWord arg then .unknownCommand else .unknownArgument)

/-- Reads the arguments behind a command. -/
def command (r : Reading) : List String → Except Refusal Draft
  | [] => r.finish []
  | arg :: args =>
    if arg = "--" then r.finish args
    else do (← r.argument arg).command args

end Reading

/-! ### Requests -/

/-- The command that its options make. -/
def Draft.command (d : Draft) : CommandName → Except Refusal Command
  | .exampleConfig => .ok (.exampleConfig (d.output.getD "-") (d.given.contains .force))
  | .checkpoint =>
    match d.height, d.date with
    | some _, some _ => .error .conflict
    | some h, none => .ok (.checkpoint (.height h) (d.given.contains .strict))
    | none, some m => .ok (.checkpoint (.date m) (d.given.contains .strict))
    | none, none => .error .noTarget

/-- The page of help that words ask for. -/
def helpFor : List String → Except Refusal HelpPage
  | [] => .ok .program
  | [word] =>
    match CommandName.ofWord? word with
    | some name => .ok (Level.helpPage (some name))
    | none => if word = helpWord then .ok .help else .error .unknownCommand
  | _ => .error .unknownCommand

/-- Where no command follows the options of the program. -/
def Draft.withoutCommand (d : Draft) : Refusal :=
  if d.given.isEmpty then .nothingGiven else .noCommand

/-- Reads the options of the program up to the command, and the command. -/
def Reading.program (r : Reading) : List String → Except Refusal Request
  | [] => do throw (← r.finish []).withoutCommand
  | arg :: args =>
    let name := if r.awaitsValue then none else CommandName.ofWord? arg
    match name with
    | some name => do
      let command ← (← Reading.command { level := some name } args).command name
      let d := (← r.settle).draft
      return {
        verbose := d.given.contains .verbose
        datadir := d.datadir
        config := d.config
        command }
    | none =>
      if arg = helpWord && !r.awaitsValue then do throw (.help (← helpFor args))
      else if arg = "--" then do throw (← r.finish args).withoutCommand
      else do (← r.argument arg).program args

/-- Reads a command line, which begins behind the name of the program. -/
def Request.read (args : List String) : Except Refusal Request :=
  Reading.program { level := none } args

end WalletReplay.CommandLine
