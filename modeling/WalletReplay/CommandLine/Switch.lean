/-!
# What may stand on the command line

The program has options of its own, and each of its commands has others, which follow the command.
An option has a name behind two dashes, and possibly a letter behind one. Some options take a value.
-/

namespace WalletReplay.CommandLine

/-- The commands. -/
inductive CommandName where
  /-- Writes the example settings. -/
  | exampleConfig
  /-- Shows where a replay would start. -/
  | checkpoint
  deriving DecidableEq, Repr

/-- The word for a command. -/
def CommandName.word : CommandName → String
  | exampleConfig => "example-config"
  | checkpoint => "checkpoint"

/-- The command of a word. -/
def CommandName.ofWord? (word : String) : Option CommandName :=
  [exampleConfig, checkpoint].find? (·.word = word)

/-- The word that asks for help where a command may stand. -/
def helpWord : String := "help"

/-- Whether a word may stand where a command is expected. -/
def isCommandWord (word : String) : Bool :=
  (CommandName.ofWord? word).isSome || word = helpWord

/-- The options. -/
inductive Switch where
  /-- Asks for more messages. -/
  | verbose
  /-- Sets the data directory. -/
  | datadir
  /-- Sets the settings file. -/
  | config
  /-- Sets where the example is written to. -/
  | output
  /-- Allows a file to be replaced. -/
  | force
  /-- Gives the height that a replay has to cover. -/
  | height
  /-- Gives the date that a replay has to cover. -/
  | date
  /-- Asks for a failure where the checkpoint file cannot be used. -/
  | strict
  /-- Asks for help. -/
  | help
  /-- Asks for the version. -/
  | version
  deriving DecidableEq, Repr

namespace Switch

/-- The name of an option. -/
def name : Switch → String
  | verbose => "verbose"
  | datadir => "datadir"
  | config => "config"
  | output => "output"
  | force => "force"
  | height => "height"
  | date => "date"
  | strict => "strict"
  | help => "help"
  | version => "version"

/-- The letter of an option. -/
def letter? : Switch → Option Char
  | verbose => some 'v'
  | datadir => some 'd'
  | config => some 'c'
  | output => some 'o'
  | help => some 'h'
  | version => some 'V'
  | force | height | date | strict => none

/-- Whether an option takes a value. -/
def takesValue : Switch → Bool
  | datadir | config | output | height | date => true
  | verbose | force | strict | help | version => false

end Switch

/-- Whose options may stand somewhere: those of the program, or those of a command. -/
abbrev Level := Option CommandName

namespace Level

/-- The options of a level. -/
def switches : Level → List Switch
  | none => [.verbose, .datadir, .config, .help, .version]
  | some .exampleConfig => [.output, .force, .help]
  | some .checkpoint => [.height, .date, .strict, .help]

/-- The option of that name. -/
def named? (level : Level) (name : List Char) : Option Switch :=
  switches level |>.find? (·.name.toList = name)

/-- The option of that letter. -/
def lettered? (level : Level) (c : Char) : Option Switch :=
  switches level |>.find? (·.letter? = some c)

end Level

end WalletReplay.CommandLine
