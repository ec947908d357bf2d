import GracefulStop.Command.Run

/-!
# Arguments

The arguments of the program: options, a command, and the options and words of the command. An
option has a long name, and some have a short one of one letter; short ones may stand together. A
value follows its option or is attached to it. After two dashes there are words only. Nothing is
given twice.
-/

namespace GracefulStop.Command

/-- An option. -/
structure OptionSpec where
  name : String
  letter : Option Char := none
  takesValue : Bool := false
  deriving DecidableEq, Repr

/-- What arguments ask for instead of a command, or why they are refused. -/
inductive Diversion where
  | help
  | version
  | refused
  deriving DecidableEq, Repr

/-- What has been read of the arguments of a level. -/
structure Reading where
  flags : List String := []
  values : List (String × String) := []
  words : List String := []
  /-- An option whose value is to come. -/
  pending : Option String := none
  /-- Whether only words follow. -/
  wordsOnly : Bool := false
  deriving Repr

namespace Reading

/-- What every level understands. -/
def commonOptions : List OptionSpec :=
  [{ name := "no-color" }, { name := "help", letter := some 'h' },
    { name := "version", letter := some 'V' }]

/-- No option may be left without its value. -/
def settled (reading : Reading) : Except Diversion Reading :=
  if reading.pending.isSome then .error .refused else .ok reading

/-- Reads an option without a value. -/
def takeFlag (reading : Reading) (name : String) : Except Diversion Reading := do
  let reading ← reading.settled
  if name = "help" then .error .help
  else if name = "version" then .error .version
  else if reading.flags.contains name then .error .refused
  else .ok { reading with flags := name :: reading.flags }

/-- Reads the value of an option. -/
def takeValue (reading : Reading) (name value : String) : Except Diversion Reading :=
  if (reading.values.lookup name).isSome then .error .refused
  else .ok { reading with values := (name, value) :: reading.values, pending := none }

/-- Reads an option with its attached value, if there is one. -/
def takeOption (reading : Reading) (option : OptionSpec) (attached : Option String) :
    Except Diversion Reading :=
  match option.takesValue, attached with
  | false, none => reading.takeFlag option.name
  | false, some _ => .error .refused
  | true, some value => do (← reading.settled).takeValue option.name value
  | true, none => do
    let reading ← reading.settled
    .ok { reading with pending := some option.name }

/-- Reads an option by its long name. -/
def takeLong (options : List OptionSpec) (reading : Reading) (text : List Char) :
    Except Diversion Reading :=
  let name := String.ofList (text.takeWhile (· != '='))
  let attached := match text.dropWhile (· != '=') with
    | '=' :: value => some (String.ofList value)
    | _ => none
  match options.find? (·.name = name) with
  | some option => reading.takeOption option attached
  | none => .error .refused

/-- The value that is attached to a letter, where an equals sign may stand between them. -/
def attachedTo : List Char → Option String
  | [] => none
  | '=' :: value => some (String.ofList value)
  | value => some (String.ofList value)

/-- Reads options by their letters, the last of which may have a value attached. -/
def takeLetters (options : List OptionSpec) : Reading → List Char → Except Diversion Reading
  | reading, [] => .ok reading
  | reading, letter :: rest =>
    match options.find? (·.letter = some letter) with
    | some option =>
      if option.takesValue then reading.takeOption option (attachedTo rest)
      else do takeLetters options (← reading.takeFlag option.name) rest
    | none => .error .refused

/-- Reads a word, of which a level takes only so many. -/
def takeWord (limit : Nat) (reading : Reading) (word : String) : Except Diversion Reading :=
  if reading.words.length < limit then .ok { reading with words := reading.words ++ [word] }
  else .error .refused

/-- Reads one argument. -/
def take (options : List OptionSpec) (limit : Nat) (reading : Reading) (argument : String) :
    Except Diversion Reading :=
  if reading.wordsOnly then reading.takeWord limit argument
  else match argument.toList with
    | ['-', '-'] => .ok { reading with wordsOnly := true }
    | '-' :: '-' :: text => reading.takeLong options text
    | '-' :: letter :: rest => reading.takeLetters options (letter :: rest)
    | _ =>
      match reading.pending with
      | some name => reading.takeValue name argument
      | none => reading.takeWord limit argument

/-- Reads all arguments of a level. -/
def takeAll (options : List OptionSpec) (limit : Nat) (arguments : List String) :
    Except Diversion Reading := do
  (← arguments.foldlM (take options limit) {}).settled

end Reading

/-- A command with what it is told. -/
inductive Subcommand where
  | version
  | list
  | run (args : RunArgs)
  | config (project : Path) (format : String)
  deriving Repr

namespace Subcommand

/-- The names of the commands. -/
def names : List String := ["version", "list", "run", "config"]

/-- The options of a command beside the common ones. -/
def options (name : String) : List OptionSpec :=
  let project : OptionSpec := { name := "project", letter := some 'p', takesValue := true }
  let format : OptionSpec := { name := "format", letter := some 'f', takesValue := true }
  if name = "run" then
    [{ name := "crate-home", takesValue := true }, project,
      { name := "config", letter := some 'c', takesValue := true }, format]
  else if name = "config" then [project, format]
  else []

/-- How many words a command takes. -/
def wordLimit (name : String) : Nat := if name = "run" then 1 else 0

/-- The command of a name with what was read for it. -/
def ofReading (name : String) (reading : Reading) : Except Diversion Subcommand :=
  let project := (reading.values.lookup "project").getD "."
  let format := (reading.values.lookup "format").getD "text"
  match name, reading.words with
  | "version", [] => .ok .version
  | "list", [] => .ok .list
  | "config", [] => .ok (.config project format)
  | "run", [scenario] =>
    .ok (.run
      { scenario, project, format
        home := reading.values.lookup "crate-home"
        namedFile := reading.values.lookup "config" })
  | _, _ => .error .refused

end Subcommand

/-- What a line of arguments asks for. -/
inductive Request where
  /-- How the program is used. -/
  | help
  /-- The version under the name of the program or of a command. -/
  | versionOf (name : String)
  | refused
  | command (noColour : Bool) (command : Subcommand)
  deriving Repr

namespace Request

/-- The name of the program. -/
def programName : String := "decom"

/-- What a diversion at the level of a name comes to. -/
def ofDiversion (name : String) : Diversion → Request
  | .help => .help
  | .version => .versionOf name
  | .refused => .refused

/-- The commands about which help can be asked, a word for each level. -/
def helpFor : List String → Request
  | [] => .help
  | [name] => if name = "help" || Subcommand.names.contains name then .help else .refused
  | _ => .refused

/-- Reads the arguments of a command. -/
def ofCommand (noColour : Bool) (name : String) (arguments : List String) : Request :=
  match Reading.takeAll
      (Reading.commonOptions ++ Subcommand.options name) (Subcommand.wordLimit name)
      arguments with
  | .error diversion => .ofDiversion (programName ++ "-" ++ name) diversion
  | .ok reading =>
    match Subcommand.ofReading name reading with
    | .ok asked => .command (noColour || reading.flags.contains "no-color") asked
    | .error diversion => .ofDiversion programName diversion

/-- Reads arguments up to the command, after what was read before. -/
def ofArguments (reading : Reading) : List String → Request
  | [] => .refused
  | argument :: rest =>
    if !reading.wordsOnly && argument = "help" then helpFor rest
    else if !reading.wordsOnly && Subcommand.names.contains argument then
      ofCommand (reading.flags.contains "no-color") argument rest
    else match reading.take Reading.commonOptions 0 argument with
      | .ok reading => ofArguments reading rest
      | .error diversion => .ofDiversion programName diversion

/-- Reads arguments. -/
def parse (arguments : List String) : Request := ofArguments {} arguments

end Request

end GracefulStop.Command
