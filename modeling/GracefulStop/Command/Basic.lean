import GracefulStop.Config.Load
import GracefulStop.Report.Outcomes

/-!
# Commands

A command writes its report and may then fail. It finds files and variables in its surroundings, and
is told whether colours are wanted.
-/

namespace GracefulStop

/-- Why a command failed. -/
inductive CommandError where
  | unknownScenario (reason : String)
  | unknownFormat (format known : String)
  | load (error : LoadError)
  /-- A number that the format cannot hold. -/
  | outOfRange
  | noHome
  | missingProgram (path : Path)
  | badSignal (name : String) (error : ClusterError)
  | failures (failed total : Nat)
  deriving Repr

namespace CommandError

/-- The text of an error. -/
def message : CommandError → String
  | unknownScenario reason => reason ++ ". Run 'decom list' to see available scenarios."
  | unknownFormat format known => "Unknown format '" ++ format ++ "'. Use " ++ known ++ "."
  | load _ => "Failed to load configuration"
  | outOfRange => "out-of-range value for u64 type"
  | noHome =>
    "No database distribution configured. Pass --crate-home, set cluster.crate_home in " ++
      "decom.toml, or export DECOM_CLUSTER__CRATE_HOME."
  | missingProgram path => path ++ " does not exist"
  | badSignal name _ => "Invalid decommission signal '" ++ name ++ "'"
  | failures failed total => Outcome.failureText failed total

/-- The texts of the errors behind an error, the nearest first. -/
def causes : CommandError → List String
  | load error => [error.message]
  | badSignal _ error => error.message :: error.causes
  | _ => []

/-- The lines of a cause, the first with a mark and the others below it. -/
def causeText (mark : String) (cause : String) : String :=
  let indent := String.ofList (List.replicate mark.length ' ')
  "\n" ++ mark ++ String.intercalate ("\n" ++ indent) (cause.splitOn "\n")

/-- The mark of a cause among several: its number at the end of five columns. -/
def numberMark (index : Nat) : String :=
  let digits := toString index
  String.ofList (List.replicate (5 - digits.length) ' ') ++ digits ++ ": "

/-- The text of an error and of all that stand behind it. -/
def report (error : CommandError) : String :=
  "Error: " ++ error.message ++
    match error.causes with
    | [] => "\n"
    | [cause] => "\n\nCaused by:" ++ causeText "    " cause ++ "\n"
    | causes =>
      "\n\nCaused by:" ++
        String.join
          (causes.zipIdx.map fun (cause, index) => causeText (numberMark index) cause) ++ "\n"

end CommandError

/-- What came of a command. -/
structure CommandResult where
  written : Written := {}
  error : Option CommandError := none

namespace CommandResult

/-- The result of a command that has failed before it wrote anything. -/
def failed (error : CommandError) : CommandResult := { error := some error }

/-- The exit code of a command. -/
def code (result : CommandResult) : Nat := if result.error.isSome then 1 else 0

/-- All that is written to the second stream. -/
def errorText (result : CommandResult) : String :=
  result.written.err ++ (result.error.map CommandError.report).getD ""

end CommandResult

/-- What a command finds and is told. -/
structure CommandContext where
  files : FileTree
  environment : Environment
  colours : Bool

namespace CommandContext

/-- A variable's value, if it is not empty. -/
def value? (context : CommandContext) (name : String) : Option String :=
  (context.environment.lookup name).filter (· != "")

/-- The directory of the user's configurations: the one that is named by an absolute path, or else
one in the user's home. -/
def configHome? (context : CommandContext) : Option Path :=
  match (context.value? "XDG_CONFIG_HOME").filter Path.isAbsolute with
  | some path => some path
  | none => (context.value? "HOME").map fun home => Path.join home ".config"

/-- The configuration file of the user. -/
def userFile? (context : CommandContext) : Option Path :=
  context.configHome?.map fun path => Path.join (Path.join path "decom") "config.toml"

/-- Looks for the configuration of a project. -/
def loader (context : CommandContext) (project : Path) (namedFile : Option Path) : ConfigLoader :=
  { projectDir := project, userFile := context.userFile?, namedFile }

end CommandContext

end GracefulStop
