import GracefulStop.Command.Arguments
import GracefulStop.Command.Show
import GracefulStop.Json.Access

/-!
# Performing requests

What a line of arguments comes to: what is written to the two streams, and an exit code.
-/

namespace GracefulStop.Command

/-- What the program writes and its exit code. -/
structure Performance where
  written : Written
  code : Nat
  deriving DecidableEq, Repr

/-- How the program is used. -/
def usage : String :=
  "Usage: decom [--no-color] <COMMAND>\n\n" ++
    "Commands:\n" ++
    "  version  Show version information\n" ++
    "  list     List the built-in scenarios\n" ++
    "  run      Run a scenario, or `all` of them\n" ++
    "  config   Show the effective configuration\n"

/-- What surrounds the program beside files and variables. -/
structure Setting where
  architecture : String
  system : String
  /-- The outcomes of a plan. -/
  play : RunPlan → List Outcome

/-- Does a command. -/
def carryOut (setting : Setting) (context : CommandContext) : Subcommand → CommandResult
  | .version => version setting.architecture setting.system
  | .list => list context
  | .run args => run context setting.play args
  | .config project format => config context project format

/-- Does what arguments ask for. Colours are wanted unless an option or a variable says otherwise.
-/
def perform (setting : Setting) (files : FileTree) (environment : Environment)
    (arguments : List String) : Performance :=
  match Request.parse arguments with
  | .help => ⟨{ out := usage }, 0⟩
  | .versionOf name => ⟨{ out := name ++ " " ++ programVersion ++ "\n" }, 0⟩
  | .refused => ⟨{ err := usage }, 2⟩
  | .command noColour command =>
    let colours := !noColour && (environment.lookup "NO_COLOR").isNone
    let result := carryOut setting { files, environment, colours } command
    ⟨{ result.written with err := result.errorText }, result.code⟩

/-- The variables that may tell something: where configurations are, whether colours are wanted, and
one for each field of a configuration. -/
def variableNames : List String :=
  let stem := ({ projectDir := "" } : ConfigLoader).stem
  ["HOME", "XDG_CONFIG_HOME", "NO_COLOR"] ++
    ({} : Config).json.members.flatMap fun (part, fields) =>
      fields.members.map fun (field, _) =>
        Text.upperAscii (stem ++ "_" ++ part ++ "__" ++ field)

/-- The paths at which a request looks for files, as far as is known from the files that were found.
-/
def lookups (files : FileTree) (environment : Environment) (arguments : List String) : List Path :=
  let context : CommandContext := { files, environment, colours := false }
  match Request.parse arguments with
  | .command _ (.run args) =>
    (context.loader args.project args.namedFile).candidates ++
      match loadFor context args with
      | .ok config => (config.cluster.home.map LaunchCommand.programOf).toList
      | .error _ => []
  | .command _ (.config project _) => (context.loader project none).candidates
  | _ => []

end GracefulStop.Command
