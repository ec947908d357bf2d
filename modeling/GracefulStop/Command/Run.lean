import GracefulStop.Cluster.Launcher
import GracefulStop.Command.Basic

/-!
# The command that runs scenarios

What is asked for is checked first: the scenarios, the format of the report, the configuration, the
installation of the database and the signal. Only then are the scenarios run.
-/

namespace GracefulStop.Command

open Terminal (Style)

/-- What the command is told. -/
structure RunArgs where
  scenario : String
  home : Option Path := none
  project : Path := "."
  namedFile : Option Path := none
  format : String := "text"
  deriving DecidableEq, Repr, Inhabited

/-- What is to be run. -/
structure RunPlan where
  scenarios : List Builtin
  config : Config
  launcher : Launcher

/-- The scenarios that a word stands for. -/
def select (word : String) : Except CommandError (List Builtin) :=
  if Text.lowerAscii word = "all" then .ok Builtin.all
  else match Builtin.parse word with
    | .ok builtin => .ok [builtin]
    | .error reason => .error (.unknownScenario reason)

/-- The format of a report. -/
def checkFormat (format : String) : Except CommandError Unit :=
  if format = "text" || format = "json" then .ok ()
  else .error (.unknownFormat format "text or json")

/-- The configuration of a run; an installation that is named wins over the configured one. -/
def loadFor (context : CommandContext) (args : RunArgs) : Except CommandError Config :=
  match (context.loader args.project args.namedFile).load context.files context.environment with
  | .error error => .error (.load error)
  | .ok config =>
    .ok { config with cluster := { config.cluster with home := args.home.or config.cluster.home } }

/-- How a configuration starts nodes. -/
def launcherFor (context : CommandContext) (config : Config) : Except CommandError Launcher :=
  match config.cluster.home with
  | none => .error .noHome
  | some home =>
    let program := LaunchCommand.programOf home
    if !context.files.exists? program then .error (.missingProgram program)
    else
      match Signal.parse config.decommission.signal with
      | .error error => .error (.badSignal config.decommission.signal error)
      | .ok signal =>
        .ok
          { home, signal
            run := ⟨config.cluster.runDir⟩
            startTimeout := config.startup.startTimeout }

/-- What is to be run, if all is in order. -/
def plan (context : CommandContext) (args : RunArgs) : Except CommandError RunPlan := do
  let scenarios ← select args.scenario
  checkFormat args.format
  let config ← loadFor context args
  .ok { scenarios, config, launcher := ← launcherFor context config }

/-- The outcomes of a plan on a host, where `ask` answers requests to nodes. -/
def RunPlan.play {Rest : Type}
    (ask : Node → Request → Look → Premises Rest →
      Progress (Except QueryError Response) × Premises Rest)
    (draw : Draw Rest) (host : Host) (rest : Rest) (plan : RunPlan) : List Outcome :=
  let ports : PortPool := ⟨plan.config.cluster.portStart, plan.config.cluster.portStop, true⟩
  let run := Run.start ⟨host, [], rest⟩ ports
  let (outcomes, _) :=
    Builtin.runAll (plan.launcher.world ask draw) plan.config plan.scenarios none run
  outcomes.getD []

/-- The line that comes before a report. -/
def announcement (colours : Bool) (plan : RunPlan) : String :=
  "Running " ++ toString plan.scenarios.length ++ " scenario(s), run directory " ++
    Style.code.paint colours plan.config.cluster.runDir ++ "\n"

/-- The report of a run. -/
def reportOf (colours : Bool) (format : String) (plan : RunPlan) (outcomes : List Outcome) :
    Written :=
  if format = "json" then { out := (Json.array (outcomes.map Outcome.json)).pretty ++ "\n" }
  else
    let report := Outcome.report colours outcomes
    { report with out := announcement colours plan ++ "\n" ++ report.out }

/-- Runs scenarios and reports what came of them, where `play` gives the outcomes of a plan. -/
def run (context : CommandContext) (play : RunPlan → List Outcome) (args : RunArgs) :
    CommandResult :=
  match plan context args with
  | .error error => .failed error
  | .ok plan =>
    let outcomes := play plan
    let failed := Outcome.failures outcomes
    { written := reportOf context.colours args.format plan outcomes
      error := if failed = 0 then none else some (.failures failed outcomes.length) }

end GracefulStop.Command
