import GracefulStop.Command.Basic
import GracefulStop.Config.Json
import GracefulStop.Config.Toml

/-!
# Commands that show something

The version of the program, the scenarios that come with it, and the configuration of a project.
-/

namespace GracefulStop.Command

open Terminal (Style)

/-- The version of the program. -/
def programVersion : String := "0.3.0"

/-- Shows the version and what the program was made for. -/
def version (architecture system : String) : CommandResult where
  written.out :=
    "decom " ++ programVersion ++ "\n\n" ++
      "Graceful decommission test runner for sharded SQL clusters.\n\n" ++
      "Build info:\n" ++
      "  Target:       " ++ architecture ++ "\n" ++
      "  OS:           " ++ system ++ "\n"

/-- Shows the scenarios. -/
def list (context : CommandContext) : CommandResult where
  written.out :=
    (infoTable (Builtin.all.map fun builtin => (builtin.name, builtin.description))).text ++ "\n" ++
      Terminal.hintLine context.colours
        "Run one with 'decom run <name>', or all of them with 'decom run all'"

/-- A titled part of the text of a configuration. -/
def part (title : String) (lines : List String) : String :=
  title ++ ":\n" ++ String.join (lines.map fun line => "  " ++ line ++ "\n")

/-- A field of a part. -/
def field (name value : String) : String := name ++ ": " ++ value

/-- Where a configuration comes from. -/
def sourceLines (colours : Bool) : List (ConfigSource × Path) → List String
  | [] => [Style.muted.paint colours "built-in defaults only"]
  | sources => sources.map fun (source, path) => field source.label (Style.code.paint colours path)

/-- The parts of the text of a configuration. -/
def configSections (colours : Bool) (sources : List (ConfigSource × Path)) (config : Config) :
    List String :=
  [part "Sources" (sourceLines colours sources),
    part "Cluster"
      ([field "Distribution" (match config.cluster.home with
          | some home => Style.code.paint colours home
          | none => Style.muted.paint colours "not set"),
        field "Host" config.cluster.host,
        field "Ports"
          (toString config.cluster.portStart ++ ".." ++ toString config.cluster.portStop),
        field "Run directory" config.cluster.runDir] ++
        config.cluster.nodeSettings.map fun setting =>
          NodeSpec.settingArg setting.key setting.value),
    part "Retry"
      [field "Initial backoff" config.retry.initialBackoff.text,
        field "Multiplier" (Decimal.Style.plain.write config.retry.multiplier),
        field "Deadline" config.retry.deadline.text],
    part "Startup"
      [field "Attempts" (toString config.startup.maxAttempts),
        field "Timeout" config.startup.startTimeout.text],
    part "Quorum"
      [field "Poll interval" config.quorum.pollInterval.text,
        field "Timeout" ((config.quorum.timeout.map Duration.text).getD "unbounded")],
    part "Decommission"
      [field "Signal" config.decommission.signal,
        field "Timeout" config.decommission.timeout.text],
    part "Verify"
      [field "Poll interval" config.verify.pollInterval.text,
        field "Deadline" config.verify.deadline.text],
    part "Workload"
      [field "Table" config.workload.table,
        field "Workers per kind" (toString config.workload.concurrencyPerKind)]]

/-- The text of a configuration and of where it comes from. -/
def configText (colours : Bool) (sources : List (ConfigSource × Path)) (config : Config) : String :=
  Style.header.paint colours "Decom Configuration" ++ "\n===================\n\n" ++
    String.intercalate "\n" (configSections colours sources config)

/-- Shows the configuration of a project in a format. -/
def config (context : CommandContext) (project : Path) (format : String) : CommandResult :=
  let loader := context.loader project none
  match loader.load context.files context.environment with
  | .error error => .failed (.load error)
  | .ok config =>
    match format with
    | "json" => { written.out := config.json.pretty ++ "\n" }
    | "toml" =>
      match config.tomlText? with
      | some text => { written.out := text ++ "\n" }
      | none => .failed .outOfRange
    | "text" =>
      { written.out := configText context.colours (loader.sources context.files) config }
    | other => .failed (.unknownFormat other "text, json or toml")

end GracefulStop.Command
