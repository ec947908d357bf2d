import GracefulStop.Config.Json
import GracefulStop.Config.Load
import GracefulStop.Scenario.Error

/-!
# Errors in reports

A report names the kind of an error and gives its text. The kind of a scenario's error names the
part that failed and the error of that part.
-/

namespace GracefulStop

/-- An error in a report. -/
def Json.ofError (name message : String) : Json :=
  .object [("error", .string name), ("message", .string message)]

/-- A result in a report. -/
def Json.ofResult {Error Value : Type} (failed : Error → Json) (done : Value → Json) :
    Except Error Value → Json
  | .ok value => done value
  | .error error => failed error

/-- The name of a kind of error. -/
def QueryError.name : QueryError → String
  | sql .. => "Sql"
  | transport .. => "Transport"
  | decode .. => "Decode"
  | invalidEndpoint .. => "InvalidEndpoint"

/-- The error code in a report, of errors that may have one. -/
def QueryError.codeMembers : QueryError → List (String × Json)
  | sql code _ => [("code", Json.ofOption .int code)]
  | _ => []

/-- An error in a report. -/
def QueryError.json (error : QueryError) : Json :=
  .object ([("error", .string error.name), ("message", .string error.message)] ++
    error.codeMembers)

/-- The name of a kind of error. -/
def ClusterError.name : ClusterError → String
  | io .. => "Io"
  | invalidNodeCount .. => "InvalidNodeCount"
  | portsExhausted .. => "PortsExhausted"
  | nodeNotFound .. => "NodeNotFound"
  | nodeAlreadyRunning .. => "NodeAlreadyRunning"
  | nodeNotRunning .. => "NodeNotRunning"
  | nodeStartFailed .. => "NodeStartFailed"
  | startupFailed .. => "StartupFailed"
  | spawnFailed .. => "SpawnError"
  | signalFailed .. => "Signal"
  | unsupportedSignal .. => "UnsupportedSignal"
  | decommissionTimeout .. => "DecommissionTimeout"
  | quorumTimeout .. => "QuorumTimeout"
  | noLiveNode => "NoLiveNode"
  | query .. => "Query"
  | manifest .. => "Manifest"

/-- An error in a report. -/
def ClusterError.json (error : ClusterError) : Json := .ofError error.name error.message

/-- The name of a kind of error. -/
def VerifyError.name : VerifyError → String
  | timeout .. => "Timeout"
  | query .. => "Query"

/-- An error in a report. -/
def VerifyError.json (error : VerifyError) : Json := .ofError error.name error.message

/-- The name of a kind of error. -/
def ScenarioError.name : ScenarioError → String
  | cluster error => "Cluster:" ++ error.name
  | query error => "Query:" ++ error.name
  | verify error => "Verify:" ++ error.name
  | notProvisioned => "NotProvisioned"

/-- An error in a report. -/
def ScenarioError.json (error : ScenarioError) : Json := .ofError error.name error.message

/-- The name of a kind of error. -/
def ConfigError.name : ConfigError → String
  | emptyPortRange .. => "EmptyPortRange"
  | zeroBackoff => "ZeroBackoff"
  | invalidMultiplier .. => "InvalidMultiplier"
  | zeroCount .. => "ZeroCount"

/-- An error in a report. -/
def ConfigError.json (error : ConfigError) : Json := .ofError error.name error.message

/-- The kind of an error. -/
def LoadError.name : LoadError → String
  | build => "Build"
  | decode => "Deserialize"
  | invalid error => error.name

/-- An error with its kind. -/
def LoadError.json (error : LoadError) : Json := .ofError error.name error.message

end GracefulStop
