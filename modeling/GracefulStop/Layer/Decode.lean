import GracefulStop.Config.Json
import GracefulStop.Layer.Value

/-!
# Configurations from layers

A configuration becomes a table of values, the lowest layer, and is read back from what all layers
make of it. A field that no layer has keeps its built-in value.
-/

namespace GracefulStop

open Layer (Value)

/-- The value of a field that may be missing. -/
def Layer.Value.orElse {Wanted : Type} (fallback : Wanted) (read : Value → Option Wanted) :
    Option Value → Option Wanted
  | some value => read value
  | none => some fallback

/-- Reads a launch setting, both parts of which have to be there. -/
def NodeSetting.ofValue? (value : Value) : Option NodeSetting := do
  match ← value.fields? ["key", "value"] with
  | [some key, some value] => some ⟨← key.text?, ← value.text?⟩
  | _ => none

/-- Reads where nodes come from. -/
def ClusterSettings.ofValue? (value : Value) : Option ClusterSettings := do
  let default : ClusterSettings := {}
  let fields ← value.fields?
    ["crate_home", "host", "port_range_start", "port_range_end", "run_dir", "node_settings"]
  match fields with
  | [home, host, portStart, portStop, runDir, nodeSettings] =>
    some
      { home := ← Value.orElse default.home (Value.optional? Value.text?) home
        host := ← Value.orElse default.host Value.text? host
        portStart := ← Value.orElse default.portStart (Value.natUpTo? greatest16) portStart
        portStop := ← Value.orElse default.portStop (Value.natUpTo? greatest16) portStop
        runDir := ← Value.orElse default.runDir Value.text? runDir
        nodeSettings := ←
          Value.orElse default.nodeSettings (Value.list? NodeSetting.ofValue?) nodeSettings }
  | _ => none

/-- Reads how statements are repeated. -/
def RetrySettings.ofValue? (value : Value) : Option RetrySettings := do
  let default : RetrySettings := {}
  match ← value.fields? ["initial_backoff_ms", "multiplier", "deadline_ms"] with
  | [initialBackoff, multiplier, deadline] =>
    some
      { initialBackoffMillis := ←
          Value.orElse default.initialBackoffMillis Value.nat? initialBackoff
        multiplier := ← Value.orElse default.multiplier Value.float? multiplier
        deadlineMillis := ← Value.orElse default.deadlineMillis Value.nat? deadline }
  | _ => none

/-- Reads how nodes are started. -/
def StartupSettings.ofValue? (value : Value) : Option StartupSettings := do
  let default : StartupSettings := {}
  match ← value.fields? ["max_attempts", "start_timeout_secs"] with
  | [maxAttempts, startTimeout] =>
    some
      { maxAttempts := ← Value.orElse default.maxAttempts (Value.natUpTo? greatest32) maxAttempts
        startTimeoutSeconds := ← Value.orElse default.startTimeoutSeconds Value.nat? startTimeout }
  | _ => none

/-- Reads how a cluster is awaited. -/
def QuorumSettings.ofValue? (value : Value) : Option QuorumSettings := do
  let default : QuorumSettings := {}
  match ← value.fields? ["poll_interval_ms", "timeout_secs"] with
  | [pollInterval, timeout] =>
    some
      { pollIntervalMillis := ← Value.orElse default.pollIntervalMillis Value.nat? pollInterval
        timeoutSeconds := ←
          Value.orElse default.timeoutSeconds (Value.optional? Value.nat?) timeout }
  | _ => none

/-- Reads how a node is asked to leave. -/
def DecommissionSettings.ofValue? (value : Value) : Option DecommissionSettings := do
  let default : DecommissionSettings := {}
  match ← value.fields? ["timeout_secs", "signal"] with
  | [timeout, signal] =>
    some
      { timeoutSeconds := ← Value.orElse default.timeoutSeconds Value.nat? timeout
        signal := ← Value.orElse default.signal Value.text? signal }
  | _ => none

/-- Reads how the state of the shards is awaited. -/
def VerifySettings.ofValue? (value : Value) : Option VerifySettings := do
  let default : VerifySettings := {}
  match ← value.fields? ["poll_interval_ms", "deadline_secs"] with
  | [pollInterval, deadline] =>
    some
      { pollIntervalMillis := ← Value.orElse default.pollIntervalMillis Value.nat? pollInterval
        deadlineSeconds := ← Value.orElse default.deadlineSeconds Value.nat? deadline }
  | _ => none

/-- Reads what load is made. -/
def WorkloadSettings.ofValue? (value : Value) : Option WorkloadSettings := do
  let default : WorkloadSettings := {}
  match ← value.fields? ["concurrency_per_kind", "table"] with
  | [concurrency, table] =>
    some
      { concurrencyPerKind := ← Value.orElse default.concurrencyPerKind Value.nat? concurrency
        table := ← Value.orElse default.table Value.text? table }
  | _ => none

namespace Config

/-- Reads a configuration. -/
def ofValue? (value : Value) : Option Config := do
  let fields ← value.fields?
    ["cluster", "retry", "startup", "quorum", "decommission", "verify", "workload"]
  match fields with
  | [cluster, retry, startup, quorum, decommission, verify, workload] =>
    some
      { cluster := ← Value.orElse {} ClusterSettings.ofValue? cluster
        retry := ← Value.orElse {} RetrySettings.ofValue? retry
        startup := ← Value.orElse {} StartupSettings.ofValue? startup
        quorum := ← Value.orElse {} QuorumSettings.ofValue? quorum
        decommission := ← Value.orElse {} DecommissionSettings.ofValue? decommission
        verify := ← Value.orElse {} VerifySettings.ofValue? verify
        workload := ← Value.orElse {} WorkloadSettings.ofValue? workload }
  | _ => none

/-- A value or nothing as the value of a layer. -/
def optionalValue {Given : Type} (write : Given → Value) : Option Given → Value
  | some value => write value
  | none => .absent

/-- A launch setting as the value of a layer. -/
def settingValue (setting : NodeSetting) : Value :=
  .table [("key", .text setting.key), ("value", .text setting.value)]

/-- A configuration as a layer, which names every field. -/
def layer (config : Config) : List (String × Value) :=
  [("cluster", .table
      [("crate_home", optionalValue .text config.cluster.home),
        ("host", .text config.cluster.host),
        ("port_range_start", .int config.cluster.portStart),
        ("port_range_end", .int config.cluster.portStop),
        ("run_dir", .text config.cluster.runDir),
        ("node_settings", .list (config.cluster.nodeSettings.map settingValue))]),
    ("retry", .table
      [("initial_backoff_ms", .int config.retry.initialBackoffMillis),
        ("multiplier", .float config.retry.multiplier),
        ("deadline_ms", .int config.retry.deadlineMillis)]),
    ("startup", .table
      [("max_attempts", .int config.startup.maxAttempts),
        ("start_timeout_secs", .int config.startup.startTimeoutSeconds)]),
    ("quorum", .table
      [("poll_interval_ms", .int config.quorum.pollIntervalMillis),
        ("timeout_secs", optionalValue (fun seconds => .int (Int.ofNat seconds))
          config.quorum.timeoutSeconds)]),
    ("decommission", .table
      [("timeout_secs", .int config.decommission.timeoutSeconds),
        ("signal", .text config.decommission.signal)]),
    ("verify", .table
      [("poll_interval_ms", .int config.verify.pollIntervalMillis),
        ("deadline_secs", .int config.verify.deadlineSeconds)]),
    ("workload", .table
      [("concurrency_per_kind", .int config.workload.concurrencyPerKind),
        ("table", .text config.workload.table)])]

end Config

end GracefulStop
