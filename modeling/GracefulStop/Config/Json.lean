import GracefulStop.Config.Basic
import GracefulStop.Json.Decode
import GracefulStop.Json.Printer

/-!
# Configurations in JSON

Every field of every section may be left out, and then has its built-in value; the entries of
the launch settings have to be whole.
-/

namespace GracefulStop

open Json (Tree)
open Json.Tree

/-- The greatest numbers of 16, 32 and 64 bits. -/
def greatest16 : Nat := 2 ^ 16 - 1
def greatest32 : Nat := 2 ^ 32 - 1
def greatest64 : Nat := 2 ^ 64 - 1

/-- Reads a launch setting. -/
def NodeSetting.ofTree? (tree : Tree) : Option NodeSetting := do
  match ← tree.fields? ["key", "value"] with
  | [key, value] => some ⟨← key.required string?, ← value.required string?⟩
  | _ => none

/-- Reads where nodes come from. -/
def ClusterSettings.ofTree? (tree : Tree) : Option ClusterSettings := do
  let default : ClusterSettings := {}
  let fields ← tree.fields?
    ["crate_home", "host", "port_range_start", "port_range_end", "run_dir", "node_settings"]
  match fields with
  | [home, host, portStart, portStop, runDir, nodeSettings] =>
    some
      { home := ← home.orElse default.home (optional? string?)
        host := ← host.orElse default.host string?
        portStart := ← portStart.orElse default.portStart (nat? greatest16)
        portStop := ← portStop.orElse default.portStop (nat? greatest16)
        runDir := ← runDir.orElse default.runDir string?
        nodeSettings := ←
          nodeSettings.orElse default.nodeSettings (list? NodeSetting.ofTree?) }
  | _ => none

/-- Reads how statements are repeated. -/
def RetrySettings.ofTree? (tree : Tree) : Option RetrySettings := do
  let default : RetrySettings := {}
  match ← tree.fields? ["initial_backoff_ms", "multiplier", "deadline_ms"] with
  | [initialBackoff, multiplier, deadline] =>
    some
      { initialBackoffMillis := ←
          initialBackoff.orElse default.initialBackoffMillis (nat? greatest64)
        multiplier := ← multiplier.orElse default.multiplier float?
        deadlineMillis := ← deadline.orElse default.deadlineMillis (nat? greatest64) }
  | _ => none

/-- Reads how nodes are started. -/
def StartupSettings.ofTree? (tree : Tree) : Option StartupSettings := do
  let default : StartupSettings := {}
  match ← tree.fields? ["max_attempts", "start_timeout_secs"] with
  | [maxAttempts, startTimeout] =>
    some
      { maxAttempts := ← maxAttempts.orElse default.maxAttempts (nat? greatest32)
        startTimeoutSeconds := ←
          startTimeout.orElse default.startTimeoutSeconds (nat? greatest64) }
  | _ => none

/-- Reads how a cluster is awaited. -/
def QuorumSettings.ofTree? (tree : Tree) : Option QuorumSettings := do
  let default : QuorumSettings := {}
  match ← tree.fields? ["poll_interval_ms", "timeout_secs"] with
  | [pollInterval, timeout] =>
    some
      { pollIntervalMillis := ←
          pollInterval.orElse default.pollIntervalMillis (nat? greatest64)
        timeoutSeconds := ← timeout.orElse default.timeoutSeconds (optional? (nat? greatest64)) }
  | _ => none

/-- Reads how a node is asked to leave. -/
def DecommissionSettings.ofTree? (tree : Tree) : Option DecommissionSettings := do
  let default : DecommissionSettings := {}
  match ← tree.fields? ["timeout_secs", "signal"] with
  | [timeout, signal] =>
    some
      { timeoutSeconds := ← timeout.orElse default.timeoutSeconds (nat? greatest64)
        signal := ← signal.orElse default.signal string? }
  | _ => none

/-- Reads how the state of the shards is awaited. -/
def VerifySettings.ofTree? (tree : Tree) : Option VerifySettings := do
  let default : VerifySettings := {}
  match ← tree.fields? ["poll_interval_ms", "deadline_secs"] with
  | [pollInterval, deadline] =>
    some
      { pollIntervalMillis := ←
          pollInterval.orElse default.pollIntervalMillis (nat? greatest64)
        deadlineSeconds := ← deadline.orElse default.deadlineSeconds (nat? greatest64) }
  | _ => none

/-- Reads what load is made. -/
def WorkloadSettings.ofTree? (tree : Tree) : Option WorkloadSettings := do
  let default : WorkloadSettings := {}
  match ← tree.fields? ["concurrency_per_kind", "table"] with
  | [concurrency, table] =>
    some
      { concurrencyPerKind := ←
          concurrency.orElse default.concurrencyPerKind (nat? greatest64)
        table := ← table.orElse default.table string? }
  | _ => none

/-- Reads a configuration. -/
def Config.ofTree? (tree : Tree) : Option Config := do
  let fields ← tree.fields?
    ["cluster", "retry", "startup", "quorum", "decommission", "verify", "workload"]
  match fields with
  | [cluster, retry, startup, quorum, decommission, verify, workload] =>
    some
      { cluster := ← cluster.orElse {} ClusterSettings.ofTree?
        retry := ← retry.orElse {} RetrySettings.ofTree?
        startup := ← startup.orElse {} StartupSettings.ofTree?
        quorum := ← quorum.orElse {} QuorumSettings.ofTree?
        decommission := ← decommission.orElse {} DecommissionSettings.ofTree?
        verify := ← verify.orElse {} VerifySettings.ofTree?
        workload := ← workload.orElse {} WorkloadSettings.ofTree? }
  | _ => none

/-- A value or nothing as JSON. -/
def Json.ofOption {Value : Type} (write : Value → Json) : Option Value → Json
  | some value => write value
  | none => .null

/-- A launch setting as JSON. -/
def NodeSetting.json (setting : NodeSetting) : Json :=
  .object [("key", .string setting.key), ("value", .string setting.value)]

/-- A configuration as JSON, the sections and fields in the order of their declaration. -/
def Config.json (config : Config) : Json :=
  .object
    [("cluster", .object
        [("crate_home", Json.ofOption .string config.cluster.home),
          ("host", .string config.cluster.host),
          ("port_range_start", .int config.cluster.portStart),
          ("port_range_end", .int config.cluster.portStop),
          ("run_dir", .string config.cluster.runDir),
          ("node_settings", .array (config.cluster.nodeSettings.map NodeSetting.json))]),
      ("retry", .object
        [("initial_backoff_ms", .int config.retry.initialBackoffMillis),
          ("multiplier", .float config.retry.multiplier),
          ("deadline_ms", .int config.retry.deadlineMillis)]),
      ("startup", .object
        [("max_attempts", .int config.startup.maxAttempts),
          ("start_timeout_secs", .int config.startup.startTimeoutSeconds)]),
      ("quorum", .object
        [("poll_interval_ms", .int config.quorum.pollIntervalMillis),
          ("timeout_secs", Json.ofOption (fun seconds => .int (Int.ofNat seconds))
            config.quorum.timeoutSeconds)]),
      ("decommission", .object
        [("timeout_secs", .int config.decommission.timeoutSeconds),
          ("signal", .string config.decommission.signal)]),
      ("verify", .object
        [("poll_interval_ms", .int config.verify.pollIntervalMillis),
          ("deadline_secs", .int config.verify.deadlineSeconds)]),
      ("workload", .object
        [("concurrency_per_kind", .int config.workload.concurrencyPerKind),
          ("table", .string config.workload.table)])]

end GracefulStop
