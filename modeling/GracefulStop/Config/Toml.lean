import GracefulStop.Config.Basic
import GracefulStop.Toml.Printer
import GracefulStop.Toml.Scalar

/-!
# Configurations as TOML

The text of a configuration, from which it loads again when that is the only layer. A field without
a value is left out, and so has its built-in value in the end.
-/

namespace GracefulStop.Config

/-- The entry of a field that may have no value. -/
def optionalEntry (name : String) : Option Toml → List (String × Toml)
  | some value => [(name, value)]
  | none => []

/-- A launch setting as a table. -/
def settingTable (setting : NodeSetting) : Toml :=
  .table [("key", .string setting.key), ("value", .string setting.value)]

/-- The tables of the sections. -/
def tomlEntries (config : Config) : List (String × Toml) :=
  [("cluster", .table (optionalEntry "crate_home" (config.cluster.home.map .string) ++
      [("host", .string config.cluster.host),
        ("port_range_start", .int config.cluster.portStart),
        ("port_range_end", .int config.cluster.portStop),
        ("run_dir", .string config.cluster.runDir),
        ("node_settings", .array (config.cluster.nodeSettings.map settingTable))])),
    ("retry", .table
      [("initial_backoff_ms", .int config.retry.initialBackoffMillis),
        ("multiplier", .float config.retry.multiplier),
        ("deadline_ms", .int config.retry.deadlineMillis)]),
    ("startup", .table
      [("max_attempts", .int config.startup.maxAttempts),
        ("start_timeout_secs", .int config.startup.startTimeoutSeconds)]),
    ("quorum", .table
      (("poll_interval_ms", .int config.quorum.pollIntervalMillis) ::
        optionalEntry "timeout_secs"
          (config.quorum.timeoutSeconds.map fun seconds => .int (Int.ofNat seconds)))),
    ("decommission", .table
      [("timeout_secs", .int config.decommission.timeoutSeconds),
        ("signal", .string config.decommission.signal)]),
    ("verify", .table
      [("poll_interval_ms", .int config.verify.pollIntervalMillis),
        ("deadline_secs", .int config.verify.deadlineSeconds)]),
    ("workload", .table
      [("concurrency_per_kind", .int config.workload.concurrencyPerKind),
        ("table", .string config.workload.table)])]

/-- The numbers of a configuration that may be too large for a text. -/
def wideNumbers (config : Config) : List Nat :=
  [config.retry.initialBackoffMillis, config.retry.deadlineMillis,
    config.startup.startTimeoutSeconds, config.quorum.pollIntervalMillis,
    config.quorum.timeoutSeconds.getD 0, config.decommission.timeoutSeconds,
    config.verify.pollIntervalMillis, config.verify.deadlineSeconds,
    config.workload.concurrencyPerKind]

/-- The text of a configuration; nothing if one of its numbers is too large. -/
def tomlText? (config : Config) : Option String :=
  if config.wideNumbers.all fun number => decide ((number : Int) ≤ Toml.greatestInt) then
    some (Toml.document config.tomlEntries)
  else none

end GracefulStop.Config
