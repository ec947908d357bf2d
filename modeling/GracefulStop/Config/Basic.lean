import GracefulStop.Decimal.Notation
import GracefulStop.Duration
import GracefulStop.KeyMap
import GracefulStop.Path

/-!
# Configuration

What a run can be told: where the nodes come from and how they are addressed, how patient
it is, and what load it makes. Every field has a built-in value. A configuration that could
not drive a run is refused by `Config.validate`, which names the first fault.
-/

namespace GracefulStop

/-- A setting that nodes are launched with. -/
structure NodeSetting where
  key : String
  value : String
  deriving DecidableEq, Repr, Inhabited

/-- Where nodes come from and how they are addressed. -/
structure ClusterSettings where
  /-- An unpacked installation of the database, if one is named. -/
  home : Option Path := none
  host : String := "127.0.0.1"
  portStart : Nat := 42000
  /-- The end of the ports, itself not one of them. -/
  portStop : Nat := 44000
  runDir : Path := ".decom/runs"
  nodeSettings : List NodeSetting :=
    [⟨"cluster.routing.allocation.disk.watermark.low", "100k"⟩,
      ⟨"cluster.routing.allocation.disk.watermark.high", "10k"⟩,
      ⟨"cluster.routing.allocation.disk.watermark.flood_stage", "1k"⟩]
  deriving DecidableEq, Repr, Inhabited

/-- How statements are repeated that meet a cluster state out of date. -/
structure RetrySettings where
  initialBackoffMillis : Nat := 10
  multiplier : Float := 2.0
  deadlineMillis : Nat := 10500
  deriving Repr, Inhabited

/-- How nodes are started. -/
structure StartupSettings where
  maxAttempts : Nat := 3
  startTimeoutSeconds : Nat := 60
  deriving DecidableEq, Repr, Inhabited

/-- How a cluster is awaited. -/
structure QuorumSettings where
  pollIntervalMillis : Nat := 500
  /-- Nothing waits for ever. -/
  timeoutSeconds : Option Nat := some 120
  deriving DecidableEq, Repr, Inhabited

/-- How a node is asked to leave. -/
structure DecommissionSettings where
  timeoutSeconds : Nat := 60
  signal : String := "SIGUSR2"
  deriving DecidableEq, Repr, Inhabited

/-- How the state of the shards is awaited. -/
structure VerifySettings where
  pollIntervalMillis : Nat := 250
  deadlineSeconds : Nat := 30
  deriving DecidableEq, Repr, Inhabited

/-- What load is made. -/
structure WorkloadSettings where
  concurrencyPerKind : Nat := 4
  table : String := "t1"
  deriving DecidableEq, Repr, Inhabited

/-- All that a run can be told. -/
structure Config where
  cluster : ClusterSettings := {}
  retry : RetrySettings := {}
  startup : StartupSettings := {}
  quorum : QuorumSettings := {}
  decommission : DecommissionSettings := {}
  verify : VerifySettings := {}
  workload : WorkloadSettings := {}
  deriving Repr, Inhabited

/-- The first sleep between two attempts of a statement. -/
def RetrySettings.initialBackoff (settings : RetrySettings) : Duration :=
  .ofMillis settings.initialBackoffMillis

/-- The time that the sleeps between attempts may take. -/
def RetrySettings.deadline (settings : RetrySettings) : Duration :=
  .ofMillis settings.deadlineMillis

/-- How long one attempt to start a node may take. -/
def StartupSettings.startTimeout (settings : StartupSettings) : Duration :=
  .ofSeconds settings.startTimeoutSeconds

/-- The time between two looks at the members. -/
def QuorumSettings.pollInterval (settings : QuorumSettings) : Duration :=
  .ofMillis settings.pollIntervalMillis

/-- How long the members are awaited. -/
def QuorumSettings.timeout (settings : QuorumSettings) : Option Duration :=
  settings.timeoutSeconds.map .ofSeconds

/-- How long a node may take to leave. -/
def DecommissionSettings.timeout (settings : DecommissionSettings) : Duration :=
  .ofSeconds settings.timeoutSeconds

/-- The time between two looks at the shards. -/
def VerifySettings.pollInterval (settings : VerifySettings) : Duration :=
  .ofMillis settings.pollIntervalMillis

/-- How long a state of the shards is awaited. -/
def VerifySettings.deadline (settings : VerifySettings) : Duration :=
  .ofSeconds settings.deadlineSeconds

/-- The launch settings by key, of equal keys the last. -/
def ClusterSettings.nodeSettingsMap (settings : ClusterSettings) : KeyMap String :=
  KeyMap.ofList (settings.nodeSettings.map fun setting => (setting.key, setting.value))

/-- Why a configuration cannot drive a run. -/
inductive ConfigError where
  | emptyPortRange (start stop : Nat)
  /-- A backoff of zero would never grow. -/
  | zeroBackoff
  | invalidMultiplier (multiplier : Float)
  /-- A field that has to allow at least one. -/
  | zeroCount (field : String)
  deriving Repr

/-- The text of an error. -/
def ConfigError.message : ConfigError → String
  | emptyPortRange start stop =>
    "port range " ++ toString start ++ ".." ++ toString stop ++ " is empty"
  | zeroBackoff => "retry.initial_backoff_ms must be >= 1"
  | invalidMultiplier multiplier =>
    "retry.multiplier must be finite and >= 1.0, got " ++ Decimal.Style.plain.write multiplier
  | zeroCount field => field ++ " must be >= 1"

namespace Config

/-- A configuration for clusters that answer at once: short sleeps and short deadlines. -/
def fast : Config where
  retry := { initialBackoffMillis := 1, deadlineMillis := 500 }
  quorum := { pollIntervalMillis := 10, timeoutSeconds := some 5 }
  decommission := { timeoutSeconds := 5 }
  verify := { pollIntervalMillis := 10, deadlineSeconds := 5 }

/-- A path of the configuration seen from a directory. -/
def resolvePath (base path : Path) : Path :=
  if Path.isAbsolute path then path else Path.join base path

/-- The configuration with its relative paths seen from a directory. -/
def resolvePaths (config : Config) (base : Path) : Config :=
  { config with
    cluster :=
      { config.cluster with
        runDir := resolvePath base config.cluster.runDir
        home := config.cluster.home.map (resolvePath base) } }

/-- Whether a factor lets backoffs grow or stay. -/
def isGrowthFactor (multiplier : Float) : Bool := multiplier.isFinite && !(multiplier < 1.0)

/-- Checks what the types cannot say. -/
def validate (config : Config) : Except ConfigError Unit :=
  if config.cluster.portStop ≤ config.cluster.portStart then
    .error (.emptyPortRange config.cluster.portStart config.cluster.portStop)
  else if config.retry.initialBackoffMillis = 0 then .error .zeroBackoff
  else if !isGrowthFactor config.retry.multiplier then
    .error (.invalidMultiplier config.retry.multiplier)
  else if config.startup.maxAttempts = 0 then .error (.zeroCount "startup.max_attempts")
  else if config.workload.concurrencyPerKind = 0 then
    .error (.zeroCount "workload.concurrency_per_kind")
  else .ok ()

end Config

end GracefulStop
