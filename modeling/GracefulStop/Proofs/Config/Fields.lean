import GracefulStop.Layer.Decode
import GracefulStop.Layer.KeyPath
import Mathlib.Logic.Function.Basic

/-!
# The fields of a configuration

A configuration is the same as a value for each of its fields. A table of values holds such values if
it has a table for each section, in which each field of the section is found and read; whatever else is
in these tables does not matter. Reading the table then gives the configuration.
-/

namespace GracefulStop.Config

open Layer (Value)

/-- The sections of a configuration. -/
inductive Section where
  | cluster | retry | startup | quorum | decommission | verify | workload
  deriving DecidableEq

/-- The name of the table of a section. -/
def Section.name : Section → String
  | cluster => "cluster"
  | retry => "retry"
  | startup => "startup"
  | quorum => "quorum"
  | decommission => "decommission"
  | verify => "verify"
  | workload => "workload"

/-- The fields of a configuration. -/
inductive Field where
  | home | host | portStart | portStop | runDir | nodeSettings
  | initialBackoff | multiplier | retryDeadline
  | maxAttempts | startTimeout
  | quorumPoll | quorumTimeout
  | leaveTimeout | signal
  | verifyPoll | verifyDeadline
  | concurrency | table
  deriving DecidableEq

namespace Field

/-- The section of a field. -/
def place : Field → Section
  | home | host | portStart | portStop | runDir | nodeSettings => .cluster
  | initialBackoff | multiplier | retryDeadline => .retry
  | maxAttempts | startTimeout => .startup
  | quorumPoll | quorumTimeout => .quorum
  | leaveTimeout | signal => .decommission
  | verifyPoll | verifyDeadline => .verify
  | concurrency | table => .workload

/-- The name of a field in the table of its section. -/
def name : Field → String
  | home => "crate_home"
  | host => "host"
  | portStart => "port_range_start"
  | portStop => "port_range_end"
  | runDir => "run_dir"
  | nodeSettings => "node_settings"
  | initialBackoff => "initial_backoff_ms"
  | multiplier => "multiplier"
  | retryDeadline => "deadline_ms"
  | maxAttempts => "max_attempts"
  | startTimeout => "start_timeout_secs"
  | quorumPoll => "poll_interval_ms"
  | quorumTimeout => "timeout_secs"
  | leaveTimeout => "timeout_secs"
  | signal => "signal"
  | verifyPoll => "poll_interval_ms"
  | verifyDeadline => "deadline_secs"
  | concurrency => "concurrency_per_kind"
  | table => "table"

/-- The key of a field at the top of a layer. -/
def key (field : Field) : String := field.place.name ++ "." ++ field.name

/-- The type of the values of a field. -/
def Carrier : Field → Type
  | home => Option Path
  | host | runDir | signal | table => String
  | nodeSettings => List NodeSetting
  | multiplier => Float
  | quorumTimeout => Option Nat
  | _ => Nat

/-- The value of a field that a value of a layer stands for. -/
def read? : (field : Field) → Value → Option field.Carrier
  | home => Value.optional? Value.text?
  | host | runDir | signal | table => Value.text?
  | portStart | portStop => Value.natUpTo? greatest16
  | nodeSettings => Value.list? NodeSetting.ofValue?
  | multiplier => Value.float?
  | maxAttempts => Value.natUpTo? greatest32
  | quorumTimeout => Value.optional? Value.nat?
  | initialBackoff | retryDeadline | startTimeout | quorumPoll | leaveTimeout | verifyPoll
  | verifyDeadline | concurrency => Value.nat?

/-- The value of a field in a configuration. -/
def get : (field : Field) → Config → field.Carrier
  | home, config => config.cluster.home
  | host, config => config.cluster.host
  | portStart, config => config.cluster.portStart
  | portStop, config => config.cluster.portStop
  | runDir, config => config.cluster.runDir
  | nodeSettings, config => config.cluster.nodeSettings
  | initialBackoff, config => config.retry.initialBackoffMillis
  | multiplier, config => config.retry.multiplier
  | retryDeadline, config => config.retry.deadlineMillis
  | maxAttempts, config => config.startup.maxAttempts
  | startTimeout, config => config.startup.startTimeoutSeconds
  | quorumPoll, config => config.quorum.pollIntervalMillis
  | quorumTimeout, config => config.quorum.timeoutSeconds
  | leaveTimeout, config => config.decommission.timeoutSeconds
  | signal, config => config.decommission.signal
  | verifyPoll, config => config.verify.pollIntervalMillis
  | verifyDeadline, config => config.verify.deadlineSeconds
  | concurrency, config => config.workload.concurrencyPerKind
  | table, config => config.workload.table

end Field

/-- A value for each field. -/
abbrev Values := (field : Field) → field.Carrier

/-- The configuration with these values. -/
def ofValues (values : Values) : Config where
  cluster :=
    { home := values .home
      host := values .host
      portStart := values .portStart
      portStop := values .portStop
      runDir := values .runDir
      nodeSettings := values .nodeSettings }
  retry :=
    { initialBackoffMillis := values .initialBackoff
      multiplier := values .multiplier
      deadlineMillis := values .retryDeadline }
  startup := { maxAttempts := values .maxAttempts, startTimeoutSeconds := values .startTimeout }
  quorum := { pollIntervalMillis := values .quorumPoll, timeoutSeconds := values .quorumTimeout }
  decommission := { timeoutSeconds := values .leaveTimeout, signal := values .signal }
  verify := { pollIntervalMillis := values .verifyPoll, deadlineSeconds := values .verifyDeadline }
  workload := { concurrencyPerKind := values .concurrency, table := values .table }

@[simp]
theorem get_ofValues (values : Values) (field : Field) : field.get (ofValues values) = values field := by
  cases field <;> rfl

@[simp]
theorem ofValues_get (config : Config) : (ofValues fun field => field.get config) = config := rfl

/-! ## Tables that hold values -/

/-- A table in which the fields of a section are found and read. -/
def Section.Holds (part : Section) (value : Value) (values : Values) : Prop :=
  ∃ entries, value = .table entries ∧ ∀ field : Field, field.place = part →
    ∃ found, entries.lookup field.name = some found ∧ field.read? found = some (values field)

/-- A table with a table for each section, in which the fields of the section are found and read. -/
def Holds (value : Value) (values : Values) : Prop :=
  ∃ entries, value = .table entries ∧ ∀ part : Section,
    ∃ found, entries.lookup part.name = some found ∧ part.Holds found values

theorem default_withLayer :
    (Value.table []).withLayer ({} : Config).layer = .table ({} : Config).layer := rfl

theorem holds_default : Holds (.table ({} : Config).layer) fun field => field.get {} := by
  refine ⟨_, rfl, fun part => ?_⟩
  cases part <;> refine ⟨_, rfl, _, rfl, fun field inPart => ?_⟩ <;> cases field <;>
    first
    | exact ⟨_, rfl, rfl⟩
    | cases inPart

/-! ## Reading a table -/

section

variable {value : Value} {values : Values}

theorem cluster_of_holds (holds : Section.cluster.Holds value values) :
    ClusterSettings.ofValue? value = some (ofValues values).cluster := by
  rcases holds with ⟨entries, rfl, each⟩
  rcases each .home rfl with ⟨home, homeAt, homeRead⟩
  rcases each .host rfl with ⟨host, hostAt, hostRead⟩
  rcases each .portStart rfl with ⟨start, startAt, startRead⟩
  rcases each .portStop rfl with ⟨stop, stopAt, stopRead⟩
  rcases each .runDir rfl with ⟨runDir, runDirAt, runDirRead⟩
  rcases each .nodeSettings rfl with ⟨settings, settingsAt, settingsRead⟩
  clear each
  simp only [Field.name, Field.read?] at *
  simp only [ClusterSettings.ofValue?, Value.fields?, List.map,
    Option.bind_eq_bind, Option.bind_some, Value.orElse, homeAt, homeRead, hostAt,
    hostRead, startAt, startRead, stopAt, stopRead, runDirAt, runDirRead, settingsAt, settingsRead]
  rfl

theorem retry_of_holds (holds : Section.retry.Holds value values) :
    RetrySettings.ofValue? value = some (ofValues values).retry := by
  rcases holds with ⟨entries, rfl, each⟩
  rcases each .initialBackoff rfl with ⟨initial, initialAt, initialRead⟩
  rcases each .multiplier rfl with ⟨factor, factorAt, factorRead⟩
  rcases each .retryDeadline rfl with ⟨deadline, deadlineAt, deadlineRead⟩
  clear each
  simp only [Field.name, Field.read?] at *
  simp only [RetrySettings.ofValue?, Value.fields?, List.map,
    Option.bind_eq_bind, Option.bind_some, Value.orElse, initialAt, initialRead,
    factorAt, factorRead, deadlineAt, deadlineRead]
  rfl

theorem startup_of_holds (holds : Section.startup.Holds value values) :
    StartupSettings.ofValue? value = some (ofValues values).startup := by
  rcases holds with ⟨entries, rfl, each⟩
  rcases each .maxAttempts rfl with ⟨attempts, attemptsAt, attemptsRead⟩
  rcases each .startTimeout rfl with ⟨timeout, timeoutAt, timeoutRead⟩
  clear each
  simp only [Field.name, Field.read?] at *
  simp only [StartupSettings.ofValue?, Value.fields?, List.map,
    Option.bind_eq_bind, Option.bind_some, Value.orElse, attemptsAt, attemptsRead,
    timeoutAt, timeoutRead]
  rfl

theorem quorum_of_holds (holds : Section.quorum.Holds value values) :
    QuorumSettings.ofValue? value = some (ofValues values).quorum := by
  rcases holds with ⟨entries, rfl, each⟩
  rcases each .quorumPoll rfl with ⟨poll, pollAt, pollRead⟩
  rcases each .quorumTimeout rfl with ⟨timeout, timeoutAt, timeoutRead⟩
  clear each
  simp only [Field.name, Field.read?] at *
  simp only [QuorumSettings.ofValue?, Value.fields?, List.map,
    Option.bind_eq_bind, Option.bind_some, Value.orElse, pollAt, pollRead,
    timeoutAt, timeoutRead]
  rfl

theorem decommission_of_holds (holds : Section.decommission.Holds value values) :
    DecommissionSettings.ofValue? value = some (ofValues values).decommission := by
  rcases holds with ⟨entries, rfl, each⟩
  rcases each .leaveTimeout rfl with ⟨timeout, timeoutAt, timeoutRead⟩
  rcases each .signal rfl with ⟨signal, signalAt, signalRead⟩
  clear each
  simp only [Field.name, Field.read?] at *
  simp only [DecommissionSettings.ofValue?, Value.fields?, List.map,
    Option.bind_eq_bind, Option.bind_some, Value.orElse, timeoutAt,
    timeoutRead, signalAt, signalRead]
  rfl

theorem verify_of_holds (holds : Section.verify.Holds value values) :
    VerifySettings.ofValue? value = some (ofValues values).verify := by
  rcases holds with ⟨entries, rfl, each⟩
  rcases each .verifyPoll rfl with ⟨poll, pollAt, pollRead⟩
  rcases each .verifyDeadline rfl with ⟨deadline, deadlineAt, deadlineRead⟩
  clear each
  simp only [Field.name, Field.read?] at *
  simp only [VerifySettings.ofValue?, Value.fields?, List.map,
    Option.bind_eq_bind, Option.bind_some, Value.orElse, pollAt, pollRead,
    deadlineAt, deadlineRead]
  rfl

theorem workload_of_holds (holds : Section.workload.Holds value values) :
    WorkloadSettings.ofValue? value = some (ofValues values).workload := by
  rcases holds with ⟨entries, rfl, each⟩
  rcases each .concurrency rfl with ⟨concurrency, concurrencyAt, concurrencyRead⟩
  rcases each .table rfl with ⟨table, tableAt, tableRead⟩
  clear each
  simp only [Field.name, Field.read?] at *
  simp only [WorkloadSettings.ofValue?, Value.fields?, List.map,
    Option.bind_eq_bind, Option.bind_some, Value.orElse, concurrencyAt,
    concurrencyRead, tableAt, tableRead]
  rfl

/-- A table that holds a value for each field is read as the configuration with these values. -/
theorem ofValue?_of_holds (holds : Holds value values) :
    Config.ofValue? value = some (ofValues values) := by
  rcases holds with ⟨entries, rfl, each⟩
  rcases each .cluster with ⟨cluster, clusterAt, clusterHolds⟩
  rcases each .retry with ⟨retry, retryAt, retryHolds⟩
  rcases each .startup with ⟨startup, startupAt, startupHolds⟩
  rcases each .quorum with ⟨quorum, quorumAt, quorumHolds⟩
  rcases each .decommission with ⟨decommission, decommissionAt, decommissionHolds⟩
  rcases each .verify with ⟨verify, verifyAt, verifyHolds⟩
  rcases each .workload with ⟨workload, workloadAt, workloadHolds⟩
  clear each
  simp only [Section.name] at *
  simp only [Config.ofValue?, Value.fields?, List.map,
    Option.bind_eq_bind, Option.bind_some, Value.orElse, clusterAt, retryAt, startupAt, quorumAt,
    decommissionAt, verifyAt, workloadAt, cluster_of_holds clusterHolds, retry_of_holds retryHolds,
    startup_of_holds startupHolds, quorum_of_holds quorumHolds,
    decommission_of_holds decommissionHolds, verify_of_holds verifyHolds,
    workload_of_holds workloadHolds]

end

end GracefulStop.Config
