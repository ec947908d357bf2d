import GracefulStop.Cluster.Harness
import GracefulStop.Scenario.Error
import GracefulStop.Shard.Await

/-!
# Scenarios

A scenario owns at most one cluster. Providing a new one takes the old one down first, and a
cluster that cannot be brought up is taken down again.
-/

namespace GracefulStop

/-- How much data stays available while a node leaves. -/
inductive MinAvailability where
  /-- Primaries move off the node. -/
  | primaries
  /-- Every copy of a shard moves off the node. -/
  | full
  /-- The node leaves at once. -/
  | none
  deriving DecidableEq, Repr, Inhabited

namespace MinAvailability

/-- The setting of the cluster that holds it. -/
def setting : String := "cluster.graceful_stop.min_availability"

/-- All values. -/
def all : List MinAvailability := [.primaries, .full, .none]

/-- The text of a value. -/
def name : MinAvailability → String
  | primaries => "primaries"
  | full => "full"
  | none => "none"

/-- Reads a value, in any case. -/
def parse (text : String) : Except String MinAvailability :=
  match all.find? (·.name = Text.lowerAscii text) with
  | some value => .ok value
  | Option.none => .error ("unknown min_availability: " ++ Text.lowerAscii text)

end MinAvailability

/-- A scenario: its name, what it was told, and its cluster. -/
structure Scenario where
  name : String
  config : Config
  harness : Option Harness := none

/-- An operation of a scenario. -/
abbrev ScenarioM (State : Type) := ExceptT ScenarioError (StateT Scenario (Action State))

namespace Scenario

/-- The table that the built-in statements are about. -/
def table (scenario : Scenario) : String := scenario.config.workload.table

/-- How a scenario is described in messages, where the process of a node may have a number. -/
def described (scenario : Scenario) (pid : Node → Option Nat) : String :=
  "Scenario \x7b name: " ++ Text.quoted scenario.name ++ ", harness: " ++
    (match scenario.harness with
      | some harness => "Some(" ++ harness.described pid ++ ")"
      | none => "None") ++ ", .. \x7d"

variable {State : Type}

/-- Does an action that cannot fail. -/
def act {Result : Type} (action : Action State Result) : ScenarioM State Result :=
  fun scenario => do
    let result ← action
    pure (.ok result, scenario)

/-- Does an action on the cluster. -/
def actOnCluster {Result : Type} (action : Action State (Except ClusterError Result)) :
    ScenarioM State Result :=
  fun scenario => do
    match ← action with
    | .ok result => pure (.ok result, scenario)
    | .error error => pure (.error (.cluster error), scenario)

/-- The scenario as it stands. -/
def current : ScenarioM State Scenario := fun scenario => pure (.ok scenario, scenario)

/-- The cluster of the scenario. -/
def cluster : ScenarioM State Harness := fun scenario =>
  match scenario.harness with
  | some harness => pure (.ok harness, scenario)
  | none => pure (.error .notProvisioned, scenario)

/-- Puts another cluster, or none, into the scenario. -/
def setHarness (harness : Option Harness) : ScenarioM State Unit := fun scenario =>
  pure (.ok (), { scenario with harness })

variable (world : World State)

/-- Takes the cluster down, if there is one. -/
def teardown : ScenarioM State Unit := do
  match (← current).harness with
  | some harness =>
    setHarness none
    act (harness.teardown world)
  | none => pure ()

/-- Lays out, starts and awaits a cluster of so many nodes. -/
def provision (count : Nat) : ScenarioM State Unit := do
  teardown world
  let scenario ← current
  let harness ← actOnCluster (Harness.provision world scenario.name count
    scenario.config.cluster.nodeSettingsMap scenario.config)
  actOnCluster (harness.start world)
  match ← act (harness.awaitQuorum world scenario.config.quorum.timeout) with
  | .ok () => setHarness (some harness)
  | .error error =>
    act (harness.teardown world)
    throw (.cluster error)

/-- Asks the node at an index to leave, and gives its exit code. -/
def decommission (index : Nat) (timeout : Duration) : ScenarioM State Int := do
  let harness ← cluster
  let (result, harness) ← act (harness.decommission world index timeout)
  setHarness (some harness)
  match result with
  | .ok code => pure code
  | .error error => throw (.cluster error)

/-- Starts a workload whose workers ask the node at an index, and gives its position among the
workloads of the run. -/
def startWorkload (index : Nat) (kinds : List OperationKind) (perKind : Nat) :
    ScenarioM State Nat := do
  let harness ← cluster
  match harness.node? index with
  | .ok node => act (Action.startLoad node (← current).table kinds perKind)
  | .error error => throw (.cluster error)

/-- Waits for a state of the shards, asking one live node, not longer than the deadline of the
configuration or another one. -/
def awaitInvariant (query : ShardQuery) (deadline : Option Duration) :
    ScenarioM State Response := do
  let harness ← cluster
  let verifier := Verifier.ofSettings harness.policy (← current).config.verify
  let verifier := { verifier with deadline := deadline.getD verifier.deadline }
  let node ← actOnCluster (harness.pickLive world)
  match ← act (verifier.awaitInvariant world node query) with
  | .ok response => pure response
  | .error error => throw (.verify error)

/-- Sets settings of the cluster. -/
def pushSettings (settings : KeyMap Json) : ScenarioM State Unit := do
  let harness ← cluster
  actOnCluster (harness.pushSettings world settings)

/-- Sets how much data stays available while a node leaves. -/
def setMinAvailability (value : MinAvailability) : ScenarioM State Unit :=
  pushSettings world [(MinAvailability.setting, .string value.name)]

/-- Runs a statement on a live node. -/
def execute (statement : String) (params : List Json) : ScenarioM State Response := do
  let harness ← cluster
  actOnCluster (harness.execute world statement params)

/-- Runs a statement once for each row of parameters, on the node at an index. -/
def executeBulk (index : Nat) (statement : String) (rows : List (List Json)) :
    ScenarioM State Response := do
  let harness ← cluster
  match harness.node? index with
  | .error error => throw (.cluster error)
  | .ok node =>
    match ← act (Action.query world node (.bulk statement rows)) with
    | .ok response => pure response
    | .error error => throw (.query error)

/-- The statement that drops a table. -/
def dropStatement (table : String) : String := "drop table if exists " ++ table

/-- Drops a table if that is possible. -/
def dropTable (table : String) : ScenarioM State Unit := do
  match (← current).harness with
  | some harness =>
    let _ ← act (harness.execute world (dropStatement table) [])
  | none => pure ()

end Scenario

end GracefulStop
