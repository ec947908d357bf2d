import GracefulStop.Report.Cluster
import GracefulStop.Scenario.Builtin
import GracefulStop.Simulation.Setup

/-!
# Plays

A play is a list of steps that are done one after another on a simulated cluster or on a scenario in
it. After each step it is reported what came of the step, how long it took, and which nodes are
running.
-/

namespace GracefulStop.Simulation

/-- A run in a simulated cluster. -/
abbrev SimRun := Run Cluster

/-- An action in a simulated cluster. -/
abbrev SimAction := Action Cluster

/-- A run as an object tells: its faults and its pool of ports. -/
def startRun (input : Json) : SimRun :=
  let (start, stop) := match input.natsAt "ports" with
    | [start, stop] => (start, stop)
    | _ => (50000, 51000)
  Run.start { faults := Faults.change {} (input.get "world") } ⟨start, stop, false⟩

/-- Changes the state of the cluster. -/
def changing (change : Cluster → Cluster) : SimAction Unit := fun _ run =>
  (some (), { run with state := change run.state })

/-- Changes what goes wrong. -/
def setFaults (step : Json) : SimAction Unit :=
  changing fun cluster => { cluster with faults := cluster.faults.change (step.get "set") }

/-- Lets nodes die at once. -/
def crash (step : Json) : SimAction Unit :=
  changing fun cluster =>
    (step.textsAt "nodes").foldl (fun cluster name => cluster.setUp name false) cluster

/-- The state of the cluster as it stands. -/
def currentState : SimAction Cluster := fun _ run => (some run.state, run)

/-- The endpoint of a node. -/
def endpointOf (node : Node) : String := Cluster.endpoint node.spec

/-- The report of a step that gives no value. -/
def done {Value : Type} (_ : Value) : Json := .string "ok"

/-- The endpoints that a lot among nodes can give. -/
def pickedJson (nodes : List Node) : Json := .texts (Json.distinct (nodes.map endpointOf))

/-- Does something that can fail, and reports it. -/
def reporting {Value : Type} (write : Value → Json)
    (action : SimAction (Except ClusterError Value)) : SimAction Json := do
  return Json.ofResult ClusterError.json write (← action)

/-- Does something with the node at an index of a cluster, if there is one. -/
def withHandle (harness : Harness) (index : Nat) (absent : Json) (use : Handle → SimAction Json) :
    SimAction Json :=
  match harness.handles[index]? with
  | some handle => use handle
  | none => pure absent

/-- A step that leaves the cluster's nodes as they are laid out. -/
def lookStep (harness : Harness) (step : Json) : SimAction Json :=
  let index := step.natAt "index"
  let world := Cluster.world
  match step.textAt "do" with
  | "start" => reporting done (harness.start world)
  | "await_quorum" =>
    reporting done (harness.awaitQuorum world (Duration.ofJson? (step.get "timeout")))
  | "push_settings" =>
    reporting done (harness.pushSettings world (step.get "settings").members)
  | "execute" =>
    reporting Response.json (harness.execute world (step.textAt "sql") (step.itemsAt "params"))
  | "teardown" => done <$> harness.teardown world
  | "layout" => pure harness.json
  | "snapshot" => do
    let snapshot ← harness.snapshot world
    return .object (snapshot.members endpointOf ++
      [("client",
          Json.ofOption (fun view => .string (endpointOf view.node)) snapshot.nodes[index]?),
        ("picked", pickedJson snapshot.live)])
  | "random_clients" => do
    match ← harness.pickLive world with
    | .error error => return error.json
    | .ok _ => return .object [("picked", pickedJson (← Harness.liveNodes world harness.handles))]
  | "client" =>
    reporting (fun node => .object [("endpoint", .string (endpointOf node))])
      (pure (harness.node? index))
  | "handle" => withHandle harness index (.object [("none", .bool true)]) fun handle => do
    return handle.json (← handle.isLive world) endpointOf
  | "start_node" => withHandle harness index .null fun handle =>
    reporting done (handle.startWithRetry world (step.natAt "attempts"))
  | "stop_node" => withHandle harness index .null fun handle => reporting done (handle.stop world)
  | "debug" => return .string (harness.described fun _ => none)
  | "world" => done <$> setFaults step
  | "crash" => done <$> crash step
  | _ => return .null

/-- One step on a cluster. -/
def clusterStep (harness : Harness) (step : Json) : SimAction (Json × Harness) := do
  if step.textAt "do" = "decommission" then
    let (result, harness) ← harness.decommission Cluster.world (step.natAt "index")
      (.ofMember step "timeout")
    return (Json.ofResult ClusterError.json (fun code => .object [("code", .int code)]) result,
      harness)
  else return (← lookStep harness step, harness)

/-- A scenario and the workload that was started last. -/
structure Stage where
  scenario : Scenario
  load : Option Nat := none

/-- Does an operation of the scenario, and reports it. -/
def onStage {Value : Type} (stage : Stage) (write : Value → Json)
    (operation : ScenarioM Cluster Value) : SimAction (Json × Stage) := do
  let (result, scenario) ← operation stage.scenario
  return (Json.ofResult ScenarioError.json write result, { stage with scenario })

/-- The settings of the cluster that scenarios set. -/
def settingsJson (cluster : Cluster) : Json :=
  let value (key : String) : Json := (cluster.settings.lookup key).getD .null
  .object
    [("min_availability", value MinAvailability.setting),
      ("minimum_master_nodes", value "discovery.zen.minimum_master_nodes"),
      ("force", value "cluster.graceful_stop.force")]

/-- Starts a workload on the stage. -/
def startLoadStep (stage : Stage) (step : Json) : SimAction (Json × Stage) := do
  let kinds := (step.textsAt "kinds").filterMap fun name => (OperationKind.parse name).toOption
  let start : ScenarioM Cluster Nat :=
    Scenario.startWorkload (step.natAt "index") kinds (step.natAt "concurrency")
  let (result, scenario) ← start stage.scenario
  match result with
  | .ok load =>
    let workload ← Action.workloadAt load
    return (.object [("workers", .nat workload.workers.length)], ⟨scenario, some load⟩)
  | .error error => return (error.json, { stage with scenario })

/-- One step on a scenario. -/
def scenarioStep (stage : Stage) (step : Json) : SimAction (Json × Stage) :=
  let index := step.natAt "index"
  let world := Cluster.world
  match step.textAt "do" with
  | "provision" => onStage stage done (Scenario.provision world (step.natAt "nodes"))
  | "decommission" =>
    onStage stage (fun code => .object [("code", .int code)])
      (Scenario.decommission world index (.ofMember step "timeout"))
  | "set_min_availability" =>
    match MinAvailability.parse (step.textAt "value") with
    | .ok value => onStage stage done (Scenario.setMinAvailability world value)
    | .error message => return (.ofError "Parse" message, stage)
  | "push_settings" =>
    onStage stage done (Scenario.pushSettings world (step.get "settings").members)
  | "execute" =>
    onStage stage Response.json (Scenario.execute world (step.textAt "sql") (step.itemsAt "params"))
  | "execute_bulk" =>
    onStage stage Response.json
      (Scenario.executeBulk world index (step.textAt "sql") (step.rowsAt "bulk"))
  | "await_invariant" =>
    onStage stage Response.json
      (Scenario.awaitInvariant world (.ofJson (step.get "query"))
        (Duration.ofJson? (step.get "timeout")))
  | "start_workload" => startLoadStep stage step
  | "stop_workload" =>
    match stage.load with
    | some load => do
      let errors ← Action.stopLoad world load
      return (.object [("errors", WorkloadError.listJson errors)], { stage with load := none })
    | none => return (.null, stage)
  | "sleep" => do
    Action.sleep world (.ofMember step "for")
    return (done (), stage)
  | "teardown" => onStage stage done (Scenario.teardown world)
  | "drop_table" => onStage stage done (Scenario.dropTable world (step.textAt "table"))
  | "describe" => return (stage.scenario.json, stage)
  | "settings" => return (settingsJson (← currentState), stage)
  | "has_table" => do
    return (.bool ((← currentState).tables.contains (step.textAt "table")), stage)
  | "world" => return (done (← setFaults step), stage)
  | "crash" => return (done (← crash step), stage)
  | _ => return (.null, stage)

/-- Steps one after another, with the reports of each: what came of it, and what is told of the run
before and after it. -/
def play {Stage : Type} (act : Stage → Json → SimAction (Json × Stage))
    (tell : Json → SimRun → SimRun → List (String × Json)) (stage : Stage) (run : SimRun) :
    List Json → List Json × SimRun
  | [] => ([], run)
  | step :: rest =>
    let (result, after) := act stage step none run
    let (report, stage) := result.getD (.null, stage)
    let (reports, last) := play act tell stage after rest
    (.object (("result", report) :: tell step run after) :: reports, last)

/-- Which nodes are running. -/
def runningMember (run : SimRun) : String × Json := ("running", .texts run.state.upNodes)

/-- How long a step took. -/
def tookMember (before after : SimRun) : String × Json :=
  ("took_ms", .nat (after.clock - before.clock).millis)

/-- The reports of steps on a cluster. -/
def playCluster (harness : Harness) (run : SimRun) (steps : List Json) : List Json × SimRun :=
  play clusterStep (fun _ before after => [tookMember before after, runningMember after])
    harness run steps

/-- The reports of steps on a scenario. How long a workload takes to stop is left out. -/
def playScenario (scenario : Scenario) (run : SimRun) (steps : List Json) : List Json × SimRun :=
  play scenarioStep
    (fun step before after =>
      (if step.textAt "do" = "stop_workload" then [] else [tookMember before after]) ++
        [runningMember after, ("unassigned", .nat after.state.unassignedCount)])
    { scenario } run steps

/-- Whether a statement belongs to a workload. -/
def isOfWorkload (statement : String) : Bool :=
  Text.beginsWith statement "select name, count(*)" || Text.beginsWith statement "delete from" ||
    Text.contains statement "on duplicate key"

/-- The statements that came to the cluster, without those of workloads, equal neighbours together.
-/
def statementsJson (run : SimRun) : Json :=
  let statements := run.state.statements.reverse.filter fun statement => !isOfWorkload statement
  .array ((runLengths statements).map fun (statement, count) =>
    .array [.string statement, .nat count])

/-- The port that would be reserved next. -/
def nextPortJson (run : SimRun) : Json :=
  match Action.nextPort Cluster.world none run with
  | (some result, _) => Json.ofResult ClusterError.json .nat result
  | (none, _) => .null

/-- What was done in a run, with the statements that came to its cluster. -/
def courseMembers (run : SimRun) : List (String × Json) :=
  [("statements", statementsJson run), ("calls", run.callsJson)]

end GracefulStop.Simulation
