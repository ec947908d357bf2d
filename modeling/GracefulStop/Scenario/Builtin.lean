import GracefulStop.Json.Printer
import GracefulStop.Scenario.Basic

/-!
# Built-in scenarios

Each built-in scenario brings up a cluster of its own, asks one node to leave, and judges what is
left. Whatever happens, its table is dropped and its cluster taken down, and the result is an
outcome that tells what was found or what went wrong.
-/

namespace GracefulStop

/-- The scenarios that come with the program. -/
inductive Builtin where
  | signal
  | primaries
  | full
  | none
  | concurrent
  deriving DecidableEq, Repr, Inhabited

namespace Builtin

/-- All scenarios, in the order in which they are listed and run. -/
def all : List Builtin := [.signal, .primaries, .full, .none, .concurrent]

/-- The name of a scenario. -/
def name : Builtin → String
  | signal => "signal"
  | primaries => "primaries"
  | full => "full"
  | none => "none"
  | concurrent => "concurrent"

/-- What a scenario shows. -/
def description : Builtin → String
  | signal => "single node exits 0 on the graceful-stop signal"
  | primaries => "min_availability=primaries keeps every shard assigned"
  | full => "min_availability=full moves every shard copy off the node"
  | none => "min_availability=none leaves unreplicated shards unassigned"
  | concurrent => "decommission under select/insert/delete load records no errors"

/-- The name of a scenario's cluster. -/
def clusterName : Builtin → String
  | signal => "GracefulStopSignal"
  | primaries => "GracefulStopPrimaries"
  | full => "GracefulStopFull"
  | none => "GracefulStopNone"
  | concurrent => "GracefulStopConcurrent"

/-- How many nodes a scenario's cluster has. -/
def nodeCount : Builtin → Nat
  | signal => 1
  | primaries => 2
  | full => 3
  | none => 2
  | concurrent => 3

/-- Reads the name of a scenario, in any case. -/
def parse (text : String) : Except String Builtin :=
  match all.find? (·.name = Text.lowerAscii text) with
  | some builtin => .ok builtin
  | Option.none => .error ("unknown scenario: " ++ text)

end Builtin

/-- Why the body of a scenario broke off. -/
inductive Failure where
  /-- An operation failed, perhaps while something particular was done. -/
  | failed (context : Option String) (error : ScenarioError)
  /-- What was found is not what the scenario asks for. -/
  | unmet (finding : String)
  deriving DecidableEq, Repr, Inhabited

/-- The whole text of a failure: the context, the error, and the errors behind it. -/
def Failure.message : Failure → String
  | failed context error =>
    String.intercalate ": " (context.toList ++ error.message :: error.causes)
  | unmet finding => finding

/-- What came of a scenario. -/
structure Outcome where
  name : String
  passed : Bool
  detail : String
  durationMillis : Nat
  deriving DecidableEq, Repr, Inhabited

namespace Outcome

/-- The text of an outcome. -/
def text (outcome : Outcome) : String :=
  (if outcome.passed then "PASS" else "FAIL") ++ " " ++ outcome.name ++ " (" ++
    toString outcome.durationMillis ++ " ms): " ++ outcome.detail

/-- An outcome as JSON. -/
def json (outcome : Outcome) : Json :=
  .object
    [("name", .string outcome.name),
      ("passed", .bool outcome.passed),
      ("detail", .string outcome.detail),
      ("duration_ms", .int outcome.durationMillis)]

end Outcome

/-- A part of the body of a scenario. -/
abbrev BodyM (State : Type) := ExceptT Failure (StateT Scenario (Action State))

namespace Builtin

variable {State : Type}

/-- Does an operation. -/
def attempt {Result : Type} (operation : ScenarioM State Result) : BodyM State Result :=
  fun scenario => do
    match ← operation scenario with
    | (.ok result, scenario) => pure (.ok result, scenario)
    | (.error error, scenario) => pure (.error (.failed Option.none error), scenario)

/-- Does an operation, and says so if it fails. -/
def attemptAs {Result : Type} (context : String) (operation : ScenarioM State Result) :
    BodyM State Result :=
  fun scenario => do
    match ← operation scenario with
    | (.ok result, scenario) => pure (.ok result, scenario)
    | (.error error, scenario) => pure (.error (.failed (some context) error), scenario)

/-- Does an operation whose failure is looked at later. -/
def observe {Result : Type} (operation : ScenarioM State Result) :
    BodyM State (Except ScenarioError Result) :=
  fun scenario => do
    let (result, scenario) ← operation scenario
    pure (.ok result, scenario)

/-- Draws lots. -/
def drawing {Result : Type} (draw : State → Result × State) : BodyM State Result :=
  attempt (Scenario.act (Action.onState draw))

/-- The table of the scenario. -/
def table : BodyM State String := return (← attempt Scenario.current).table

/-- How long a node may take to leave. -/
def decommissionTimeout : BodyM State Duration :=
  return (← attempt Scenario.current).config.decommission.timeout

/-- The statement that creates the table. -/
def createStatement (table : String) (shards replicas : Nat) : String :=
  "create table " ++ table ++ " (id int, name string) clustered into " ++ toString shards ++
    " shards with (number_of_replicas = " ++ toString replicas ++ ")"

/-- The statement that enters one row. -/
def insertStatement (table : String) : String :=
  "insert into " ++ table ++ " (id, name) values (?, ?)"

variable (world : World State)

/-- Creates the table. -/
def createTable (shards replicas : Nat) : BodyM State Unit := do
  let statement := createStatement (← table) shards replicas
  let _ ← attemptAs "creating table" (Scenario.execute world statement [])

/-- Makes all rows of the table visible. -/
def refresh : BodyM State Unit := do
  let statement := "refresh table " ++ (← table)
  let _ ← attemptAs "refreshing table" (Scenario.execute world statement [])

/-- Enters two rows, enough to have data on the shards. -/
def seedTwoRows : BodyM State Unit := do
  let statement := insertStatement (← table) ++ ", (?, ?)"
  let _ ← attemptAs "seeding rows"
    (Scenario.execute world statement [.int 1, .string "Ford", .int 2, .string "Trillian"])
  refresh world

/-- The names that rows are given. -/
def rowNames : List String := ["Ford", "Trillian", "Zaphod", "Jeltz"]

/-- Enters rows one after another, each with a name by lot. -/
def insertRows : (ids : List Nat) → BodyM State Unit
  | [] => pure ()
  | id :: rest => do
    let name ← drawing (world.draw.oneOf rowNames)
    let statement := insertStatement (← table)
    let _ ← attemptAs "inserting rows"
      (Scenario.execute world statement [.int id, .string (name.getD "Ford")])
    insertRows rest

/-- Asks the node at an index to leave. -/
def leave (index : Nat) : BodyM State Int := do
  let timeout ← decommissionTimeout
  attempt (Scenario.decommission world index timeout)

/-- Waits for a state of the shards after node 0 has left with a code. -/
def judgeShards (query : ShardQuery) (code : Int) : BodyM State String := do
  let response ← attempt (Scenario.awaitInvariant world query Option.none)
  return "node 0 exited with " ++ toString code ++ "; " ++ toString response.rowCount ++
    " unassigned shards"

/-- One node leaves, and has to exit with code 0. -/
def signalBody : BodyM State String := do
  attempt (Scenario.provision world signal.nodeCount)
  let code ← leave world 0
  if code = 0 then return "node exited with code 0"
  else throw (.unmet ("node stopped with exit code " ++ toString code ++ ", expected 0"))

/-- A node leaves and its primaries move away. -/
def primariesBody : BodyM State String := do
  attempt (Scenario.provision world primaries.nodeCount)
  createTable world 4 0
  seedTwoRows world
  attempt (Scenario.setMinAvailability world .primaries)
  let code ← leave world 0
  judgeShards world .noneUnassigned code

/-- A node leaves and all its copies of shards move away. -/
def fullBody : BodyM State String := do
  attempt (Scenario.provision world full.nodeCount)
  createTable world 4 1
  seedTwoRows world
  attempt (Scenario.setMinAvailability world .full)
  let code ← leave world 0
  judgeShards world .noneUnassigned code

/-- A node leaves at once and its shards are lost. -/
def noneBody : BodyM State String := do
  attempt (Scenario.provision world none.nodeCount)
  createTable world 8 0
  refresh world
  insertRows world (List.range 16)
  refresh world
  attempt (Scenario.setMinAvailability world .none)
  let code ← leave world 0
  judgeShards world .someUnassigned code

/-- Rows with a number and a name by lot. -/
def bulkRows (draw : Draw State) : (ids : List Nat) → State → List (List Json) × State
  | [], state => ([], state)
  | id :: rest, state =>
    let (name, state) := shuffledName draw state
    let (rows, state) := bulkRows draw rest state
    ([.int id, .string name] :: rows, state)

/-- How many rows the table has before the workload starts. -/
def bulkRowCount : Nat := 5000

/-- What the records of a workload amount to: the number of them and the first five. -/
def listErrors (errors : List WorkloadError) : String :=
  toString errors.length ++ " workload errors during decommission, first: " ++
    String.intercalate "; " ((errors.take 5).map WorkloadError.message)

/-- A node leaves while a workload goes on, which must not record an error. -/
def concurrentBody : BodyM State String := do
  attempt (Scenario.provision world concurrent.nodeCount)
  createTable world 4 1
  attempt (Scenario.pushSettings world [("discovery.zen.minimum_master_nodes", .int 2)])
  let rows ← drawing (bulkRows world.draw (List.range bulkRowCount))
  let statement := insertStatement (← table)
  let _ ← attemptAs "bulk loading rows" (Scenario.executeBulk world 0 statement rows)
  refresh world
  attempt (Scenario.pushSettings world
    [("cluster.graceful_stop.force", .string "false"),
      (MinAvailability.setting, .string MinAvailability.full.name)])
  let concurrency := (← attempt Scenario.current).config.workload.concurrencyPerKind
  let load ← attempt (Scenario.startWorkload 0 OperationKind.all concurrency)
  let timeout ← decommissionTimeout
  let left ← observe (Scenario.decommission world 1 timeout)
  let operations := (← attempt (Scenario.act (Action.workloadAt load))).operations
  let errors ← attempt (Scenario.act (Action.stopLoad world load))
  match left with
  | .error error => throw (.failed Option.none error)
  | .ok code =>
    if errors.isEmpty then
      return "node 1 exited with " ++ toString code ++ "; " ++ toString operations ++
        " statements, no errors"
    else throw (.unmet (listErrors errors))

/-- The body of a scenario. -/
def body : Builtin → BodyM State String
  | signal => signalBody world
  | primaries => primariesBody world
  | full => fullBody world
  | none => noneBody world
  | concurrent => concurrentBody world

/-- What the end of a body amounts to. -/
def outcomeOf (builtin : Builtin) (result : Except Failure String) (taken : Duration) : Outcome :=
  match result with
  | .ok finding => ⟨builtin.name, true, finding, taken.millis⟩
  | .error failure => ⟨builtin.name, false, failure.message, taken.millis⟩

/-- Runs a scenario to its end. -/
def run (config : Config) (builtin : Builtin) : Action State Outcome := do
  let began ← Action.now
  let (result, scenario) ← builtin.body world { name := builtin.clusterName, config }
  let (_, scenario) ← Scenario.dropTable world scenario.table scenario
  let _ ← Scenario.teardown world scenario
  return builtin.outcomeOf result ((← Action.now) - began)

/-- Runs scenarios one after another. -/
def runAll (config : Config) : List Builtin → Action State (List Outcome)
  | [] => pure []
  | builtin :: rest => do
    let outcome ← builtin.run world config
    let outcomes ← runAll config rest
    return outcome :: outcomes

end Builtin

end GracefulStop
