import GracefulStop.Run.World
import GracefulStop.Simulation.Tables

/-!
# A simulated cluster

Nodes are names that are up or down. A node that is asked to leave takes 50 milliseconds to move the
copies of shards away that the settings protect, and stays if one of them finds no place. All that
can go wrong in a real cluster can be arranged as `Faults`.
-/

namespace GracefulStop.Simulation

/-- Fails statements that begin with a pattern. -/
structure Rule where
  pattern : String
  /-- How often it still does so; nothing means for ever. -/
  times : Option Nat
  error : QueryError
  deriving DecidableEq, Repr, Inhabited

/-- What goes wrong. Nodes are given by their names. -/
structure Faults where
  rules : List Rule := []
  /-- How long every statement takes. -/
  latency : Duration := ⟨0⟩
  /-- Nodes that are not reported as members where that is asked in the usual words. -/
  hidden : List String := []
  /-- How many of these reports leave a node out. -/
  joinAfter : KeyMap Nat := []
  /-- How many of the next starts of a node fail. -/
  failStarts : KeyMap Nat := []
  /-- Nodes that do not heed the request to leave. -/
  stubborn : List String := []
  signalError : List String := []
  waitError : List String := []
  stopError : List String := []
  /-- Exit codes other than zero, of nodes that have left and of such as still may. -/
  exitCodes : KeyMap Int := []
  launchError : List String := []
  recordError : Bool := false
  deriving DecidableEq, Repr, Inhabited

/-- The process of a node. -/
structure SimProcess where
  signalled : Bool := false
  /-- Whether it has ended by leaving. -/
  left : Bool := false
  deriving DecidableEq, Repr, Inhabited

/-- The state of a simulated cluster. -/
structure Cluster where
  /-- The nodes that were ever started, and whether they are up. -/
  running : KeyMap Bool := []
  settings : KeyMap Json := []
  tables : KeyMap Table := []
  /-- How many questions about shards still meet a node that has left. -/
  staleAnswers : Nat := 0
  /-- The statements that came, the latest first. -/
  statements : List String := []
  /-- The processes by the numbers of their nodes. -/
  processes : List (Nat × SimProcess) := []
  faults : Faults := {}
  seed : UInt64 := 1
  deriving Inhabited

namespace Cluster

/-- Whether a node is up. -/
def isUp (cluster : Cluster) (name : String) : Bool := (cluster.running.lookup name).getD false

/-- The names of the nodes that are up. -/
def upNodes (cluster : Cluster) : List String := KeyMap.keys (cluster.running.filter (·.2))

/-- Lets a node be up or down. -/
def setUp (cluster : Cluster) (name : String) (up : Bool) : Cluster :=
  { cluster with running := KeyMap.insert name up cluster.running }

/-- How many copies of shards are unassigned. -/
def unassignedCount (cluster : Cluster) : Nat :=
  (cluster.tables.map fun (_, table) => table.unassigned.length).foldr (· + ·) 0

/-- The process of a node. -/
def process (cluster : Cluster) (node : Node) : SimProcess :=
  (cluster.processes.lookup node.serial).getD {}

/-- Puts another process in the place of a node's. -/
def setProcess (cluster : Cluster) (node : Node) (process : SimProcess) : Cluster :=
  { cluster with
    processes := (node.serial, process) :: cluster.processes.filter (·.1 != node.serial) }

/-- The text of a setting. -/
def settingText? (cluster : Cluster) (key : String) : Option String :=
  (cluster.settings.lookup key).bind Json.text?

/-- Where a copy of a shard goes when its node leaves; nothing where it must go and cannot. -/
def destination (availability : String) (force : Bool) (targets : List String)
    (copies : List (Option String)) (index : Nat) : Option (Option String) :=
  let target := targets.find? fun name => !copies.contains (some name)
  let mustMove := availability = "full" || (availability = "primaries" && index = 0)
  if mustMove && target.isNone && !force then none
  else some (if availability = "none" then none else target)

/-- The copies of a shard after a node has left. -/
def relocate (availability : String) (force : Bool) (targets : List String) (name : String)
    (copies : List (Option String)) : Option (List (Option String)) :=
  copies.zipIdx.mapM fun (host, index) =>
    if host = some name then destination availability force targets copies index else some host

/-- The cluster after a node has left; nothing if it cannot leave. -/
def leave (cluster : Cluster) (name : String) : Option Cluster := do
  let availability :=
    (cluster.settingText? "cluster.graceful_stop.min_availability").getD "primaries"
  let force := cluster.settingText? "cluster.graceful_stop.force" = some "true"
  let targets := cluster.upNodes.filter (· != name)
  let tables ← cluster.tables.mapM fun (entry : String × Table) => do
    let shards ← entry.2.shards.mapM (relocate availability force targets name)
    some (entry.1, { entry.2 with shards })
  some ({ cluster with tables, staleAnswers := 1 }.setUp name false)

/-- The names of members. -/
def memberRows (names : List String) : Response :=
  .ofRows ["name"] (names.map fun name => [.string name])

/-- The members that are reported, and the cluster after that. -/
def report (cluster : Cluster) : Response × Cluster :=
  let faults := cluster.faults
  let names := cluster.upNodes.filter fun name =>
    !faults.hidden.contains name && (faults.joinAfter.lookup name).getD 0 = 0
  let joinAfter := faults.joinAfter.map fun (name, count) => (name, count - 1)
  (memberRows names, { cluster with faults := { faults with joinAfter } })

/-- Uses a table, or fails if it is not there. -/
def withTable (cluster : Cluster) (name : String)
    (use : Table → Except QueryError Response × Table) : Except QueryError Response × Cluster :=
  match cluster.tables.lookup name with
  | some table =>
    let (result, table) := use table
    (result, { cluster with tables := KeyMap.insert name table cluster.tables })
  | none => (.error (unknownTable name), cluster)

/-- Runs a statement with its parameters. -/
def run (cluster : Cluster) (text : String) (params : List Json) :
    Except QueryError Response × Cluster :=
  match Statement.parse text with
  | .members => (.ok (memberRows cluster.upNodes), cluster)
  | .unassignedShards =>
    if 0 < cluster.staleAnswers then
      (.error (.sql none "Node 'gone' not found in cluster state"),
        { cluster with staleAnswers := cluster.staleAnswers - 1 })
    else
      let rows := cluster.tables.flatMap fun (name, table) =>
        table.unassigned.map fun shard => [Json.string name, .int (Int.ofNat shard)]
      (.ok (.ofRows ["table_name", "id"] rows), cluster)
  | .setting key =>
    (.ok (.affected 1),
      { cluster with settings := KeyMap.insert key (params.head?.getD .null) cluster.settings })
  | .create name shards replicas =>
    let table := Table.create shards replicas cluster.upNodes
    (.ok (.affected 1), { cluster with tables := KeyMap.insert name table cluster.tables })
  | .drop name ifExists =>
    if cluster.tables.contains name || ifExists then
      (.ok (.affected 1), { cluster with tables := cluster.tables.erase name })
    else (.error (unknownTable name), cluster)
  | .refresh name => cluster.withTable name fun table => (.ok (.affected (-1)), table)
  | .insert name =>
    cluster.withTable name fun table =>
      (.ok (.affected (pairs params).length),
        (pairs params).foldl (fun table row => table.enter row.1 row.2) table)
  | .delete name =>
    cluster.withTable name fun table =>
      let start := stem ((params.head?.bind Json.text?).getD "")
      let (table, count) := table.removeNamed start
      (.ok (.affected count), table)
  | .countNames name =>
    cluster.withTable name fun table =>
      let rows := table.countNames.map fun (name, count) => [.string name, .int (Int.ofNat count)]
      (.ok (.ofRows ["name", "count(*)"] rows), table)
  | .unknown => (.error (.sql none ("SQLParseException: cannot handle `" ++ text ++ "`")), cluster)

/-- Sends a statement to a node, which has to be up. -/
def execute (cluster : Cluster) (name text : String) (params : List Json) :
    Except QueryError Response × Cluster :=
  if cluster.isUp name then
    { cluster with statements := text :: cluster.statements }.run text params
  else (.error (.transport (name ++ ": connection refused")), cluster)

/-- Sends a statement to a node once for each row of parameters, up to the first that fails, and
adds the row counts. -/
def executeRows (name text : String) (total : Int) :
    List (List Json) → Cluster → Except QueryError Response × Cluster
  | [], cluster => (.ok (.affected total), cluster)
  | params :: rest, cluster =>
    match cluster.execute name text params with
    | (.ok response, cluster) =>
      executeRows name text (total + max 0 response.rowCount) rest cluster
    | (.error error, cluster) => (.error error, cluster)

/-- Uses up the first rule that a statement falls under. -/
def applyRules (text : String) : List Rule → Option QueryError × List Rule
  | [] => (none, [])
  | rule :: rest =>
    if Text.beginsWith text rule.pattern && rule.times != some 0 then
      (some rule.error, { rule with times := rule.times.map (· - 1) } :: rest)
    else
      let (error, rest) := applyRules text rest
      (error, rule :: rest)

/-- Answers a request to a node. -/
def answer (cluster : Cluster) (name : String) (request : Request) :
    Except QueryError Response × Cluster :=
  let (error, rules) := applyRules request.statement cluster.faults.rules
  let cluster := { cluster with faults := { cluster.faults with rules } }
  match error with
  | some error => (.error error, cluster)
  | none =>
    match request with
    | .single text params =>
      match cluster.execute name text params with
      | (.ok response, cluster) =>
        if text = Statement.membersText then
          let (response, cluster) := cluster.report
          (.ok response, cluster)
        else (.ok response, cluster)
      | failed => failed
    | .bulk text rows => executeRows name text 0 rows cluster

/-- Starts a node. -/
def start (cluster : Cluster) (node : Node) : Except ClusterError Unit × Cluster :=
  let failing := (cluster.faults.failStarts.lookup node.name).getD 0
  if 0 < failing then
    let failStarts := KeyMap.insert node.name (failing - 1) cluster.faults.failStarts
    (.error (.nodeStartFailed node.name "bind failed"),
      { cluster with faults := { cluster.faults with failStarts } })
  else (.ok (), (cluster.setUp node.name true).setProcess node {})

/-- Stops a node. -/
def stop (cluster : Cluster) (node : Node) : Except ClusterError Unit × Cluster :=
  if cluster.faults.stopError.contains node.name then (.error (.io "stop refused"), cluster)
  else (.ok (), cluster.setUp node.name false)

/-- Asks a node to leave. -/
def signal (cluster : Cluster) (node : Node) : Except ClusterError Unit × Cluster :=
  if cluster.faults.signalError.contains node.name then
    (.error (.signalFailed node.name "operation not permitted"), cluster)
  else if cluster.faults.stubborn.contains node.name then (.ok (), cluster)
  else (.ok (), cluster.setProcess node { cluster.process node with signalled := true })

/-- How long a node takes to move its shards. -/
def relocationTime : Duration := .ofMillis 50

/-- The exit code of a node that has left. -/
def exitCode (cluster : Cluster) (node : Node) : Int :=
  (cluster.faults.exitCodes.lookup node.name).getD 0

/-- Waits for a node to end. -/
def wait (cluster : Cluster) (node : Node) (timeout : Duration) (look : Look) :
    Progress (Except ClusterError (Option Int)) × Cluster :=
  let process := cluster.process node
  if look.index = 0 then
    if cluster.faults.waitError.contains node.name then
      (.done (.error (.io "wait failed")), cluster)
    else if process.left then (.done (.ok (some (cluster.exitCode node))), cluster)
    else if !cluster.isUp node.name then (.done (.error (.nodeNotRunning node.name)), cluster)
    else if process.signalled then (.pause (min relocationTime timeout), cluster)
    else (.pause timeout, cluster)
  else if look.index = 1 && process.signalled then
    match cluster.leave node.name with
    | some remaining =>
      (.done (.ok (some (cluster.exitCode node))),
        remaining.setProcess node { process with left := true })
    | none => (.pause timeout, cluster)
  else (.done (.ok none), cluster)

/-- How a simulated cluster surrounds a run. -/
def world : World Cluster where
  launch node _ cluster :=
    if cluster.faults.launchError.contains node.name then
      (.error (.spawnFailed ("no binary for " ++ node.name)), cluster)
    else (.ok (), cluster)
  connect _ _ cluster := (.ok (), cluster)
  record _ _ cluster :=
    (if cluster.faults.recordError then .error (.io "disk full") else .ok (), cluster)
  portInUse _ _ cluster := (false, cluster)
  start node _ cluster :=
    let (result, cluster) := cluster.start node
    (.done result, cluster)
  stop node _ cluster := cluster.stop node
  signal node _ cluster := cluster.signal node
  wait node timeout look cluster := cluster.wait node timeout look
  isRunning node _ cluster := (cluster.isUp node.name, cluster)
  query node request look cluster :=
    if look.index = 0 && 0 < cluster.faults.latency.nanos then
      (.pause cluster.faults.latency, cluster)
    else
      let (result, cluster) := cluster.answer node.name request
      (.done result, cluster)
  draw bound cluster :=
    let (number, seed) := Draw.congruential bound cluster.seed
    (number, { cluster with seed })

/-- The endpoint of a node. -/
def endpoint (spec : NodeSpec) : String := "sim://" ++ spec.name ++ ":" ++ toString spec.httpPort

end Cluster

end GracefulStop.Simulation
