import GracefulStop.Config.Basic
import GracefulStop.Retry.Attempts
import GracefulStop.Text.Quoted

/-!
# Clusters

A harness holds the nodes of one cluster. It lays them out on ports of their own, starts them all or
none, waits until every member has joined, and asks single nodes to leave. A node that has left is
marked, is no member any more, and is not asked again.
-/

namespace GracefulStop

/-- A node of a cluster. -/
structure Handle where
  node : Node
  /-- Whether the node has left. -/
  decommissioned : Bool := false
  deriving DecidableEq, Repr, Inhabited

namespace Handle

/-- The name of the node. -/
def name (handle : Handle) : String := handle.node.name

/-- How a node is described in messages. -/
def described (handle : Handle) (pid : Option Nat) : String :=
  "ClusterHandle \x7b name: " ++ Text.quoted handle.name ++ ", http_port: " ++
    toString handle.node.spec.httpPort ++ ", pid: " ++
    (match pid with | some pid => "Some(" ++ toString pid ++ ")" | none => "None") ++
    ", decommissioned: " ++ toString handle.decommissioned ++ ", .. \x7d"

variable {State : Type} (world : World State)

/-- Whether a node is running and has not left. -/
def isLive (handle : Handle) : Action State Bool :=
  if handle.decommissioned then pure false else Action.isRunning world handle.node

/-- Attempts to start a node, as many as are left; after each that failed the node is stopped. -/
def startAttempts (node : Node) (total : Nat) :
    (left : Nat) → (last : String) → Action State (Except ClusterError Unit)
  | 0, last => pure (.error (.startupFailed node.name total last))
  | left + 1, _ => do
    match ← Action.startNode world node with
    | .ok () => pure (.ok ())
    | .error error =>
      let _ ← Action.stopNode world node
      startAttempts node total left error.message

/-- Starts a node, with so many attempts but at least one. -/
def startWithRetry (handle : Handle) (attempts : Nat) : Action State (Except ClusterError Unit) :=
  startAttempts world handle.node (max attempts 1) (max attempts 1) ""

/-- Stops a node. -/
def stop (handle : Handle) : Action State (Except ClusterError Unit) :=
  Action.stopNode world handle.node

end Handle

/-- A node as it was found at some moment. -/
structure NodeView where
  node : Node
  live : Bool
  decommissioned : Bool
  deriving DecidableEq, Repr, Inhabited

/-- The nodes of a cluster as they were found at some moment. -/
structure Snapshot where
  clusterName : String
  nodes : List NodeView
  deriving DecidableEq, Repr, Inhabited

namespace Snapshot

/-- The names of the nodes. -/
def nodeNames (snapshot : Snapshot) : List String := snapshot.nodes.map (·.node.name)

/-- How a snapshot is described in messages. -/
def described (snapshot : Snapshot) : String :=
  "ClusterSnapshot \x7b cluster_name: " ++ Text.quoted snapshot.clusterName ++ ", nodes: [" ++
    String.intercalate ", " (snapshot.nodeNames.map Text.quoted) ++ "] \x7d"

/-- The nodes that were live. -/
def live (snapshot : Snapshot) : List Node :=
  (snapshot.nodes.filter (·.live)).map (·.node)

end Snapshot

/-- The nodes of one cluster and how they are handled. -/
structure Harness where
  name : String
  transportRange : PortRange
  handles : List Handle
  policy : RetryPolicy
  /-- How often a node is started before the cluster is given up. -/
  startAttempts : Nat
  /-- The time between two looks at the members. -/
  quorumPoll : Duration

namespace Harness

/-- The statement that lists the members of a cluster. -/
def membershipQuery : String := "select name from sys.nodes"

/-- The layout of the cluster. -/
def manifest (harness : Harness) : Manifest :=
  ⟨harness.name, harness.transportRange, harness.handles.map (·.node.spec)⟩

/-- How a cluster is described in messages, where the process of a node may have a number. -/
def described (harness : Harness) (pid : Node → Option Nat) : String :=
  "ClusterHarness \x7b name: " ++ Text.quoted harness.name ++ ", transport_range: " ++
    harness.transportRange.described ++ ", handles: [" ++
    String.intercalate ", "
      (harness.handles.map fun handle => handle.described (pid handle.node)) ++
    "], .. \x7d"

/-- The names of the nodes. -/
def nodeNames (harness : Harness) : List String := harness.handles.map Handle.name

/-- The names that the nodes of a cluster have. -/
def namesFor (clusterName : String) (count : Nat) : List String :=
  (List.range count).map (NodeSpec.nodeName clusterName)

/-- How many nodes have not left. -/
def memberCount (harness : Harness) : Nat :=
  (harness.handles.filter fun handle => !handle.decommissioned).length

/-- The node at an index. -/
def node? (harness : Harness) (index : Nat) : Except ClusterError Node :=
  match harness.handles[index]? with
  | some handle => .ok handle.node
  | none => .error (.nodeNotFound index)

variable {State : Type} (world : World State)

/-- Lays out nodes of the given names, each on a port of its own. -/
def layNodes (shared : NodeSpec) : List String → Action State (Except ClusterError (List Handle))
  | [] => pure (.ok [])
  | name :: rest => do
    match ← Action.nextPort world with
    | .error error => pure (.error error)
    | .ok httpPort =>
      let node ← Action.lay { shared with name, httpPort }
      match ← Action.launch world node with
      | .error error => pure (.error error)
      | .ok () =>
        match ← Action.connect world node with
        | .error error => pure (.error error)
        | .ok () =>
          match ← layNodes shared rest with
          | .error error => pure (.error error)
          | .ok handles => pure (.ok ({ node } :: handles))

/-- Lays out a cluster: reserves its ports, prepares its nodes, and keeps its layout. Nothing is
started. -/
def provision (name : String) (count : Nat) (settings : KeyMap String) (config : Config) :
    Action State (Except ClusterError Harness) := do
  if count = 0 then pure (.error (.invalidNodeCount 0))
  else
    match ← Action.reservePorts world count with
    | .error error => pure (.error error)
    | .ok transportRange =>
      let shared : NodeSpec :=
        { name := "", host := config.cluster.host, httpPort := 0, transportRange,
          clusterName := name, peers := namesFor name count, settings }
      match ← layNodes world shared (namesFor name count) with
      | .error error => pure (.error error)
      | .ok handles =>
        let harness : Harness :=
          { name, transportRange, handles
            policy := .ofSettings config.retry
            startAttempts := config.startup.maxAttempts
            quorumPoll := config.quorum.pollInterval }
        match ← Action.keepManifest world harness.manifest with
        | .error error => pure (.error error)
        | .ok () => pure (.ok harness)

/-- Stops nodes one after another, whatever errors there are. -/
def stopAll : List Handle → Action State Unit
  | [] => pure ()
  | handle :: rest => do
    let _ ← handle.stop world
    stopAll rest

/-- Stops every node of the cluster. -/
def teardown (harness : Harness) : Action State Unit := stopAll world harness.handles

/-- Starts nodes one after another, up to the first that cannot be started. -/
def startAll (attempts : Nat) : List Handle → Action State (Except ClusterError Unit)
  | [] => pure (.ok ())
  | handle :: rest => do
    match ← handle.startWithRetry world attempts with
    | .ok () => startAll attempts rest
    | .error error => pure (.error error)

/-- Starts every node of the cluster; if one cannot be started, all are stopped. -/
def start (harness : Harness) : Action State (Except ClusterError Unit) := do
  match ← startAll world harness.startAttempts harness.handles with
  | .ok () => pure (.ok ())
  | .error error =>
    harness.teardown world
    pure (.error error)

/-- The nodes that are running and have not left, in their order. -/
def liveNodes : List Handle → Action State (List Node)
  | [] => pure []
  | handle :: rest => do
    let live ← handle.isLive world
    let others ← liveNodes rest
    pure (if live then handle.node :: others else others)

/-- A live node, by lot. -/
def pickLive (harness : Harness) : Action State (Except ClusterError Node) := do
  let live ← liveNodes world harness.handles
  match ← Action.pickOne world live with
  | some node =>
    Action.note (.picked node)
    pure (.ok node)
  | none => pure (.error .noLiveNode)

/-- Fails at the first member that is not running. -/
def ensureRunning : List Handle → Action State (Except ClusterError Unit)
  | [] => pure (.ok ())
  | handle :: rest => do
    if handle.decommissioned then ensureRunning rest
    else if ← Action.isRunning world handle.node then ensureRunning rest
    else pure (.error (.nodeNotRunning handle.name))

/-- Runs a statement on a live node, again and again as the retry policy allows. -/
def execute (harness : Harness) (statement : String) (params : List Json) :
    Action State (Except ClusterError Response) := do
  match ← harness.pickLive world with
  | .error error => pure (.error error)
  | .ok node =>
    match ← harness.policy.execute world node statement params with
    | .ok response => pure (.ok response)
    | .error error => pure (.error (.query error))

/-- Whether a wait that began at some moment has lasted as long as it may. -/
def isOver (limit : Option Duration) (elapsed : Duration) : Option Duration :=
  limit.filter fun limit => decide (limit ≤ elapsed)

/-- The rounds of a wait for the members. -/
def quorumRounds (harness : Harness) (expected : Nat) (limit : Option Duration) (began : Instant) :
    (tries : Nat) → Action State (Except ClusterError Unit)
  | 0 => Action.stall world
  | tries + 1 => do
    match ← ensureRunning world harness.handles with
    | .error error => pure (.error error)
    | .ok () =>
      match ← harness.execute world membershipQuery [] with
      | .error error => pure (.error error)
      | .ok response =>
        if response.rowCount = expected then pure (.ok ())
        else
          match isOver limit ((← Action.now) - began) with
          | some limit => pure (.error (.quorumTimeout response.rowCount expected limit))
          | none =>
            Action.sleep world harness.quorumPoll
            quorumRounds harness expected limit began tries

/-- No more rounds than these are made: where there is a limit and the poll interval is not zero,
every round but the last takes a millisecond. -/
def roundLimit (limit : Option Duration) : Nat :=
  Action.patience + (limit.map Duration.millis).getD 0 + 2

/-- Waits until every member is reported. -/
def awaitQuorum (harness : Harness) (limit : Option Duration) :
    Action State (Except ClusterError Unit) := do
  harness.quorumRounds world harness.memberCount limit (← Action.now) (roundLimit limit)

/-- The statement that sets a setting of the cluster. -/
def settingStatement (key : String) : String := "set global transient " ++ key ++ " = ?"

/-- Sets settings of the cluster one after another, up to the first that cannot be set. -/
def pushSettings (harness : Harness) : KeyMap Json → Action State (Except ClusterError Unit)
  | [] => pure (.ok ())
  | (key, value) :: rest => do
    match ← harness.execute world (settingStatement key) [value] with
    | .error error => pure (.error error)
    | .ok _ => pushSettings harness rest

/-- Asks a node to leave and waits until it has ended. -/
def leave (node : Node) (timeout : Duration) : Action State (Except ClusterError Int) := do
  match ← Action.signalNode world node with
  | .error error => pure (.error error)
  | .ok () =>
    match ← Action.waitForNode world node timeout with
    | .error error => pure (.error error)
    | .ok (some code) => pure (.ok code)
    | .ok none => pure (.error (.decommissionTimeout node.name timeout))

/-- The cluster with the node at an index marked as left. -/
def markLeft (harness : Harness) (index : Nat) : Harness :=
  { harness with
    handles := harness.handles.modify index fun handle => { handle with decommissioned := true } }

/-- Asks the node at an index to leave, and marks it once it has ended. Gives its exit code. -/
def decommission (harness : Harness) (index : Nat) (timeout : Duration) :
    Action State (Except ClusterError Int × Harness) := do
  match harness.node? index with
  | .error error => pure (.error error, harness)
  | .ok node =>
    match ← leave world node timeout with
    | .ok code => pure (.ok code, harness.markLeft index)
    | .error error => pure (.error error, harness)

/-- How nodes are found at this moment. -/
def views : List Handle → Action State (List NodeView)
  | [] => pure []
  | handle :: rest => do
    let live ← handle.isLive world
    let others ← views rest
    pure (⟨handle.node, live, handle.decommissioned⟩ :: others)

/-- How the nodes of the cluster are found at this moment. -/
def snapshot (harness : Harness) : Action State Snapshot := do
  pure ⟨harness.name, ← views world harness.handles⟩

end Harness

end GracefulStop
