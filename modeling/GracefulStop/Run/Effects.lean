import GracefulStop.Run.Action

/-!
# What a run does to its surroundings

Each of these actions asks the surroundings for one thing and writes down their answer.
-/

namespace GracefulStop.Action

variable {State : Type} (world : World State)

/-- Prepares the process of a node. -/
def launch (node : Node) : Action State (Except ClusterError Unit) := do
  let result ← atOnce (world.launch node)
  note (.launched node result)
  pure result

/-- Prepares the client of a node. -/
def connect (node : Node) : Action State (Except ClusterError Unit) := do
  let result ← atOnce (world.connect node)
  note (.connected node result)
  pure result

/-- Keeps the layout of a cluster. -/
def keepManifest (manifest : Manifest) : Action State (Except ClusterError Unit) := do
  let result ← atOnce (world.record manifest)
  note (.recorded manifest result)
  pure result

/-- Reserves so many ports in a row. -/
def reservePorts (size : Nat) : Action State (Except ClusterError PortRange) :=
  onPorts fun now => PortPool.reserve (world.portInUse now) size

/-- Reserves a single port. -/
def nextPort : Action State (Except ClusterError Nat) :=
  onPorts fun now => PortPool.next (world.portInUse now)

/-- Starts a node and waits until it can serve. -/
def startNode (node : Node) : Action State (Except ClusterError Unit) := do
  let result ← await world (world.start node)
  note (.started node result)
  pure result

/-- Stops a node for good. -/
def stopNode (node : Node) : Action State (Except ClusterError Unit) := do
  let result ← atOnce (world.stop node)
  note (.stopped node result)
  pure result

/-- Asks a node to leave. -/
def signalNode (node : Node) : Action State (Except ClusterError Unit) := do
  let result ← atOnce (world.signal node)
  note (.signalled node result)
  pure result

/-- Waits for a node to end, not longer than a given time, and gives its exit code. -/
def waitForNode (node : Node) (timeout : Duration) :
    Action State (Except ClusterError (Option Int)) := do
  let result ← await world (world.wait node timeout)
  note (.waited node timeout result)
  pure result

/-- Whether a node is running. -/
def isRunning (node : Node) : Action State Bool := do
  let running ← atOnce (world.isRunning node)
  note (.checked node running)
  pure running

/-- Sends a request to a node and waits for the answer. -/
def query (node : Node) (request : Request) : Action State (Except QueryError Response) := do
  note (.asked node request)
  let result ← await world (world.query node request)
  note (.answered node request result)
  pure result

/-- One of the items, by lot. -/
def pickOne {Item : Type} (items : List Item) : Action State (Option Item) :=
  onState (world.draw.oneOf items)

end GracefulStop.Action
