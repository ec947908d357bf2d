import GracefulStop.Cluster.Error
import GracefulStop.Cluster.Manifest
import GracefulStop.Draw
import GracefulStop.Query.Request
import GracefulStop.Workload.Operation

/-!
# The surroundings of a run

A run starts and stops nodes, sends them signals and statements, and waits for them. A
`World` says how its surroundings answer, from a state of any type and the time. Nothing is
assumed about the answers: a world may be a simulated cluster, real processes, or a script.

What takes time is looked at again and again. Each look gives the answer, or says how long
to wait until the next look.
-/

namespace GracefulStop

/-- A moment, as the time since the start of the run. -/
abbrev Instant := Duration

/-- A node that was laid out: its spec, and its number among all nodes of the run. -/
structure Node where
  spec : NodeSpec
  serial : Nat
  deriving DecidableEq, Repr, Inhabited

/-- The name of a node. -/
def Node.name (node : Node) : String := node.spec.name

/-- One look at something that takes time. -/
structure Look where
  /-- When it began. -/
  began : Instant
  /-- The time of this look. -/
  now : Instant
  /-- How many looks there were before. -/
  index : Nat

/-- A worker of a workload of a run. -/
structure WorkerLabel where
  /-- The position of its workload among those of the run. -/
  load : Nat
  /-- Its index among the workers of that workload. -/
  index : Nat
  kind : OperationKind
  deriving DecidableEq, Repr, Inhabited

/-- What a look finds. -/
inductive Progress (Answer : Type) where
  | done (answer : Answer)
  /-- Nothing yet; the next look is due after this time. -/
  | pause (length : Duration)
  /-- There will never be an answer. -/
  | stalled

/-- How the surroundings of a run answer. -/
structure World (State : Type) where
  /-- Prepares the process of a node. -/
  launch : Node → Instant → State → Except ClusterError Unit × State
  /-- Prepares the client of a node. -/
  connect : Node → Instant → State → Except ClusterError Unit × State
  /-- Keeps the layout of a cluster. -/
  record : Manifest → Instant → State → Except ClusterError Unit × State
  /-- Whether a port is in use at some moment. -/
  portInUse : Instant → Nat → State → Bool × State
  /-- Starts a node and waits until it can serve. -/
  start : Node → Look → State → Progress (Except ClusterError Unit) × State
  /-- Stops a node for good. -/
  stop : Node → Instant → State → Except ClusterError Unit × State
  /-- Asks a node to leave. -/
  signal : Node → Instant → State → Except ClusterError Unit × State
  /-- Waits for a node to end, not longer than a given time, and gives its exit code. -/
  wait : Node → Duration → Look → State → Progress (Except ClusterError (Option Int)) × State
  /-- Whether a node is running. -/
  isRunning : Node → Instant → State → Bool × State
  /-- Sends a request to a node. -/
  query : Node → Request → Look → State → Progress (Except QueryError Response) × State
  /-- Draws a lot. -/
  draw : Draw State
  /-- How long anything that takes time may take. What takes longer counts as never done. -/
  allowed : Duration := .ofSeconds 1000

/-- What a run did to its surroundings and what they answered. -/
inductive Event where
  | launched (node : Node) (result : Except ClusterError Unit)
  | connected (node : Node) (result : Except ClusterError Unit)
  | recorded (manifest : Manifest) (result : Except ClusterError Unit)
  | started (node : Node) (result : Except ClusterError Unit)
  | stopped (node : Node) (result : Except ClusterError Unit)
  | signalled (node : Node) (result : Except ClusterError Unit)
  | waited (node : Node) (timeout : Duration) (result : Except ClusterError (Option Int))
  /-- A node was looked at and found running or not. -/
  | checked (node : Node) (running : Bool)
  /-- A live node was chosen to be asked. -/
  | picked (node : Node)
  | asked (node : Node) (request : Request)
  | answered (node : Node) (request : Request) (result : Except QueryError Response)
  /-- A workload was started at a position, so many workers for each of the kinds, which ask a node. -/
  | workloadStarted (load : Nat) (node : Node) (kinds : List OperationKind) (perKind : Nat)
  /-- A worker sent a statement. -/
  | workerAsked (worker : WorkerLabel) (node : Node) (request : Request)
  /-- The statement of a worker returned, with a row count or an error. -/
  | workerAnswered (worker : WorkerLabel) (node : Node) (request : Request)
      (result : Except QueryError Int)
  /-- The workload at a position was stopped, and these were its records. -/
  | workloadStopped (load : Nat) (errors : List WorkloadError)

/-- An event with its time. -/
structure LogEntry where
  time : Instant
  event : Event

end GracefulStop
