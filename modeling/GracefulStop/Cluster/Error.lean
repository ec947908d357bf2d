import GracefulStop.Duration
import GracefulStop.Query.Error

/-!
# Errors of a cluster

What can go wrong while a cluster is laid out, started, queried and taken down, with the text of
each error and the chain of causes that stands behind it.
-/

namespace GracefulStop

/-- Why an operation on a cluster failed. -/
inductive ClusterError where
  /-- A file or a process of the host could not be used. -/
  | io (reason : String)
  /-- A cluster needs at least one node. -/
  | invalidNodeCount (count : Nat)
  /-- No range of so many ports is left below the end of the pool. -/
  | portsExhausted (wanted next stop : Nat)
  | nodeNotFound (index : Nat)
  | nodeAlreadyRunning (node : String)
  /-- A node that should be up has no live process. -/
  | nodeNotRunning (node : String)
  /-- One attempt to start a node failed. -/
  | nodeStartFailed (node reason : String)
  /-- Every attempt to start a node failed. -/
  | startupFailed (node : String) (attempts : Nat) (last : String)
  | spawnFailed (reason : String)
  | signalFailed (node reason : String)
  | unsupportedSignal (name : String)
  /-- A node did not leave in time. -/
  | decommissionTimeout (node : String) (timeout : Duration)
  /-- Not every member joined in time. -/
  | quorumTimeout (seen : Int) (expected : Nat) (timeout : Duration)
  /-- No node is left that could be asked. -/
  | noLiveNode
  | query (error : QueryError)
  /-- The layout of a cluster could not be written. -/
  | manifest (reason : String)
  deriving DecidableEq, Repr, Inhabited

namespace ClusterError

/-- The text of an error. -/
def message : ClusterError → String
  | io reason => "IO error: " ++ reason
  | invalidNodeCount count => "Invalid node count: " ++ toString count ++ " (must be >= 1)"
  | portsExhausted wanted next stop =>
    "Port pool exhausted: wanted " ++ toString wanted ++ " ports, next free is " ++
      toString next ++ " of " ++ toString stop
  | nodeNotFound index => "Node " ++ toString index ++ " not found"
  | nodeAlreadyRunning node => "Node " ++ node ++ " is already running"
  | nodeNotRunning node => "Node " ++ node ++ " is not running"
  | nodeStartFailed node reason => "Node " ++ node ++ " failed to start: " ++ reason
  | startupFailed node attempts last =>
    "Could not start node " ++ node ++ ": max retries (" ++ toString attempts ++
      ") exceeded: " ++ last
  | spawnFailed reason => "Failed to spawn process: " ++ reason
  | signalFailed node reason => "Failed to signal node " ++ node ++ ": " ++ reason
  | unsupportedSignal name => "Unsupported signal: " ++ name
  | decommissionTimeout node timeout =>
    "Node " ++ node ++ " did not stop within " ++ timeout.text ++
      " after graceful shutdown request"
  | quorumTimeout seen expected timeout =>
    "Cluster reported " ++ toString seen ++ "/" ++ toString expected ++ " nodes after " ++
      timeout.text
  | noLiveNode => "No live node available"
  | query error => "Query failed: " ++ error.message
  | manifest reason => "TOML serialization error: " ++ reason

/-- The texts of the errors behind an error, the nearest first. -/
def causes : ClusterError → List String
  | io reason => [reason]
  | query error => [error.message]
  | manifest reason => [reason]
  | _ => []

end ClusterError

end GracefulStop
