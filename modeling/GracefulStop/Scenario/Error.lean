import GracefulStop.Cluster.Error
import GracefulStop.Shard.Query

/-!
# Errors of a scenario
-/

namespace GracefulStop

/-- Why an operation of a scenario failed. -/
inductive ScenarioError where
  | cluster (error : ClusterError)
  | query (error : QueryError)
  | verify (error : VerifyError)
  /-- There is no cluster yet. -/
  | notProvisioned
  deriving DecidableEq, Repr, Inhabited

namespace ScenarioError

/-- The text of an error. -/
def message : ScenarioError → String
  | cluster error => "cluster error: " ++ error.message
  | query error => "query error: " ++ error.message
  | verify error => "verification failed: " ++ error.message
  | notProvisioned => "no cluster provisioned"

/-- The texts of the errors behind an error, the nearest first. -/
def causes : ScenarioError → List String
  | cluster error => error.message :: error.causes
  | query error => [error.message]
  | verify error => [error.message]
  | notProvisioned => []

end ScenarioError

end GracefulStop
