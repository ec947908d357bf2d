import GracefulStop.Main
import GracefulStop.Proofs.Cluster.Bound
import GracefulStop.Proofs.Cluster.Departure
import GracefulStop.Proofs.Cluster.Directories
import GracefulStop.Proofs.Cluster.Leaving
import GracefulStop.Proofs.Cluster.Manifest
import GracefulStop.Proofs.Cluster.Outcome
import GracefulStop.Proofs.Cluster.Ports
import GracefulStop.Proofs.Cluster.Premises
import GracefulStop.Proofs.Cluster.Quorum
import GracefulStop.Proofs.Cluster.Readiness
import GracefulStop.Proofs.Cluster.Restart
import GracefulStop.Proofs.Cluster.Routing
import GracefulStop.Proofs.Cluster.Server
import GracefulStop.Proofs.Cluster.Startup
import GracefulStop.Proofs.Config.Reload
import GracefulStop.Proofs.Config.Variables
import GracefulStop.Proofs.Decimal.Values
import GracefulStop.Proofs.Node.Arguments
import GracefulStop.Proofs.Node.Refusal
import GracefulStop.Proofs.Node.Rest
import GracefulStop.Proofs.Node.Standing
import GracefulStop.Proofs.Port.FirstFit
import GracefulStop.Proofs.Port.Ranges
import GracefulStop.Proofs.Query.Body
import GracefulStop.Proofs.Query.Bulk
import GracefulStop.Proofs.Query.Envelope
import GracefulStop.Proofs.Query.Rejections
import GracefulStop.Proofs.Retry.Attempts
import GracefulStop.Proofs.Retry.Deadlines
import GracefulStop.Proofs.Retry.Growth
import GracefulStop.Proofs.Scenario.CleanExit
import GracefulStop.Proofs.Scenario.LaunchSettings
import GracefulStop.Proofs.Scenario.Verdicts
import GracefulStop.Proofs.Shard.Await
import GracefulStop.Proofs.Text.Search
import GracefulStop.Proofs.Workload.Records
import GracefulStop.Simulation.Lifecycle
import GracefulStop.Simulation.Play
import GracefulStop.Simulation.StandIn
import GracefulStop.Workload.Drill
import GracefulStop.Proofs.Config.Paths
