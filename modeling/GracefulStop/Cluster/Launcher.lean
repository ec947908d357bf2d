import GracefulStop.Cluster.ManifestText
import GracefulStop.Node.Process
import GracefulStop.Query.Http

/-!
# Clusters of processes

A launcher starts nodes from an installation of the database as processes of a host. With them, and
with something that answers their statements, a host makes the surroundings of a run.
-/

namespace GracefulStop

/-- Starts nodes from an installation. -/
structure Launcher where
  home : Path
  run : RunDir
  signal : Signal := .usr2
  startTimeout : Duration := .ofSeconds 60
  deriving DecidableEq, Repr

/-- A host with the processes of nodes, by the numbers of the nodes, and whatever else there is. -/
structure Premises (Rest : Type) where
  host : Host
  processes : List (Nat × NodeProcess)
  rest : Rest

namespace Launcher

/-- The process of a node, which has not been started. -/
def process (launcher : Launcher) (spec : NodeSpec) : NodeProcess where
  name := spec.name
  command := .forNode launcher.home spec (launcher.run.nodeDir spec)
  readiness := .listening spec.host spec.httpPort
  startTimeout := launcher.startTimeout
  signal := launcher.signal
  logDir := Path.join (launcher.run.nodeDir spec) "logs"

end Launcher

namespace Premises

variable {Rest : Type}

/-- Puts a process in the place of a node's. -/
def setProcess (premises : Premises Rest) (node : Node) (process : NodeProcess) : Premises Rest :=
  { premises with
    processes := (node.serial, process) :: premises.processes.filter (·.1 != node.serial) }

/-- Uses the process of a node and its host; a node that has none gets one. -/
def withProcess {Result : Type} (launcher : Launcher) (node : Node)
    (use : NodeProcess → Host → Result × NodeProcess × Host) (premises : Premises Rest) :
    Result × Premises Rest :=
  let process := (premises.processes.lookup node.serial).getD (launcher.process node.spec)
  let (result, process, host) := use process premises.host
  (result, { premises with host }.setProcess node process)

/-- Keeps the layout of a cluster in its directory. -/
def record (launcher : Launcher) (manifest : Manifest) (premises : Premises Rest) :
    Except ClusterError Unit × Premises Rest :=
  match launcher.run.record manifest premises.host.files with
  | .ok files => (.ok (), { premises with host := { premises.host with files } })
  | .error error => (.error error, premises)

end Premises

namespace Launcher

variable {Rest : Type}

/-- How a host surrounds a run, where `ask` answers requests to nodes. -/
def world (launcher : Launcher)
    (ask : Node → Request → Look → Premises Rest →
      Progress (Except QueryError Response) × Premises Rest)
    (draw : Draw Rest) : World (Premises Rest) where
  launch node _ premises := (.ok (), premises.setProcess node (launcher.process node.spec))
  connect node _ premises :=
    match node.spec.endpoint with
    | .ok _ => (.ok (), premises)
    | .error error => (.error (.query error), premises)
  record manifest _ premises := premises.record launcher manifest
  portInUse now port premises := (premises.host.isTaken port now, premises)
  start node look := Premises.withProcess launcher node fun process host => process.start host look
  stop node now := Premises.withProcess launcher node fun process host =>
    (.ok (), process.stop host now)
  signal node now := Premises.withProcess launcher node fun process host =>
    (.ok (), process, process.askToLeave host now)
  wait node timeout look := Premises.withProcess launcher node fun process host =>
    let (progress, process) := process.wait host timeout look
    (progress, process, host)
  isRunning node now := Premises.withProcess launcher node fun process host =>
    let (running, process) := process.isRunning host now
    (running, process, host)
  query node request look premises := ask node request look premises
  draw bound premises :=
    let (number, rest) := draw bound premises.rest
    (number, { premises with rest })

end Launcher

end GracefulStop
