import GracefulStop.Node.Host

/-!
# Processes of nodes

The process of a node is stopped, starting, running, ended, or crashed before it could serve. That
it has ended is noticed only when someone looks. A start waits until the node can serve, and fails
if it ends before or takes too long; then it is killed.
-/

namespace GracefulStop

/-- How a process stands, as far as has been noticed. -/
inductive NodeStatus where
  /-- Never started, or stopped. -/
  | stopped
  /-- Started, but not known to serve. -/
  | starting
  | running
  /-- Ended by itself with an exit code. -/
  | exited (code : Int)
  /-- Ended or killed before it could serve. -/
  | crashed
  deriving DecidableEq, Repr, Inhabited

/-- How a status is described in messages. -/
def NodeStatus.described : NodeStatus → String
  | stopped => "Stopped"
  | starting => "Starting"
  | running => "Running"
  | exited code => "Exited(" ++ toString code ++ ")"
  | crashed => "Crashed"

/-- By what a process is known to serve. -/
inductive Readiness where
  /-- Something listens at an address. -/
  | listening (address : String) (port : Nat)
  /-- It is still alive after some time. -/
  | aliveAfter (delay : Duration)
  deriving DecidableEq, Repr, Inhabited

/-- The process of a node. -/
structure NodeProcess where
  name : String
  command : LaunchCommand
  readiness : Readiness
  startTimeout : Duration
  /-- The signal that asks the node to leave. -/
  signal : Signal
  /-- The directory of the file that takes what the process writes. -/
  logDir : Path
  child : Option Pid := none
  status : NodeStatus := .stopped
  deriving Repr, Inhabited

namespace NodeProcess

/-- The name of the file that takes what a process writes. -/
def logName (process : NodeProcess) : String := process.name ++ ".log"

/-- What the process has written. -/
def log (process : NodeProcess) (host : Host) : String :=
  Text.ofUtf8 ((host.files.octets? (Path.join process.logDir process.logName)).getD [])

/-- The time between two looks at a process that is starting. -/
def startPoll : Duration := .ofMillis 100

/-- Takes note of the end of the process, if it has ended, and gives its exit code then. -/
def reap (process : NodeProcess) (host : Host) (now : Instant) : Option Int × NodeProcess :=
  match process.child.bind fun pid => host.endedAs? pid now with
  | some status => (some status.code, { process with child := none, status := .exited status.code })
  | none => (none, process)

/-- Whether the process is alive. -/
def isRunning (process : NodeProcess) (host : Host) (now : Instant) : Bool × NodeProcess :=
  let (code, process) := process.reap host now
  (code.isNone && process.child.isSome, process)

/-- Whether a start is refused. -/
def isTaken (process : NodeProcess) : Bool :=
  process.status = .starting || process.status = .running

/-- Starts the program, with a file for what it writes. -/
def spawn (process : NodeProcess) (host : Host) (now : Instant) :
    Except ClusterError (Pid × Host) := do
  match host.files.append process.logDir process.logName [] with
  | .error error => .error (.io error.message)
  | .ok files =>
    match { host with files }.spawn process.command now with
    | .error reason => .error (.spawnFailed (process.command.program ++ ": " ++ reason))
    | .ok (pid, host) =>
      let output :=
        ((host.children[pid]?.map fun child => child.program.output).getD "").toUTF8.toList
      match host.files.append process.logDir process.logName output with
      | .ok files => .ok (pid, { host with files })
      | .error _ => .ok (pid, host)

/-- A process whose start has failed: what is left of it is killed. -/
def giveUp (process : NodeProcess) (host : Host) (now : Instant) : NodeProcess × Host :=
  ({ process with child := none, status := .crashed },
    match process.child with
    | some pid => host.kill pid now
    | none => host)

/-- Whether a process that is alive is known to serve. -/
def serves (process : NodeProcess) (host : Host) (now : Instant) : Bool :=
  match process.readiness with
  | .listening address port => host.listens address port now
  | .aliveAfter _ => true

/-- One look at a process that is starting: it has ended, or serves, or has taken too long. -/
def checkStart (process : NodeProcess) (host : Host) (look : Look) :
    Progress (Except ClusterError Unit) × NodeProcess × Host :=
  match process.reap host look.now with
  | (some code, process) =>
    let reason := "exited with code " ++ toString code ++ " during startup"
    (.done (.error (.nodeStartFailed process.name reason)), process.giveUp host look.now)
  | (none, process) =>
    if process.serves host look.now then (.done (.ok ()), { process with status := .running }, host)
    else if look.began + process.startTimeout ≤ look.now then
      let reason := "not ready within " ++ process.startTimeout.text
      (.done (.error (.nodeStartFailed process.name reason)), process.giveUp host look.now)
    else (.pause startPoll, process, host)

/-- Starts the process and waits until it serves. -/
def start (process : NodeProcess) (host : Host) (look : Look) :
    Progress (Except ClusterError Unit) × NodeProcess × Host :=
  if look.index ≠ 0 then process.checkStart host look
  else if process.isTaken then (.done (.error (.nodeAlreadyRunning process.name)), process, host)
  else
    match process.spawn host look.now with
    | .error error => (.done (.error error), { process with status := .crashed }, host)
    | .ok (pid, host) =>
      let process := { process with child := some pid, status := .starting }
      match process.readiness with
      | .aliveAfter delay => (.pause delay, process, host)
      | .listening .. => process.checkStart host look

/-- Stops the process for good. One that has ended stays so. -/
def stop (process : NodeProcess) (host : Host) (now : Instant) : NodeProcess × Host :=
  match process.child with
  | none =>
    match process.status with
    | .crashed => (process, host)
    | .exited _ => (process, host)
    | _ => ({ process with status := .stopped }, host)
  | some pid =>
    match process.reap host now with
    | (some _, process) => (process, host)
    | (none, process) => ({ process with child := none, status := .stopped }, host.kill pid now)

/-- Asks the process to leave. -/
def askToLeave (process : NodeProcess) (host : Host) (now : Instant) : Host :=
  match process.child with
  | some pid => host.signal pid now process.signal
  | none => host

/-- The time until a child ends, not longer than a given time. -/
def timeToEnd (host : Host) (pid : Pid) (now : Instant) (longest : Duration) : Duration :=
  match host.ending? pid with
  | some (moment, _) => min (moment - now) longest
  | none => longest

/-- Waits for the process to end, not longer than a given time, and gives its exit code. -/
def wait (process : NodeProcess) (host : Host) (timeout : Duration) (look : Look) :
    Progress (Except ClusterError (Option Int)) × NodeProcess :=
  match process.child with
  | none =>
    match process.status with
    | .exited code => (.done (.ok (some code)), process)
    | _ => (.done (.error (.nodeNotRunning process.name)), process)
  | some pid =>
    match process.reap host look.now with
    | (some code, process) => (.done (.ok (some code)), process)
    | (none, process) =>
      let stop := look.began + timeout
      if stop ≤ look.now then (.done (.ok none), process)
      else (.pause (timeToEnd host pid look.now (stop - look.now)), process)

end NodeProcess

end GracefulStop
