import GracefulStop.Cluster.Launcher
import GracefulStop.Report.Errors
import GracefulStop.Run.Action
import GracefulStop.Simulation.Conduct
import GracefulStop.Simulation.Setup

/-!
# Lives of processes

A play with a single process on a simulated host: it is started, stopped, signalled, waited for and
looked at. After each step it is reported what came of the step and how the process stands.
-/

namespace GracefulStop.Simulation

/-- Reads what a script does. -/
def Conduct.ofJson (value : Json) : Conduct :=
  let code := value.natAt "n"
  let signal := (Signal.parse (value.textAt "signal")).toOption.getD .usr2
  match value.textAt "kind" with
  | "exit" => .exit code
  | "kill_self" => .killSelf code
  | "say_exit" => .sayExit code
  | "trap" => .trap signal code
  | "ignore" => .ignore signal
  | "env" => .tell ["got", "here", "zero", "one"]
  | _ => .sleep

namespace Lifecycle

/-- The premises of a play. -/
abbrev Stage := Premises Unit

/-- What a play does. -/
abbrev StageAction := Action Stage

/-- The node whose process is played with. -/
def node : Node := ⟨default, 0⟩

/-- The surroundings of a play. Nobody asks anything. -/
def world : World Stage :=
  Launcher.world { home := "", run := ⟨""⟩ }
    (fun _ _ _ stage => (.stalled, stage))
    (fun _ state => (0, state))

/-- A directory for what processes write. -/
def logDir : Path := "/work/logs"

/-- The directory in which processes are started. -/
def workingDir : Path := "/work"

/-- The files of the host. In the place of the directory for what processes write there may be a
file. -/
def files (logsBlocked : Bool) : FileTree :=
  let names (path : Path) := path.names.filter (· != "")
  Shell.withHostFiles (.ofFiles workingDir
    ((names workingDir, .directory []) ::
      if logsBlocked then [(names logDir, .regular [] false)] else []))

/-- The host. Every shell does the same, whatever its script is. -/
def host (conduct : Conduct) (isOpen : Bool) (files : FileTree) : Host where
  programs _ command :=
    match startedBy files command with
    | .ok (.shell _, _) => .ok conduct.program
    | .ok (native, arguments) => .ok (ofNative files command.program command.env native arguments)
    | .error error => .error error.message
  listens _ _ _ := isOpen
  children := []
  files := files

/-- What every process gets as its arguments. -/
def arguments : List String := ["-c", "script", "zero", "one"]

/-- How it is known that the process serves, as an object tells. -/
def readinessOf (value : Json) : Readiness :=
  match value.member? "tcp" with
  | some _ => .listening "127.0.0.1" 4200
  | none => .aliveAfter (.ofMember value "alive_after")

/-- The process that an object tells of. -/
def processOf (input : Json) : NodeProcess where
  name := input.textAt "name"
  command := ⟨(input.textAt? "program").getD "/bin/sh", arguments, []⟩
  readiness := readinessOf (input.get "ready")
  startTimeout := (Duration.ofJson? (input.get "start_timeout")).getD (.ofSeconds 5)
  signal := ((input.textAt? "signal").bind fun name => (Signal.parse name).toOption).getD .usr2
  logDir := logDir

/-- A run with one process that has not been started. -/
def startRun (input : Json) : Run Stage :=
  let conduct := Conduct.ofJson (input.get "behavior")
  let isOpen := (input.get "ready").textAt "tcp" = "open"
  let process := processOf input
  Run.start
    ⟨host conduct isOpen (files (input.boolAt "logs_blocked")), [(node.serial, process)], ()⟩
    ⟨0, 0, false⟩

/-- Looks at the process. -/
def look {Value : Type} (view : NodeProcess → Host → Instant → Value) (absent : Value) :
    StageAction Value :=
  Action.atOnce fun now stage =>
    (((stage.processes.lookup node.serial).map fun process =>
        view process stage.host now).getD absent,
      stage)

/-- The time between two looks at something that is awaited. -/
def pollInterval : Duration := .ofMillis 10

/-- Waits until something is so. -/
def until? (check : Instant → Stage → Bool × Stage) : StageAction Unit :=
  Action.await world fun look stage =>
    match check look.now stage with
    | (true, stage) => (.done (), stage)
    | (false, stage) => (.pause pollInterval, stage)

/-- Whether the process has ended, noticed or not. -/
def hasEnded (now : Instant) (stage : Stage) : Bool × Stage :=
  let ended := (stage.processes.lookup node.serial).all fun process =>
    process.child.all fun pid => !stage.host.isAlive pid now
  (ended, stage)

/-- An error as JSON. The system's own texts are left out. -/
def errorJson (error : ClusterError) : Json :=
  match error with
  | .io _ => .object [("error", .string error.name)]
  | _ => error.json

/-- Does something that can fail, and reports it. -/
def reporting {Value : Type} (write : Value → Json)
    (action : StageAction (Except ClusterError Value)) : StageAction Json := do
  return Json.ofResult errorJson write (← action)

/-- The report of a step that gives no value. -/
def done (_ : Unit) : Json := .string "ok"

/-- A step that is named by a word. -/
def stepOfWord : String → StageAction Json
  | "start" => reporting done (Action.await world (world.start node))
  | "stop" => reporting done (Action.atOnce (world.stop node))
  | "signal" => reporting done (Action.atOnce (world.signal node))
  | "running" => Json.bool <$> Action.atOnce (world.isRunning node)
  | "pid" => Json.bool <$> look (fun process _ _ => process.child.isSome) false
  | "log" => Json.string <$> look (fun process host _ => process.log host) ""
  | "name" => Json.string <$> look (fun process _ _ => process.name) ""
  | "await_gone" => do
    until? fun now stage =>
      let (running, stage) := world.isRunning node now stage
      (!running, stage)
    return .bool true
  | "await_zombie" => do
    until? hasEnded
    return .bool true
  | "await_ready" => return .bool true
  | _ => return .null

/-- A step: a word, or how long to wait for the process to end. -/
def stepOf (step : Json) : StageAction Json :=
  match step with
  | .string word => stepOfWord word
  | step =>
    reporting (fun code => .object [("code", Json.ofOption .int code)])
      (Action.await world (world.wait node (.ofMember step "wait")))

/-- Steps one after another, with the reports of each. -/
def play : List Json → StageAction (List Json)
  | [] => return []
  | step :: rest => do
    let result ← stepOf step
    let status ← look (fun process _ _ => process.status) .stopped
    let report : Json := .object [("result", result), ("status", .string status.described)]
    return report :: (← play rest)

/-- The reports of the steps of a play. -/
def reports (input : Json) : List Json :=
  ((play (input.itemsAt "ops") none (startRun input)).1).getD []

end Lifecycle

end GracefulStop.Simulation
