import GracefulStop.Workload.Workers

/-!
# Drills

A drill lets the workers of a workload go on in turns against scripts: in every round each worker's
call ends as the script of its kind says, and the worker goes on. Where a script has ended, calls
succeed.
-/

namespace GracefulStop

/-- A workload with the scripts of its calls. -/
structure Drill where
  workload : Workload
  /-- How the next calls of each kind end. -/
  scripts : List (OperationKind × List CallOutcome)
  /-- How the call of each worker will end. -/
  calls : List CallOutcome
  /-- The parameters that were sent, the latest first. -/
  sent : List (OperationKind × List Json)
  seed : UInt64

namespace Drill

/-- The end of a call for which there is no script. -/
def unscripted : CallOutcome := .returned (.ok (.affected 1))

/-- A drill that is about to start. -/
def start (kinds : List OperationKind) (perKind : Nat)
    (scripts : List (OperationKind × List CallOutcome)) : Drill :=
  let workload := Workload.start kinds perKind
  ⟨workload, scripts, workload.workers.map fun _ => unscripted, [], 1⟩

/-- What is left of the script of a kind. -/
def script (drill : Drill) (kind : OperationKind) : List CallOutcome :=
  (drill.scripts.lookup kind).getD []

/-- The drill after steps of its workload, as far as they are possible. -/
def perform (drill : Drill) (steps : List Workload.Step) : Drill :=
  { drill with workload := drill.workload.perform steps }

/-- The phase of the worker at an index. -/
def phase (drill : Drill) (index : Nat) : WorkerPhase :=
  (drill.workload.workers[index]?.map Worker.phase).getD .finished

/-- A worker sends a statement, whose end its script fixes. -/
def send (drill : Drill) (index : Nat) (kind : OperationKind) : Drill :=
  let (params, seed) := kind.params Draw.congruential drill.seed
  { drill with
    seed
    sent := (kind, params) :: drill.sent
    calls := drill.calls.set index ((drill.script kind).head?.getD unscripted)
    scripts := (kind, (drill.script kind).tail) :: drill.scripts.filter (·.1 != kind) }

/-- The call of a worker ends, if there is one. -/
def finishCall (drill : Drill) (index : Nat) : Drill :=
  if drill.phase index = .calling then
    drill.perform (Workload.endSteps index (drill.calls[index]?.getD unscripted))
  else drill

/-- A worker looks at the flag, and sends a statement if it is up. -/
def look (drill : Drill) (index : Nat) : Drill :=
  let after := drill.perform (Workload.lookSteps index)
  match after.workload.workers[index]? with
  | some worker =>
    if drill.phase index = .ready && worker.phase = .calling then after.send index worker.kind
    else after
  | none => after

/-- Every worker goes on by one call. -/
def round (drill : Drill) : Drill :=
  (List.range drill.workload.workers.length).foldl
    (fun drill index => (drill.finishCall index).look index) drill

/-- Whether every worker has ended or has no script any more. -/
def isSpent (drill : Drill) : Bool :=
  drill.workload.workers.all fun worker =>
    worker.phase = .finished || (drill.script worker.kind).isEmpty

/-- Rounds until the scripts are spent, but at most so many. -/
def spend : (rounds : Nat) → Drill → Drill
  | 0, drill => drill
  | rounds + 1, drill => if drill.isSpent then drill else spend rounds drill.round

/-- How many calls the scripts fix. -/
def scriptedCalls (drill : Drill) : Nat := (drill.scripts.map (·.2.length)).foldr (· + ·) 0

/-- Starts the workers, lets them go on until the scripts are spent, and then until every call that
is under way has ended. -/
def rehearse (drill : Drill) : Drill :=
  (spend drill.scriptedCalls drill.round).round

/-- Takes the flag down and lets the workers end. -/
def stop (drill : Drill) : Drill := (drill.perform Workload.stopSteps).round

end Drill

end GracefulStop
