import GracefulStop.Query.Response
import GracefulStop.Workload.Operation

/-!
# Workers

A workload is a number of workers, a flag, and a barrier for the workers and the caller. As long as
the flag is up, a worker sends a statement, counts its return, records an error that is not benign,
and looks at the flag again. A call that breaks off ends its worker and is recorded. A worker that
has ended comes to the barrier. Stopping takes the flag down, waits at the barrier, and takes the
records once every party has come.

`Workload.step?` says which steps are possible when; any order of possible steps is a run.
-/

namespace GracefulStop

/-- How the call of a worker ended. -/
inductive CallOutcome where
  | returned (result : Except QueryError Response)
  /-- The call broke off with a message. -/
  | panicked (message : String)

/-- A call that broke off, with the text that it left, if it left one. -/
def CallOutcome.brokenOff (text : Option String) : CallOutcome :=
  .panicked (text.getD "unknown panic payload")

/-- Whether a call returned at all. -/
def CallOutcome.isReturn : CallOutcome → Bool
  | .returned _ => true
  | .panicked _ => false

/-- Where a worker stands. -/
inductive WorkerPhase where
  /-- About to look at the flag. -/
  | ready
  /-- Waiting for a statement to return. -/
  | calling
  /-- The statement has returned, perhaps with an error, and is not counted yet. -/
  | returned (error : Option QueryError)
  /-- The return is counted, and its error is not recorded yet. -/
  | counted (error : Option QueryError)
  /-- The call broke off, which is not recorded yet. -/
  | broken (message : String)
  /-- On the way to the barrier. -/
  | leaving
  /-- Ended: at the barrier. -/
  | finished
  deriving DecidableEq, Repr, Inhabited

/-- One worker. -/
structure Worker where
  kind : OperationKind
  phase : WorkerPhase
  deriving DecidableEq, Repr, Inhabited

/-- Where the caller stands who stops a workload. -/
inductive CallerPhase where
  /-- The workload goes on. -/
  | away
  /-- The flag is down. -/
  | lowered
  /-- At the barrier. -/
  | waiting
  /-- Back from stopping, with the records. -/
  | served (errors : List WorkloadError)
  deriving DecidableEq, Repr, Inhabited

/-- A barrier, which opens once so many parties have come to it. -/
structure Barrier where
  size : Nat
  arrived : Nat
  deriving DecidableEq, Repr, Inhabited

namespace Barrier

/-- The barrier after one more party has come. -/
def meet (barrier : Barrier) : Barrier := { barrier with arrived := barrier.arrived + 1 }

/-- Whether every party has come. -/
def isOpen (barrier : Barrier) : Bool := barrier.size ≤ barrier.arrived

end Barrier

/-- The workers of a workload with what they share. -/
structure Workload where
  workers : List Worker
  /-- The flag. -/
  active : Bool
  /-- The records, the latest last, as far as they have not been taken. -/
  errors : List WorkloadError
  /-- Statements that returned. -/
  operations : Nat
  barrier : Barrier
  caller : CallerPhase
  deriving DecidableEq, Repr, Inhabited

namespace Workload

/-- A step of one worker, or of the caller. -/
inductive Step where
  /-- A worker looks at the flag: it sends a statement, or ends. -/
  | look (worker : Nat)
  /-- The statement of a worker ends. -/
  | answer (worker : Nat) (outcome : CallOutcome)
  /-- A worker counts the return of its statement. -/
  | count (worker : Nat)
  /-- What a worker's statement came to is recorded, if it has to be. -/
  | record (worker : Nat)
  /-- A worker that has ended comes to the barrier. -/
  | arrive (worker : Nat)
  /-- The caller takes the flag down. -/
  | lower
  /-- The caller comes to the barrier. -/
  | meet
  /-- The caller leaves the barrier with the records. -/
  | collect

/-- So many workers for each of the kinds, all about to start. -/
def start (kinds : List OperationKind) (perKind : Nat) : Workload where
  workers := kinds.flatMap fun kind => List.replicate perKind ⟨kind, .ready⟩
  active := true
  errors := []
  operations := 0
  barrier := ⟨kinds.length * perKind + 1, 0⟩
  caller := .away

/-- The worker at an index in another phase. -/
def setPhase (workload : Workload) (index : Nat) (phase : WorkerPhase) : Workload :=
  { workload with workers := workload.workers.modify index fun worker => { worker with phase } }

/-- The workload with more records. -/
def enter (workload : Workload) (records : List WorkloadError) : Workload :=
  { workload with errors := workload.errors ++ records }

/-- What a counted return adds to the records. -/
def recordOf (kind : OperationKind) : Option QueryError → List WorkloadError
  | none => []
  | some error => if kind.isBenign error then [] else [.query kind error]

/-- The phase after a call. -/
def phaseAfter : CallOutcome → WorkerPhase
  | .returned (.ok _) => .returned none
  | .returned (.error error) => .returned (some error)
  | .panicked message => .broken message

/-- One step, if it is possible. -/
def step? (workload : Workload) : Step → Option Workload
  | .look index =>
    match workload.workers[index]? with
    | some ⟨_, .ready⟩ =>
      some (workload.setPhase index (if workload.active then .calling else .leaving))
    | _ => none
  | .answer index outcome =>
    match workload.workers[index]? with
    | some ⟨_, .calling⟩ => some (workload.setPhase index (phaseAfter outcome))
    | _ => none
  | .count index =>
    match workload.workers[index]? with
    | some ⟨_, .returned error⟩ =>
      some
        { workload.setPhase index (.counted error) with operations := workload.operations + 1 }
    | _ => none
  | .record index =>
    match workload.workers[index]? with
    | some ⟨kind, .counted error⟩ =>
      some ((workload.setPhase index .ready).enter (recordOf kind error))
    | some ⟨kind, .broken message⟩ =>
      some ((workload.setPhase index .leaving).enter [.panicked kind message])
    | _ => none
  | .arrive index =>
    match workload.workers[index]? with
    | some ⟨_, .leaving⟩ =>
      some { workload.setPhase index .finished with barrier := workload.barrier.meet }
    | _ => none
  | .lower =>
    if workload.caller = .away then some { workload with active := false, caller := .lowered }
    else none
  | .meet =>
    if workload.caller = .lowered then
      some { workload with barrier := workload.barrier.meet, caller := .waiting }
    else none
  | .collect =>
    if workload.caller = .waiting && workload.barrier.isOpen then
      some { workload with errors := [], caller := .served workload.errors }
    else none

/-- Steps in order, if each is possible in its turn. -/
def replay? (workload : Workload) : List Step → Option Workload
  | [] => some workload
  | step :: rest => (workload.step? step).bind (replay? · rest)

/-- The workload after steps, of which those are left out that are not possible in their turn. -/
def perform (workload : Workload) (steps : List Step) : Workload :=
  steps.foldl (fun workload step => (workload.step? step).getD workload) workload

/-- What a worker does that goes on without a call. -/
def lookSteps (index : Nat) : List Step := [.look index, .arrive index]

/-- What a worker does whose call ends. -/
def endSteps (index : Nat) (outcome : CallOutcome) : List Step :=
  [.answer index outcome, .count index, .record index, .arrive index]

/-- What the caller does who stops the workload, up to the barrier. -/
def stopSteps : List Step := [.lower, .meet]

/-- Whether stopping returns. -/
def isFinished (workload : Workload) : Bool := workload.barrier.isOpen

/-- The records that the caller has taken. -/
def collected (workload : Workload) : List WorkloadError :=
  match workload.caller with
  | .served errors => errors
  | _ => []

/-- How a workload is described in messages. -/
def described (workload : Workload) : String :=
  "RunningWorkload \x7b workers: " ++ toString workload.workers.length ++ ", active: " ++
    toString workload.active ++ ", errors: " ++ toString workload.errors.length ++ ", .. \x7d"

end Workload

end GracefulStop
