import GracefulStop.Retry.Attempts
import GracefulStop.Shard.Query

/-!
# Waiting for a state of the shards

A shard query is sent again and again until its row count is as expected or a deadline has
passed. Errors of a cluster state out of date do not end the wait; any other error does. No
query and no sleep goes on after the deadline.
-/

namespace GracefulStop

/-- How a state of the shards is awaited. -/
structure Verifier where
  policy : RetryPolicy
  pollInterval : Duration
  deadline : Duration

namespace Verifier

variable {State : Type}

/-- The verifier that a configuration asks for. -/
def ofSettings (policy : RetryPolicy) (settings : VerifySettings) : Verifier :=
  ⟨policy, settings.pollInterval, settings.deadline⟩

/-- What one round of a wait has brought. -/
inductive Reading where
  | settled (response : Response)
  | failed (error : QueryError)
  /-- Not yet, with the last row count that was seen. -/
  | unsettled (lastRowCount : Option Int)

/-- What the outcome of a query means; none came where the query was cut off. -/
def read (query : ShardQuery) (lastRowCount : Option Int) :
    Option (Except QueryError Response) → Reading
  | some (.ok response) =>
    if query.predicate.holds response.rowCount then .settled response
    else .unsettled (some response.rowCount)
  | some (.error error) => if error.isTransient then .unsettled lastRowCount else .failed error
  | none => .unsettled lastRowCount

/-- The error of a wait that is over. -/
def timeoutError (verifier : Verifier) (query : ShardQuery) (lastRowCount : Option Int) :
    VerifyError :=
  .timeout query.statement query.predicate.text lastRowCount verifier.deadline

/-- The rounds of a wait. -/
def rounds (verifier : Verifier) (world : World State) (node : Node) (query : ShardQuery)
    (began : Instant) (lastRowCount : Option Int) :
    (tries : Nat) → Action State (Except VerifyError Response)
  | 0 => Action.stall world
  | tries + 1 => do
    let remaining := verifier.deadline - ((← Action.now) - began)
    let outcome ← Action.within world remaining
      (verifier.policy.execute world node query.statement [])
    match read query lastRowCount outcome with
    | .settled response => pure (.ok response)
    | .failed error => pure (.error (.query error))
    | .unsettled lastRowCount =>
      let elapsed := (← Action.now) - began
      if verifier.deadline ≤ elapsed then
        pure (.error (verifier.timeoutError query lastRowCount))
      else
        Action.sleep world (min verifier.pollInterval (verifier.deadline - elapsed))
        rounds verifier world node query began lastRowCount tries

/-- No more rounds than these are made: where the poll interval is not zero, every round but the
last takes a millisecond. -/
def roundLimit (verifier : Verifier) : Nat := Action.patience + verifier.deadline.millis + 2

/-- The first answer of a node to a shard query whose row count is as expected. -/
def awaitInvariant (verifier : Verifier) (world : World State) (node : Node)
    (query : ShardQuery) : Action State (Except VerifyError Response) := do
  verifier.rounds world node query (← Action.now) none verifier.roundLimit

end Verifier

end GracefulStop
