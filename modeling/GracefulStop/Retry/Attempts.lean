import GracefulStop.Retry.Policy
import GracefulStop.Run.Effects

/-!
# Repeated attempts

An attempt whose error is worth another one is followed by a backoff and the next attempt, until
the backoffs add up to the deadline. The outcome of the last attempt is the result.
-/

namespace GracefulStop

variable {State : Type} {Answer : Type}

/-- Attempts from one on, where `waited` is the sum of the backoffs so far. -/
def attemptsFrom (world : World State) (plan : BackoffPlan) (retryable : QueryError → Bool)
    (attempt : Action State (Except QueryError Answer)) (waited backoff : Duration)
    (_enough : BackoffPlan.shortest ≤ backoff) : Action State (Except QueryError Answer) := do
  match ← attempt with
  | .ok answer => pure (.ok answer)
  | .error error =>
    if retryable error then
      if _spent : plan.deadline ≤ waited then pure (.error error)
      else
        Action.sleep world backoff
        attemptsFrom world plan retryable attempt (waited + backoff) (plan.next backoff)
          (plan.shortest_le_next backoff)
    else pure (.error error)
termination_by plan.deadline.nanos - waited.nanos
decreasing_by
  simp only [Duration.le_def, Duration.nanos_add] at *
  simp only [BackoffPlan.shortest, Duration.ofMillis] at _enough
  omega

/-- Makes an attempt at least once, and again as a plan of backoffs allows. -/
def repeatAttempts (world : World State) (plan : BackoffPlan) (retryable : QueryError → Bool)
    (attempt : Action State (Except QueryError Answer)) : Action State (Except QueryError Answer) :=
  attemptsFrom world plan retryable attempt .zero plan.first plan.shortest_le_first

/-- Sends a statement to a node, again and again as a policy allows. -/
def RetryPolicy.execute (policy : RetryPolicy) (world : World State) (node : Node)
    (statement : String) (params : List Json) : Action State (Except QueryError Response) :=
  repeatAttempts world policy.plan policy.retryable
    (Action.query world node (.single statement params))

end GracefulStop
