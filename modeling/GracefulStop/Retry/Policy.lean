import GracefulStop.Config.Basic
import GracefulStop.Decimal.Rounding
import GracefulStop.Query.Error

/-!
# Backoffs

Between two attempts lies a sleep, the backoff. The first one is given; each later one is the one
before it times a factor. Every backoff lies between one millisecond and the deadline, whatever
the factor is.

A `BackoffPlan` leaves the multiplication open. `RetryPolicy.plan` takes it in doubles.
-/

namespace GracefulStop

/-- How backoffs grow. -/
structure BackoffPlan where
  /-- The backoff that is asked for first. -/
  initial : Duration
  /-- The total sleep after which no attempt is made any more. -/
  deadline : Duration
  /-- The product of a backoff and the factor, nothing where that is no length of time. -/
  grow : Duration → Option Duration

namespace BackoffPlan

/-- The shortest backoff, so that the sleeps add up. -/
def shortest : Duration := .ofMillis 1

/-- The longest backoff. -/
def cap (plan : BackoffPlan) : Duration := max plan.deadline shortest

/-- The backoff before the second attempt. -/
def first (plan : BackoffPlan) : Duration := plan.initial.clamp shortest plan.cap

/-- The backoff after another one. -/
def next (plan : BackoffPlan) (current : Duration) : Duration :=
  match plan.grow current with
  | some product => product.clamp shortest plan.cap
  | none => plan.cap

/-- The backoff before the attempt with a number, counted from the second attempt. -/
def nth (plan : BackoffPlan) : Nat → Duration
  | 0 => plan.first
  | n + 1 => plan.next (plan.nth n)

theorem shortest_le_cap (plan : BackoffPlan) : shortest ≤ plan.cap := by
  simp only [cap, Duration.le_def, Duration.nanos_max]
  omega

/-- A length brought between two bounds is not below the lower one. -/
theorem le_clamp (length least greatest : Duration) (ordered : least ≤ greatest) :
    least ≤ length.clamp least greatest := by
  simp only [Duration.clamp, Duration.le_def, Duration.lt_def] at *
  split
  · omega
  · split
    · omega
    · omega

theorem shortest_le_first (plan : BackoffPlan) : shortest ≤ plan.first :=
  le_clamp _ _ _ plan.shortest_le_cap

theorem shortest_le_next (plan : BackoffPlan) (current : Duration) :
    shortest ≤ plan.next current := by
  unfold next
  split
  · exact le_clamp _ _ _ plan.shortest_le_cap
  · exact plan.shortest_le_cap

end BackoffPlan

/-- How statements are repeated. -/
structure RetryPolicy where
  initialBackoff : Duration
  multiplier : Float
  deadline : Duration
  /-- Which errors are worth another attempt. -/
  retryable : QueryError → Bool

namespace RetryPolicy

/-- Repeats statements that met a cluster state out of date. -/
def forTransient (initialBackoff : Duration) (multiplier : Float) (deadline : Duration) :
    RetryPolicy :=
  ⟨initialBackoff, multiplier, deadline, QueryError.isTransient⟩

/-- Repeats nothing. -/
def never : RetryPolicy := ⟨.zero, 1.0, .zero, fun _ => false⟩

/-- The policy that a configuration asks for. -/
def ofSettings (settings : RetrySettings) : RetryPolicy :=
  forTransient settings.initialBackoff settings.multiplier settings.deadline

/-- A length of time in seconds, the whole seconds and the fraction rounded by themselves. -/
def seconds (length : Duration) : Float :=
  (UInt64.ofNat (length.nanos / 1000000000)).toFloat +
    (UInt64.ofNat (length.nanos % 1000000000)).toFloat / 1000000000.0

/-- The factor that a multiplier stands for: at least one, and one for a value that is no number. -/
def factor (multiplier : Float) : Float := if multiplier > 1.0 then multiplier else 1.0

/-- A length of time times a factor, computed in doubles and rounded to nanoseconds, nothing where
it is not finite. -/
def scaled (multiplier : Float) (current : Duration) : Option Duration :=
  (Decimal.roundScaled? (seconds current * factor multiplier) 1000000000).map Duration.mk

/-- The backoffs of a policy. -/
def plan (policy : RetryPolicy) : BackoffPlan where
  initial := policy.initialBackoff
  deadline := policy.deadline
  grow := scaled policy.multiplier

/-- How a policy is described in messages. -/
def described (policy : RetryPolicy) : String :=
  "RetryPolicy \x7b initial_backoff: " ++ policy.initialBackoff.text ++ ", multiplier: " ++
    Decimal.Style.described.write policy.multiplier ++ ", deadline: " ++ policy.deadline.text ++
    ", .. \x7d"

/-- How the executor of a policy is described in messages. -/
def describedExecutor (policy : RetryPolicy) : String :=
  "RetryingExecutor \x7b policy: " ++ policy.described ++ " \x7d"

end RetryPolicy

end GracefulStop
