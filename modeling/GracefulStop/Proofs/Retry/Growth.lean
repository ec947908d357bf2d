import GracefulStop.Proofs.Decimal.Values
import GracefulStop.Proofs.Retry.Deadlines

/-!
# How backoffs grow

A configuration that is accepted has a factor that is a number and at least one. As long as the products
of the backoffs and that factor are off by less than a nanosecond the backoffs never shrink, and with a
whole factor they are the powers of that factor times the first one, up to the deadline.
-/

namespace GracefulStop

open Decimal (Parts)

/-- The factors that are accepted are the numbers from one on. -/
theorem Config.isGrowthFactor_iff (multiplier : Float) :
    isGrowthFactor multiplier = true ↔
      ∃ number, (Parts.ofFloat multiplier).toRat? = some number ∧ 1 ≤ number := by
  unfold isGrowthFactor
  rw [Decimal.isFinite_eq]
  cases stands : (Parts.ofFloat multiplier).toRat? with
  | none => simp
  | some number => simp [Decimal.lt_iff stands Decimal.toRat?_one]

theorem RetryPolicy.toRat?_factor {multiplier : Float} {number : ℚ}
    (stands : (Parts.ofFloat multiplier).toRat? = some number) (grows : 1 ≤ number) :
    (Parts.ofFloat (factor multiplier)).toRat? = some number := by
  have larger : multiplier > 1.0 ↔ 1 < number := Decimal.lt_iff Decimal.toRat?_one stands
  unfold factor
  split
  · exact stands
  · rename_i notLarger
    rw [larger, not_lt] at notLarger
    rw [Decimal.toRat?_one, le_antisymm grows notLarger]

/-- A length of time times a factor, computed exactly and rounded to nanoseconds once. -/
def RetryPolicy.exactlyScaled (multiplier : Float) (current : Duration) : Option Duration :=
  (Decimal.roundScaled? (factor multiplier) current.nanos).map Duration.mk

theorem Duration.clamp_eq_min {length least greatest : Duration} (enough : least ≤ length) :
    length.clamp least greatest = min length greatest := by
  have notShorter : ¬length < least := Nat.not_lt_of_le enough
  unfold clamp
  rw [if_neg notShorter]
  split
  · rename_i longer
    exact congrArg Duration.mk (Nat.min_eq_right (Nat.le_of_lt longer)).symm
  · rename_i notLonger
    exact congrArg Duration.mk (Nat.min_eq_left (Nat.le_of_not_lt notLonger)).symm

section

variable {factor : ℚ} {product current : Nat}

theorem le_of_abs_sub_lt_one (near : |(product : ℚ) - factor * current| < 1) (grows : 1 ≤ factor) :
    current ≤ product := by
  refine Nat.le_of_not_lt fun shorter => ?_
  have next : (product + 1 : ℚ) ≤ current := by exact_mod_cast shorter
  have longer : (current : ℚ) ≤ factor * current := le_mul_of_one_le_left (Nat.cast_nonneg _) grows
  have below := (abs_lt.mp near).1
  linarith

theorem eq_mul_of_abs_sub_lt_one {whole : Nat} (near : |(product : ℚ) - whole * current| < 1) :
    product = whole * current := by
  have difference : |(product : ℤ) - whole * current| < 1 := by exact_mod_cast near
  have same : (product : ℤ) = whole * current := sub_eq_zero.mp (Int.abs_lt_one_iff.mp difference)
  exact_mod_cast same

end

namespace BackoffPlan

variable {plan : BackoffPlan} {factor : ℚ}

/-- A plan whose backoffs are multiplied by a factor, where no product is off by a nanosecond. -/
def Multiplies (plan : BackoffPlan) (factor : ℚ) : Prop :=
  ∀ index, ∃ product, plan.grow (plan.nth index) = some product ∧
    |(product.nanos : ℚ) - factor * (plan.nth index).nanos| < 1

theorem first_eq_min (longer : shortest ≤ plan.initial) : plan.first = min plan.initial plan.cap :=
  Duration.clamp_eq_min longer

theorem Multiplies.nth_succ_eq_min (multiplies : plan.Multiplies factor) (grows : 1 ≤ factor)
    (index : Nat) :
    ∃ product, plan.nth (index + 1) = min product plan.cap ∧ plan.nth index ≤ product ∧
      |(product.nanos : ℚ) - factor * (plan.nth index).nanos| < 1 := by
  rcases multiplies index with ⟨product, grown, near⟩
  have longer : plan.nth index ≤ product := le_of_abs_sub_lt_one near grows
  have enough : shortest ≤ product := Nat.le_trans (plan.shortest_le_nth index) longer
  refine ⟨product, ?_, longer, near⟩
  rw [nth, next, grown]
  exact Duration.clamp_eq_min enough

/-- Backoffs never shrink. -/
theorem Multiplies.nth_mono (multiplies : plan.Multiplies factor) (grows : 1 ≤ factor) :
    Monotone fun index => (plan.nth index).nanos := by
  apply monotone_nat_of_le_succ
  intro index
  rcases multiplies.nth_succ_eq_min grows index with ⟨product, same, longer, _⟩
  have bounded := plan.nth_le_cap index
  simp only [same, Duration.nanos_min, Duration.le_def] at *
  omega

/-- With a whole factor the backoffs are the powers of it, up to the longest one. -/
theorem Multiplies.nth_eq_min {whole : Nat} (multiplies : plan.Multiplies whole) (grows : 1 ≤ whole)
    (longer : shortest ≤ plan.initial) (index : Nat) :
    plan.nth index = min ⟨plan.initial.nanos * whole ^ index⟩ plan.cap := by
  induction index with
  | zero =>
      rw [pow_zero, Nat.mul_one]
      exact first_eq_min longer
  | succ index ih =>
      rcases multiplies.nth_succ_eq_min (by exact_mod_cast grows) index with ⟨product, same, _, near⟩
      have exact : product.nanos = whole * (plan.nth index).nanos := eq_mul_of_abs_sub_lt_one near
      have further : whole * min (plan.initial.nanos * whole ^ index) plan.cap.nanos =
          min (plan.initial.nanos * whole ^ (index + 1)) (whole * plan.cap.nanos) := by
        rw [← Nat.mul_min_mul_left, Nat.mul_left_comm, ← Nat.pow_succ']
      have beyond : plan.cap.nanos ≤ whole * plan.cap.nanos := Nat.le_mul_of_pos_left _ grows
      rw [ih, Duration.nanos_min, further] at exact
      rw [same]
      apply congrArg Duration.mk
      rw [exact, min_assoc, min_eq_right beyond]

end BackoffPlan

namespace RetryPolicy

/-- The backoffs of a policy with their products computed exactly. -/
def exactPlan (policy : RetryPolicy) : BackoffPlan :=
  { policy.plan with grow := exactlyScaled policy.multiplier }

theorem exactPlan_multiplies (policy : RetryPolicy) {factor : ℚ}
    (stands : (Parts.ofFloat policy.multiplier).toRat? = some factor) (grows : 1 ≤ factor) :
    policy.exactPlan.Multiplies factor := by
  intro index
  have notNegative : 0 ≤ factor := zero_le_one.trans grows
  rcases Decimal.exists_roundScaled (toRat?_factor stands grows) notNegative
    (policy.exactPlan.nth index).nanos with ⟨product, rounded, near⟩
  refine ⟨⟨product⟩, ?_, near.trans_lt one_half_lt_one⟩
  change (Decimal.roundScaled? _ _).map Duration.mk = _
  rw [rounded]
  rfl

end RetryPolicy

/-- A configuration that is accepted has a first backoff and a factor with which no backoff shrinks. -/
theorem Config.grows_of_validate {config : Config} (accepted : config.validate = .ok ()) :
    BackoffPlan.shortest ≤ config.retry.initialBackoff ∧
      ∃ factor, (Parts.ofFloat config.retry.multiplier).toRat? = some factor ∧ 1 ≤ factor := by
  unfold validate at accepted
  split at accepted
  · cases accepted
  · split at accepted
    · cases accepted
    · rename_i positive
      split at accepted
      · cases accepted
      · rename_i grows
        rw [Bool.not_eq_true, Bool.not_eq_false', isGrowthFactor_iff] at grows
        exact ⟨Nat.mul_le_mul_right _ (Nat.one_le_iff_ne_zero.mpr positive), grows⟩

/-- The backoffs of a configuration that is accepted never shrink, and with a whole factor they are the
powers of it times the first one, up to the deadline. Where no outcome settles the matter there is one
attempt more than backoffs that add up to the deadline, and those do not add up to twice as much. -/
theorem RetryPolicy.schedule_contract (config : Config) (accepted : config.validate = .ok ()) :
    ∃ factor : ℚ, (Parts.ofFloat config.retry.multiplier).toRat? = some factor ∧ 1 ≤ factor ∧
      (ofSettings config.retry).exactPlan.Multiplies factor ∧
      ∀ plan : BackoffPlan, plan.initial = config.retry.initialBackoff →
        plan.deadline = config.retry.deadline → plan.Multiplies factor →
        (∀ index, plan.nth index ≤ plan.nth (index + 1)) ∧
        (∀ whole : Nat, factor = whole → ∀ index,
          plan.nth index = min ⟨config.retry.initialBackoff.nanos * whole ^ index⟩
            (max config.retry.deadline (.ofMillis 1))) ∧
        ∀ {State : Type} (world : World State) (node : Node) (request : Request)
          {outcomes : Nat → Except QueryError Response} {made : Nat → Run State → Prop}
          {run : Run State} (retryable : QueryError → Bool),
          world.Recites node request outcomes made → made 0 run →
          (∀ index, settles retryable (outcomes index) = false) →
          ∃ count last,
            IsLeast {count | config.retry.deadline ≤ plan.slept count} count ∧
            repeatAttempts world plan retryable (Action.query world node request) none run =
              (some (outcomes count), last) ∧
            Attempts world (Action.query world node request) run
              ((List.range (count + 1)).map outcomes) ((List.range count).map plan.nth) last ∧
            (run.since last).filterMap Event.asked? = List.replicate (count + 1) (node, request) ∧
            config.retry.deadline ≤ plan.slept count ∧
            (plan.slept count).nanos < 2 * (max config.retry.deadline (.ofMillis 1)).nanos := by
  rcases Config.grows_of_validate accepted with ⟨enough, factor, stands, grows⟩
  refine ⟨factor, stands, grows, exactPlan_multiplies _ stands grows, ?_⟩
  intro plan first deadline multiplies
  rw [← first] at enough ⊢
  rw [← deadline]
  refine ⟨fun index => multiplies.nth_mono grows (Nat.le_succ index), ?_, ?_⟩
  · rintro whole rfl
    exact multiplies.nth_eq_min (by exact_mod_cast grows) enough
  · intro State world node request outcomes made run retryable recites given never
    rcases plan.exists_spends with ⟨spent, spends, _, near⟩
    rcases exists_stops (fun index => settles retryable (outcomes index)) spent with ⟨stop, stops⟩
    cases stops.eq_spent never
    rcases repeatAttempts_of_recites plan recites given spends stops with ⟨last, ended, attempts⟩
    refine ⟨spent, last, spends, ended, attempts, ?_, spends.1, ?_⟩
    · simpa using attempts.asked.2
    · have ordered : plan.deadline.nanos ≤ plan.cap.nanos := Nat.le_max_left _ _
      have less : (plan.slept spent).nanos < plan.deadline.nanos + plan.cap.nanos := near
      change _ < 2 * plan.cap.nanos
      omega

/-- Doubles the backoff twice before the deadline cuts it. -/
def doubling : Config where
  retry := { initialBackoffMillis := 10, multiplier := 2.0, deadlineMillis := 50 }

theorem doubling_accepted : doubling.validate = .ok () := by
  rfl

theorem toRat?_two : (Parts.ofFloat 2.0).toRat? = some 2 := by
  have parts : Parts.ofFloat 2.0 = .finite false (2 ^ 52) 1023 true := by decide +kernel
  rw [parts]
  norm_num [Parts.toRat?]

/-- The products of these backoffs are exact in doubles too. -/
theorem doubling_multiplies : (RetryPolicy.ofSettings doubling.retry).plan.Multiplies 2 := by
  have closed : ∀ current ∈ [10, 20, 40, 50].map Duration.ofMillis,
      (RetryPolicy.ofSettings doubling.retry).plan.next current ∈
        [10, 20, 40, 50].map Duration.ofMillis := by
    decide +kernel
  have exact : ∀ current ∈ [10, 20, 40, 50].map Duration.ofMillis,
      (RetryPolicy.ofSettings doubling.retry).plan.grow current = some ⟨2 * current.nanos⟩ := by
    decide +kernel
  have among : ∀ index, (RetryPolicy.ofSettings doubling.retry).plan.nth index ∈
      [10, 20, 40, 50].map Duration.ofMillis := by
    intro index
    induction index with
    | zero => decide +kernel
    | succ index ih => exact closed _ ih
  intro index
  refine ⟨_, exact _ (among index), ?_⟩
  simp

/-- A node whose cluster state stays out of date. -/
def stale (_ : Nat) : Except QueryError Response :=
  .error (.sql none "Node n1 not found in cluster state")

theorem RetryPolicy.schedule_contract_of_doubling :
    ∃ last, (ofSettings doubling.retry).execute (World.reciting stale) default "SELECT 1" []
        none (.start 0 ⟨42000, 44000, false⟩) = (some (stale 3), last) ∧
      ((Run.start 0 ⟨42000, 44000, false⟩).since last).filterMap Event.asked? =
        List.replicate 4 (default, .single "SELECT 1" []) := by
  rcases schedule_contract doubling doubling_accepted with ⟨factor, stands, _, _, schedule⟩
  cases stands.symm.trans toRat?_two
  rcases schedule (ofSettings doubling.retry).plan rfl rfl doubling_multiplies with ⟨_, _, exhausts⟩
  have never : settles (ofSettings doubling.retry).retryable (stale 0) = false := by
    decide +kernel
  rcases exhausts (World.reciting stale) default (.single "SELECT 1" []) _
    (World.recites_reciting stale default _) ⟨rfl, Run.idle_start _ _⟩ (fun _ => never) with
    ⟨count, last, least, ended, _, asked, _, _⟩
  have third : IsLeast {count | doubling.retry.deadline ≤
      (ofSettings doubling.retry).plan.slept count} 3 := by
    constructor
    · change doubling.retry.deadline ≤ (ofSettings doubling.retry).plan.slept 3
      decide +kernel
    · intro count enough
      have early : ¬doubling.retry.deadline ≤ (ofSettings doubling.retry).plan.slept 2 := by
        decide +kernel
      refine Nat.le_of_not_lt fun less => early (Nat.le_trans enough ?_)
      exact BackoffPlan.slept_mono (Nat.le_of_lt_succ less)
  cases least.unique third
  exact ⟨last, ended, asked⟩

end GracefulStop
