import GracefulStop.Proofs.Retry.Attempts

/-!
# Deadlines of repeated attempts

The deadline is also the longest backoff, so that with a later deadline single backoffs may be longer. No
backoff is longer, though, that comes before the earlier deadline is spent: each of those has left some of
that deadline, so it was not cut to it. Attempts that come to an outcome which settles the matter therefore
come to it as soon with a later deadline.
-/

namespace GracefulStop

/-- A length that has not been cut at an upper bound is not cut at a higher one. -/
theorem Duration.clamp_of_lt {length least greatest higher : Duration}
    (uncut : length.clamp least greatest < greatest) (ordered : greatest ≤ higher) :
    length.clamp least higher = length.clamp least greatest := by
  simp only [clamp, le_def, lt_def] at *
  split at uncut
  · simp_all
  · split at uncut
    · omega
    · rename_i notShorter notLonger
      have notHigher : ¬higher.nanos < length.nanos := by omega
      simp [notShorter, notLonger, notHigher]

namespace BackoffPlan

variable {plan : BackoffPlan} {deadline : Duration}

theorem cap_le_cap (longer : plan.deadline ≤ deadline) :
    plan.cap ≤ cap { plan with deadline } := by
  simp only [cap, Duration.le_def, Duration.nanos_max] at *
  omega

theorem first_of_longer (longer : plan.deadline ≤ deadline) (uncut : plan.first < plan.cap) :
    first { plan with deadline } = plan.first :=
  Duration.clamp_of_lt uncut (cap_le_cap longer)

theorem next_of_longer {current : Duration} (longer : plan.deadline ≤ deadline)
    (uncut : plan.next current < plan.cap) :
    next { plan with deadline } current = plan.next current := by
  unfold next at *
  dsimp only
  cases grown : plan.grow current with
  | none =>
      rw [grown] at uncut
      exact absurd uncut (Nat.lt_irrefl _)
  | some product =>
      rw [grown] at uncut
      exact Duration.clamp_of_lt uncut (cap_le_cap longer)

theorem slept_mono : Monotone fun count => (plan.slept count).nanos := by
  apply monotone_nat_of_le_succ
  intro count
  rw [slept_succ, Duration.nanos_add]
  exact Nat.le_add_right _ _

/-- A backoff that has left some of the deadline was not cut to it. -/
theorem nth_lt_cap {index count : Nat} (before : index < count)
    (unspent : plan.slept count < plan.deadline) : plan.nth index < plan.cap := by
  have among : (plan.slept (index + 1)).nanos ≤ (plan.slept count).nanos := slept_mono before
  rw [slept_succ] at among
  simp only [cap, Duration.lt_def, Duration.nanos_add, Duration.nanos_max] at *
  omega

/-- Backoffs that have left some of the deadline are the same with a later one. -/
theorem nth_of_longer {index count : Nat} (longer : plan.deadline ≤ deadline) (before : index < count)
    (unspent : plan.slept count < plan.deadline) :
    nth { plan with deadline } index = plan.nth index := by
  induction index with
  | zero => exact first_of_longer longer (nth_lt_cap before unspent)
  | succ index ih =>
      rw [nth, ih (Nat.lt_of_succ_lt before)]
      exact next_of_longer longer (nth_lt_cap before unspent)

theorem slept_of_longer {count : Nat} (longer : plan.deadline ≤ deadline)
    (unspent : plan.slept count < plan.deadline) :
    slept { plan with deadline } count = plan.slept count := by
  simp only [slept, Duration.mk.injEq]
  apply Finset.sum_congr rfl
  intro index member
  rw [nth_of_longer longer (Finset.mem_range.mp member) unspent]

theorem Spends.unspent {spent index : Nat} (spends : plan.Spends spent) (early : index < spent) :
    plan.slept index < plan.deadline :=
  Nat.lt_of_not_le fun enough => absurd (spends.2 enough) (Nat.not_le_of_lt early)

/-- The backoffs are spent no sooner with a later deadline. -/
theorem Spends.le_of_longer {spent later : Nat} (spends : plan.Spends spent)
    (longer : plan.deadline ≤ deadline) (spendsLater : Spends { plan with deadline } later) :
    spent ≤ later := by
  refine Nat.le_of_not_lt fun sooner => ?_
  have unspent := spends.unspent sooner
  have enough : deadline ≤ slept { plan with deadline } later := spendsLater.1
  rw [slept_of_longer longer unspent] at enough
  exact absurd (Nat.le_trans longer enough) (Nat.not_le_of_lt unspent)

end BackoffPlan

section

variable {State : Type} {world : World State} {node : Node} {request : Request}
  {outcomes : Nat → Except QueryError Response} {made : Nat → Run State → Prop} {run : Run State}
  {retryable : QueryError → Bool} {spent stop : Nat}

/-- Attempts that are answered with given outcomes come to the one at which they stop. -/
theorem repeatAttempts_of_recites (plan : BackoffPlan)
    (recites : world.Recites node request outcomes made) (given : made 0 run)
    (spends : plan.Spends spent)
    (stops : Stops (fun index => settles retryable (outcomes index)) spent stop) :
    ∃ last, repeatAttempts world plan retryable (Action.query world node request) none run =
        (some (outcomes stop), last) ∧
      Attempts world (Action.query world node request) run ((List.range (stop + 1)).map outcomes)
        ((List.range stop).map plan.nth) last := by
  have unspent : ∀ index < 0 + stop, ¬plan.deadline ≤ plan.slept index := by
    intro index early
    have inTime := stops.inTime
    exact Nat.not_le_of_lt (spends.unspent (by omega))
  have ends : settles retryable (outcomes (0 + stop)) = true ∨
      plan.deadline ≤ plan.slept (0 + stop) := by
    rw [Nat.zero_add]
    apply stops.ends.imp_right
    rintro rfl
    exact spends.1
  rcases attemptsFrom_of_recites plan recites given (by simpa using stops.unsettled) unspent ends with
    ⟨last, ended, attempts⟩
  rw [Nat.zero_add, BackoffPlan.slept_zero] at ended
  rw [← List.range_eq_range', ← List.range_eq_range'] at attempts
  exact ⟨last, ended, attempts⟩

end

variable {State : Type}

/-- A policy that comes to an answer, or to an error that is not worth another attempt, comes to the same
with a later deadline, after as many attempts. -/
theorem RetryPolicy.execute_of_longer (policy : RetryPolicy) {deadline : Duration}
    (longer : policy.deadline ≤ deadline) (world : World State) (node : Node) (statement : String)
    (params : List Json) {outcomes : Nat → Except QueryError Response}
    {made : Nat → Run State → Prop} {run last : Run State} {result : Except QueryError Response}
    (recites : world.Recites node (.single statement params) outcomes made) (given : made 0 run)
    (ended : policy.execute world node statement params none run = (some result, last))
    (settled : settles policy.retryable result = true) :
    ∃ attempts after,
      { policy with deadline }.execute world node statement params none run = (some result, after) ∧
      (run.since last).filterMap Event.asked? =
        List.replicate attempts (node, .single statement params) ∧
      (run.since after).filterMap Event.asked? =
        List.replicate attempts (node, .single statement params) := by
  rcases policy.plan.exists_spends with ⟨spent, spends, _⟩
  rcases exists_stops (fun index => settles policy.retryable (outcomes index)) spent with ⟨stop, stops⟩
  rcases repeatAttempts_of_recites policy.plan recites given spends stops with
    ⟨reached, comes, attempts⟩
  cases ended.symm.trans comes
  rcases BackoffPlan.exists_spends { policy.plan with deadline } with ⟨later, spendsLater, _⟩
  have inTime : stop ≤ later :=
    Nat.le_trans stops.inTime (spends.le_of_longer longer spendsLater)
  rcases repeatAttempts_of_recites { policy.plan with deadline } recites given spendsLater
    ⟨inTime, stops.unsettled, .inl settled⟩ with ⟨after, comesLater, attemptsLater⟩
  refine ⟨stop + 1, after, comesLater, ?_, ?_⟩
  · simpa using attempts.asked.2
  · simpa using attemptsLater.asked.2

/-- A node whose cluster state is out of date at first only. -/
def caughtUp : Nat → Except QueryError Response
  | 0 => staleAnswers 0
  | _ + 1 => .ok ⟨["name"], [], 2⟩

theorem briefPolicy_spends : briefPolicy.plan.Spends 1 := by
  constructor
  · change briefPolicy.deadline ≤ briefPolicy.plan.slept 1
    rw [BackoffPlan.slept_succ, BackoffPlan.slept_zero]
    decide
  · intro count enough
    change briefPolicy.deadline ≤ briefPolicy.plan.slept count at enough
    cases count with
    | zero =>
        rw [BackoffPlan.slept_zero] at enough
        exact absurd enough (by decide)
    | succ count => exact Nat.le_add_left 1 count

theorem RetryPolicy.execute_of_longer_of_brief :
    ∃ after, { briefPolicy with deadline := .ofMillis 15 }.execute (World.reciting caughtUp) default
        "SELECT 1" [] none (.start 0 ⟨42000, 44000, false⟩) = (some (.ok ⟨["name"], [], 2⟩), after) ∧
      ((Run.start 0 ⟨42000, 44000, false⟩).since after).filterMap Event.asked? =
        [(default, .single "SELECT 1" []), (default, .single "SELECT 1" [])] := by
  have recites := World.recites_reciting caughtUp default (.single "SELECT 1" [])
  have stops : Stops (fun index => settles briefPolicy.retryable (caughtUp index)) 1 1 := by
    refine ⟨Nat.le_refl 1, ?_, .inl rfl⟩
    intro index early
    cases Nat.lt_one_iff.mp early
    rfl
  rcases repeatAttempts_of_recites briefPolicy.plan recites ⟨rfl, Run.idle_start _ _⟩
    briefPolicy_spends stops with ⟨last, ended, attempts⟩
  rcases briefPolicy.execute_of_longer (by decide : briefPolicy.deadline ≤ .ofMillis 15)
    (World.reciting caughtUp) default "SELECT 1" [] recites ⟨rfl, Run.idle_start _ _⟩ ended rfl with
    ⟨count, after, comes, asked, askedLater⟩
  have two : count = 2 := by
    have length := congrArg List.length (asked.symm.trans attempts.asked.2)
    simpa using length
  subst two
  exact ⟨after, comes, askedLater⟩

end GracefulStop
