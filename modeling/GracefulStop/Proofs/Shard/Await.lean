import GracefulStop.Proofs.Cluster.Ends
import GracefulStop.Proofs.Run.Limits
import GracefulStop.Simulation.Script

/-!
# How a wait for a state of the shards ends

A wait makes one trial after another: it lets the statement be executed, with all the attempts that the
retry policy allows, until the deadline is due. What the trials deliver decides how the wait ends, and
it never goes on after the deadline.

A run goes on at whole milliseconds, so the deadline is due at the first of them that is not before it.
Where the deadline itself is at a whole millisecond, that is the moment when it is due.
-/

namespace GracefulStop

theorem Duration.eq_of_le_of_le {first second : Duration} (before : first ≤ second)
    (after : second ≤ first) : first = second := by
  rcases first with ⟨first⟩
  rcases second with ⟨second⟩
  rw [Duration.mk.injEq]
  exact Nat.le_antisymm before after

/-- What a trial delivers ends the wait: a response whose row count is as expected, or an error that does
not come of a cluster state out of date. -/
def ShardQuery.decides (query : ShardQuery) : Except QueryError Response → Bool
  | .ok response => query.predicate.holds response.rowCount
  | .error error => !error.isTransient

/-- The row count of the last response among what was delivered. -/
def lastRowCount (delivered : List (Except QueryError Response)) : Option Int :=
  (delivered.filterMap Except.toOption).getLast?.map (·.rowCount)

theorem lastRowCount_cons_ok (response : Response) (rest : List (Except QueryError Response)) :
    lastRowCount (.ok response :: rest) = (lastRowCount rest).or (some response.rowCount) := by
  have kept : (Except.ok response :: rest).filterMap Except.toOption =
      response :: rest.filterMap Except.toOption := rfl
  rw [lastRowCount, lastRowCount, kept, List.getLast?_cons]
  cases (rest.filterMap Except.toOption).getLast? <;> rfl

theorem lastRowCount_cons_error (error : QueryError) (rest : List (Except QueryError Response)) :
    lastRowCount (.error error :: rest) = lastRowCount rest := rfl

/-- One execution of a statement, and what it delivered if it was not cut off. -/
structure Trial (State : Type) where
  before : Run State
  outcome : Option (Except QueryError Response)
  after : Run State

/-- What trials delivered. -/
def delivered {State : Type} (trials : List (Trial State)) : List (Except QueryError Response) :=
  trials.filterMap (·.outcome)

namespace Verifier

variable {State : Type}

/-- The moment at which the deadline of a wait is due. -/
def due (verifier : Verifier) (began : Instant) : Instant :=
  if verifier.deadline.nanos = 0 then began else (began + verifier.deadline).ceilMillis

/-- The moment at which a trial is cut off. -/
def cutoff (verifier : Verifier) (began now : Instant) : Instant :=
  wakeTime now (verifier.deadline - (now - began))

/-- A trial of a wait: the statement is executed, with time until the deadline. -/
def Makes (verifier : Verifier) (world : World State) (node : Node) (query : ShardQuery)
    (began : Instant) (trial : Trial State) : Prop :=
  Action.Given (verifier.policy.execute world node query.statement []) trial.before
    (verifier.cutoff began trial.before.clock) trial.outcome trial.after

/-- The trials of a wait, from a run to the one in which it ends. -/
inductive Waits (verifier : Verifier) (world : World State) (node : Node) (query : ShardQuery)
    (began : Instant) : Run State → List (Trial State) → Run State → Prop
  /-- The trial decides. -/
  | decided {trial : Trial State} {outcome : Except QueryError Response}
      (makes : verifier.Makes world node query began trial) (came : trial.outcome = some outcome)
      (decides : query.decides outcome = true) :
      Waits verifier world node query began trial.before [trial] trial.after
  /-- The trial does not decide, and the deadline is over. -/
  | ended {trial : Trial State} (makes : verifier.Makes world node query began trial)
      (undecided : ∀ outcome, trial.outcome = some outcome → query.decides outcome = false)
      (passed : verifier.deadline ≤ trial.after.clock - began) :
      Waits verifier world node query began trial.before [trial] trial.after
  /-- The trial does not decide, and after a sleep there is another one. -/
  | again {trial : Trial State} {trials : List (Trial State)} {slept last : Run State}
      (makes : verifier.Makes world node query began trial)
      (undecided : ∀ outcome, trial.outcome = some outcome → query.decides outcome = false)
      (going : trial.after.clock - began < verifier.deadline)
      (sleeps : Action.sleep world
        (min verifier.pollInterval (verifier.deadline - (trial.after.clock - began))) none
          trial.after = (some (), slept))
      (rest : Waits verifier world node query began slept trials last) :
      Waits verifier world node query began trial.before (trial :: trials) last

variable {verifier : Verifier} {world : World State} {node : Node} {query : ShardQuery}
  {began now moment : Instant}

/-! ## The clock -/

/-- A moment of a wait: it is not after the deadline is due, nor between the deadline and that. -/
structure OnTime (verifier : Verifier) (began now : Instant) : Prop where
  begun : began ≤ now
  inTime : now ≤ verifier.due began
  atDue : verifier.deadline ≤ now - began → now = verifier.due began

theorem le_due (verifier : Verifier) (began : Instant) : began ≤ verifier.due began := by
  unfold due
  split
  · exact Nat.le_refl began.nanos
  · apply Nat.le_trans _ (Duration.le_ceilMillis _)
    simp only [Duration.nanos_add]
    omega

theorem onTime_begin (verifier : Verifier) (began : Instant) : verifier.OnTime began began where
  begun := Nat.le_refl began.nanos
  inTime := verifier.le_due began
  atDue passed := by
    simp only [Duration.le_def, Duration.nanos_sub] at passed
    rw [due, if_pos (by omega)]

theorem OnTime.later (onTime : verifier.OnTime began now) (later : now ≤ moment)
    (inTime : moment ≤ verifier.due began) (lands : moment = now ∨ moment.IsWhole) :
    verifier.OnTime began moment := by
  have begun := Nat.le_trans onTime.begun later
  refine ⟨begun, inTime, fun passed => ?_⟩
  rcases lands with rfl | whole
  · exact onTime.atDue passed
  · apply Duration.eq_of_le_of_le inTime
    unfold due
    split
    · exact begun
    · apply Duration.ceilMillis_le whole
      simp only [Duration.le_def, Duration.nanos_sub, Duration.nanos_add] at *
      omega

/-- Whoever sleeps no longer than what is left of the deadline wakes in time. -/
theorem OnTime.wakeTime_le_due (onTime : verifier.OnTime began now) {length : Duration}
    (short : length ≤ verifier.deadline - (now - began)) :
    wakeTime now length ≤ verifier.due began := by
  have begun := onTime.begun
  by_cases empty : length.nanos = 0
  · rw [wakeTime_of_zero now empty]
    exact onTime.inTime
  · have positive : verifier.deadline.nanos ≠ 0 := by
      simp only [Duration.le_def, Duration.nanos_sub] at short
      omega
    rw [wakeTime, if_neg empty, due, if_neg positive]
    simp only [Duration.le_def, Duration.nanos_sub, Duration.nanos_add, Duration.nanos_min,
      Duration.ceilMillis, Duration.ofMillis] at *
    omega

theorem OnTime.cutoff_le_due (onTime : verifier.OnTime began now) :
    verifier.cutoff began now ≤ verifier.due began :=
  onTime.wakeTime_le_due (Nat.le_refl _)

theorem OnTime.cutoff (onTime : verifier.OnTime began now) :
    verifier.OnTime began (verifier.cutoff began now) := by
  apply onTime.later (le_wakeTime _ _) onTime.cutoff_le_due
  by_cases empty : (verifier.deadline - (now - began)).nanos = 0
  · exact Or.inl (wakeTime_of_zero now empty)
  · exact Or.inr (isWhole_wakeTime now empty)

/-- A trial is cut off when the deadline is due, unless that is more than a sleep away. -/
theorem OnTime.cutoff_eq_due (onTime : verifier.OnTime began now)
    (short : verifier.deadline ≤ longestSleep) :
    verifier.cutoff began now = verifier.due began := by
  by_cases left : (verifier.deadline - (now - began)).nanos = 0
  · rw [Verifier.cutoff, wakeTime_of_zero now left]
    apply onTime.atDue
    simp only [Duration.le_def, Duration.nanos_sub] at *
    omega
  · apply onTime.cutoff.atDue
    have whole := Duration.le_ceilMillis (now + min (verifier.deadline - (now - began)) longestSleep)
    have begun := onTime.begun
    rw [Verifier.cutoff, wakeTime, if_neg left]
    simp only [Duration.le_def, Duration.nanos_sub, Duration.nanos_add, Duration.nanos_min] at *
    omega

theorem onTime_given {run last : Run State} {action : Action State (Except QueryError Response)}
    {outcome : Option (Except QueryError Response)} (heeds : action.Heeds)
    (onTime : verifier.OnTime began run.clock)
    (given : action.Given run (verifier.cutoff began run.clock) outcome last) :
    verifier.OnTime began last.clock := by
  cases given with
  | came ended inTime =>
      have later := heeds.later none run
      rw [ended] at later
      exact onTime.later later (Nat.le_trans inTime onTime.cutoff_le_due) (heeds.lands ended)
  | cut late stopped =>
      rw [stopped]
      exact onTime.cutoff

theorem onTime_sleep {run slept : Run State} {length : Duration}
    (onTime : verifier.OnTime began run.clock)
    (short : length ≤ verifier.deadline - (run.clock - began))
    (sleeps : Action.sleep world length none run = (some (), slept)) :
    verifier.OnTime began slept.clock := by
  have heeds : (Action.sleep world length).Heeds := Action.heeds_sleep length
  have later := heeds.later none run
  have lands := heeds.lands sleeps
  rw [sleeps] at later
  have inTime : (Action.sleep world length (some (verifier.due began)) run) = (some (), slept) := by
    simp only [Action.sleep] at sleeps ⊢
    split
    · rename_i empty
      rwa [if_pos empty] at sleeps
    · rename_i long
      rw [if_neg long] at sleeps
      rw [if_pos (onTime.wakeTime_le_due short)]
      exact sleeps
  exact onTime.later later ((heeds.cut onTime.inTime).mp inTime).2 lands

/-- Every trial begins in time, and the wait ends in time. -/
theorem OnTime.waits {run last : Run State} {trials : List (Trial State)}
    (onTime : verifier.OnTime began run.clock)
    (waits : verifier.Waits world node query began run trials last) :
    (∀ trial ∈ trials, verifier.OnTime began trial.before.clock) ∧
      verifier.OnTime began last.clock := by
  have heeds : (verifier.policy.execute world node query.statement []).Heeds :=
    verifier.policy.heeds_execute node query.statement []
  induction waits with
  | decided makes came decides => exact ⟨by simpa using onTime, onTime_given heeds onTime makes⟩
  | ended makes undecided passed => exact ⟨by simpa using onTime, onTime_given heeds onTime makes⟩
  | again makes undecided going sleeps rest ih =>
      have woken := onTime_sleep (onTime_given heeds onTime makes) (Nat.min_le_right _ _) sleeps
      rcases ih woken with ⟨others, ends⟩
      refine ⟨?_, ends⟩
      intro trial member
      rcases List.mem_cons.mp member with rfl | memberRest
      · exact onTime
      · exact others trial memberRest

/-! ## The result -/

/-- What a wait comes to, where some row count has been seen before. -/
def verdict (verifier : Verifier) (query : ShardQuery) (seen : Option Int)
    (outcomes : List (Except QueryError Response)) : Except VerifyError Response :=
  match outcomes.find? query.decides with
  | some (.ok response) => .ok response
  | some (.error error) => .error (.query error)
  | none => .error (verifier.timeoutError query ((lastRowCount outcomes).or seen))

/-- The row count that has been seen after a trial that has not decided. -/
def seenAfter (seen : Option Int) : Option (Except QueryError Response) → Option Int
  | some (.ok response) => some response.rowCount
  | _ => seen

theorem read_of_undecided {outcome : Option (Except QueryError Response)} (seen : Option Int)
    (undecided : ∀ result, outcome = some result → query.decides result = false) :
    read query seen outcome = .unsettled (seenAfter seen outcome) := by
  rcases outcome with _ | (error | response)
  · rfl
  · have transient := undecided (.error error) rfl
    simp only [ShardQuery.decides, Bool.not_eq_false'] at transient
    simp [read, seenAfter, transient]
  · have unexpected := undecided (.ok response) rfl
    simp only [ShardQuery.decides] at unexpected
    simp [read, seenAfter, unexpected]

theorem verdict_of_undecided {outcome : Option (Except QueryError Response)} (seen : Option Int)
    (undecided : ∀ result, outcome = some result → query.decides result = false)
    (outcomes : List (Except QueryError Response)) :
    verifier.verdict query seen (outcome.toList ++ outcomes) =
      verifier.verdict query (seenAfter seen outcome) outcomes := by
  rcases outcome with _ | result
  · rfl
  · have passes := undecided result rfl
    cases result with
    | error error => simp [verdict, passes, seenAfter, lastRowCount_cons_error]
    | ok response => simp [verdict, passes, seenAfter, lastRowCount_cons_ok]

theorem delivered_cons (trial : Trial State) (trials : List (Trial State)) :
    delivered (trial :: trials) = trial.outcome.toList ++ delivered trials := by
  rw [delivered, List.filterMap_cons]
  cases trial.outcome <;> rfl

theorem waits_of_rounds {run last : Run State} {seen : Option Int} {tries : Nat}
    {result : Except VerifyError Response}
    (ended : verifier.rounds world node query began seen tries none run = (some result, last)) :
    ∃ trials, verifier.Waits world node query began run trials last ∧
      result = verifier.verdict query seen (delivered trials) := by
  induction tries generalizing run seen with
  | zero => exact absurd ended Action.stall_ne_some
  | succ tries ih =>
      unfold rounds at ended
      rcases Action.bind_eq_some.mp ended with ⟨_, _, endedNow, endedAll⟩
      cases endedNow
      rcases Action.bind_eq_some.mp endedAll with ⟨outcome, after, tried, endedAll⟩
      let trial : Trial State := ⟨run, outcome, after⟩
      have makes : verifier.Makes world node query began trial :=
        Action.given_of_within (verifier.policy.heeds_execute node query.statement []) tried
      by_cases undecided : ∀ result, outcome = some result → query.decides result = false
      · have passes := verifier.verdict_of_undecided seen undecided
        rw [read_of_undecided seen undecided] at endedAll
        rcases Action.bind_eq_some.mp endedAll with ⟨_, _, endedNow, endedAll⟩
        cases endedNow
        split at endedAll
        · rename_i passed
          cases endedAll
          refine ⟨[trial], .ended makes undecided passed, ?_⟩
          rw [delivered_cons, passes]
          rfl
        · rename_i going
          rcases Action.bind_eq_some.mp endedAll with ⟨_, slept, sleeps, endedRest⟩
          rcases ih endedRest with ⟨trials, waits, same⟩
          refine ⟨trial :: trials, .again makes undecided (Nat.lt_of_not_le going) sleeps waits, ?_⟩
          rw [delivered_cons, passes, same]
      · simp only [not_forall, Bool.not_eq_false] at undecided
        rcases undecided with ⟨outcome, rfl, decides⟩
        cases outcome with
        | error error =>
            have fatal := decides
            simp only [ShardQuery.decides, Bool.not_eq_true'] at fatal
            simp only [read, fatal, Bool.false_eq_true, if_false] at endedAll
            cases endedAll
            exact ⟨[trial], .decided makes rfl decides, by simp [delivered, trial, verdict, decides]⟩
        | ok response =>
            have expected := decides
            simp only [ShardQuery.decides] at expected
            simp only [read, expected, if_true] at endedAll
            cases endedAll
            exact ⟨[trial], .decided makes rfl decides, by simp [delivered, trial, verdict, decides]⟩

/-- A wait in which nothing decides goes on until the deadline. -/
theorem Waits.past_of_undecided {run last : Run State} {trials : List (Trial State)}
    (waits : verifier.Waits world node query began run trials last)
    (undecided : (delivered trials).find? query.decides = none) :
    verifier.deadline ≤ last.clock - began := by
  induction waits with
  | decided makes came decides => simp [delivered, came, decides] at undecided
  | ended makes undecided passed => exact passed
  | again makes undecidedFirst going sleeps rest ih =>
      apply ih
      rw [delivered_cons, List.find?_append, Option.or_eq_none_iff] at undecided
      exact undecided.2

end Verifier

/-! ## The first request -/

namespace Action

variable {State Result Next : Type} {world : World State} {event : Event}

/-- Whenever an action ends, it has begun by writing down an event. -/
def Opens (world : World State) (event : Event) (action : Action State Result) : Prop :=
  ∀ (limit : Option Instant) (run : Run State),
    Run.Course world (fun _ => True) (run.note event) (action limit run).2

theorem Opens.since {action : Action State Result} (opens : action.Opens world event)
    {limit : Option Instant} {run last : Run State} {result : Option Result}
    (ended : action limit run = (result, last)) : ∃ later, run.since last = event :: later := by
  have onward := opens limit run
  rw [ended] at onward
  refine ⟨(run.note event).since last, Run.since_of_events ?_⟩
  rw [onward.events_eq, Run.events_note, List.append_assoc, List.singleton_append]

theorem opens_note (event : Event) : (note event : Action State Unit).Opens world event :=
  fun _ _ => .refl

theorem opens_bind {first : Action State Result} {next : Result → Action State Next}
    (opens : first.Opens world event)
    (follows : ∀ result, (next result).Follows world fun _ => True) :
    (first >>= next).Opens world event := by
  intro limit run
  have course := opens limit run
  rcases ended : first limit run with ⟨_ | value, between⟩
  · rw [ended] at course
    rwa [bind_of_eq_none ended]
  · rw [ended] at course
    rw [bind_of_eq_some ended]
    exact course.trans (follows value limit between)

theorem opens_now {next : Instant → Action State Result}
    (opens : ∀ moment, (next moment).Opens world event) : (now >>= next).Opens world event :=
  fun limit run => opens run.clock limit run

theorem opens_within (length : Duration) {action : Action State Result}
    (opens : action.Opens world event) : (within world length action).Opens world event :=
  fun limit run => course_within (fun sooner => opens sooner run) limit

theorem opens_query (node : Node) (request : Request) :
    (query world node request).Opens world (.asked node request) := by
  apply opens_bind (opens_note _)
  intro _
  apply follows_bind (follows_await (World.Touch.ask node request) trivial)
  intro result
  exact follows_bind (follows_note trivial nofun) fun _ => follows_pure result

end Action

open GracefulStop.Action

theorem opens_attemptsFrom {State Answer : Type} {world : World State} {event : Event}
    {plan : BackoffPlan} {retryable : QueryError → Bool}
    {attempt : Action State (Except QueryError Answer)} (opens : attempt.Opens world event)
    (follows : attempt.Follows world fun _ => True) (waited backoff : Duration)
    (enough : BackoffPlan.shortest ≤ backoff) :
    (attemptsFrom world plan retryable attempt waited backoff enough).Opens world event := by
  rw [attemptsFrom]
  apply opens_bind opens
  intro result
  cases result with
  | ok answer => exact follows_pure _
  | error error =>
      dsimp only
      split
      · split
        · exact follows_pure _
        · exact follows_bind (follows_sleep backoff) fun _ => follows_attemptsFrom follows _ _ _
      · exact follows_pure _

namespace Verifier

variable {State : Type} {world : World State} {node : Node} {query : ShardQuery}

theorem opens_rounds (verifier : Verifier) (began : Instant) (seen : Option Int) (tries : Nat) :
    (verifier.rounds world node query began seen (tries + 1)).Opens world
      (.asked node (.single query.statement [])) := by
  have asks : (Action.query world node (.single query.statement [])).Follows world
      (Deed.Within fun _ => True) := follows_query trivial
  have rest : ∀ seen, (verifier.rounds world node query began seen tries).Follows world
      (Deed.Within fun _ => True) := fun seen => verifier.follows_rounds trivial began seen tries
  unfold rounds
  apply opens_now
  intro moment
  apply opens_bind
  · exact opens_within _ (opens_attemptsFrom (opens_query node _) asks _ _ _)
  · intro outcome
    cases read query seen outcome with
    | settled response => exact follows_pure _
    | failed error => exact follows_pure _
    | unsettled seen =>
        apply follows_bind follows_now
        intro moment
        dsimp only
        split
        · exact follows_pure _
        · exact follows_bind (follows_sleep _) fun _ => rest seen

theorem opens_awaitInvariant (verifier : Verifier) :
    (verifier.awaitInvariant world node query).Opens world
      (.asked node (.single query.statement [])) :=
  opens_now fun began => verifier.opens_rounds began none _

theorem verdict_eq_ok {verifier : Verifier} {seen : Option Int}
    {outcomes : List (Except QueryError Response)} {response : Response} :
    verifier.verdict query seen outcomes = .ok response ↔
      outcomes.find? query.decides = some (.ok response) := by
  rcases found : outcomes.find? query.decides with _ | (error | other) <;> simp [verdict, found]

theorem verdict_eq_query {verifier : Verifier} {seen : Option Int}
    {outcomes : List (Except QueryError Response)} {error : QueryError} :
    verifier.verdict query seen outcomes = .error (.query error) ↔
      outcomes.find? query.decides = some (.error error) := by
  rcases found : outcomes.find? query.decides with _ | (other | response) <;>
    simp [verdict, found, timeoutError]

theorem due_of_isWhole {verifier : Verifier} {began : Instant}
    (whole : (began + verifier.deadline).IsWhole) :
    verifier.due began = began + verifier.deadline := by
  apply Duration.eq_of_le_of_le
  · unfold due
    split
    · simp
    · exact Duration.ceilMillis_le whole (Nat.le_refl _)
  · unfold due
    split
    · rename_i zero
      simp [zero]
    · exact Duration.le_ceilMillis _

/-- Every wait with a pause between its trials ends, when the deadline is due or before. It begins with
a request. It ends well with the first response delivered that is as expected, and badly with the first
error delivered that does not come of a cluster state out of date, whichever of them comes first. If
there is none of them it ends when the deadline is due, and reports the row count of the last response
delivered, if there was one. -/
theorem await_contract (verifier : Verifier) (world : World State) (node : Node)
    (query : ShardQuery) (run : Run State) (positive : 0 < verifier.pollInterval.nanos) :
    let due := verifier.due run.clock
    ∃ result last trials, verifier.awaitInvariant world node query none run = (some result, last) ∧
      verifier.Waits world node query run.clock run trials last ∧
      (∃ later, run.since last = .asked node (.single query.statement []) :: later) ∧
      last.clock ≤ due ∧
      (∀ trial ∈ trials, verifier.cutoff run.clock trial.before.clock ≤ due ∧
        (verifier.deadline ≤ longestSleep →
          verifier.cutoff run.clock trial.before.clock = due)) ∧
      (∀ response, result = .ok response ↔
        (delivered trials).find? query.decides = some (.ok response)) ∧
      (∀ error, result = .error (.query error) ↔
        (delivered trials).find? query.decides = some (.error error)) ∧
      ((delivered trials).find? query.decides = none → last.clock = due ∧
        result = .error (.timeout query.statement query.predicate.text
          (lastRowCount (delivered trials)) verifier.deadline)) ∧
      ((run.clock + verifier.deadline).IsWhole → due = run.clock + verifier.deadline) := by
  intro due
  have endsWait : (verifier.awaitInvariant world node query).Ends :=
    ends_awaitInvariant node query positive
  rcases endsWait run with ⟨result, last, ended⟩
  rcases bind_eq_some.mp ended with ⟨began, beginning, looked, endedRounds⟩
  cases looked
  rcases waits_of_rounds endedRounds with ⟨trials, waits, rfl⟩
  rcases (verifier.onTime_begin run.clock).waits waits with ⟨begins, ends⟩
  refine ⟨_, last, trials, ended, waits, ?_, ends.inTime, ?_, ?_, ?_, ?_, due_of_isWhole⟩
  · exact verifier.opens_awaitInvariant.since ended
  · intro trial member
    exact ⟨(begins trial member).cutoff_le_due, (begins trial member).cutoff_eq_due⟩
  · exact fun _ => verdict_eq_ok
  · exact fun _ => verdict_eq_query
  · intro undecided
    refine ⟨ends.atDue (waits.past_of_undecided undecided), ?_⟩
    simp [verdict, undecided, timeoutError]

/-- An endpoint whose cluster state is out of date at first. Then it answers with two rows, and then it
takes too long. -/
def slowEndpoint : Simulation.Script where
  lines := [⟨.error (.sql none "Node n1 not found in cluster state"), .zero⟩,
    ⟨.ok (.affected 2), .ofMillis 30⟩]
  fallback := ⟨.ok (.affected 0), .ofSeconds 10⟩

def hasty : Verifier := ⟨.never, .ofMillis 100, .ofMillis 250⟩

def slowWait : Option (Except VerifyError Response) × Run Simulation.Script :=
  hasty.awaitInvariant Simulation.Script.world default .noneUnassigned none
    (.start slowEndpoint ⟨42000, 44000, false⟩)

theorem await_contract_of_slow :
    ∃ result last trials, slowWait = (some result, last) ∧
      hasty.Waits Simulation.Script.world default .noneUnassigned ⟨0⟩
        (.start slowEndpoint ⟨42000, 44000, false⟩) trials last ∧
      result = .error (.timeout ShardQuery.noneUnassigned.statement "exactly 0" (some 2)
        (.ofMillis 250)) ∧
      lastRowCount (delivered trials) = some 2 ∧ last.clock = .ofMillis 250 := by
  rcases await_contract hasty Simulation.Script.world default .noneUnassigned
    (.start slowEndpoint ⟨42000, 44000, false⟩) (by decide) with
    ⟨result, last, trials, ended, waits, _, _, _, settled, failed, timedOut, exact⟩
  have came : slowWait.1.map (·.map Response.rowCount) =
      some (.error (.timeout ShardQuery.noneUnassigned.statement "exactly 0" (some 2)
        (.ofMillis 250))) := by decide +kernel
  rw [slowWait, ended] at came
  have undecided : (delivered trials).find? ShardQuery.noneUnassigned.decides = none := by
    rcases found : (delivered trials).find? ShardQuery.noneUnassigned.decides with
      _ | (error | response)
    · rfl
    · rw [(failed error).mpr found] at came
      cases came
    · rw [(settled response).mpr found] at came
      cases came
  rcases timedOut undecided with ⟨atDue, rfl⟩
  simp only [Option.map_some, Except.map, Option.some.injEq, Except.error.injEq,
    VerifyError.timeout.injEq] at came
  rcases came with ⟨_, expected, counted, limit⟩
  refine ⟨_, last, trials, ended, waits, ?_, counted, ?_⟩
  · rw [counted, expected, limit]
  · rw [atDue, exact rfl]
    rfl

end Verifier

end GracefulStop
