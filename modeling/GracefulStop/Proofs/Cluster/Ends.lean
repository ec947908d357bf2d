import GracefulStop.Proofs.Cluster.Course
import GracefulStop.Proofs.Run.Drain

/-!
# Clusters in surroundings that answer in time

Every operation of a cluster comes to a result in surroundings that answer in time, if there are pauses
between its looks at the members or at the shards, and if it waits for the members only so long. Each
round of such a wait takes the clock into a later millisecond, so that the rounds do not run out before
the wait is over.
-/

namespace GracefulStop

variable {State : Type} {world : World State} {latest : Duration}

open GracefulStop.Action

/-- Attempts come to an end where each of them does, since the sleeps in between add up. -/
theorem ends_attemptsFrom {Answer : Type} {plan : BackoffPlan} {retryable : QueryError → Bool}
    {attempt : Action State (Except QueryError Answer)} (ends : attempt.Ends)
    (waited backoff : Duration) (enough : BackoffPlan.shortest ≤ backoff) :
    (attemptsFrom world plan retryable attempt waited backoff enough).Ends := by
  induction waited, backoff, enough using attemptsFrom.induct plan with
  | case1 waited backoff enough ih =>
      rw [attemptsFrom]
      refine ends_bind ends fun result => ?_
      cases result with
      | ok answer => exact ends_pure _
      | error error =>
          dsimp only
          split
          · split
            · exact ends_pure _
            · exact ends_bind (ends_sleep backoff) fun _ => ih ‹_›
          · exact ends_pure _

namespace Verifier

/-- The rounds of a wait for a state of the shards come to an end, if there are rounds enough for the
milliseconds that are left. -/
theorem endsFrom_rounds {verifier : Verifier} {node : Node}
    {query : ShardQuery} {began : Instant} {lastRowCount : Option Int} {tries : Nat}
    {run : Run State} (positive : 0 < verifier.pollInterval.nanos)
    (enough : (began + verifier.deadline).millis + 1 - run.clock.millis < tries) :
    (verifier.rounds world node query began lastRowCount tries).EndsFrom run := by
  induction tries generalizing lastRowCount run with
  | zero => omega
  | succ tries ih =>
      let attempt := verifier.policy.execute world node query.statement []
      have follows : attempt.Follows world (Deed.Within fun _ => True) :=
        verifier.policy.follows_execute trivial
      have ends : (within world (verifier.deadline - (run.clock - began)) attempt).Ends :=
        ends_within _ _
      obtain ⟨outcome, asked, endedAsk⟩ := ends run
      have later := Duration.millis_le_of_le ((follows_within _ follows).course endedAsk).clock_le
      unfold rounds
      refine endsFrom_bind rfl (endsFrom_bind endedAsk ?_)
      cases read query lastRowCount outcome with
      | settled response => exact ends_pure _ asked
      | failed error => exact ends_pure _ asked
      | unsettled lastRowCount =>
          refine endsFrom_bind rfl ?_
          dsimp only
          split
          · exact ends_pure _ asked
          · rename_i going
            obtain ⟨slept, sleeps, _, passed⟩ := sleep_eq_some world
              (min verifier.pollInterval (verifier.deadline - (asked.clock - began))) asked
            refine endsFrom_bind sleeps (ih ?_)
            simp only [Duration.le_def, Duration.nanos_sub, Duration.nanos_min] at going passed
            have woken := passed (by omega)
            have left : asked.clock.millis ≤ (began + verifier.deadline).millis := by
              refine Duration.millis_le_of_le ?_
              simp only [Duration.le_def, Duration.nanos_add]
              omega
            omega

theorem ends_awaitInvariant {verifier : Verifier} (node : Node) (query : ShardQuery)
    (positive : 0 < verifier.pollInterval.nanos) :
    (verifier.awaitInvariant world node query).Ends := by
  intro run
  have rounding := Duration.millis_add_le run.clock verifier.deadline
  have enough := patience_pos
  refine endsFrom_bind rfl (endsFrom_rounds positive ?_)
  simp only [roundLimit]
  omega

end Verifier

namespace Handle

theorem ends_isLive (handle : Handle) : (handle.isLive world).Ends := by
  unfold isLive
  split
  · exact ends_pure _
  · exact ends_isRunning _

theorem ends_startAttempts (prompt : world.Prompt latest) (node : Node) (total left : Nat)
    (last : String) : (startAttempts world node total left last).Ends := by
  induction left generalizing last with
  | zero => exact ends_pure _
  | succ left ih =>
      unfold startAttempts
      refine ends_bind (ends_startNode prompt node) fun result => ?_
      cases result with
      | ok _ => exact ends_pure _
      | error error => exact ends_bind (ends_stopNode node) fun _ => ih error.message

end Handle

namespace Harness

theorem ends_layNodes (shared : NodeSpec) (names : List String) :
    (layNodes world shared names).Ends := by
  induction names with
  | nil => exact ends_pure _
  | cons name rest ih =>
      unfold layNodes
      refine ends_bind (ends_onPorts _) fun reserved => ?_
      cases reserved with
      | error error => exact ends_pure _
      | ok httpPort =>
          refine ends_bind (ends_lay _) fun node => ends_bind (ends_launch node) fun launched => ?_
          cases launched with
          | error error => exact ends_pure _
          | ok _ =>
              refine ends_bind (ends_connect node) fun connected => ?_
              cases connected with
              | error error => exact ends_pure _
              | ok _ =>
                  refine ends_bind ih fun handles => ?_
                  cases handles <;> exact ends_pure _

theorem ends_provision (name : String) (count : Nat) (settings : KeyMap String) (config : Config) :
    (provision world name count settings config).Ends := by
  unfold provision
  split
  · exact ends_pure _
  · refine ends_bind (ends_onPorts _) fun reserved => ?_
    cases reserved with
    | error error => exact ends_pure _
    | ok range =>
        refine ends_bind (ends_layNodes _ _) fun laid => ?_
        cases laid with
        | error error => exact ends_pure _
        | ok handles =>
            refine ends_bind (ends_keepManifest _) fun kept => ?_
            cases kept <;> exact ends_pure _

theorem ends_stopAll (handles : List Handle) : (stopAll world handles).Ends := by
  induction handles with
  | nil => exact ends_pure _
  | cons handle rest ih => exact ends_bind (ends_stopNode handle.node) fun _ => ih

theorem ends_startAll (prompt : world.Prompt latest) (attempts : Nat) (handles : List Handle) :
    (startAll world attempts handles).Ends := by
  induction handles with
  | nil => exact ends_pure _
  | cons handle rest ih =>
      unfold startAll
      refine ends_bind (Handle.ends_startAttempts prompt _ _ _ _) fun result => ?_
      cases result with
      | ok _ => exact ih
      | error error => exact ends_pure _

theorem ends_start (prompt : world.Prompt latest) (harness : Harness) :
    (harness.start world).Ends := by
  refine ends_bind (ends_startAll prompt _ _) fun result => ?_
  cases result with
  | ok _ => exact ends_pure _
  | error error => exact ends_bind (ends_stopAll _) fun _ => ends_pure _

theorem ends_liveNodes (handles : List Handle) : (liveNodes world handles).Ends := by
  induction handles with
  | nil => exact ends_pure _
  | cons handle rest ih =>
      exact ends_bind handle.ends_isLive fun _ => ends_bind ih fun _ => ends_pure _

theorem ends_pickLive (harness : Harness) : (harness.pickLive world).Ends := by
  refine ends_bind (ends_liveNodes _) fun live => ends_bind (ends_onState _) fun picked => ?_
  cases picked with
  | some node => exact ends_bind (ends_note _) fun _ => ends_pure _
  | none => exact ends_pure _

theorem ends_ensureRunning (handles : List Handle) : (ensureRunning world handles).Ends := by
  induction handles with
  | nil => exact ends_pure _
  | cons handle rest ih =>
      unfold ensureRunning
      split
      · exact ih
      · refine ends_bind (ends_isRunning _) fun running => ?_
        split
        · exact ih
        · exact ends_pure _

theorem ends_execute_of_query {statement : String} {params : List Json}
    (asks : ∀ node, (query world node (.single statement params)).Ends) (harness : Harness) :
    (harness.execute world statement params).Ends := by
  refine ends_bind harness.ends_pickLive fun picked => ?_
  cases picked with
  | error error => exact ends_pure _
  | ok node =>
      have repeats : (harness.policy.execute world node statement params).Ends :=
        ends_attemptsFrom (asks node) _ _ _
      refine ends_bind repeats fun result => ?_
      cases result <;> exact ends_pure _

/-- The rounds of a wait for the members come to an end, if there are rounds enough for the milliseconds
that are left. -/
theorem endsFrom_quorumRounds {harness : Harness} {expected : Nat} {longest : Duration}
    {began : Instant} {tries : Nat} {run : Run State}
    (asks : (harness.execute world membershipQuery []).Ends) (positive : 0 < harness.quorumPoll.nanos)
    (enough : (began + longest).millis + 1 - run.clock.millis < tries) :
    (harness.quorumRounds world expected (some longest) began tries).EndsFrom run := by
  induction tries generalizing run with
  | zero => omega
  | succ tries ih =>
      unfold quorumRounds
      have ensures : (ensureRunning world harness.handles).Ends := ends_ensureRunning _
      obtain ⟨ensured, looked, endedLook⟩ := ensures run
      have looks : Run.Course world (Deed.Within (Deed.Asks (.single membershipQuery []))) run looked :=
        (follows_ensureRunning _).course endedLook
      refine endsFrom_bind endedLook ?_
      cases ensured with
      | error error => exact ends_pure _ looked
      | ok _ =>
          obtain ⟨answer, asked, endedAsk⟩ := asks looked
          have asksOnly := (harness.follows_execute _ _).course endedAsk
          refine endsFrom_bind endedAsk ?_
          cases answer with
          | error error => exact ends_pure _ asked
          | ok response =>
              dsimp only
              split
              · exact ends_pure _ asked
              · refine endsFrom_bind rfl ?_
                by_cases spent : longest ≤ asked.clock - began
                · simp only [isOver, spent, decide_true, Option.filter_some, ↓reduceIte]
                  exact ends_pure _ asked
                · simp only [isOver, spent, decide_false, Option.filter_some, Bool.false_eq_true,
                    ↓reduceIte]
                  obtain ⟨slept, sleeps, _, passed⟩ := sleep_eq_some world harness.quorumPoll asked
                  refine endsFrom_bind sleeps (ih ?_)
                  have woken := passed positive
                  have later := Duration.millis_le_of_le (Nat.le_trans looks.clock_le asksOnly.clock_le)
                  have left : asked.clock.millis ≤ (began + longest).millis := by
                    refine Duration.millis_le_of_le ?_
                    simp only [Duration.le_def, Duration.nanos_sub, Duration.nanos_add] at *
                    omega
                  omega

theorem ends_awaitQuorum {harness : Harness} (asks : (harness.execute world membershipQuery []).Ends)
    (positive : 0 < harness.quorumPoll.nanos) (longest : Duration) :
    (harness.awaitQuorum world (some longest)).Ends := by
  intro run
  have rounding := Duration.millis_add_le run.clock longest
  have enough := patience_pos
  refine endsFrom_bind rfl (endsFrom_quorumRounds asks positive ?_)
  simp only [roundLimit, Option.map_some, Option.getD_some]
  omega

variable (prompt : world.Prompt latest)

include prompt

theorem ends_execute (harness : Harness) (statement : String) (params : List Json) :
    (harness.execute world statement params).Ends :=
  harness.ends_execute_of_query fun node => ends_query prompt node _

theorem ends_pushSettings (harness : Harness) (settings : KeyMap Json) :
    (harness.pushSettings world settings).Ends := by
  induction settings with
  | nil => exact ends_pure _
  | cons entry rest ih =>
      unfold pushSettings
      refine ends_bind (harness.ends_execute prompt _ _) fun result => ?_
      cases result with
      | error error => exact ends_pure _
      | ok _ => exact ih

theorem ends_decommission (harness : Harness) (index : Nat) {timeout : Duration}
    (inTime : timeout ≤ latest) : (harness.decommission world index timeout).Ends := by
  unfold decommission
  cases harness.node? index with
  | error error => exact ends_pure _
  | ok node =>
      have leaves : (leave world node timeout).Ends := by
        refine ends_bind (ends_signalNode node) fun signalled => ?_
        cases signalled with
        | error error => exact ends_pure _
        | ok _ =>
            refine ends_bind (ends_waitForNode prompt node inTime) fun waited => ?_
            rcases waited with error | (_ | code) <;> exact ends_pure _
      refine ends_bind leaves fun left => ?_
      cases left <;> exact ends_pure _

end Harness

end GracefulStop
