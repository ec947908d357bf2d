import GracefulStop.Proofs.Run.Prompt
import GracefulStop.Retry.Attempts

/-!
# Actions that are cut off

An action that is cut off at a moment does what it would have done anyway, up to that moment. It has
its result if it comes to it by then, that moment itself included, and none if it would have taken
longer. Moments at which a run goes on are whole milliseconds, unless no time has passed at all.
-/

namespace GracefulStop

/-- A moment at a whole millisecond. -/
def Duration.IsWhole (moment : Duration) : Prop := moment.nanos % 1000000 = 0

theorem Duration.isWhole_ceilMillis (length : Duration) : length.ceilMillis.IsWhole := by
  simp [IsWhole, ceilMillis, ofMillis]

theorem Duration.le_ceilMillis (length : Duration) : length ≤ length.ceilMillis := by
  simp only [le_def, ceilMillis, ofMillis]
  omega

/-- Whole milliseconds that are not before a moment are not before the next whole millisecond. -/
theorem Duration.ceilMillis_le {earlier later : Duration} (whole : later.IsWhole)
    (ordered : earlier ≤ later) : earlier.ceilMillis ≤ later := by
  simp only [IsWhole, le_def, ceilMillis, ofMillis] at *
  omega

theorem le_wakeTime (now length : Duration) : now ≤ wakeTime now length := by
  unfold wakeTime
  split
  · exact Nat.le_refl now.nanos
  · apply Nat.le_trans _ (Duration.le_ceilMillis _)
    simp only [Duration.nanos_add]
    omega

theorem wakeTime_of_zero (now : Instant) {length : Duration} (zero : length.nanos = 0) :
    wakeTime now length = now := if_pos zero

theorem isWhole_wakeTime (now : Instant) {length : Duration} (positive : length.nanos ≠ 0) :
    (wakeTime now length).IsWhole := by
  rw [wakeTime, if_neg positive]
  exact Duration.isWhole_ceilMillis _

variable {State : Type} {world : World State}

namespace Run

variable {run : Run State} {stop : Instant}

theorem clock_work_le {due : Instant} (inTime : run.clock ≤ stop) (dueInTime : due ≤ stop)
    (position index : Nat) : (run.work world due position index).clock ≤ stop := by
  rcases run.work_cases world due position index with ⟨_, same⟩ | ⟨load, after, _, went, done⟩
  · rw [same]
    exact inTime
  · have clock : after.2.clock = max run.clock due := went.clock
    simp only [done, clock, Duration.le_def, Duration.nanos_max] at *
    omega

theorem clock_workUntil_le (inTime : run.clock ≤ stop) (steps : Nat) :
    (run.workUntil world stop steps).clock ≤ stop := by
  induction steps generalizing run with
  | zero => exact inTime
  | succ steps ih =>
      unfold workUntil workOnce
      split
      · rename_i next once
        split at once
        · rename_i due position index found
          split at once
          · cases once
            rename_i early
            apply ih
            exact clock_work_le inTime (Nat.le_of_lt early) position index
          · cases once
        · cases once
      · exact inTime

/-- Workers that go on meanwhile do not take the clock beyond the moment that it moves to. -/
theorem clock_advance (inTime : run.clock ≤ stop) : (run.advance world stop).clock = stop := by
  have worked : (run.workUntil world stop (run.stepsUntil stop)).clock ≤ stop :=
    clock_workUntil_le inTime _
  rcases stop with ⟨nanos⟩
  simp only [advance, Duration.le_def] at *
  change (⟨max _ nanos⟩ : Duration) = ⟨nanos⟩
  rw [Duration.mk.injEq]
  exact Nat.max_eq_right worked

end Run

namespace Action

variable {Result Next Answer : Type} {run last : Run State}

/-- An action that does by a limit what it does without one. -/
structure Heeds (action : Action State Result) : Prop where
  later : ∀ limit run, run.clock ≤ (action limit run).2.clock
  inTime : ∀ moment run, run.clock ≤ moment → (action (some moment) run).2.clock ≤ moment
  /-- The result is there if the action comes to it by the limit. -/
  cut : ∀ {moment run result last}, run.clock ≤ moment →
    (action (some moment) run = (some result, last) ↔
      action none run = (some result, last) ∧ last.clock ≤ moment)
  lands : ∀ {run result last}, action none run = (some result, last) →
    last.clock = run.clock ∨ last.clock.IsWhole

/-- What takes no time cannot be cut off. -/
theorem heeds_of_instant {action : Action State Result} (use : Run State → Result × Run State)
    (same : ∀ limit run, action limit run = (some (use run).1, (use run).2))
    (still : ∀ run, (use run).2.clock = run.clock) : action.Heeds where
  later limit run := by
    rw [same, still]
    exact Nat.le_refl run.clock.nanos
  inTime moment run early := by
    rw [same, still]
    exact early
  cut := by
    intro moment run result last early
    rw [same, same]
    constructor
    · rintro ⟨⟩
      exact ⟨rfl, by rwa [still]⟩
    · exact And.left
  lands := by
    intro run result last ended
    rw [same] at ended
    cases ended
    exact Or.inl (still run)

theorem heeds_pure (result : Result) : (pure result : Action State Result).Heeds :=
  heeds_of_instant (fun run => (result, run)) (fun _ _ => rfl) fun _ => rfl

theorem heeds_now : (now : Action State Instant).Heeds :=
  heeds_of_instant (fun run => (run.clock, run)) (fun _ _ => rfl) fun _ => rfl

theorem heeds_note (event : Event) : (note event : Action State Unit).Heeds :=
  heeds_of_instant (fun run => ((), run.note event)) (fun _ _ => rfl) fun _ => rfl

theorem heeds_onState (change : State → Result × State) : (onState change).Heeds :=
  heeds_of_instant (fun run => ((change run.state).1, { run with state := (change run.state).2 }))
    (fun _ _ => rfl) fun _ => rfl

theorem heeds_bind {first : Action State Result} {next : Result → Action State Next}
    (heedsFirst : first.Heeds) (heedsNext : ∀ result, (next result).Heeds) :
    (first >>= next).Heeds where
  later limit run := by
    have laterFirst := heedsFirst.later limit run
    rcases ended : first limit run with ⟨_ | value, between⟩
    · rw [ended] at laterFirst
      rwa [bind_of_eq_none ended]
    · rw [ended] at laterFirst
      rw [bind_of_eq_some ended]
      exact Nat.le_trans laterFirst ((heedsNext value).later limit between)
  inTime moment run early := by
    have inTimeFirst := heedsFirst.inTime moment run early
    rcases ended : first (some moment) run with ⟨_ | value, between⟩
    · rw [ended] at inTimeFirst
      rwa [bind_of_eq_none ended]
    · rw [ended] at inTimeFirst
      rw [bind_of_eq_some ended]
      exact (heedsNext value).inTime moment between inTimeFirst
  cut := by
    intro moment run result last early
    rw [bind_eq_some, bind_eq_some]
    constructor
    · rintro ⟨value, between, endedFirst, endedNext⟩
      rcases (heedsFirst.cut early).mp endedFirst with ⟨uncutFirst, inTimeFirst⟩
      rcases ((heedsNext value).cut inTimeFirst).mp endedNext with ⟨uncutNext, inTimeNext⟩
      exact ⟨⟨value, between, uncutFirst, uncutNext⟩, inTimeNext⟩
    · rintro ⟨⟨value, between, uncutFirst, uncutNext⟩, inTimeNext⟩
      have onward := (heedsNext value).later none between
      rw [uncutNext] at onward
      have inTimeFirst : between.clock ≤ moment := Nat.le_trans onward inTimeNext
      exact ⟨value, between, (heedsFirst.cut early).mpr ⟨uncutFirst, inTimeFirst⟩,
        ((heedsNext value).cut inTimeFirst).mpr ⟨uncutNext, inTimeNext⟩⟩
  lands := by
    intro run result last ended
    rcases bind_eq_some.mp ended with ⟨value, between, endedFirst, endedNext⟩
    rcases (heedsNext value).lands endedNext with same | whole
    · rw [same]
      exact heedsFirst.lands endedFirst
    · exact Or.inr whole

theorem heeds_stall : (stall world : Action State Result).Heeds where
  later limit run := by
    have follows : (stall world : Action State Result).Follows world fun _ => True := follows_stall
    exact (follows limit run).clock_le
  inTime moment run early := by
    simp only [stall, Run.clock_advance early]
    exact Nat.le_refl moment.nanos
  cut early := ⟨fun ended => absurd ended stall_ne_some, fun ended => absurd ended.1 stall_ne_some⟩
  lands ended := absurd ended stall_ne_some

theorem heeds_sleep (length : Duration) : (sleep world length).Heeds := by
  by_cases empty : length.nanos = 0
  · apply heeds_of_instant (fun run => ((), run))
    · intro limit run
      simp [sleep, empty]
    · exact fun _ => rfl
  · have wakes : ∀ run : Run State,
        (run.advance world (wakeTime run.clock length)).clock = wakeTime run.clock length :=
      fun run => Run.clock_advance (le_wakeTime _ _)
    constructor
    · intro limit run
      have follows : (sleep world length).Follows world fun _ => True := follows_sleep length
      exact (follows limit run).clock_le
    · intro moment run early
      simp only [sleep, if_neg empty]
      split
      · rename_i inTime
        rwa [wakes]
      · rw [Run.clock_advance early]
        exact Nat.le_refl moment.nanos
    · intro moment run result last early
      simp only [sleep, if_neg empty]
      constructor
      · intro ended
        split at ended
        · rename_i inTime
          cases ended
          exact ⟨rfl, by rwa [wakes]⟩
        · cases ended
      · rintro ⟨ended, inTime⟩
        cases ended
        rw [wakes] at inTime
        rw [if_pos inTime]
    · intro run result last ended
      simp only [sleep, if_neg empty] at ended
      cases ended
      rw [wakes]
      exact Or.inr (isWhole_wakeTime run.clock empty)

theorem clock_of_sleep {length : Duration} {slept : Run State}
    (sleeps : sleep world length none run = (some (), slept)) :
    slept.clock = wakeTime run.clock length := by
  unfold sleep at sleeps
  split at sleeps
  · rename_i empty
    cases sleeps
    exact (wakeTime_of_zero _ empty).symm
  · cases sleeps
    exact Run.clock_advance (le_wakeTime _ _)

theorem heeds_poll (look : Look → State → Progress Answer × State) (began : Instant)
    (index tries : Nat) : (poll world look began index tries).Heeds := by
  induction tries generalizing index with
  | zero => exact heeds_stall
  | succ tries ih =>
      apply heeds_bind heeds_now
      intro moment
      apply heeds_bind (heeds_onState _)
      intro progress
      cases progress with
      | done answer => exact heeds_pure answer
      | pause length => exact heeds_bind (heeds_sleep length) fun _ => ih (index + 1)
      | stalled => exact heeds_stall

theorem heeds_query (node : Node) (request : Request) : (query world node request).Heeds := by
  apply heeds_bind (heeds_note _)
  intro _
  apply heeds_bind (heeds_bind heeds_now fun began => heeds_poll _ began 0 world.looks)
  intro result
  exact heeds_bind (heeds_note _) fun _ => heeds_pure result

/-- How an action comes out that is given time up to a moment: with its result, if it comes to it by
then, and without one at that moment, if it would take longer. -/
inductive Given (action : Action State Result) (run : Run State) (stop : Instant) :
    Option Result → Run State → Prop
  | came {result : Result} {last : Run State} (ended : action none run = (some result, last))
      (inTime : last.clock ≤ stop) : Given action run stop (some result) last
  | cut {last : Run State}
      (late : ∀ result after, action none run = (some result, after) → stop < after.clock)
      (stopped : last.clock = stop) : Given action run stop none last

theorem given_of_within {action : Action State Result} (heeds : action.Heeds) {length : Duration}
    {outcome : Option Result}
    (ended : within world length action none run = (some outcome, last)) :
    Given action run (wakeTime run.clock length) outcome last := by
  have early := le_wakeTime run.clock length
  have inTime := heeds.inTime _ run early
  simp only [within] at ended
  rcases cutOff : action (some (wakeTime run.clock length)) run with ⟨_ | result, between⟩
  · rw [cutOff] at ended inTime
    cases ended
    apply Given.cut _ (Run.clock_advance inTime)
    intro result after uncut
    apply Nat.lt_of_not_le
    intro inTimeAfter
    rw [(heeds.cut early).mpr ⟨uncut, inTimeAfter⟩] at cutOff
    cases cutOff
  · rw [cutOff] at ended
    cases ended
    rcases (heeds.cut early).mp cutOff with ⟨uncut, inTimeLast⟩
    exact Given.came uncut inTimeLast

end Action

open GracefulStop.Action

theorem heeds_attemptsFrom {Answer : Type} {plan : BackoffPlan} {retryable : QueryError → Bool}
    {attempt : Action State (Except QueryError Answer)} (heeds : attempt.Heeds)
    (waited backoff : Duration) (enough : BackoffPlan.shortest ≤ backoff) :
    (attemptsFrom world plan retryable attempt waited backoff enough).Heeds := by
  induction waited, backoff, enough using attemptsFrom.induct plan with
  | case1 waited backoff enough ih =>
      rw [attemptsFrom]
      apply heeds_bind heeds
      intro result
      cases result with
      | ok answer => exact heeds_pure _
      | error error =>
          dsimp only
          split
          · split
            · exact heeds_pure _
            · rename_i unspent
              exact heeds_bind (heeds_sleep backoff) fun _ => ih unspent
          · exact heeds_pure _

theorem RetryPolicy.heeds_execute (policy : RetryPolicy) (node : Node) (statement : String)
    (params : List Json) : (policy.execute world node statement params).Heeds :=
  heeds_attemptsFrom (heeds_query node _) _ _ _

end GracefulStop
