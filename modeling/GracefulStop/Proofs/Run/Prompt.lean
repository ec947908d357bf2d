import GracefulStop.Proofs.Run.Trail

/-!
# Actions that come to an end

An action that waits for nothing, or for surroundings that answer in time, comes to a result. The
clock says so: between two looks at something that takes time lies a sleep, every sleep takes the
clock into a later millisecond, and after some time every look finds an answer.
-/

namespace GracefulStop

namespace Duration

theorem le_of_millis_lt {first second : Duration} (sooner : first.millis < second.millis) :
    first ≤ second := by
  simp only [millis, le_def] at *
  omega

theorem millis_le_of_le {first second : Duration} (sooner : first ≤ second) :
    first.millis ≤ second.millis := by
  simp only [millis, le_def] at *
  omega

/-- Rounding down loses at most a millisecond. -/
theorem millis_add_le (first second : Duration) :
    (first + second).millis ≤ first.millis + second.millis + 1 := by
  simp only [millis, nanos_add]
  omega

end Duration

/-- A sleep ends in a later millisecond. -/
theorem millis_lt_wakeTime {now length : Duration} (positive : 0 < length.nanos) :
    now.millis < (wakeTime now length).millis := by
  have long : 0 < longestSleep.nanos := by decide
  unfold wakeTime
  rw [if_neg (by omega)]
  simp only [Duration.millis, Duration.ceilMillis, Duration.ofMillis, Duration.nanos_add,
    Duration.nanos_min]
  omega

/-- Something that takes time, but not longer than some time: until there is an answer there is a
pause between two looks. -/
structure Prompts {State Answer : Type} (latest : Duration)
    (look : Look → State → Progress Answer × State) : Prop where
  going : ∀ moment state, (look moment state).1 ≠ .stalled
  pausing : ∀ moment state length, (look moment state).1 = .pause length → moment.index ≠ 0 →
    0 < length.nanos
  answering : ∀ moment state, moment.began + latest ≤ moment.now →
    ∃ answer, (look moment state).1 = .done answer

/-- Surroundings that answer everything within a time, which is no longer than is allowed. -/
structure World.Prompt {State : Type} (world : World State) (latest : Duration) : Prop where
  short : latest ≤ world.allowed
  start : ∀ node, Prompts latest (world.start node)
  wait : ∀ node timeout, timeout ≤ latest → Prompts latest (world.wait node timeout)
  query : ∀ node request, Prompts latest (world.query node request)

/-- There are looks enough for the time that is allowed. -/
theorem World.looks_enough {State : Type} {world : World State} {latest : Duration}
    (short : latest ≤ world.allowed) : latest.millis + 5 < world.looks := by
  have least := Duration.millis_le_of_le short
  unfold looks
  omega

namespace Action

variable {State Result Next Answer : Type} {world : World State} {latest : Duration}

/-- An action that, done in some run, comes to a result if it is not cut off. -/
def EndsFrom (run : Run State) (action : Action State Result) : Prop :=
  ∃ result last, action none run = (some result, last)

/-- An action that comes to a result whenever it is not cut off. -/
def Ends (action : Action State Result) : Prop := ∀ run, action.EndsFrom run

/-- Two actions come to a result if the second does in the run that the first one leaves. -/
theorem endsFrom_bind {first : Action State Result} {next : Result → Action State Next}
    {result : Result} {run between : Run State} (ended : first none run = (some result, between))
    (rest : (next result).EndsFrom between) : (first >>= next).EndsFrom run := by
  obtain ⟨final, last, endedNext⟩ := rest
  exact ⟨final, last, bind_eq_some.mpr ⟨result, between, ended, endedNext⟩⟩

theorem ends_pure (result : Result) : (pure result : Action State Result).Ends :=
  fun run => ⟨result, run, rfl⟩

theorem ends_bind {first : Action State Result} {next : Result → Action State Next}
    (endsFirst : first.Ends) (endsNext : ∀ result, (next result).Ends) :
    (first >>= next).Ends := by
  intro run
  obtain ⟨result, between, endedFirst⟩ := endsFirst run
  exact endsFrom_bind endedFirst (endsNext result between)

theorem ends_now : (now : Action State Instant).Ends := fun run => ⟨run.clock, run, rfl⟩

theorem ends_note (event : Event) : (note event : Action State Unit).Ends :=
  fun run => ⟨(), run.note event, rfl⟩

theorem ends_onState (change : State → Result × State) : (onState change).Ends :=
  fun _ => ⟨_, _, rfl⟩

theorem ends_onPorts (use : Instant → PortPool → State → Result × PortPool × State) :
    (onPorts use).Ends := fun _ => ⟨_, _, rfl⟩

theorem ends_lay (spec : NodeSpec) : (lay spec : Action State Node).Ends := fun _ => ⟨_, _, rfl⟩

theorem ends_workloadAt (position : Nat) : (workloadAt position : Action State Workload).Ends :=
  fun _ => ⟨_, _, rfl⟩

theorem ends_performOn (position : Nat) (steps : List Workload.Step) :
    (performOn position steps : Action State Unit).Ends := fun _ => ⟨_, _, rfl⟩

theorem ends_startLoad (node : Node) (table : String) (kinds : List OperationKind) (perKind : Nat) :
    (startLoad node table kinds perKind : Action State Nat).Ends := fun _ => ⟨_, _, rfl⟩

/-- A sleep ends, and takes the clock into a later millisecond unless it has no length. -/
theorem sleep_eq_some (world : World State) (length : Duration) (run : Run State) :
    ∃ last, sleep world length none run = (some (), last) ∧
      run.clock.millis ≤ last.clock.millis ∧
      (0 < length.nanos → run.clock.millis < last.clock.millis) := by
  by_cases empty : length.nanos = 0
  · exact ⟨run, by simp [sleep, empty], Nat.le_refl _, fun positive => absurd empty (by omega)⟩
  · have later : wakeTime run.clock length ≤ (run.advance world (wakeTime run.clock length)).clock := by
      simp only [Run.advance, Duration.le_def, Duration.nanos_max]
      omega
    have woken : run.clock.millis < (wakeTime run.clock length).millis :=
      millis_lt_wakeTime (Nat.pos_of_ne_zero empty)
    have after := Duration.millis_le_of_le later
    refine ⟨run.advance world (wakeTime run.clock length), by simp [sleep, empty], ?_, fun _ => ?_⟩ <;>
      omega

theorem ends_sleep (length : Duration) : (sleep world length).Ends := fun run => by
  obtain ⟨last, slept, _⟩ := sleep_eq_some world length run
  exact ⟨(), last, slept⟩

/-- Who waits no longer than some time does not wait for ever. -/
theorem ends_within (length : Duration) (action : Action State Result) :
    (within world length action).Ends := by
  intro run
  rcases inner : action (some (wakeTime run.clock length)) run with ⟨_ | result, between⟩
  · exact ⟨none, between.advance world (wakeTime run.clock length), by simp [within, inner]⟩
  · exact ⟨some result, between, by simp [within, inner]⟩

/-- Who finds an answer comes to it. -/
theorem endsFrom_poll_of_done {look : Look → State → Progress Answer × State} {began : Instant}
    {index : Nat} {run : Run State} {answer : Answer}
    (found : (look ⟨began, run.clock, index⟩ run.state).1 = .done answer) (tries : Nat) :
    (poll world look began index (tries + 1)).EndsFrom run := by
  refine ⟨answer, { run with state := (look ⟨began, run.clock, index⟩ run.state).2 }, ?_⟩
  rw [poll_succ, found]
  rfl

/-- Who pauses and then comes to an answer comes to an answer. -/
theorem endsFrom_poll_of_pause {look : Look → State → Progress Answer × State} {began : Instant}
    {index tries : Nat} {run slept : Run State} {length : Duration}
    (found : (look ⟨began, run.clock, index⟩ run.state).1 = .pause length)
    (sleeps : sleep world length none
      { run with state := (look ⟨began, run.clock, index⟩ run.state).2 } = (some (), slept))
    (rest : (poll world look began (index + 1) tries).EndsFrom slept) :
    (poll world look began index (tries + 1)).EndsFrom run := by
  obtain ⟨answer, last, polled⟩ := rest
  refine ⟨answer, last, ?_⟩
  rw [poll_succ, found]
  exact bind_eq_some.mpr ⟨(), slept, sleeps, polled⟩

/-- Something is looked at until there is an answer, if there are tries enough for the milliseconds that
are left. -/
theorem endsFrom_poll {look : Look → State → Progress Answer × State} (prompt : Prompts latest look)
    {began : Instant} {index tries : Nat} {run : Run State} (again : index ≠ 0)
    (enough : (began + latest).millis + 1 - run.clock.millis < tries) :
    (poll world look began index tries).EndsFrom run := by
  induction tries generalizing index run with
  | zero => omega
  | succ tries ih =>
      cases found : (look ⟨began, run.clock, index⟩ run.state).1 with
      | done answer => exact endsFrom_poll_of_done found tries
      | pause length =>
          obtain ⟨slept, sleeps, _, later⟩ := sleep_eq_some world length
            { run with state := (look ⟨began, run.clock, index⟩ run.state).2 }
          have passed := later (prompt.pausing _ _ _ found again)
          have left : run.clock.millis ≤ (began + latest).millis := by
            refine Nat.le_of_not_lt fun late => ?_
            obtain ⟨answer, answered⟩ := prompt.answering ⟨began, run.clock, index⟩ run.state
              (Duration.le_of_millis_lt late)
            rw [found] at answered
            cases answered
          refine endsFrom_poll_of_pause found sleeps (ih (by omega) ?_)
          dsimp only at passed
          omega
      | stalled => exact absurd found (prompt.going _ run.state)

/-- What is answered promptly is awaited to its end. -/
theorem ends_await {look : Look → State → Progress Answer × State} (prompt : Prompts latest look)
    (short : latest ≤ world.allowed) : (await world look).Ends := by
  intro run
  have enough := World.looks_enough short
  have rounding := Duration.millis_add_le run.clock latest
  obtain ⟨tries, same⟩ : ∃ tries, world.looks = tries + 1 := ⟨world.looks - 1, by omega⟩
  have polls : (poll world look run.clock 0 world.looks).EndsFrom run := by
    rw [same]
    cases found : (look ⟨run.clock, run.clock, 0⟩ run.state).1 with
    | done answer => exact endsFrom_poll_of_done found tries
    | pause length =>
        obtain ⟨slept, sleeps, later, _⟩ := sleep_eq_some world length
          { run with state := (look ⟨run.clock, run.clock, 0⟩ run.state).2 }
        refine endsFrom_poll_of_pause found sleeps (endsFrom_poll prompt (by omega) ?_)
        dsimp only at later
        omega
    | stalled => exact absurd found (prompt.going _ run.state)
  unfold await
  exact endsFrom_bind rfl polls

/-! ## Effects -/

/-- What comes to a result is written down. -/
theorem ends_noted {action : Action State Result} (ends : action.Ends) (event : Result → Event) :
    Ends (do
      let result ← action
      note (event result)
      pure result : Action State Result) :=
  ends_bind ends fun result => ends_bind (ends_note (event result)) fun _ => ends_pure result

theorem ends_launch (node : Node) : (launch world node).Ends :=
  ends_noted (ends_bind ends_now fun _ => ends_onState _) _

theorem ends_connect (node : Node) : (connect world node).Ends :=
  ends_noted (ends_bind ends_now fun _ => ends_onState _) _

theorem ends_keepManifest (manifest : Manifest) : (keepManifest world manifest).Ends :=
  ends_noted (ends_bind ends_now fun _ => ends_onState _) _

theorem ends_stopNode (node : Node) : (stopNode world node).Ends :=
  ends_noted (ends_bind ends_now fun _ => ends_onState _) _

theorem ends_signalNode (node : Node) : (signalNode world node).Ends :=
  ends_noted (ends_bind ends_now fun _ => ends_onState _) _

theorem ends_isRunning (node : Node) : (isRunning world node).Ends :=
  ends_noted (ends_bind ends_now fun _ => ends_onState _) _

theorem ends_startNode (prompt : world.Prompt latest) (node : Node) : (startNode world node).Ends :=
  ends_noted (ends_await (prompt.start node) prompt.short) _

theorem ends_waitForNode (prompt : world.Prompt latest) (node : Node) {timeout : Duration}
    (inTime : timeout ≤ latest) : (waitForNode world node timeout).Ends :=
  ends_noted (ends_await (prompt.wait node timeout inTime) prompt.short) _

theorem ends_query (prompt : world.Prompt latest) (node : Node) (request : Request) :
    (query world node request).Ends :=
  ends_bind (ends_note _) fun _ =>
    ends_noted (ends_await (prompt.query node request) prompt.short) _

end Action

end GracefulStop
