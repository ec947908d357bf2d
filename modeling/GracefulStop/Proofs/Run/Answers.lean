import GracefulStop.Proofs.Run.Trail

/-!
# What is written down about an effect

What a run asks of its surroundings is written down once, with the answer, after whatever workers did
while the answer was awaited.
-/

namespace GracefulStop.Action

variable {State : Type} {world : World State} {run last : Run State} {limit : Option Instant}
  {node : Node}

/-- An action whose result is written down. -/
theorem noted_eq_some {Result : Type} {action : Action State Result} {event : Result → Event}
    {result : Result}
    (ended : (do
      let result ← action
      note (event result)
      pure result : Action State Result) limit run = (some result, last)) :
    ∃ between, action limit run = (some result, between) ∧ last = between.note (event result) := by
  obtain ⟨value, between, first, ended⟩ := bind_eq_some.mp ended
  obtain ⟨_, noted, second, ended⟩ := bind_eq_some.mp ended
  obtain ⟨rfl, rfl⟩ := pure_eq_some.mp ended
  cases second
  exact ⟨between, first, rfl⟩

/-- What is asked at once is the only thing that happens. -/
theorem since_of_atOnce {Result : Type} {use : Instant → State → Result × State}
    {event : Result → Event} {result : Result}
    (ended : (do
      let result ← atOnce use
      note (event result)
      pure result : Action State Result) limit run = (some result, last)) :
    run.since last = [event result] := by
  obtain ⟨between, used, rfl⟩ := noted_eq_some ended
  cases used
  exact Run.since_of_events (Run.events_note _ _)

/-- While something is awaited only workers do anything. -/
theorem since_of_await {Result : Type} {look : Look → State → Progress Result × State}
    {event : Result → Event} {result : Result} {deed : Deed}
    (touched : ∀ moment state, world.Touch deed moment.now state (look moment state).2)
    (ended : (do
      let result ← await world look
      note (event result)
      pure result : Action State Result) limit run = (some result, last)) :
    ∃ meanwhile, run.since last = meanwhile ++ [event result] ∧
      ∀ event ∈ meanwhile, event.deed = .work := by
  obtain ⟨between, awaited, rfl⟩ := noted_eq_some ended
  have course : Run.Course world (· = deed) run between :=
    (follows_await touched (by rfl)).course awaited
  refine ⟨run.since between, Run.since_of_events ?_, ?_⟩
  · rw [Run.events_note, course.events_eq, List.append_assoc]
  · intro event member
    rcases course.of_mem_since member with wrote | work
    · subst wrote
      cases touched ⟨run.clock, run.clock, 0⟩ run.state
    · exact work

theorem since_launch {result : Except ClusterError Unit}
    (ended : launch world node limit run = (some result, last)) :
    run.since last = [.launched node result] := since_of_atOnce ended

theorem since_keepManifest {manifest : Manifest} {result : Except ClusterError Unit}
    (ended : keepManifest world manifest limit run = (some result, last)) :
    run.since last = [.recorded manifest result] := since_of_atOnce ended

theorem since_stopNode {result : Except ClusterError Unit}
    (ended : stopNode world node limit run = (some result, last)) :
    run.since last = [.stopped node result] := since_of_atOnce ended

theorem since_signalNode {result : Except ClusterError Unit}
    (ended : signalNode world node limit run = (some result, last)) :
    run.since last = [.signalled node result] := since_of_atOnce ended

theorem since_isRunning {running : Bool}
    (ended : isRunning world node limit run = (some running, last)) :
    run.since last = [.checked node running] := since_of_atOnce ended

theorem since_startNode {result : Except ClusterError Unit}
    (ended : startNode world node limit run = (some result, last)) :
    ∃ meanwhile, run.since last = meanwhile ++ [.started node result] ∧
      ∀ event ∈ meanwhile, event.deed = .work := since_of_await (.start node) ended

theorem since_waitForNode {timeout : Duration} {result : Except ClusterError (Option Int)}
    (ended : waitForNode world node timeout limit run = (some result, last)) :
    ∃ meanwhile, run.since last = meanwhile ++ [.waited node timeout result] ∧
      ∀ event ∈ meanwhile, event.deed = .work := since_of_await (.wait node timeout) ended

theorem since_query {request : Request} {result : Except QueryError Response}
    (ended : query world node request limit run = (some result, last)) :
    ∃ meanwhile, run.since last = .asked node request :: meanwhile ++ [.answered node request result] ∧
      ∀ event ∈ meanwhile, event.deed = .work := by
  obtain ⟨_, asked, first, ended⟩ := bind_eq_some.mp ended
  cases first
  obtain ⟨meanwhile, written, work⟩ := since_of_await (.ask node request) ended
  have course : Run.Course world (fun _ => True) (run.note (.asked node request)) last :=
    (follows_bind (follows_await (World.Touch.ask node request) trivial) fun _ =>
      follows_bind (follows_note trivial (by nofun)) fun _ => follows_pure _).course ended
  refine ⟨meanwhile, Run.since_of_events ?_, work⟩
  rw [course.events_eq, written, Run.events_note]
  simp

end GracefulStop.Action
