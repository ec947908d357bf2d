import GracefulStop.Proofs.Cluster.Answers
import GracefulStop.Proofs.Run.Obliging
import GracefulStop.Proofs.Scenario.Tidy

/-!
# Clean exit

However a built-in scenario ends, it leaves a run behind in which no node of it is alive and none of its
workers ever goes on, and if there was a live node when its body ended then one was told to drop the
table before any was stopped. So it is with each of several scenarios that are run one after another,
whatever the ones before it came to.
-/

namespace GracefulStop

namespace Builtin

open Scenario

variable {State : Type} {world : World State} {live : world.Liveness} {config : Config}
  {builtin : Builtin} {limit : Option Instant} {run last : Run State}

/-- How a scenario leaves a run behind. -/
structure CleanExit (live : world.Liveness) (config : Config) (limit : Option Instant)
    (builtin : Builtin) (run last : Run State) : Prop where
  course : Run.Course world (fun _ => True) run last
  /-- No node that was launched for the scenario is alive. -/
  stopped : ∀ node prepared, .launched node prepared ∈ run.since last → ¬live.Alive last node
  /-- Whatever happens later, every worker of its workloads has ended. -/
  ended : ∀ {may later}, Run.Course world may last later → ∀ {position load},
    position < last.loads.length → later.loads[position]? = some load → load.workload.Ended
  /-- Whatever happens later, until another workload starts no worker does anything. -/
  silent : ∀ {may later}, Run.Course world may last later → (∀ node, ¬may (.load node)) →
    ∀ event ∈ last.since later, may (.write event)
  /-- Nothing was done by a worker after the body, and if some node of its cluster was then found live,
  one that was has been told to drop the table before any node was stopped. -/
  dropped : ∃ result scenario bodyEnd,
    builtin.body world { name := builtin.clusterName, config } limit run =
      (some (result, scenario), bodyEnd) ∧
    run.since last = run.since bodyEnd ++ bodyEnd.since last ∧
    (∀ event ∈ bodyEnd.since last, event.deed ≠ .work) ∧
    ∀ harness found, scenario.harness = some harness →
      (Harness.liveNodes world harness.handles limit bodyEnd).1 = some found → found ≠ [] →
      ∃ node ∈ found, ∃ looked later,
        bodyEnd.since last =
          looked ++ .asked node (.single (dropStatement config.workload.table) []) :: later ∧
        ∀ event ∈ looked, event.deed.Looks

/-- Where no worker is at work things are tidy when a scenario begins. -/
theorem tidy_start (sound : live.Sound run) (calm : run.Calm) (builtin : Builtin) (config : Config) :
    Tidy live config run (fun _ => False) ({ name := builtin.clusterName, config }, run) :=
  ⟨⟨sound, .refl, by simp, by simp⟩, calm.gathered, calm.timely, calm.idle, rfl⟩

/-- Every run of a scenario in a run without workers at work is a clean exit. -/
theorem cleanExit_of_run {outcome : Outcome} (sound : live.Sound run) (calm : run.Calm)
    (ended : builtin.run world config limit run = (some outcome, last)) :
    CleanExit live config limit builtin run last ∧ last.Calm := by
  obtain ⟨result, after, bodyEnd, dropped, endedBody, endedDrop, endedDown, _⟩ := run_eq_some ended
  have tidy := (tidies_body builtin).leaves _ _ _ _ _ _ endedBody
    (tidy_start sound calm builtin config)
  have drops := (follows_dropTable _).course endedDrop
  have tidyDropped := tidy.still (drops.mono Deed.still_of_asks) rfl rfl
  have downs := follows_teardown.course endedDown
  obtain ⟨guarded, dead⟩ := tidyDropped.guarded.teardown endedDown
  have gatheredLast := downs.gathered tidyDropped.gathered
  have timelyLast := downs.timely tidyDropped.timely
  have idleLast : last.Idle := downs.rests (fun _ => not_false) tidyDropped.rests
  have sinceBody : run.since last = run.since bodyEnd ++ bodyEnd.since last :=
    tidy.guarded.course.since_trans (drops.any.trans downs.any)
  have since : bodyEnd.since last = bodyEnd.since dropped ++ dropped.since last :=
    drops.since_trans downs
  have still : ∀ event ∈ bodyEnd.since last, event.deed ≠ .work := by
    intro event member work
    rw [since] at member
    rcases List.mem_append.mp member with dropping | downing
    · have asks := (drops.of_idle (fun _ => id) tidy.rests).2 event dropping
      simp [Deed.Within, Deed.about, work, Deed.Asks] at asks
    · have down := (downs.of_idle (fun _ => id) tidyDropped.rests).2 event downing
      simp [Deed.Within, Deed.about, work, Deed.TakesDown] at down
  refine ⟨⟨guarded.course, dead, fun course _ _ early stands => course.ended_of_idle idleLast early stands,
    fun course none => (course.of_idle none idleLast).2,
    result, after, bodyEnd, endedBody, sinceBody, still, ?_⟩, gatheredLast, timelyLast, idleLast⟩
  intro harness found held look live
  obtain ⟨_, _, ⟨none, _⟩ | ⟨_, answer, heldThen, executed⟩⟩ := dropTable_eq_some endedDrop
  · cases held.symm.trans none
  cases held.symm.trans heldThen
  obtain ⟨node, member, looked, later, written, looks⟩ :=
    Harness.asked_of_execute executed look live
  refine ⟨node, member, looked, later ++ dropped.since last, ?_, fun event early => ?_⟩
  · rw [since, written, tidy.configured.symm]
    simp [Scenario.table]
  · refine (looks event early).resolve_right (still event ?_)
    rw [since, written]
    simp [early]

/-- A run of a scenario comes to an outcome, in surroundings that answer in time. -/
theorem endsFrom_run {latest : Duration} (prompt : world.Prompt latest) (paced : config.Paced latest)
    (sound : live.Sound run) (calm : run.Calm) (builtin : Builtin) :
    (builtin.run world config).EndsFrom run := by
  obtain ⟨result, after, bodyEnd, endedBody, _⟩ :=
    (tidies_body builtin).ends prompt paced _ _ (tidy_start sound calm builtin config)
  refine Action.endsFrom_bind rfl (Action.endsFrom_bind endedBody ?_)
  obtain ⟨result, spared, dropped, endedDrop, _⟩ := ends_dropTable prompt after.table after bodyEnd rfl
  refine Action.endsFrom_bind endedDrop ?_
  have downs : Operation.Ends spared.config (Scenario.teardown world) := ends_teardown
  obtain ⟨result, bare, down, endedDown, _⟩ := downs spared dropped rfl
  refine Action.endsFrom_bind endedDown ?_
  exact Action.ends_bind Action.ends_now (fun _ => Action.ends_pure _) down

/-- Scenarios that have been run one after another, each to an outcome of its own and to a clean
exit. -/
inductive Cleanly (live : world.Liveness) (config : Config) (limit : Option Instant) :
    List Builtin → Run State → List Outcome → Run State → Prop
  | nil (run : Run State) : Cleanly live config limit [] run [] run
  | cons {builtin : Builtin} {rest : List Builtin} {run between last : Run State}
      {outcome : Outcome} {outcomes : List Outcome}
      (ended : builtin.run world config limit run = (some outcome, between))
      (named : outcome.name = builtin.name)
      (exits : CleanExit live config limit builtin run between)
      (others : Cleanly live config limit rest between outcomes last) :
      Cleanly live config limit (builtin :: rest) run (outcome :: outcomes) last

/-- One outcome comes of each scenario, in their order. -/
theorem Cleanly.names {builtins : List Builtin} {outcomes : List Outcome}
    (cleanly : Cleanly live config limit builtins run outcomes last) :
    outcomes.map Outcome.name = builtins.map Builtin.name := by
  induction cleanly with
  | nil => rfl
  | cons _ named _ _ ih => rw [List.map_cons, List.map_cons, named, ih]

/-- Scenarios that are run one after another come to clean exits. -/
theorem cleanly_of_runAll {builtins : List Builtin} {outcomes : List Outcome}
    (sound : live.Sound run) (calm : run.Calm)
    (ended : runAll world config builtins limit run = (some outcomes, last)) :
    Cleanly live config limit builtins run outcomes last := by
  induction builtins generalizing run outcomes with
  | nil =>
      obtain ⟨rfl, rfl⟩ := Action.pure_eq_some.mp ended
      exact .nil run
  | cons builtin rest ih =>
      obtain ⟨outcome, between, endedFirst, ended⟩ := Action.bind_eq_some.mp ended
      obtain ⟨others, _, endedOthers, ended⟩ := Action.bind_eq_some.mp ended
      obtain ⟨rfl, rfl⟩ := Action.pure_eq_some.mp ended
      obtain ⟨_, _, _, _, _, _, _, named, _⟩ := run_eq_some endedFirst
      obtain ⟨exits, calmBetween⟩ := cleanExit_of_run sound calm endedFirst
      have soundBetween := World.Liveness.sound_course exits.course sound
      exact .cons endedFirst named exits (ih soundBetween calmBetween endedOthers)

/-- Scenarios that are run one after another come to outcomes, in surroundings that answer in time. -/
theorem endsFrom_runAll {latest : Duration} (prompt : world.Prompt latest)
    (paced : config.Paced latest) (sound : live.Sound run) (calm : run.Calm)
    (builtins : List Builtin) : (runAll world config builtins).EndsFrom run := by
  induction builtins generalizing run with
  | nil => exact Action.ends_pure _ run
  | cons builtin rest ih =>
      obtain ⟨outcome, between, ended⟩ := endsFrom_run prompt paced sound calm builtin
      obtain ⟨exits, calmBetween⟩ := cleanExit_of_run sound calm ended
      have soundBetween := World.Liveness.sound_course exits.course sound
      obtain ⟨outcomes, last, endedOthers⟩ := ih soundBetween calmBetween
      exact Action.endsFrom_bind ended
        (Action.endsFrom_bind endedOthers (Action.ends_pure _ last))

/-- Whatever scenarios are run one after another in a run in which no worker is at work, and whatever
processes and clients do as long as stopping a node succeeds: there is one outcome for each scenario, in
their order, and each scenario leaves the run behind in a clean exit. In surroundings that answer in
time there are outcomes. -/
theorem runAll_exits_cleanly (live : world.Liveness) (sound : live.Sound run) (calm : run.Calm)
    (config : Config) (builtins : List Builtin) :
    (∀ limit outcomes last, runAll world config builtins limit run = (some outcomes, last) →
      outcomes.map Outcome.name = builtins.map Builtin.name ∧
        Cleanly live config limit builtins run outcomes last) ∧
      ∀ latest, world.Prompt latest → config.Paced latest →
        ∃ outcomes last, runAll world config builtins Option.none run = (some outcomes, last) :=
  ⟨fun _ _ _ ended =>
    have cleanly := cleanly_of_runAll sound calm ended
    ⟨cleanly.names, cleanly⟩,
    fun _ prompt paced => endsFrom_runAll prompt paced sound calm builtins⟩

/-- In obliging surroundings all scenarios come to clean exits. -/
theorem runAll_exits_cleanly_of_obliging :
    ∃ outcomes last,
      runAll World.obliging {} Builtin.all Option.none World.obligingStart = (some outcomes, last) ∧
        outcomes.map Outcome.name = ["signal", "primaries", "full", "none", "concurrent"] ∧
        Cleanly World.obligingLiveness {} Option.none Builtin.all World.obligingStart outcomes last := by
  obtain ⟨clean, ends⟩ :=
    runAll_exits_cleanly World.obligingLiveness trivial (Run.calm_start _ _) {} Builtin.all
  have paced : Config.Paced {} (.ofSeconds 60) := ⟨by decide, by decide, by decide, by decide⟩
  obtain ⟨outcomes, last, ended⟩ := ends (.ofSeconds 60) World.prompt_obliging paced
  exact ⟨outcomes, last, ended, clean Option.none outcomes last ended⟩

end Builtin

end GracefulStop
