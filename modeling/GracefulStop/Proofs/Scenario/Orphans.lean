import GracefulStop.Proofs.Cluster.Answers
import GracefulStop.Proofs.Run.Obliging
import GracefulStop.Proofs.Scenario.Provision

/-!
# No orphans

Whatever operations a scenario goes through, in whatever order and however they end, a node that was
launched for it and is alive belongs to the cluster that it holds. Providing a new cluster ends with
exactly the nodes of the new cluster started and all nodes before it stopped, or with no node alive
and no cluster.

What carries the induction is `Scenario.Guarded`: it also says that the nodes launched so far have
numbers below those that are still to be given, so that starting new nodes brings no old one to life.
-/

namespace GracefulStop

namespace Scenario

/-- An operation that a scenario offers. -/
inductive Order where
  | provision (count : Nat)
  | decommission (index : Nat) (timeout : Duration)
  | execute (statement : String) (params : List Json)
  | executeBulk (index : Nat) (statement : String) (rows : List (List Json))
  | pushSettings (settings : KeyMap Json)
  | setMinAvailability (value : MinAvailability)
  | awaitInvariant (query : ShardQuery) (deadline : Option Duration)
  | startWorkload (index : Nat) (kinds : List OperationKind) (perKind : Nat)
  | stopWorkload (position : Nat)
  | dropTable (table : String)
  | teardown

variable {State : Type}

/-- What is done for an order. -/
def Order.perform (world : World State) : Order → ScenarioM State Unit
  | provision count => Scenario.provision world count
  | decommission index timeout => do let _ ← Scenario.decommission world index timeout
  | execute statement params => do let _ ← Scenario.execute world statement params
  | executeBulk index statement rows => do
    let _ ← Scenario.executeBulk world index statement rows
  | pushSettings settings => Scenario.pushSettings world settings
  | setMinAvailability value => Scenario.setMinAvailability world value
  | awaitInvariant query deadline => do let _ ← Scenario.awaitInvariant world query deadline
  | startWorkload index kinds perKind => do
    let _ ← Scenario.startWorkload index kinds perKind
  | stopWorkload position => do let _ ← act (Action.stopLoad world position)
  | dropTable table => Scenario.dropTable world table
  | teardown => Scenario.teardown world

/-- The scenarios, each with its run, that a new scenario comes to by orders, each of which may end in
any way, and by time passing between them. -/
inductive Reachable (world : World State) (name : String) (config : Config) (base : Run State) :
    Scenario → Run State → Prop
  | new : Reachable world name config base { name, config } base
  | order {scenario after : Scenario} {run last : Run State} (order : Order)
      {limit : Option Instant} {result : Except ScenarioError Unit}
      (reached : Reachable world name config base scenario run)
      (ended : order.perform world scenario limit run = (some (result, after), last)) :
      Reachable world name config base after last
  | wait {scenario : Scenario} {run : Run State} (moment : Instant)
      (reached : Reachable world name config base scenario run) :
      Reachable world name config base scenario (run.advance world moment)

variable {world : World State} {live : world.Liveness} {scenario after : Scenario}
  {base run last : Run State} {limit : Option Instant}

/-- Every node launched since a moment that is alive belongs to the cluster of the scenario, and its
number has been given. -/
structure Guarded (live : world.Liveness) (base : Run State) (scenario : Scenario)
    (run : Run State) : Prop where
  sound : live.Sound run
  course : Run.Course world (fun _ => True) base run
  numbered : ∀ node prepared, .launched node prepared ∈ base.since run → node.serial < run.nodes
  owned : ∀ node prepared, .launched node prepared ∈ base.since run → live.Alive run node →
    node ∈ scenario.nodes

namespace Guarded

/-- A course that launches and starts no node leaves none to itself as long as the cluster stays. -/
theorem quiet (guarded : Guarded live base scenario run)
    (course : Run.Course world (Deed.Within Deed.Quiet) run last)
    (kept : after.nodes = scenario.nodes) : Guarded live base after last := by
  have early : ∀ {node prepared}, .launched node prepared ∈ base.since last →
      .launched node prepared ∈ base.since run := by
    intro node prepared member
    rw [guarded.course.since_trans course] at member
    refine (List.mem_append.mp member).resolve_right fun late => ?_
    rcases course.of_mem_since late with ⟨⟨⟩⟩ | ⟨⟨⟩⟩
  refine ⟨World.Liveness.sound_course course guarded.sound, guarded.course.trans course.any, ?_, ?_⟩
  · intro node prepared member
    exact Nat.lt_of_lt_of_le (guarded.numbered node prepared (early member)) course.nodes_le
  · intro node prepared member alive
    rw [kept]
    exact guarded.owned node prepared (early member)
      (World.Liveness.alive_of_course course guarded.sound nofun alive)

/-- Who takes the cluster down leaves no node alive. -/
theorem teardown (guarded : Guarded live base scenario run) {result : Except ScenarioError Unit}
    (ended : Scenario.teardown world scenario limit run = (some (result, after), last)) :
    Guarded live base after last ∧
      ∀ node prepared, .launched node prepared ∈ base.since last → ¬live.Alive last node := by
  obtain ⟨_, rfl, dead⟩ := teardown_eq_some ended
  have course := follows_teardown.course ended
  have early : ∀ {node prepared}, .launched node prepared ∈ base.since last →
      .launched node prepared ∈ base.since run := by
    intro node prepared member
    rw [guarded.course.since_trans course] at member
    refine (List.mem_append.mp member).resolve_right fun late => ?_
    rcases course.of_mem_since late with ⟨⟨⟩⟩ | ⟨⟨⟩⟩
  have none : ∀ node prepared, .launched node prepared ∈ base.since last →
      ¬live.Alive last node := by
    intro node prepared member alive
    have before := World.Liveness.alive_of_course course guarded.sound nofun alive
    exact dead live guarded.sound node (guarded.owned node prepared (early member) before) alive
  refine ⟨⟨World.Liveness.sound_course course guarded.sound, guarded.course.trans course.any, ?_, ?_⟩,
    none⟩
  · intro node prepared member
    exact Nat.lt_of_lt_of_le (guarded.numbered node prepared (early member)) course.nodes_le
  · exact fun node prepared member alive => absurd alive (none node prepared member)

/-- A new cluster takes the place of all nodes before it. -/
theorem provision (guarded : Guarded live base scenario run) {count : Nat}
    {result : Except ScenarioError Unit}
    (ended : Scenario.provision world count scenario limit run = (some (result, after), last)) :
    Guarded live base after last ∧
      ∀ node prepared, .launched node prepared ∈ base.since run → ¬live.Alive last node := by
  obtain ⟨torn, endedDown, _, stages⟩ := provision_eq_some ended
  obtain ⟨guardedTorn, dead⟩ := guarded.teardown endedDown
  have down := follows_teardown.course endedDown
  have older : ∀ node prepared, .launched node prepared ∈ base.since torn →
      ¬live.Alive last node := fun node prepared member alive =>
    dead node prepared member (stages.alive_of_older guardedTorn.sound
      (guardedTorn.numbered node prepared member) alive)
  refine ⟨⟨World.Liveness.sound_course stages.course guardedTorn.sound,
    guardedTorn.course.trans stages.course, ?_, ?_⟩, ?_⟩
  · intro node prepared member
    rw [guardedTorn.course.since_trans stages.course] at member
    rcases List.mem_append.mp member with early | late
    · exact Nat.lt_of_lt_of_le (guardedTorn.numbered node prepared early) stages.course.nodes_le
    · exact (stages.launched late).2.1
  · intro node prepared member alive
    rw [guardedTorn.course.since_trans stages.course] at member
    rcases List.mem_append.mp member with early | late
    · exact absurd alive (older node prepared early)
    · obtain ⟨harness, held, among⟩ :=
        (stages.launched late).2.2 live guardedTorn.sound alive
      simpa [nodes, held] using among
  · intro node prepared member
    refine older node prepared ?_
    rw [guarded.course.since_trans down]
    exact List.mem_append_left _ member

end Guarded

/-- A node that has left stays among the nodes of its cluster. -/
theorem nodes_decommission {index : Nat} {timeout : Duration} {result : Except ScenarioError Int}
    (ended : decommission world index timeout scenario limit run = (some (result, after), last)) :
    after.nodes = scenario.nodes := by
  rcases decommission_eq_some ended with
    ⟨_, _, rfl, _⟩ | ⟨harness, left, answer, held, leaves, _, rfl⟩
  · rfl
  rcases Harness.decommission_eq_some leaves with ⟨_, _, rfl, _⟩ | ⟨node, _, _, rfl⟩
  · simp [nodes, held]
  · cases answer.isOk <;> simp [nodes, held]

/-- No order launches or starts a node, except for a new cluster. -/
theorem follows_perform {order : Order} (other : ∀ count, order ≠ .provision count) :
    Operation.Follows world (Deed.Within Deed.Quiet) (order.perform world) := by
  have quiet : ∀ {Result : Type} {operation : ScenarioM State Result} {may : Deed → Prop},
      Operation.Follows world (Deed.Within may) operation → (∀ node, ¬may (.launch node)) →
      (∀ node, ¬may (.start node)) → Operation.Follows world (Deed.Within Deed.Quiet) operation :=
    fun follows noLaunch noStart => follows.mono (Deed.quiet_of noLaunch noStart)
  have discarded : ∀ {Result : Type} {operation : ScenarioM State Result},
      Operation.Follows world (Deed.Within Deed.Quiet) operation →
      Operation.Follows world (Deed.Within Deed.Quiet) (do let _ ← operation) :=
    fun follows => Operation.follows_bind follows fun _ => Operation.follows_pure _
  have sets : ∀ settings : KeyMap Json,
      Operation.Follows world (Deed.Within Deed.Quiet) (Scenario.pushSettings world settings) :=
    fun settings => quiet (follows_pushSettings settings) (fun _ ⟨_, _, no⟩ => no)
      fun _ ⟨_, _, no⟩ => no
  cases order with
  | provision count => exact absurd rfl (other count)
  | decommission index timeout =>
      exact discarded (quiet (follows_decommission index timeout) (fun _ ⟨_, no⟩ => no)
        fun _ ⟨_, no⟩ => no)
  | execute statement params =>
      exact discarded (quiet (follows_execute statement params) nofun nofun)
  | executeBulk index statement rows =>
      exact discarded (quiet (follows_executeBulk index statement rows) nofun nofun)
  | pushSettings settings => exact sets settings
  | setMinAvailability value => exact sets _
  | awaitInvariant query deadline =>
      exact discarded (quiet (follows_awaitInvariant query deadline) nofun nofun)
  | startWorkload index kinds perKind =>
      exact discarded (quiet (follows_startWorkload index kinds perKind) nofun nofun)
  | stopWorkload position =>
      exact discarded (follows_act (Action.follows_stopLoad (by trivial) position))
  | dropTable table => exact quiet (follows_dropTable table) nofun nofun
  | teardown => exact quiet follows_teardown nofun nofun

/-- An order leaves the nodes of the cluster as they are, unless it provides a new one or takes it
down. -/
theorem nodes_perform {order : Order} (other : ∀ count, order ≠ .provision count)
    (stays : order ≠ .teardown) {result : Except ScenarioError Unit}
    (ended : order.perform world scenario limit run = (some (result, after), last)) :
    after.nodes = scenario.nodes := by
  have discarded : ∀ {Result : Type} {operation : ScenarioM State Result},
      Operation.Spares operation → Operation.Spares (do let _ ← operation) :=
    fun spares => Operation.spares_bind spares fun _ => Operation.spares_pure _
  have same : Operation.Spares (order.perform world) → after.nodes = scenario.nodes :=
    fun spares => congrArg nodes (spares.eq ended)
  cases order with
  | provision count => exact absurd rfl (other count)
  | decommission index timeout =>
      rcases Operation.bind_cases ended with ⟨_, _, leaves⟩ | ⟨_, _, _, leaves, done⟩
      · exact nodes_decommission leaves
      · obtain ⟨_, rfl, _⟩ := Operation.pure_eq_some done
        exact nodes_decommission leaves
  | execute statement params => exact same (discarded (spares_execute _ _))
  | executeBulk index statement rows => exact same (discarded (spares_executeBulk _ _ _))
  | pushSettings settings => exact same (spares_pushSettings _)
  | setMinAvailability value => exact same (spares_pushSettings _)
  | awaitInvariant query deadline => exact same (discarded (spares_awaitInvariant _ _))
  | startWorkload index kinds perKind => exact same (discarded (spares_startWorkload _ _ _))
  | stopWorkload position => exact same (discarded (spares_act _))
  | dropTable table => exact same (spares_dropTable _)
  | teardown => exact absurd rfl stays

/-- Every reachable scenario leaves no node that is alive to itself. -/
theorem Reachable.guarded {name : String} {config : Config} (sound : live.Sound base)
    (reached : Reachable world name config base scenario run) :
    Guarded live base scenario run := by
  induction reached with
  | new => exact ⟨sound, .refl, by simp, by simp⟩
  | @order scenario after run last order limit result reached ended ih =>
      by_cases down : order = .teardown
      · subst down
        exact (ih.teardown ended).1
      · by_cases provides : ∃ count, order = .provision count
        · obtain ⟨count, rfl⟩ := provides
          exact (ih.provision ended).1
        · have other := fun count same => provides ⟨count, same⟩
          exact ih.quiet ((follows_perform other).course ended) (nodes_perform other down ended)
  | wait moment reached ih => exact ih.quiet (.advance moment _) rfl

/-- In every state that a scenario can come to, each node that was launched for it and is alive belongs
to the cluster that it holds. If a new cluster cannot be provided then, for whatever reason, no node
launched for the scenario is alive and it holds no cluster. If it can, the scenario holds a cluster of
the size that was asked for, exactly the nodes of it have been started, and all nodes that were
launched before are stopped. -/
theorem no_orphans (live : world.Liveness) {name : String} {config : Config}
    (sound : live.Sound base) (reached : Reachable world name config base scenario run) :
    (∀ node prepared, .launched node prepared ∈ base.since run → live.Alive run node →
      ∃ harness, scenario.harness = some harness ∧ node ∈ harness.handles.map Handle.node) ∧
    ∀ count limit result after last,
      provision world count scenario limit run = (some (result, after), last) →
      (∀ error, result = .error error → after.harness = none ∧
        ∀ node prepared, .launched node prepared ∈ base.since last → ¬live.Alive last node) ∧
      (result = .ok () → ∃ harness, after.harness = some harness ∧
        harness.handles.length = count ∧ count ≠ 0 ∧
        run.started last = harness.handles.map Handle.node ∧
        ∀ node prepared, .launched node prepared ∈ base.since run → ¬live.Alive last node) := by
  have guarded := reached.guarded sound
  constructor
  · intro node prepared member alive
    have among := guarded.owned node prepared member alive
    rcases scenario with ⟨_, _, _ | harness⟩
    · cases among
    · exact ⟨harness, rfl, among⟩
  · intro count limit result after last ended
    obtain ⟨guardedLast, older⟩ := guarded.provision ended
    obtain ⟨torn, endedDown, _, stages⟩ := provision_eq_some ended
    refine ⟨?_, ?_⟩
    · rintro error rfl
      have none := stages.held_eq_none
      refine ⟨none, fun node prepared member alive => ?_⟩
      have among := guardedLast.owned node prepared member alive
      simp [nodes, none] at among
    · rintro rfl
      cases held : after.harness with
      | none =>
          rw [held] at stages
          cases stages
      | some harness =>
          rw [held] at stages
          obtain ⟨_, started, provided, provides, _⟩ := stages.of_complete
          have down := follows_teardown.course endedDown
          refine ⟨harness, rfl, provides.length, provides.positive, ?_, older⟩
          rw [down.started_trans stages.course, down.started_eq_nil (by rintro _ ⟨⟩),
            started, List.nil_append]

/-- The first cluster of a scenario in obliging surroundings. -/
def obligingFirst : Option (Except ScenarioError Unit × Scenario) × Run (List Nat) :=
  provision World.obliging 2 { name := "twice", config := {} } none World.obligingStart

/-- A cluster of two nodes, in obliging surroundings, that is to be followed by one of no nodes: none of
its nodes is alive afterwards, and the scenario holds no cluster. -/
theorem no_orphans_of_obliging :
    ∃ scenario run error after last,
      obligingFirst = (some (.ok (), scenario), run) ∧
        provision World.obliging 0 scenario none run = (some (.error error, after), last) ∧
        after.harness = none ∧
        ∀ node prepared, .launched node prepared ∈ World.obligingStart.since last →
          ¬World.obligingLiveness.Alive last node := by
  have grows : obligingFirst.1.map (·.1.isOk) = some true := by decide +kernel
  have fails : (obligingFirst.1.bind fun between =>
      (provision World.obliging 0 between.2 none obligingFirst.2).1).map (·.1.isOk) = some false := by
    decide +kernel
  rcases first : obligingFirst with ⟨_ | ⟨_ | _, scenario⟩, run⟩ <;> rw [first] at grows fails
  · cases grows
  · cases grows
  rcases second : provision World.obliging 0 scenario none run with
    ⟨_ | ⟨error | _, after⟩, last⟩ <;> simp only [Option.bind_some, second] at fails
  · cases fails
  · have reached : Reachable World.obliging "twice" {} World.obligingStart scenario run :=
      .order (.provision 2) .new first
    obtain ⟨_, provides⟩ := no_orphans World.obligingLiveness trivial reached
    obtain ⟨cleans, _⟩ := provides 0 none _ after last second
    obtain ⟨held, dead⟩ := cleans error rfl
    exact ⟨scenario, run, error, after, last, rfl, second, held, dead⟩
  · cases fails

end Scenario

end GracefulStop
