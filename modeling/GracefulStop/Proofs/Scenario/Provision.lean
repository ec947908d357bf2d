import GracefulStop.Proofs.Cluster.Upkeep
import GracefulStop.Proofs.Scenario.Course

/-!
# Provisioning a scenario

Providing a cluster takes the old one down and then goes through stages, at each of which it may fail:
laying out, starting, and waiting for the members. Whichever stage fails, no node of the new cluster
is alive in the end, and the scenario holds none.
-/

namespace GracefulStop

namespace Scenario

variable {State : Type} {world : World State} {live : world.Liveness} {scenario after : Scenario}
  {limit : Option Instant} {run torn last : Run State}

open Operation

/-- The nodes of the cluster that the scenario holds, if any. -/
def nodes (scenario : Scenario) : List Node :=
  (scenario.harness.map fun harness => harness.handles.map Handle.node).getD []

/-- The nodes of a cluster that the scenario holds. -/
theorem nodes_eq_of_harness {harness : Harness} (held : scenario.harness = some harness) :
    scenario.nodes = harness.handles.map Handle.node := by
  simp [nodes, held]

/-- A node that is found in a cluster is one of the scenario. -/
theorem nodes_of_node? {harness : Harness} {index : Nat} {node : Node}
    (held : scenario.harness = some harness) (found : harness.node? index = .ok node) :
    scenario.nodes[index]? = some node := by
  unfold Harness.node? at found
  split at found
  · rename_i handle stands
    cases found
    simp [nodes_eq_of_harness held, stands]
  · cases found

/-- Taking a cluster down cannot fail, and leaves none. -/
theorem teardown_eq_some {result : Except ScenarioError Unit}
    (ended : teardown world scenario limit run = (some (result, after), last)) :
    result = .ok () ∧ after = { scenario with harness := none } ∧
      ∀ live : world.Liveness, live.Sound run → ∀ node ∈ scenario.nodes, ¬live.Alive last node := by
  rcases scenario with ⟨name, config, _ | harness⟩
  · cases ended
    exact ⟨rfl, rfl, by simp [nodes]⟩
  · rcases bind_cases ended with ⟨_, _, endedCurrent⟩ | ⟨now, _, _, endedCurrent, ended⟩
    · cases endedCurrent
    · cases endedCurrent
      rcases bind_cases ended with ⟨_, _, endedSet⟩ | ⟨_, _, _, endedSet, ended⟩
      · cases endedSet
      · cases endedSet
        obtain ⟨value, rfl, rfl, endedDown⟩ := act_eq_some ended
        refine ⟨rfl, rfl, fun live sound node member => ?_⟩
        obtain ⟨handle, memberHandle, rfl⟩ := List.mem_map.mp member
        exact Harness.not_alive_of_teardown endedDown sound memberHandle

/-- The stages of providing a cluster once the old one has been taken down, up to the one that fails or
to the end. -/
inductive Provisioning (world : World State) (count : Nat) (scenario : Scenario)
    (limit : Option Instant) (torn : Run State) :
    Except ScenarioError Unit → Option Harness → Run State → Prop
  | notProvided {error : ClusterError} {last : Run State}
      (provision : Harness.provision world scenario.name count
        scenario.config.cluster.nodeSettingsMap scenario.config limit torn =
          (some (.error error), last)) :
      Provisioning world count scenario limit torn (.error (.cluster error)) none last
  | notStarted {harness : Harness} {provided : Run State} {error : ClusterError} {last : Run State}
      (provision : Harness.provision world scenario.name count
        scenario.config.cluster.nodeSettingsMap scenario.config limit torn =
          (some (.ok harness), provided))
      (start : harness.start world limit provided = (some (.error error), last)) :
      Provisioning world count scenario limit torn (.error (.cluster error)) none last
  | notComplete {harness : Harness} {provided started awaited : Run State} {error : ClusterError}
      {last : Run State}
      (provision : Harness.provision world scenario.name count
        scenario.config.cluster.nodeSettingsMap scenario.config limit torn =
          (some (.ok harness), provided))
      (start : harness.start world limit provided = (some (.ok ()), started))
      (quorum : harness.awaitQuorum world scenario.config.quorum.timeout limit started =
        (some (.error error), awaited))
      (teardown : harness.teardown world limit awaited = (some (), last)) :
      Provisioning world count scenario limit torn (.error (.cluster error)) none last
  | complete {harness : Harness} {provided started last : Run State}
      (provision : Harness.provision world scenario.name count
        scenario.config.cluster.nodeSettingsMap scenario.config limit torn =
          (some (.ok harness), provided))
      (start : harness.start world limit provided = (some (.ok ()), started))
      (quorum : harness.awaitQuorum world scenario.config.quorum.timeout limit started =
        (some (.ok ()), last)) :
      Provisioning world count scenario limit torn (.ok ()) (some harness) last

/-- Providing a cluster takes the old one down and goes through the stages. -/
theorem provision_eq_some {count : Nat} {result : Except ScenarioError Unit}
    (ended : provision world count scenario limit run = (some (result, after), last)) :
    ∃ torn, teardown world scenario limit run =
        (some (.ok (), { scenario with harness := none }), torn) ∧
      after = { scenario with harness := after.harness } ∧
      Provisioning world count scenario limit torn result after.harness last := by
  rcases bind_cases ended with ⟨_, _, endedDown⟩ | ⟨_, between, torn, endedDown, ended⟩
  · obtain ⟨⟨⟩, _⟩ := teardown_eq_some endedDown
  obtain ⟨_, rfl, _⟩ := teardown_eq_some endedDown
  refine ⟨torn, endedDown, ?_⟩
  rcases bind_cases ended with ⟨_, _, endedCurrent⟩ | ⟨_, _, _, endedCurrent, ended⟩
  · cases endedCurrent
  cases endedCurrent
  rcases bind_cases ended with ⟨_, rfl, endedProvide⟩ | ⟨harness, _, provided, endedProvide, ended⟩
  · obtain ⟨value, same, rfl, provides⟩ := actOnCluster_eq_some endedProvide
    cases value with
    | ok _ => cases same
    | error error =>
        cases same
        exact ⟨rfl, .notProvided provides⟩
  obtain ⟨value, same, rfl, provides⟩ := actOnCluster_eq_some endedProvide
  cases value with
  | error error => cases same
  | ok provision =>
  cases same
  rcases bind_cases ended with ⟨_, rfl, endedStart⟩ | ⟨_, _, started, endedStart, ended⟩
  · obtain ⟨value, same, rfl, starts⟩ := actOnCluster_eq_some endedStart
    cases value with
    | ok _ => cases same
    | error error =>
        cases same
        exact ⟨rfl, .notStarted provides starts⟩
  obtain ⟨value, same, rfl, starts⟩ := actOnCluster_eq_some endedStart
  cases value with
  | error error => cases same
  | ok _ =>
  rcases bind_cases ended with ⟨_, rfl, endedAwait⟩ | ⟨quorum, _, awaited, endedAwait, ended⟩
  · obtain ⟨_, ⟨⟩, _⟩ := act_eq_some endedAwait
  obtain ⟨value, same, rfl, awaits⟩ := act_eq_some endedAwait
  cases same
  cases quorum with
  | ok _ =>
      obtain ⟨rfl, rfl, rfl⟩ := setHarness_eq_some ended
      exact ⟨rfl, .complete provides starts awaits⟩
  | error error =>
      rcases bind_cases ended with ⟨_, rfl, endedEnd⟩ | ⟨_, _, down, endedEnd, ended⟩
      · obtain ⟨_, ⟨⟩, _⟩ := act_eq_some endedEnd
      obtain ⟨_, same, rfl, takesDown⟩ := act_eq_some endedEnd
      obtain ⟨rfl, rfl, rfl⟩ := throw_eq_some ended
      exact ⟨rfl, .notComplete provides starts awaits takesDown⟩

namespace Provisioning

variable {count : Nat} {result : Except ScenarioError Unit} {held : Option Harness}

/-- A stage that fails leaves no cluster. -/
theorem held_eq_none {error : ScenarioError}
    (stages : Provisioning world count scenario limit torn (.error error) held last) :
    held = none := by
  cases stages <;> rfl

/-- What is done with a cluster that has been provided: only its nodes are started. -/
def Tends (harness : Harness) : Deed → Prop
  | .start node => node ∈ harness.handles.map Handle.node
  | .launch _ => False
  | .lay => False
  | .load _ => False
  | _ => True

theorem tends_start {harness : Harness} :
    (harness.start world).Follows world (Deed.Within (Tends harness)) :=
  Harness.follows_start (fun _ member => List.mem_map_of_mem member) fun _ _ => trivial

theorem tends_awaitQuorum {harness : Harness} {time : Option Duration} :
    (harness.awaitQuorum world time).Follows world (Deed.Within (Tends harness)) := by
  refine (harness.follows_awaitQuorum time).mono fun deed => ?_
  unfold Deed.Within
  cases deed.about <;> simp [Deed.Asks, Tends]

theorem tends_teardown {harness : Harness} :
    (harness.teardown world).Follows world (Deed.Within (Tends harness)) :=
  Harness.follows_stopAll fun _ _ => trivial

/-- Either no cluster was provided, or one was and only tended to afterwards. -/
theorem provided_or (stages : Provisioning world count scenario limit torn result held last) :
    (held = none ∧ ∃ error, Harness.provision world scenario.name count
      scenario.config.cluster.nodeSettingsMap scenario.config limit torn =
        (some (.error error), last)) ∨
    ∃ harness provided, Harness.provision world scenario.name count
      scenario.config.cluster.nodeSettingsMap scenario.config limit torn =
        (some (.ok harness), provided) ∧
      Run.Course world (Deed.Within (Tends harness)) provided last ∧
      (held = some harness ∨ held = none ∧ ∀ live : world.Liveness, live.Sound provided →
        ∀ handle ∈ harness.handles, ¬live.Alive last handle.node) := by
  cases stages with
  | notProvided provision => exact .inl ⟨rfl, _, provision⟩
  | notStarted provision start =>
      exact .inr ⟨_, _, provision, tends_start.course start,
        .inr ⟨rfl, fun live sound _ member => Harness.not_alive_of_start start sound member⟩⟩
  | notComplete provision start quorum teardown =>
      have tended := (tends_start.course start).trans (tends_awaitQuorum.course quorum)
      exact .inr ⟨_, _, provision, tended.trans (tends_teardown.course teardown),
        .inr ⟨rfl, fun live sound _ member =>
          Harness.not_alive_of_teardown teardown (World.Liveness.sound_course tended sound) member⟩⟩
  | complete provision start quorum =>
      exact .inr ⟨_, _, provision,
        (tends_start.course start).trans (tends_awaitQuorum.course quorum), .inl rfl⟩

/-- The stages are a course. -/
theorem course (stages : Provisioning world count scenario limit torn result held last) :
    Run.Course world (fun _ => True) torn last := by
  rcases stages.provided_or with ⟨_, error, provision⟩ | ⟨harness, provided, provision, tended, _⟩
  · exact ((Harness.follows_provision _ _ _ _).course provision).any
  · exact ((Harness.follows_provision _ _ _ _).course provision).any.trans tended.any

/-- Every node launched for a new cluster has a number of its own, and is not alive unless it belongs
to the cluster that the scenario holds now. -/
theorem launched (stages : Provisioning world count scenario limit torn result held last)
    {node : Node} {prepared : Except ClusterError Unit}
    (member : .launched node prepared ∈ torn.since last) :
    torn.nodes ≤ node.serial ∧ node.serial < last.nodes ∧
      ∀ live : world.Liveness, live.Sound torn → live.Alive last node →
        ∃ harness, held = some harness ∧ node ∈ harness.handles.map Handle.node := by
  rcases stages.provided_or with
    ⟨rfl, error, provision⟩ | ⟨harness, provided, provision, tended, outcome⟩
  · obtain ⟨above, below, unborn⟩ := Harness.launched_of_provision provision member
    exact ⟨above, below, fun live sound alive => absurd alive (unborn live sound)⟩
  · have provides := (Harness.follows_provision _ _ _ _).course provision
    have early : .launched node prepared ∈ torn.since provided := by
      rw [provides.since_trans tended] at member
      refine (List.mem_append.mp member).resolve_right fun late => ?_
      rcases tended.of_mem_since late with ⟨⟨⟩⟩ | ⟨⟨⟩⟩
    obtain ⟨above, below, unborn⟩ := Harness.launched_of_provision provision early
    have among := (Harness.provided_of_provision provision).laid.launched node prepared early
    refine ⟨above, Nat.lt_of_lt_of_le below tended.nodes_le, fun live sound alive => ?_⟩
    rcases outcome with kept | ⟨_, dead⟩
    · exact ⟨harness, kept, among⟩
    · obtain ⟨handle, memberHandle, rfl⟩ := List.mem_map.mp among
      exact absurd alive (dead live (World.Liveness.sound_course provides sound) handle memberHandle)

/-- No older node is brought to life for a new cluster. -/
theorem alive_of_older (stages : Provisioning world count scenario limit torn result held last)
    (sound : live.Sound torn) {node : Node} (older : node.serial < torn.nodes)
    (alive : live.Alive last node) : live.Alive torn node := by
  rcases stages.provided_or with
    ⟨rfl, error, provision⟩ | ⟨harness, provided, provision, tended, _⟩
  · exact World.Liveness.alive_of_course ((Harness.follows_provision _ _ _ _).course provision) sound
      nofun alive
  · have provides := (Harness.follows_provision _ _ _ _).course provision
    have serials := (Harness.provided_of_provision provision).laid.serials
    refine World.Liveness.alive_of_course provides sound nofun
      (World.Liveness.alive_of_course tended (World.Liveness.sound_course provides sound) ?_ alive)
    intro started among same
    obtain ⟨handle, member, rfl⟩ := List.mem_map.mp among
    have fresh : handle.node.serial ∈ List.range' torn.nodes _ :=
      serials ▸ List.mem_map_of_mem (f := fun handle : Handle => handle.node.serial) member
    rw [List.mem_range'_1] at fresh
    omega

/-- A cluster that is up and running is as it was asked for, and exactly its nodes have been started. -/
theorem of_complete {harness : Harness}
    (stages : Provisioning world count scenario limit torn result (some harness) last) :
    result = .ok () ∧ torn.started last = harness.handles.map Handle.node ∧
      ∃ provided, Harness.Provided scenario.name count scenario.config torn harness provided ∧
        Run.Course world (Deed.Within (Tends harness)) provided last := by
  cases stages with
  | @complete _ provided started _ provision start quorum =>
      have provides := (Harness.follows_provision _ _ _ _).course provision
      have starts : Run.Course world (Deed.Within (Tends harness)) provided started :=
        tends_start.course start
      have awaits := (harness.follows_awaitQuorum _).course quorum
      refine ⟨rfl, ?_, provided, Harness.provided_of_provision provision,
        starts.trans (tends_awaitQuorum.course quorum)⟩
      rw [provides.started_trans (starts.any.trans awaits.any), starts.started_trans awaits,
        provides.started_eq_nil nofun, awaits.started_eq_nil nofun,
        Harness.started_of_start start, List.nil_append, List.append_nil]

end Provisioning

end Scenario

end GracefulStop
