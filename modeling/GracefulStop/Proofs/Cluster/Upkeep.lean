import GracefulStop.Proofs.Cluster.Layout

/-!
# Bringing clusters up and down

A cluster that could be provided has as many nodes as were asked for, none of them alive. Starting it
starts each of its nodes once, or leaves none of them alive. No node of a cluster that was taken down
is alive.
-/

namespace GracefulStop

/-- The node that has been started, if the event says so. -/
def Event.startedNode? : Event → Option Node
  | .started node (.ok ()) => some node
  | _ => none

variable {State : Type} {world : World State} {live : world.Liveness} {limit : Option Instant}
  {run between last : Run State}

namespace Run

/-- The nodes that have been started between two moments. -/
def started (run last : Run State) : List Node := (run.since last).filterMap Event.startedNode?

@[simp]
theorem started_self (run : Run State) : run.started run = [] := by
  simp [started]

namespace Course

variable {may might : Deed → Prop}

theorem started_trans (first : Course world may run between)
    (second : Course world might between last) :
    run.started last = run.started between ++ between.started last := by
  rw [started, first.since_trans second, List.filterMap_append]
  rfl

/-- No node is started in a course that may not start one. -/
theorem started_eq_nil (course : Course world (Deed.Within may) run last)
    (none : ∀ node, ¬may (.start node)) : run.started last = [] := by
  refine List.filterMap_eq_nil_iff.mpr fun event member => ?_
  cases event with
  | started node result =>
      rcases course.of_mem_since member with allowed | ⟨⟨⟩⟩
      exact absurd allowed (none node)
  | _ => rfl

end Course

end Run

/-- A start is written down with its result, and is the only one. -/
theorem Action.started_of_startNode {node : Node} {result : Except ClusterError Unit}
    (ended : startNode world node limit run = (some result, last)) :
    run.started last = if result.isOk then [node] else [] := by
  obtain ⟨meanwhile, written, work⟩ := Action.since_startNode ended
  have nobody : meanwhile.filterMap Event.startedNode? = [] := by
    refine List.filterMap_eq_nil_iff.mpr fun event member => ?_
    cases event with
    | started other result => cases work _ member
    | _ => rfl
  rw [Run.started, written, List.filterMap_append, nobody]
  cases result <;> rfl

namespace Handle

/-- Attempts to start a node have started it once if they have succeeded, and never if not. -/
theorem started_of_startAttempts {node : Node} {total left : Nat} {text : String}
    {result : Except ClusterError Unit}
    (ended : startAttempts world node total left text limit run = (some result, last)) :
    run.started last = if result.isOk then [node] else [] := by
  induction left generalizing run text with
  | zero =>
      obtain ⟨rfl, rfl⟩ := Action.pure_eq_some.mp ended
      exact Run.started_self run
  | succ left ih =>
      unfold startAttempts at ended
      obtain ⟨started, between, endedStart, ended⟩ := Action.bind_eq_some.mp ended
      have first := Action.started_of_startNode endedStart
      cases started with
      | ok _ =>
          obtain ⟨rfl, rfl⟩ := Action.pure_eq_some.mp ended
          exact first
      | error error =>
          obtain ⟨stopped, stoppedRun, endedStop, ended⟩ := Action.bind_eq_some.mp ended
          have starts : Run.Course world (Deed.Within (· = .start node)) run between :=
            (Action.follows_startNode (by rfl)).course endedStart
          have stops : Run.Course world (Deed.Within (· = .stop node)) between stoppedRun :=
            (Action.follows_stopNode (by rfl)).course endedStop
          have onward : Run.Course world (Deed.Within fun _ => True) stoppedRun last :=
            (follows_startAttempts trivial trivial _ _ _).course ended
          rw [starts.started_trans (stops.any.trans onward.any), first,
            stops.started_trans onward, stops.started_eq_nil (by rintro _ ⟨⟩)]
          exact ih ended

end Handle

namespace Harness

/-- Who has started nodes one after another has started each of them once. -/
theorem started_of_startAll {attempts : Nat} {handles : List Handle}
    (ended : startAll world attempts handles limit run = (some (.ok ()), last)) :
    run.started last = handles.map Handle.node := by
  induction handles generalizing run with
  | nil =>
      obtain ⟨_, rfl⟩ := Action.pure_eq_some.mp ended
      exact Run.started_self run
  | cons handle rest ih =>
      unfold startAll at ended
      obtain ⟨result, between, endedStart, ended⟩ := Action.bind_eq_some.mp ended
      have starts : Run.Course world (Deed.Within fun _ => True) run between :=
        (handle.follows_startWithRetry trivial trivial _).course endedStart
      cases result with
      | error error => obtain ⟨⟨⟩, _⟩ := Action.pure_eq_some.mp ended
      | ok _ =>
          have onward : Run.Course world (Deed.Within fun _ => True) between last :=
            (follows_startAll (fun _ _ => trivial) (fun _ _ => trivial) _).course ended
          rw [starts.started_trans onward, Handle.started_of_startAttempts endedStart, ih ended]
          rfl

/-- No node is alive that has been stopped along with others. -/
theorem not_alive_of_stopAll {handles : List Handle} {result : Unit}
    (ended : stopAll world handles limit run = (some result, last)) (sound : live.Sound run)
    {handle : Handle} (member : handle ∈ handles) : ¬live.Alive last handle.node := by
  induction handles generalizing run with
  | nil => cases member
  | cons first rest ih =>
      obtain ⟨stopped, between, endedStop, ended⟩ := Action.bind_eq_some.mp ended
      have stops : Run.Course world (Deed.Within (· = .stop first.node)) run between :=
        (Action.follows_stopNode (by rfl)).course endedStop
      have soundBetween := World.Liveness.sound_course stops sound
      have onward : Run.Course world (Deed.Within fun deed => ∃ node, deed = .stop node)
          between last := (follows_stopAll fun _ _ => ⟨_, rfl⟩).course ended
      rcases List.mem_cons.mp member with rfl | memberRest
      · intro alive
        refine (Action.not_alive_of_stopNode endedStop sound).2 ?_
        exact World.Liveness.alive_of_course onward soundBetween
          (fun _ allowed => by cases allowed with | intro _ same => cases same) alive
      · exact ih ended soundBetween memberRest

/-- No node of a cluster is alive that has been taken down. -/
theorem not_alive_of_teardown {harness : Harness} {result : Unit}
    (ended : harness.teardown world limit run = (some result, last)) (sound : live.Sound run)
    {handle : Handle} (member : handle ∈ harness.handles) : ¬live.Alive last handle.node :=
  not_alive_of_stopAll ended sound member

/-- A cluster that has been started has had each of its nodes started once. -/
theorem started_of_start {harness : Harness}
    (ended : harness.start world limit run = (some (.ok ()), last)) :
    run.started last = harness.handles.map Handle.node := by
  obtain ⟨result, between, endedAll, ended⟩ := Action.bind_eq_some.mp ended
  cases result with
  | ok _ =>
      obtain ⟨_, rfl⟩ := Action.pure_eq_some.mp ended
      exact started_of_startAll endedAll
  | error error =>
      obtain ⟨_, _, _, ended⟩ := Action.bind_eq_some.mp ended
      obtain ⟨⟨⟩, _⟩ := Action.pure_eq_some.mp ended

/-- No node of a cluster is alive that could not be started. -/
theorem not_alive_of_start {harness : Harness} {error : ClusterError}
    (ended : harness.start world limit run = (some (.error error), last))
    (sound : live.Sound run) {handle : Handle} (member : handle ∈ harness.handles) :
    ¬live.Alive last handle.node := by
  obtain ⟨result, between, endedAll, ended⟩ := Action.bind_eq_some.mp ended
  have starts : Run.Course world (Deed.Within fun _ => True) run between :=
    (follows_startAll (fun _ _ => trivial) (fun _ _ => trivial) _).course endedAll
  cases result with
  | ok _ => obtain ⟨⟨⟩, _⟩ := Action.pure_eq_some.mp ended
  | error error =>
      obtain ⟨_, downRun, endedDown, ended⟩ := Action.bind_eq_some.mp ended
      obtain ⟨_, rfl⟩ := Action.pure_eq_some.mp ended
      exact not_alive_of_teardown endedDown (World.Liveness.sound_course starts sound) member

/-- A cluster that has been provided as it was asked for. -/
structure Provided (name : String) (count : Nat) (config : Config) (run : Run State)
    (harness : Harness) (last : Run State) : Prop where
  laid : Laid (namesFor name count) run harness.handles last
  named : harness.name = name
  positive : count ≠ 0
  policy : harness.policy = .ofSettings config.retry
  startAttempts : harness.startAttempts = config.startup.maxAttempts
  quorumPoll : harness.quorumPoll = config.quorum.pollInterval

/-- A provided cluster has as many nodes as were asked for. -/
theorem Provided.length {name : String} {count : Nat} {config : Config} {harness : Harness}
    (provided : Provided name count config run harness last) : harness.handles.length = count := by
  have lengths := congrArg List.length provided.laid.named
  simpa [namesFor] using lengths

/-- What is done to keep the layout of a cluster. -/
def Records : Deed → Prop
  | .keep _ => True
  | _ => False

/-- What the nodes of a cluster have in common. -/
def sharedSpec (name : String) (count : Nat) (settings : KeyMap String) (config : Config)
    (range : PortRange) : NodeSpec where
  name := ""
  host := config.cluster.host
  httpPort := 0
  transportRange := range
  clusterName := name
  peers := namesFor name count
  settings := settings

/-- The stages of providing a cluster: there are no nodes, or no range of ports, or they cannot all be
laid out, or the layout cannot be kept, or the cluster is there. -/
inductive Provides (world : World State) (name : String) (count : Nat) (settings : KeyMap String)
    (config : Config) (limit : Option Instant) (run : Run State) :
    Except ClusterError Harness → Run State → Prop
  | empty (nothing : count = 0) :
      Provides world name count settings config limit run (.error (.invalidNodeCount 0)) run
  | unreserved {error : ClusterError} {last : Run State}
      (reserves : Action.reservePorts world count limit run = (some (.error error), last)) :
      Provides world name count settings config limit run (.error error) last
  | unlaid {range : PortRange} {reserved : Run State} {error : ClusterError} {last : Run State}
      (reserves : Action.reservePorts world count limit run = (some (.ok range), reserved))
      (lays : layNodes world (sharedSpec name count settings config range) (namesFor name count) limit
        reserved = (some (.error error), last)) :
      Provides world name count settings config limit run (.error error) last
  | unkept {range : PortRange} {reserved laid : Run State} {handles : List Handle}
      {error : ClusterError} {last : Run State}
      (reserves : Action.reservePorts world count limit run = (some (.ok range), reserved))
      (lays : layNodes world (sharedSpec name count settings config range) (namesFor name count) limit
        reserved = (some (.ok handles), laid))
      (keeps : Action.keepManifest world ⟨name, range, handles.map (·.node.spec)⟩ limit laid =
        (some (.error error), last)) :
      Provides world name count settings config limit run (.error error) last
  | kept {range : PortRange} {reserved laid : Run State} {handles : List Handle} {last : Run State}
      (positive : count ≠ 0)
      (reserves : Action.reservePorts world count limit run = (some (.ok range), reserved))
      (lays : layNodes world (sharedSpec name count settings config range) (namesFor name count) limit
        reserved = (some (.ok handles), laid))
      (keeps : Action.keepManifest world ⟨name, range, handles.map (·.node.spec)⟩ limit laid =
        (some (.ok ()), last)) :
      Provides world name count settings config limit run
        (.ok ⟨name, range, handles, .ofSettings config.retry, config.startup.maxAttempts,
          config.quorum.pollInterval⟩) last

theorem provides_of_provision {name : String} {count : Nat} {settings : KeyMap String}
    {config : Config} {result : Except ClusterError Harness}
    (ended : provision world name count settings config limit run = (some result, last)) :
    Provides world name count settings config limit run result last := by
  unfold provision at ended
  split at ended
  · cases ended
    exact .empty ‹_›
  · rename_i positive
    rcases Action.bind_eq_some.mp ended with ⟨range, reserved, reserves, endedAll⟩
    cases range with
    | error error =>
        cases endedAll
        exact .unreserved reserves
    | ok range =>
        rcases Action.bind_eq_some.mp endedAll with ⟨laid, laidRun, lays, endedAll⟩
        cases laid with
        | error error =>
            cases endedAll
            exact .unlaid reserves lays
        | ok handles =>
            rcases Action.bind_eq_some.mp endedAll with ⟨kept, keptRun, keeps, endedAll⟩
            cases kept with
            | error error =>
                cases endedAll
                exact .unkept reserves lays keeps
            | ok _ =>
                cases endedAll
                exact .kept positive reserves lays keeps

/-- What the stages of providing a cluster have in common: none can be laid out, or its nodes are laid
out, and perhaps its layout is kept. -/
theorem provision_cases {name : String} {count : Nat} {settings : KeyMap String} {config : Config}
    {result : Except ClusterError Harness}
    (ended : provision world name count settings config limit run = (some result, last)) :
    ((∃ error, result = .error error) ∧ Run.Course world (Deed.Within (· = .reserve)) run last) ∨
      ∃ shared reserved laid laidRun,
        Run.Course world (Deed.Within (· = .reserve)) run reserved ∧
        layNodes world shared (namesFor name count) limit reserved = (some laid, laidRun) ∧
        Run.Course world (Deed.Within Records) laidRun last ∧
        ∀ harness, result = .ok harness → count ≠ 0 ∧ laid = .ok harness.handles ∧
          harness.name = name ∧ harness.policy = .ofSettings config.retry ∧
          harness.startAttempts = config.startup.maxAttempts ∧
          harness.quorumPoll = config.quorum.pollInterval := by
  have reserving : ∀ {range reserved},
      Action.reservePorts world count limit run = (some range, reserved) →
        Run.Course world (Deed.Within (· = .reserve)) run reserved :=
    (Action.follows_reservePorts (by rfl) _).course
  have keeping : ∀ {manifest kept laid},
      Action.keepManifest world manifest limit laid = (some kept, last) →
        Run.Course world (Deed.Within Records) laid last :=
    (Action.follows_keepManifest trivial).course
  cases provides_of_provision ended with
  | empty nothing => exact .inl ⟨⟨_, rfl⟩, .refl⟩
  | unreserved reserves => exact .inl ⟨⟨_, rfl⟩, reserving reserves⟩
  | unlaid reserves lays => exact .inr ⟨_, _, _, _, reserving reserves, lays, .refl, nofun⟩
  | unkept reserves lays keeps =>
      exact .inr ⟨_, _, _, _, reserving reserves, lays, keeping keeps, nofun⟩
  | kept positive reserves lays keeps =>
      refine .inr ⟨_, _, _, _, reserving reserves, lays, keeping keeps, ?_⟩
      rintro harness ⟨⟩
      exact ⟨positive, rfl, rfl, rfl, rfl, rfl⟩

/-- Nodes are launched only while they are laid out. -/
theorem launched_of_stages {reserved laidRun : Run State}
    (reserves : Run.Course world (Deed.Within (· = .reserve)) run reserved)
    (lays : Run.Course world (Deed.Within Deed.Lays) reserved laidRun)
    (keeps : Run.Course world (Deed.Within Records) laidRun last) {node : Node}
    {prepared : Except ClusterError Unit} (member : .launched node prepared ∈ run.since last) :
    .launched node prepared ∈ reserved.since laidRun := by
  rw [reserves.since_trans (lays.any.trans keeps.any), lays.since_trans keeps] at member
  rcases List.mem_append.mp member with early | later
  · rcases reserves.of_mem_since early with ⟨⟨⟩⟩ | ⟨⟨⟩⟩
  · rcases List.mem_append.mp later with here | late
    · exact here
    · rcases keeps.of_mem_since late with ⟨⟨⟩⟩ | ⟨⟨⟩⟩

/-- Every node whose process was prepared for a cluster has a number of its own and is not alive. -/
theorem launched_of_provision {name : String} {count : Nat} {settings : KeyMap String}
    {config : Config} {result : Except ClusterError Harness}
    (ended : provision world name count settings config limit run = (some result, last))
    {node : Node} {prepared : Except ClusterError Unit}
    (member : .launched node prepared ∈ run.since last) :
    run.nodes ≤ node.serial ∧ node.serial < last.nodes ∧
      ∀ live : world.Liveness, live.Sound run → ¬live.Alive last node := by
  rcases provision_cases ended with
    ⟨_, reserves⟩ | ⟨shared, reserved, laid, laidRun, reserves, endedLay, keeps, _⟩
  · rcases reserves.of_mem_since member with ⟨⟨⟩⟩ | ⟨⟨⟩⟩
  · have lays := (follows_layNodes _ _).course endedLay
    obtain ⟨above, below, unborn⟩ :=
      launched_of_layNodes endedLay (launched_of_stages reserves lays keeps member)
    rw [reserves.nodes_eq nofun] at above
    rw [← keeps.nodes_eq nofun] at below
    refine ⟨above, below, fun live sound alive => ?_⟩
    have soundReserved := World.Liveness.sound_course reserves sound
    exact unborn live soundReserved (World.Liveness.alive_of_course keeps
      (World.Liveness.sound_course lays soundReserved) nofun alive)

/-- A cluster that could be provided is as it was asked for. -/
theorem provided_of_provision {name : String} {count : Nat} {settings : KeyMap String}
    {config : Config} {harness : Harness}
    (ended : provision world name count settings config limit run = (some (.ok harness), last)) :
    Provided name count config run harness last := by
  rcases provision_cases ended with
    ⟨⟨_, ⟨⟩⟩, _⟩ | ⟨shared, reserved, laid, laidRun, reserves, endedLay, keeps, made⟩
  obtain ⟨positive, rfl, named, policy, attempts, poll⟩ := made harness rfl
  have lays := (follows_layNodes _ _).course endedLay
  have inner := laid_of_layNodes endedLay
  refine ⟨⟨inner.named, ?_, ?_, inner.member, ?_⟩, named, positive, policy, attempts, poll⟩
  · rw [inner.serials, reserves.nodes_eq nofun]
  · rw [keeps.nodes_eq nofun, inner.nodes, reserves.nodes_eq nofun]
  · exact fun node result member =>
      inner.launched node result (launched_of_stages reserves lays keeps member)

end Harness

end GracefulStop
