import GracefulStop.Proofs.Cluster.Course
import GracefulStop.Proofs.Run.Answers
import GracefulStop.Proofs.Run.Liveness

/-!
# Laying out a cluster

Every node that is laid out gets the next number, whether or not all of its cluster can be laid out,
and nothing is started. A cluster that could be laid out has exactly the nodes whose processes were
prepared for it.
-/

namespace GracefulStop

variable {State : Type} {world : World State} {limit : Option Instant} {run last : Run State}

namespace Harness

/-- A node has been laid out, and its process prepared. -/
structure Prepared (world : World State) (run : Run State) (node : Node) (last : Run State) :
    Prop where
  course : Run.Course world (Deed.Within Deed.Lays) run last
  serial : node.serial = run.nodes
  nodes : last.nodes = run.nodes + 1
  launched : ∀ other result, .launched other result ∈ run.since last → other = node
  unborn : ∀ live : world.Liveness, live.Sound run → ¬live.Alive last node

/-- The handles of a cluster that was laid out: one for each name, with the numbers that were next,
and for exactly the nodes whose processes were prepared. -/
structure Laid (names : List String) (run : Run State) (handles : List Handle)
    (last : Run State) : Prop where
  named : handles.map Handle.name = names
  serials : handles.map (·.node.serial) = List.range' run.nodes names.length
  nodes : last.nodes = run.nodes + names.length
  member : ∀ handle ∈ handles, handle.decommissioned = false
  launched : ∀ node result, .launched node result ∈ run.since last →
    node ∈ handles.map Handle.node

/-- What is done to prepare the client of a node. -/
def Connects : Deed → Prop
  | .connect _ => True
  | _ => False

/-- A port is reserved and a node laid out and launched, with whatever result. -/
theorem prepared_of_launch {shared : NodeSpec} {reserved : Run State} {port : Except ClusterError Nat}
    {result : Except ClusterError Unit}
    (endedPort : Action.nextPort world limit run = (some port, reserved))
    (endedLaunch : Action.launch world ⟨shared, reserved.nodes⟩ limit
      { reserved with nodes := reserved.nodes + 1 } = (some result, last)) :
    Prepared world run ⟨shared, reserved.nodes⟩ last := by
  have reserves : Run.Course world (Deed.Within (· = .reserve)) run reserved :=
    (Action.follows_nextPort (by rfl)).course endedPort
  have launches : Run.Course world (Deed.Within (· = .launch ⟨shared, reserved.nodes⟩))
      { reserved with nodes := reserved.nodes + 1 } last :=
    (Action.follows_launch (by rfl)).course endedLaunch
  have numbers : Run.Course world (Deed.Within (· = .lay)) reserved
      { reserved with nodes := reserved.nodes + 1 } := .single (.lay (by rfl))
  have course : Run.Course world (Deed.Within Deed.Lays) reserved last :=
    (numbers.mono (Deed.within_of_eq (by trivial))).trans (launches.mono (Deed.within_of_eq (by trivial)))
  refine ⟨(reserves.mono (Deed.within_of_eq (by trivial))).trans course, reserves.nodes_eq nofun,
    ?_, ?_, ?_⟩
  · rw [launches.nodes_eq nofun]
    exact congrArg (· + 1) (reserves.nodes_eq nofun)
  · intro other prepared member
    rw [reserves.since_trans course, numbers.since_trans launches,
      Action.since_launch endedLaunch] at member
    rcases List.mem_append.mp member with early | later
    · rcases reserves.of_mem_since early with ⟨⟨⟩⟩ | ⟨⟨⟩⟩
    · rcases List.mem_append.mp later with between | here
      · rcases numbers.of_mem_since between with ⟨⟨⟩⟩ | ⟨⟨⟩⟩
      · cases List.mem_singleton.mp here
        rfl
  · intro live sound
    refine Action.not_alive_of_launch endedLaunch ?_
    exact World.Liveness.sound_course numbers (World.Liveness.sound_course reserves sound)

/-- The stages of laying out the first of some nodes and then the others: no port is left, or the node
has got its port and number but cannot be prepared, or the others are laid out after it. -/
inductive Lays (world : World State) (shared : NodeSpec) (name : String) (rest : List String)
    (limit : Option Instant) (run : Run State) :
    Except ClusterError (List Handle) → Run State → Prop
  | unreserved {error : ClusterError} {last : Run State}
      (reserves : Action.nextPort world limit run = (some (.error error), last)) :
      Lays world shared name rest limit run (.error error) last
  | unlaunched {port : Nat} {reserved : Run State} {error : ClusterError} {last : Run State}
      (reserves : Action.nextPort world limit run = (some (.ok port), reserved))
      (launches : Action.launch world ⟨{ shared with name, httpPort := port }, reserved.nodes⟩ limit
        { reserved with nodes := reserved.nodes + 1 } = (some (.error error), last)) :
      Lays world shared name rest limit run (.error error) last
  | unconnected {port : Nat} {reserved launched : Run State} {error : ClusterError}
      {last : Run State} (reserves : Action.nextPort world limit run = (some (.ok port), reserved))
      (launches : Action.launch world ⟨{ shared with name, httpPort := port }, reserved.nodes⟩ limit
        { reserved with nodes := reserved.nodes + 1 } = (some (.ok ()), launched))
      (connects : Action.connect world ⟨{ shared with name, httpPort := port }, reserved.nodes⟩
        limit launched = (some (.error error), last)) :
      Lays world shared name rest limit run (.error error) last
  | onward {port : Nat} {reserved launched connected : Run State}
      {laid : Except ClusterError (List Handle)} {last : Run State}
      (reserves : Action.nextPort world limit run = (some (.ok port), reserved))
      (launches : Action.launch world ⟨{ shared with name, httpPort := port }, reserved.nodes⟩ limit
        { reserved with nodes := reserved.nodes + 1 } = (some (.ok ()), launched))
      (connects : Action.connect world ⟨{ shared with name, httpPort := port }, reserved.nodes⟩
        limit launched = (some (.ok ()), connected))
      (others : layNodes world shared rest limit connected = (some laid, last)) :
      Lays world shared name rest limit run
        (laid.map (⟨⟨{ shared with name, httpPort := port }, reserved.nodes⟩, false⟩ :: ·)) last

theorem lays_of_layNodes {shared : NodeSpec} {name : String} {rest : List String}
    {result : Except ClusterError (List Handle)}
    (ended : layNodes world shared (name :: rest) limit run = (some result, last)) :
    Lays world shared name rest limit run result last := by
  unfold layNodes at ended
  rcases Action.bind_eq_some.mp ended with ⟨port, reserved, reserves, endedAll⟩
  cases port with
  | error error =>
      cases endedAll
      exact .unreserved reserves
  | ok httpPort =>
      rcases Action.bind_eq_some.mp endedAll with ⟨node, numbered, numbers, endedAll⟩
      cases numbers
      rcases Action.bind_eq_some.mp endedAll with ⟨prepared, launched, launches, endedAll⟩
      cases prepared with
      | error error =>
          cases endedAll
          exact .unlaunched reserves launches
      | ok _ =>
          rcases Action.bind_eq_some.mp endedAll with ⟨client, connected, connects, endedAll⟩
          cases client with
          | error error =>
              cases endedAll
              exact .unconnected reserves launches connects
          | ok _ =>
              rcases Action.bind_eq_some.mp endedAll with ⟨laid, between, others, endedAll⟩
              cases laid with
              | error error =>
                  cases endedAll
                  exact .onward reserves launches connects others
              | ok handles =>
                  cases endedAll
                  exact .onward reserves launches connects others

/-- What the stages of laying out the first of some nodes have in common: no port is left, or the node
is prepared but of no use, or the others are laid out after it. -/
theorem layNodes_cons_eq_some {shared : NodeSpec} {name : String} {rest : List String}
    {result : Except ClusterError (List Handle)}
    (ended : layNodes world shared (name :: rest) limit run = (some result, last)) :
    (∃ error, result = .error error ∧
        Run.Course world (Deed.Within (· = .reserve)) run last) ∨
      ∃ node launched connected, node.name = name ∧ Prepared world run node launched ∧
        Run.Course world (Deed.Within Connects) launched connected ∧
        ((∃ error, result = .error error ∧ connected = last) ∨
          ∃ laid, layNodes world shared rest limit connected = (some laid, last) ∧
            result = laid.map (⟨node, false⟩ :: ·)) := by
  cases lays_of_layNodes ended with
  | unreserved reserves =>
      exact .inl ⟨_, rfl, (Action.follows_nextPort (by rfl)).course reserves⟩
  | unlaunched reserves launches =>
      exact .inr ⟨_, last, last, rfl, prepared_of_launch reserves launches, .refl,
        .inl ⟨_, rfl, rfl⟩⟩
  | @unconnected _ _ launched _ _ reserves launches connects =>
      exact .inr ⟨_, launched, last, rfl, prepared_of_launch reserves launches,
        (Action.follows_connect trivial).course connects, .inl ⟨_, rfl, rfl⟩⟩
  | @onward _ _ launched connected laid _ reserves launches connects others =>
      exact .inr ⟨_, launched, connected, rfl, prepared_of_launch reserves launches,
        (Action.follows_connect trivial).course connects, .inr ⟨laid, others, rfl⟩⟩

/-- Connecting is part of laying out. -/
theorem lays_of_connects (deed : Deed) (connects : Deed.Within Connects deed) :
    Deed.Within Deed.Lays deed := by
  unfold Deed.Within at *
  revert connects
  cases deed.about <;> simp [Connects, Deed.Lays]

/-- Every node whose process was prepared has a number of its own and is not alive. -/
theorem launched_of_layNodes {shared : NodeSpec} {names : List String}
    {result : Except ClusterError (List Handle)}
    (ended : layNodes world shared names limit run = (some result, last)) {node : Node}
    {prepared : Except ClusterError Unit}
    (member : .launched node prepared ∈ run.since last) :
    run.nodes ≤ node.serial ∧ node.serial < last.nodes ∧
      ∀ live : world.Liveness, live.Sound run → ¬live.Alive last node := by
  induction names generalizing run result with
  | nil =>
      obtain ⟨rfl, rfl⟩ := Action.pure_eq_some.mp ended
      simp at member
  | cons name rest ih =>
      rcases layNodes_cons_eq_some ended with
        ⟨_, _, reserves⟩ | ⟨first, launched, connected, _, prepares, connects, after⟩
      · rcases reserves.of_mem_since member with ⟨⟨⟩⟩ | ⟨⟨⟩⟩
      · have onward : Run.Course world (Deed.Within Deed.Lays) connected last := by
          rcases after with ⟨_, _, rfl⟩ | ⟨_, endedRest, _⟩
          · exact .refl
          · exact (follows_layNodes shared rest).course endedRest
        have whole := (connects.mono lays_of_connects).trans onward
        have sameNodes := (connects.nodes_eq nofun).trans prepares.nodes
        have moreNodes := onward.nodes_le
        rw [prepares.course.since_trans whole, connects.since_trans onward] at member
        rcases List.mem_append.mp member with here | later
        · obtain rfl := prepares.launched _ _ here
          refine ⟨Nat.le_of_eq prepares.serial.symm, ?_, fun live sound alive => ?_⟩
          · rw [prepares.serial]
            omega
          · exact prepares.unborn live sound (World.Liveness.alive_of_course whole
              (World.Liveness.sound_course prepares.course sound) nofun alive)
        · rcases List.mem_append.mp later with between | inRest
          · rcases connects.of_mem_since between with ⟨⟨⟩⟩ | ⟨⟨⟩⟩
          · rcases after with ⟨_, _, rfl⟩ | ⟨_, endedRest, _⟩
            · simp at inRest
            · obtain ⟨above, below, unborn⟩ := ih endedRest inRest
              refine ⟨by omega, below, fun live sound => unborn live ?_⟩
              exact World.Liveness.sound_course connects
                (World.Liveness.sound_course prepares.course sound)

/-- The handles that come of laying out nodes. -/
theorem laid_of_layNodes {shared : NodeSpec} {names : List String} {handles : List Handle}
    (ended : layNodes world shared names limit run = (some (.ok handles), last)) :
    Laid names run handles last := by
  induction names generalizing run handles with
  | nil =>
      obtain ⟨same, rfl⟩ := Action.pure_eq_some.mp ended
      cases same
      exact ⟨rfl, rfl, rfl, by simp, by simp⟩
  | cons name rest ih =>
      rcases layNodes_cons_eq_some ended with
        ⟨_, failed, _⟩ | ⟨first, launched, connected, named, prepares, connects, after⟩
      · cases failed
      · rcases after with ⟨_, failed, _⟩ | ⟨laid, endedRest, made⟩
        · cases failed
        · cases laid with
          | error error => cases made
          | ok others =>
              cases made
              have inner := ih endedRest
              have onward := (follows_layNodes shared rest).course endedRest
              have sameNodes := (connects.nodes_eq nofun).trans prepares.nodes
              refine ⟨?_, ?_, ?_, ?_, ?_⟩
              · simp [inner.named, Handle.name, named]
              · simp [inner.serials, prepares.serial, sameNodes, List.range'_succ]
              · rw [inner.nodes, sameNodes, List.length_cons]
                omega
              · simpa using inner.member
              · intro node result member
                rw [prepares.course.since_trans (connects.any.trans onward.any),
                  connects.since_trans onward] at member
                rcases List.mem_append.mp member with here | later
                · simp [prepares.launched _ _ here]
                · rcases List.mem_append.mp later with between | inRest
                  · rcases connects.of_mem_since between with ⟨⟨⟩⟩ | ⟨⟨⟩⟩
                  · exact List.mem_cons_of_mem _ (inner.launched node result inRest)

end Harness

end GracefulStop
