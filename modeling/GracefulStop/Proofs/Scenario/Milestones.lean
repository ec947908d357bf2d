import GracefulStop.Proofs.Cluster.Answers
import GracefulStop.Proofs.Scenario.Bodies
import GracefulStop.Proofs.Scenario.Provision

/-!
# Milestones of bodies

A part of a body that has succeeded leaves milestones behind, in their order: a statement that was
executed has been answered well by a node of the cluster, a cluster that was provided has had each of
its nodes started and all of them reported, a node that has left was signalled and seen to exit, and
what was found about the shards was answered by a node that was running and had not left.
-/

namespace GracefulStop

/-- One of the nodes has answered a request well. -/
def Event.Meets (nodes : List Node) (wanted : Request → Prop) (event : Event) : Prop :=
  ∃ node ∈ nodes, ∃ request response, wanted request ∧
    event = .answered node request (.ok response)

/-- One of the nodes has reported as many members as there are nodes. -/
def Event.ReportsAll (nodes : List Node) (event : Event) : Prop :=
  ∃ node ∈ nodes, ∃ response : Response, response.rowCount = nodes.length ∧
    event = .answered node (.single Harness.membershipQuery []) (.ok response)

variable {State : Type} {world : World State} {scenario after : Scenario}
  {limit : Option Instant} {run last : Run State}

/-- The nodes that have been started were started in their order. -/
theorem InOrder.of_started {events : List Event} {nodes : List Node}
    (started : events.filterMap Event.startedNode? = nodes) :
    InOrder (nodes.map fun node => (· = .started node (.ok ()))) events := by
  induction events generalizing nodes with
  | nil =>
      subst started
      exact .nil _
  | cons event rest ih =>
      cases found : event.startedNode? with
      | none =>
          rw [List.filterMap_cons_none found] at started
          exact (ih started).mono (List.sublist_cons_self _ _)
      | some node =>
          rw [List.filterMap_cons_some found] at started
          subst started
          refine List.SublistForall₂.cons ?_ (ih rfl)
          unfold Event.startedNode? at found
          split at found
          · cases found
            rfl
          · cases found

namespace Operation

variable {Error Answer Result : Type}

/-- Whenever an operation succeeds, it leaves the scenario as it is, and requests have been met one
after another. -/
def Marks (world : World State) (scenario : Scenario) (wanted : List (Request → Prop))
    (operation : Operation State Error Result) : Prop :=
  ∀ limit run result after last,
    operation scenario limit run = (some (.ok result, after), last) →
    after = scenario ∧ Run.Passed world (wanted.map (Event.Meets scenario.nodes)) run last

variable {wanted more : List (Request → Prop)}

/-- An operation that leaves marks has been followed by another one. -/
theorem Marks.next {first : Operation State Error Answer}
    {next : Answer → Operation State Error Result} (marks : first.Marks world scenario wanted)
    {result : Result}
    (ended : (first >>= next : Operation State Error Result) scenario limit run =
      (some (.ok result, after), last)) :
    ∃ answer mid, Run.Passed world (wanted.map (Event.Meets scenario.nodes)) run mid ∧
      next answer scenario limit mid = (some (.ok result, after), last) := by
  obtain ⟨answer, between, mid, endedFirst, endedNext⟩ := bind_ok ended
  obtain ⟨rfl, passed⟩ := marks _ _ _ _ _ endedFirst
  exact ⟨answer, mid, passed, endedNext⟩

theorem marks_bind {first : Operation State Error Answer}
    {next : Answer → Operation State Error Result} (marksFirst : first.Marks world scenario wanted)
    (marksNext : ∀ answer, (next answer).Marks world scenario more) :
    Marks world scenario (wanted ++ more) (first >>= next : Operation State Error Result) := by
  intro limit run result after last ended
  obtain ⟨answer, mid, passed, endedNext⟩ := marksFirst.next ended
  obtain ⟨same, passedNext⟩ := marksNext answer _ _ _ _ _ endedNext
  refine ⟨same, ?_⟩
  rw [List.map_append]
  exact passed.trans passedNext

/-- What meets a request meets a wider one. -/
theorem Marks.wider {operation : Operation State Error Result} {first other : Request → Prop}
    (marks : operation.Marks world scenario [first])
    (wider : ∀ request, first request → other request) :
    operation.Marks world scenario [other] := by
  intro limit run result after last ended
  obtain ⟨same, passed⟩ := marks _ _ _ _ _ ended
  obtain ⟨event, member, node, among, request, response, asked, answered⟩ :=
    passed.order.exists_of_mem (List.mem_map_of_mem List.mem_cons_self)
  exact ⟨same, .of_mem passed.course member
    ⟨node, among, request, response, wider request asked, answered⟩⟩

theorem marks_pure (value : Result) :
    Marks world scenario [] (pure value : Operation State Error Result) := by
  intro limit run result after last ended
  obtain ⟨_, rfl, rfl⟩ := pure_eq_some ended
  exact ⟨rfl, .refl _⟩

end Operation

namespace Scenario

open Operation

/-- A statement that was executed has been answered well. -/
theorem marks_execute (statement : String) (params : List Json) :
    Marks world scenario [(· = .single statement params)] (execute world statement params) := by
  intro limit run response after last ended
  refine ⟨(spares_execute _ _).eq ended, ?_⟩
  have course := (follows_execute statement params).course ended
  obtain ⟨harness, here, now, endedCluster, rest⟩ := bind_ok ended
  clear ended
  obtain ⟨rfl, rfl, held⟩ := cluster_eq_some endedCluster
  obtain ⟨_ | answer, same, _, endedExecute⟩ := actOnCluster_eq_some rest
  · cases same
  cases same
  obtain ⟨handle, member, _, passed⟩ := Harness.passed_of_execute endedExecute
  obtain ⟨_, answered, rfl⟩ := passed.order.exists_of_mem (List.mem_of_getElem? (i := 3) rfl)
  refine .of_mem course answered ⟨handle.node, ?_, _, response, rfl, rfl⟩
  rw [nodes_eq_of_harness (held harness rfl)]
  exact List.mem_map_of_mem member

/-- Rows that were sent have been answered well. -/
theorem marks_executeBulk (index : Nat) (statement : String) (rows : List (List Json)) :
    Marks world scenario [(· = .bulk statement rows)]
      (executeBulk world index statement rows) := by
  intro limit run response after last ended
  refine ⟨(spares_executeBulk _ _ _).eq ended, ?_⟩
  obtain ⟨harness, here, now, endedCluster, rest⟩ := bind_ok ended
  clear ended
  obtain ⟨rfl, rfl, held⟩ := cluster_eq_some endedCluster
  unfold Harness.node? at rest
  cases found : harness.handles[index]? with
  | none =>
      rw [found] at rest
      obtain ⟨⟨⟩, _⟩ := throw_eq_some rest
  | some handle =>
      rw [found] at rest
      obtain ⟨answer, _, _, endedAct, ended⟩ := bind_ok rest
      clear rest
      obtain ⟨_, same, rfl, endedQuery⟩ := act_eq_some endedAct
      cases same
      have course : Run.Course world (Deed.Within fun _ => True) now _ :=
        (Action.follows_query trivial).course endedQuery
      cases answer with
      | error error => obtain ⟨⟨⟩, _⟩ := throw_eq_some ended
      | ok answer =>
          obtain ⟨same, rfl, rfl⟩ := pure_eq_some ended
          cases same
          have passed := Action.passed_of_query endedQuery
          obtain ⟨_, answered, rfl⟩ :=
            passed.order.exists_of_mem (List.mem_of_getElem? (i := 1) rfl)
          refine .of_mem course answered ⟨handle.node, ?_, _, response, rfl, rfl⟩
          rw [nodes_eq_of_harness (held harness rfl)]
          exact List.mem_map_of_mem (List.mem_of_getElem? found)

/-- Settings that were set have been answered well one after another. -/
theorem marks_pushSettings (settings : KeyMap Json) :
    Marks world scenario
      (settings.map fun entry =>
        (· = .single (Harness.settingStatement entry.1) [entry.2]))
      (pushSettings world settings) := by
  intro limit run result after last ended
  refine ⟨(spares_pushSettings _).eq ended, ?_⟩
  obtain ⟨harness, here, now, endedCluster, rest⟩ := bind_ok ended
  clear ended
  obtain ⟨rfl, rfl, held⟩ := cluster_eq_some endedCluster
  obtain ⟨value, same, _, endedPush⟩ := actOnCluster_eq_some rest
  clear rest endedCluster
  induction settings generalizing now with
  | nil =>
      obtain ⟨_, rfl⟩ := Action.pure_eq_some.mp endedPush
      exact .refl _
  | cons entry rest ih =>
      obtain ⟨answer, mid, endedExecute, endedPush⟩ := Action.bind_eq_some.mp endedPush
      have course := (harness.follows_execute _ _).course endedExecute
      cases answer with
      | error error =>
          obtain ⟨rfl, _⟩ := Action.pure_eq_some.mp endedPush
          cases same
      | ok response =>
          obtain ⟨handle, member, _, passed⟩ := Harness.passed_of_execute endedExecute
          obtain ⟨_, answered, rfl⟩ :=
            passed.order.exists_of_mem (List.mem_of_getElem? (i := 3) rfl)
          refine (Run.Passed.of_mem course answered ?_).trans (ih _ endedPush)
          refine ⟨handle.node, ?_, _, response, rfl, rfl⟩
          rw [nodes_eq_of_harness (held harness rfl)]
          exact List.mem_map_of_mem member

/-- A cluster that has been provided has had each of its nodes started in order, none of which has left,
and then all of them reported. -/
theorem passed_of_provision {count : Nat}
    (ended : provision world count scenario limit run = (some (.ok (), after), last)) :
    ∃ harness, after = { scenario with harness := some harness } ∧
      harness.handles.map Handle.name = Harness.namesFor scenario.name count ∧
      harness.handles.map (·.node.serial) = List.range' run.nodes count ∧
      Run.Passed world
        (after.nodes.map (fun node => (· = .started node (.ok ()))) ++ [Event.ReportsAll after.nodes])
        run last := by
  obtain ⟨torn, endedDown, kept, stages⟩ := provision_eq_some ended
  have down := follows_teardown.course endedDown
  cases held : after.harness with
  | none =>
      rw [held] at stages
      cases stages
  | some harness =>
      rw [held] at stages kept
      have nodes := nodes_eq_of_harness held
      cases stages with
      | @complete _ provided started _ provides start quorum =>
          obtain ⟨laid, _⟩ := Harness.provided_of_provision provides
          have provision := (Harness.follows_provision _ _ _ _).course provides
          have starts : Run.Course world (Deed.Within (Provisioning.Tends harness)) provided started :=
            Provisioning.tends_start.course start
          have members : harness.memberCount = after.nodes.length := by
            have all : harness.handles.filter (fun handle => !handle.decommissioned) =
                harness.handles :=
              List.filter_eq_self.mpr fun handle member => by simp [laid.member handle member]
            rw [Harness.memberCount, all, nodes, List.length_map]
          obtain ⟨handle, member, response, reported, passedQuorum⟩ :=
            Harness.passed_of_awaitQuorum quorum
          obtain ⟨_, answered, rfl⟩ := passedQuorum.order.exists_of_mem List.mem_cons_self
          refine ⟨harness, kept, laid.named, ?_, ?_⟩
          · rw [laid.serials, down.nodes_eq nofun, Harness.namesFor, List.length_map,
              List.length_range]
          · refine .after (down.any.trans provision.any) (Run.Passed.trans ⟨starts.any, ?_⟩ ?_)
            · exact InOrder.of_started ((Harness.started_of_start start).trans nodes.symm)
            · refine .of_mem passedQuorum.course answered
                ⟨handle.node, ?_, response, by rw [reported, members], rfl⟩
              rw [nodes]
              exact List.mem_map_of_mem member

/-- A node that has left was told to and was seen to exit with the code, and is marked. -/
theorem passed_of_decommission {index : Nat} {timeout : Duration} {code : Int}
    (ended : decommission world index timeout scenario limit run =
      (some (.ok code, after), last)) :
    ∃ harness node, scenario.harness = some harness ∧ scenario.nodes[index]? = some node ∧
      after = { scenario with harness := some (harness.markLeft index) } ∧
      Run.Passed world
        [(· = .signalled node (.ok ())), (· = .waited node timeout (.ok (some code)))]
        run last := by
  rcases decommission_eq_some ended with
    ⟨_, ⟨⟩, _⟩ | ⟨harness, left, answer, held, leaves, same, rfl⟩
  cases answer with
  | error error => cases same
  | ok found =>
      cases same
      rcases Harness.decommission_eq_some leaves with ⟨_, ⟨⟩, _⟩ | ⟨node, stands, endedLeave, rfl⟩
      exact ⟨harness, node, held, nodes_of_node? held stands, rfl, Harness.passed_of_leave endedLeave⟩

/-- What was awaited about the shards was answered by a node that was running and had not left. -/
theorem passed_of_awaitInvariant {query : ShardQuery} {deadline : Option Duration}
    {response : Response}
    (ended : awaitInvariant world query deadline scenario limit run =
      (some (.ok response, after), last)) :
    ∃ harness, scenario.harness = some harness ∧ ∃ handle ∈ harness.handles,
      handle.decommissioned = false ∧ query.predicate.holds response.rowCount = true ∧
      Run.Passed world
        [(· = .checked handle.node true), (· = .picked handle.node),
          (· = .asked handle.node (.single query.statement [])),
          (· = .answered handle.node (.single query.statement []) (.ok response))] run last := by
  obtain ⟨harness, here, now, endedCluster, rest⟩ := bind_ok ended
  clear ended
  obtain ⟨rfl, rfl, held⟩ := cluster_eq_some endedCluster
  obtain ⟨_, _, _, endedCurrent, ended⟩ := bind_ok rest
  clear rest
  cases endedCurrent
  obtain ⟨node, _, _, endedOn, rest⟩ := bind_ok ended
  clear ended
  obtain ⟨_ | picked, same, rfl, endedPick⟩ := actOnCluster_eq_some endedOn
  · cases same
  cases same
  obtain ⟨awaited, _, _, endedAct, ended⟩ := bind_ok rest
  clear rest
  obtain ⟨_, same, rfl, endedAwait⟩ := act_eq_some endedAct
  cases same
  cases awaited with
  | error error => obtain ⟨⟨⟩, _⟩ := throw_eq_some ended
  | ok answer =>
      obtain ⟨same, rfl, rfl⟩ := pure_eq_some ended
      cases same
      obtain ⟨handle, member, rfl, stays, passedPick⟩ := Harness.passed_of_pickLive endedPick
      obtain ⟨holds, passedAwait⟩ := Verifier.passed_of_awaitInvariant endedAwait
      exact ⟨harness, held harness rfl, handle, member, stays, holds, passedPick.trans passedAwait⟩

end Scenario

namespace Builtin

open Operation

variable {Result Next : Type} {wanted : List (Request → Prop)}

theorem marks_attempt {operation : ScenarioM State Result}
    (marks : Marks world scenario wanted operation) :
    Marks world scenario wanted (attempt operation) :=
  fun _ _ _ _ _ ended => marks _ _ _ _ _ (attempt_ok ended)

theorem marks_attemptAs {context : String} {operation : ScenarioM State Result}
    (marks : Marks world scenario wanted operation) :
    Marks world scenario wanted (attemptAs context operation) :=
  fun _ _ _ _ _ ended => marks _ _ _ _ _ (attemptAs_ok ended)

/-- What is done with the table is done with the table of the scenario. -/
theorem marks_withTable {next : String → BodyM State Result}
    (marks : Marks world scenario wanted (next scenario.table)) :
    Marks world scenario wanted (table >>= next : BodyM State Result) :=
  fun _ _ _ _ _ ended => marks _ _ _ _ _ ended

/-- A statement that was executed as a part of a body has been answered well. -/
theorem marks_attemptExecute (context statement : String) (params : List Json) :
    Marks world scenario [(· = .single statement params)] (do
      let _ ← attemptAs context (Scenario.execute world statement params) : BodyM State Unit) :=
  marks_bind (marks_attemptAs (Scenario.marks_execute statement params)) fun _ => marks_pure _

theorem marks_createTable (shards replicas : Nat) :
    Marks world scenario [(· = .single (createStatement scenario.table shards replicas) [])]
      (createTable world shards replicas) :=
  marks_withTable (marks_attemptExecute _ _ _)

theorem marks_refresh :
    Marks world scenario [(· = .single ("refresh table " ++ scenario.table) [])]
      (refresh world) :=
  marks_withTable (marks_attemptExecute _ _ _)

theorem marks_seedTwoRows :
    Marks world scenario
      [(· = .single (insertStatement scenario.table ++ ", (?, ?)")
        [.int 1, .string "Ford", .int 2, .string "Trillian"]),
        (· = .single ("refresh table " ++ scenario.table) [])]
      (seedTwoRows world) :=
  marks_withTable (marks_bind (marks_attemptAs (Scenario.marks_execute _ _)) fun _ => marks_refresh)

/-- A name that was drawn for a row is one of those that rows are given. -/
theorem mem_rowNames_of_oneOf (draw : Draw State) (state : State) :
    ((draw.oneOf rowNames state).1).getD "Ford" ∈ rowNames := by
  cases found : (draw.oneOf rowNames state).1 with
  | none => exact List.mem_cons_self
  | some name => exact List.mem_of_getElem? found

/-- Rows that were entered one after another have each been met. -/
theorem marks_insertRows (ids : List Nat) :
    Marks world scenario
      (ids.map fun id request => ∃ name ∈ rowNames,
        request = .single (insertStatement scenario.table) [.int id, .string name])
      (insertRows world ids) := by
  induction ids with
  | nil => exact marks_pure _
  | cons id rest ih =>
      intro limit run result after last ended
      obtain ⟨drawn, between, mid, endedDraw, inserting⟩ := bind_ok ended
      have draws := (arranges_drawing fun _ state =>
        Draw.touches_oneOf (fun _ _ => .draw _ _ _) rowNames state).course endedDraw
      obtain ⟨_, same, rfl, drew⟩ := Scenario.act_eq_some (attempt_ok endedDraw)
      cases same
      have named : drawn.getD "Ford" ∈ rowNames := by
        cases drew
        exact mem_rowNames_of_oneOf _ _
      have once : Marks world between
          [fun request => ∃ name ∈ rowNames,
            request = .single (insertStatement between.table) [.int id, .string name]]
          (attemptAs "inserting rows" (Scenario.execute world (insertStatement between.table)
            [.int id, .string (drawn.getD "Ford")])) :=
        (marks_attemptAs (Scenario.marks_execute _ _)).wider fun request same =>
          ⟨drawn.getD "Ford", named, same⟩
      obtain ⟨same, passed⟩ :=
        marks_withTable (marks_bind once fun _ => ih) _ _ _ _ _ inserting
      exact ⟨same, .after draws passed⟩

end Builtin

end GracefulStop
