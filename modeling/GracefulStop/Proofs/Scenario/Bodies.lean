import GracefulStop.Proofs.Scenario.Provision
import GracefulStop.Scenario.Builtin
import Mathlib.Data.List.Forall2

/-!
# Parts of bodies

The bodies of the built-in scenarios are made of operations whose failure ends the body. What such a
part comes to is what its operation comes to, and what it may do is what its operation may do. All
that comes before a node is asked to leave is arranging: it asks live nodes for this and that, but not
for the state of the shards.
-/

namespace GracefulStop

/-- A request that asks which copies of shards are unassigned. -/
def Request.Judges (request : Request) : Prop :=
  ∃ query ∈ [ShardQuery.noneUnassigned, ShardQuery.someUnassigned],
    request = .single query.statement []

namespace Deed

/-- What is done to get a cluster ready: live nodes are asked, but not for the state of shards. -/
def Arranges : Deed → Prop
  | .check _ => True
  | .draw => True
  | .pick _ => True
  | .ask _ request => ¬request.Judges
  | _ => False

/-- To ask for anything but the state of shards is to arrange something. -/
theorem arranges_of_asks {request : Request} (other : ¬request.Judges) (deed : Deed)
    (asks : Within (Asks request) deed) : Within Arranges deed := by
  unfold Within at *
  cases about : deed.about with
  | ask node asked =>
      rw [about] at asks
      cases asks
      exact other
  | check node => trivial
  | draw => trivial
  | pick node => trivial
  | _ =>
      rw [about] at asks
      cases asks

/-- To send rows is to arrange something. -/
theorem arranges_of_sendsRows {statement : String} {rows : List (List Json)} (deed : Deed)
    (sends : Within (SendsRows (.bulk statement rows)) deed) : Within Arranges deed := by
  unfold Within at *
  cases about : deed.about with
  | ask node asked =>
      rw [about] at sends
      cases sends
      rintro ⟨query, _, ⟨⟩⟩
  | _ =>
      rw [about] at sends
      cases sends

end Deed

/-- A request with parameters does not ask for the state of shards. -/
theorem Request.not_judges_of_params {statement : String} {param : Json} {params : List Json} :
    ¬(Request.single statement (param :: params)).Judges := by
  rintro ⟨query, _, ⟨⟩⟩

/-- A statement does not ask for the state of shards if it begins with another letter. -/
theorem Request.not_judges_of_head {first rest : String} {params : List Json} (letter : Char)
    (starts : first.toList.head? = some letter) (other : letter ≠ 's') :
    ¬(Request.single (first ++ rest) params).Judges := by
  rintro ⟨query, member, same⟩
  have asked : query.statement.toList.head? = some 's' := by
    simp only [List.mem_cons, List.not_mem_nil, or_false] at member
    rcases member with rfl | rfl <;> rfl
  obtain ⟨same, -⟩ := Request.single.inj same
  rw [← same, String.toList_append, List.head?_append, starts] at asked
  exact other (Option.some.inj asked)

namespace Builtin

variable {State Result : Type} {world : World State} {may : Deed → Prop}
  {scenario after : Scenario} {limit : Option Instant} {run last : Run State}

open Operation

/-- An operation whose failure ends the body. -/
theorem attempt_eq_some {operation : ScenarioM State Result} {result : Except Failure Result}
    (ended : attempt operation scenario limit run = (some (result, after), last)) :
    ∃ value, operation scenario limit run = (some (value, after), last) ∧
      result = value.mapError (.failed Option.none) := by
  obtain ⟨⟨value, between⟩, mid, endedOperation, ended⟩ := Action.bind_eq_some.mp ended
  cases value with
  | ok value =>
      cases ended
      exact ⟨.ok value, endedOperation, rfl⟩
  | error error =>
      cases ended
      exact ⟨.error error, endedOperation, rfl⟩

/-- An operation whose failure ends the body, with a word on what was tried. -/
theorem attemptAs_eq_some {context : String} {operation : ScenarioM State Result}
    {result : Except Failure Result}
    (ended : attemptAs context operation scenario limit run = (some (result, after), last)) :
    ∃ value, operation scenario limit run = (some (value, after), last) ∧
      result = value.mapError (.failed (some context)) := by
  obtain ⟨⟨value, between⟩, mid, endedOperation, ended⟩ := Action.bind_eq_some.mp ended
  cases value with
  | ok value =>
      cases ended
      exact ⟨.ok value, endedOperation, rfl⟩
  | error error =>
      cases ended
      exact ⟨.error error, endedOperation, rfl⟩

/-- An operation whose failure does not end the body at once. -/
theorem observe_eq_some {operation : ScenarioM State Result}
    {result : Except Failure (Except ScenarioError Result)}
    (ended : observe operation scenario limit run = (some (result, after), last)) :
    ∃ value, operation scenario limit run = (some (value, after), last) ∧ result = .ok value := by
  obtain ⟨⟨value, between⟩, mid, endedOperation, ended⟩ := Action.bind_eq_some.mp ended
  cases ended
  exact ⟨value, endedOperation, rfl⟩

/-- An operation that succeeds as a part of a body. -/
theorem attempt_ok {operation : ScenarioM State Result} {value : Result}
    (ended : attempt operation scenario limit run = (some (.ok value, after), last)) :
    operation scenario limit run = (some (.ok value, after), last) := by
  obtain ⟨_ | found, endedOperation, same⟩ := attempt_eq_some ended
  · cases same
  · cases same
    exact endedOperation

theorem attemptAs_ok {context : String} {operation : ScenarioM State Result} {value : Result}
    (ended : attemptAs context operation scenario limit run = (some (.ok value, after), last)) :
    operation scenario limit run = (some (.ok value, after), last) := by
  obtain ⟨_ | found, endedOperation, same⟩ := attemptAs_eq_some ended
  · cases same
  · cases same
    exact endedOperation

theorem follows_attempt {operation : ScenarioM State Result}
    (follows : Operation.Follows world may operation) :
    Operation.Follows world may (attempt operation) := by
  intro scenario
  refine Action.follows_bind (follows scenario) ?_
  rintro ⟨_ | _, _⟩ <;> exact Action.follows_pure _

theorem follows_attemptAs {context : String} {operation : ScenarioM State Result}
    (follows : Operation.Follows world may operation) :
    Operation.Follows world may (attemptAs context operation) := by
  intro scenario
  refine Action.follows_bind (follows scenario) ?_
  rintro ⟨_ | _, _⟩ <;> exact Action.follows_pure _

theorem follows_observe {operation : ScenarioM State Result}
    (follows : Operation.Follows world may operation) :
    Operation.Follows world may (observe operation) :=
  fun scenario => Action.follows_bind (follows scenario) fun _ => Action.follows_pure _

section Relates

variable {related : Scenario × Run State → Scenario × Run State → Prop}

theorem relates_attempt {operation : ScenarioM State Result}
    (relates : Operation.Relates related operation) :
    Operation.Relates related (attempt operation) := by
  intro scenario limit run result after last ended
  obtain ⟨value, endedOperation, _⟩ := attempt_eq_some ended
  exact relates _ _ _ _ _ _ endedOperation

theorem relates_attemptAs {context : String} {operation : ScenarioM State Result}
    (relates : Operation.Relates related operation) :
    Operation.Relates related (attemptAs context operation) := by
  intro scenario limit run result after last ended
  obtain ⟨value, endedOperation, _⟩ := attemptAs_eq_some ended
  exact relates _ _ _ _ _ _ endedOperation

end Relates

/-- The table that the statements of a body are about. -/
theorem table_eq_some {result : Except Failure String}
    (ended : (table : BodyM State String) scenario limit run = (some (result, after), last)) :
    result = .ok scenario.table ∧ after = scenario ∧ last = run := by
  cases ended
  exact ⟨rfl, rfl, rfl⟩

theorem decommissionTimeout_eq_some {result : Except Failure Duration}
    (ended : (decommissionTimeout : BodyM State Duration) scenario limit run =
      (some (result, after), last)) :
    result = .ok scenario.config.decommission.timeout ∧ after = scenario ∧ last = run := by
  cases ended
  exact ⟨rfl, rfl, rfl⟩

theorem follows_table : Operation.Follows world may (table : BodyM State String) :=
  fun _ => Action.follows_pure _

theorem follows_decommissionTimeout :
    Operation.Follows world may (decommissionTimeout : BodyM State Duration) :=
  fun _ => Action.follows_pure _

theorem spares_table : Spares (table : BodyM State String) := by
  intro scenario limit run result after last ended
  exact (table_eq_some ended).2.1

/-- A statement that gets a cluster ready is arranging. -/
theorem arranges_execute {context statement : String} {params : List Json}
    (other : ¬(Request.single statement params).Judges) :
    Operation.Follows world (Deed.Within Deed.Arranges) (do
      let _ ← attemptAs context (Scenario.execute world statement params) : BodyM State Unit) :=
  follows_bind
    (follows_attemptAs ((Scenario.follows_execute _ _).mono (Deed.arranges_of_asks other)))
    fun _ => follows_pure _

theorem spares_attemptExecute (context statement : String) (params : List Json) :
    Spares (do
      let _ ← attemptAs context (Scenario.execute world statement params) : BodyM State Unit) :=
  spares_bind (relates_attemptAs (Scenario.spares_execute _ _)) fun _ => spares_pure _

/-- To drop a table is not to ask for the state of shards. -/
theorem not_judges_dropStatement {table : String} :
    ¬(Request.single (Scenario.dropStatement table) []).Judges :=
  Request.not_judges_of_head 'd' rfl (by decide)

theorem arranges_createTable (shards replicas : Nat) :
    Operation.Follows world (Deed.Within Deed.Arranges) (createTable world shards replicas) := by
  refine follows_bind follows_table fun table => arranges_execute ?_
  unfold createStatement
  simp only [String.append_assoc]
  exact Request.not_judges_of_head 'c' rfl (by decide)

theorem spares_createTable (shards replicas : Nat) :
    Spares (createTable world shards replicas) :=
  spares_bind spares_table fun _ => spares_attemptExecute _ _ _

theorem arranges_refresh :
    Operation.Follows world (Deed.Within Deed.Arranges) (refresh world) :=
  follows_bind follows_table fun _ =>
    arranges_execute (Request.not_judges_of_head 'r' rfl (by decide))

theorem spares_refresh : Spares (refresh world) :=
  spares_bind spares_table fun _ => spares_attemptExecute _ _ _

theorem arranges_seedTwoRows :
    Operation.Follows world (Deed.Within Deed.Arranges) (seedTwoRows world) :=
  follows_bind follows_table fun _ =>
    follows_bind (follows_attemptAs ((Scenario.follows_execute _ _).mono
      (Deed.arranges_of_asks Request.not_judges_of_params))) fun _ => arranges_refresh

theorem spares_seedTwoRows : Spares (seedTwoRows world) :=
  spares_bind spares_table fun _ =>
    spares_bind (relates_attemptAs (Scenario.spares_execute _ _)) fun _ => spares_refresh

/-- Drawing lots is arranging. -/
theorem arranges_drawing {draw : State → Result × State}
    (drawn : ∀ now state, world.Touches .draw now state (draw state).2) :
    Operation.Follows world (Deed.Within Deed.Arranges) (drawing draw) := by
  have draws : Deed.Within Deed.Arranges .draw := trivial
  exact follows_attempt (Scenario.follows_act (Action.follows_onState draws drawn))

theorem spares_drawing (draw : State → Result × State) : Spares (drawing draw) :=
  relates_attempt (Scenario.spares_act _)

theorem arranges_insertRows (ids : List Nat) :
    Operation.Follows world (Deed.Within Deed.Arranges) (insertRows world ids) := by
  induction ids with
  | nil => exact follows_pure _
  | cons id rest ih =>
      refine follows_bind (arranges_drawing fun _ state =>
        Draw.touches_oneOf (fun _ _ => .draw _ _ _) rowNames state) fun name => ?_
      refine follows_bind follows_table fun table => ?_
      exact follows_bind (follows_attemptAs ((Scenario.follows_execute _ _).mono
        (Deed.arranges_of_asks Request.not_judges_of_params))) fun _ => ih

theorem spares_insertRows (ids : List Nat) : Spares (insertRows world ids) := by
  induction ids with
  | nil => exact spares_pure _
  | cons id rest ih =>
      refine spares_bind (spares_drawing _) fun name => spares_bind spares_table fun table => ?_
      exact spares_bind (relates_attemptAs (Scenario.spares_execute _ _)) fun _ => ih

/-- The rows that are sent in bulk are drawn. -/
theorem touches_bulkRows {now : Instant} (ids : List Nat) (state : State) :
    world.Touches .draw now state (bulkRows world.draw ids state).2 := by
  induction ids generalizing state with
  | nil => exact .refl
  | cons id rest ih =>
      have first : world.Touches .draw now state (shuffledName world.draw state).2 :=
        touches_shuffledName (fun _ _ => .draw _ _ _) state
      exact first.trans (ih _)

theorem arranges_drawRows (ids : List Nat) :
    Operation.Follows world (Deed.Within Deed.Arranges) (drawing (bulkRows world.draw ids)) :=
  arranges_drawing fun _ state => touches_bulkRows ids state

/-- The rows of a bulk have the numbers that were asked for, in their order. -/
theorem forall₂_bulkRows (draw : Draw State) (ids : List Nat) (state : State) :
    List.Forall₂ (fun id row => ∃ name : String, row = [.int id, .string name]) ids
      (bulkRows draw ids state).1 := by
  induction ids generalizing state with
  | nil => exact .nil
  | cons id rest ih => exact .cons ⟨_, rfl⟩ (ih _)

theorem arranges_pushSettings (settings : KeyMap Json) :
    Operation.Follows world (Deed.Within Deed.Arranges)
      (attempt (Scenario.pushSettings world settings)) := by
  refine follows_attempt ((Scenario.follows_pushSettings settings).mono ?_)
  rintro deed ⟨entry, _, asks⟩
  exact Deed.arranges_of_asks Request.not_judges_of_params deed asks

theorem arranges_executeBulk {context statement : String} (index : Nat) (rows : List (List Json)) :
    Operation.Follows world (Deed.Within Deed.Arranges)
      (attemptAs context (Scenario.executeBulk world index statement rows)) :=
  follows_attemptAs ((Scenario.follows_executeBulk _ _ _).mono Deed.arranges_of_sendsRows)

theorem follows_leave (index : Nat) :
    Operation.Follows world (Deed.Within fun deed => ∃ timeout, Deed.Decommissions timeout deed)
      (leave world index) := by
  refine follows_bind follows_decommissionTimeout fun timeout => ?_
  exact follows_attempt ((Scenario.follows_decommission _ _).mono fun _ leaves => ⟨_, leaves⟩)

/-- What comes of asking a node to leave as a part of a body. -/
theorem leave_eq_some {index : Nat} {result : Except Failure Int}
    (ended : leave world index scenario limit run = (some (result, after), last)) :
    ∃ value, Scenario.decommission world index scenario.config.decommission.timeout scenario limit
        run = (some (value, after), last) ∧ result = value.mapError (.failed Option.none) := by
  rcases bind_cases ended with ⟨_, _, endedTimeout⟩ | ⟨timeout, _, _, endedTimeout, ended⟩
  · cases endedTimeout
  · obtain ⟨same, rfl, rfl⟩ := decommissionTimeout_eq_some endedTimeout
    cases same
    exact attempt_eq_some ended

theorem follows_judgeShards (query : ShardQuery) (code : Int) :
    Operation.Follows world (Deed.Within (Deed.Asks (.single query.statement [])))
      (judgeShards world query code) :=
  follows_bind (follows_attempt (Scenario.follows_awaitInvariant _ _)) fun _ => follows_pure _

theorem spares_judgeShards (query : ShardQuery) (code : Int) :
    Spares (judgeShards world query code) :=
  spares_bind (relates_attempt (Scenario.spares_awaitInvariant _ _)) fun _ => spares_pure _

/-- Dropping a table cannot fail; where there is a cluster, one of its nodes may be asked to. -/
theorem dropTable_eq_some {name : String} {result : Except ScenarioError Unit}
    (ended : Scenario.dropTable world name scenario limit run = (some (result, after), last)) :
    result = .ok () ∧ after = scenario ∧
      ((scenario.harness = Option.none ∧ last = run) ∨
        ∃ harness answer, scenario.harness = some harness ∧
          harness.execute world (Scenario.dropStatement name) [] limit run =
            (some answer, last)) := by
  rcases scenario with ⟨title, config, _ | harness⟩
  · cases ended
    exact ⟨rfl, rfl, .inl ⟨rfl, rfl⟩⟩
  · rcases bind_cases ended with ⟨_, _, endedCurrent⟩ | ⟨_, _, _, endedCurrent, rest⟩
    · cases endedCurrent
    clear ended
    cases endedCurrent
    rcases bind_cases rest with ⟨_, _, endedDrop⟩ | ⟨_, _, _, endedDrop, ended⟩
    · obtain ⟨_, ⟨⟩, _⟩ := Scenario.act_eq_some endedDrop
    clear rest
    obtain ⟨answer, _, rfl, drops⟩ := Scenario.act_eq_some endedDrop
    obtain ⟨rfl, rfl, rfl⟩ := pure_eq_some ended
    exact ⟨rfl, rfl, .inr ⟨harness, answer, rfl, drops⟩⟩

/-- Who starts a workload fails at once, or a node of the cluster has one started. -/
theorem startWorkload_eq_some {index perKind : Nat} {kinds : List OperationKind}
    {result : Except ScenarioError Nat}
    (ended : Scenario.startWorkload index kinds perKind scenario limit run =
      (some (result, after), last)) :
    (∃ error, result = .error error ∧ after = scenario ∧ last = run) ∨
      ∃ node position, scenario.nodes[index]? = some node ∧ result = .ok position ∧
        after = scenario ∧
        Action.startLoad node scenario.table kinds perKind limit run = (some position, last) := by
  rcases bind_cases ended with ⟨error, failed, endedCluster⟩ | ⟨harness, _, _, endedCluster, rest⟩
  · obtain ⟨rfl, rfl, _⟩ := Scenario.cluster_eq_some endedCluster
    exact .inl ⟨error, failed, rfl, rfl⟩
  clear ended
  obtain ⟨rfl, rfl, held⟩ := Scenario.cluster_eq_some endedCluster
  cases found : harness.node? index with
  | error error =>
      rw [found] at rest
      obtain ⟨rfl, rfl, rfl⟩ := throw_eq_some rest
      exact .inl ⟨_, rfl, rfl, rfl⟩
  | ok node =>
      rw [found] at rest
      rcases bind_cases rest with ⟨_, _, endedCurrent⟩ | ⟨_, _, _, endedCurrent, starts⟩
      · cases endedCurrent
      cases endedCurrent
      obtain ⟨position, rfl, rfl, started⟩ := Scenario.act_eq_some starts
      exact .inr ⟨node, position, Scenario.nodes_of_node? (held harness rfl) found, rfl, rfl, started⟩

/-- What is done while a workload goes on: a node is asked to leave, and the workload is stopped
whatever comes of it. -/
def underLoad (world : World State) : BodyM State String := do
  let concurrency := (← attempt Scenario.current).config.workload.concurrencyPerKind
  let load ← attempt (Scenario.startWorkload 0 OperationKind.all concurrency)
  let timeout ← decommissionTimeout
  let left ← observe (Scenario.decommission world 1 timeout)
  let operations := (← attempt (Scenario.act (Action.workloadAt load))).operations
  let errors ← attempt (Scenario.act (Action.stopLoad world load))
  match left with
  | .error error => throw (.failed Option.none error)
  | .ok code =>
    if errors.isEmpty then
      return "node 1 exited with " ++ toString code ++ "; " ++ toString operations ++
        " statements, no errors"
    else throw (.unmet (listErrors errors))

/-- Whatever is done under load is a course. -/
theorem follows_underLoad : Operation.Follows world (fun _ => True) (underLoad world) := by
  have anything : ∀ {Result : Type} {operation : BodyM State Result} {may : Deed → Prop},
      Operation.Follows world may operation → Operation.Follows world (fun _ => True) operation :=
    fun follows => follows.mono fun _ _ => trivial
  refine follows_bind (follows_attempt Scenario.follows_current) fun _ => ?_
  refine follows_bind (anything (follows_attempt (Scenario.follows_startWorkload _ _ _)))
    fun load => ?_
  refine follows_bind follows_decommissionTimeout fun timeout => ?_
  refine follows_bind (anything (follows_observe (Scenario.follows_decommission _ _)))
    fun left => ?_
  refine follows_bind (follows_attempt (Scenario.follows_act (Action.follows_workloadAt load)))
    fun _ => ?_
  have stops : (Action.stopLoad world load).Follows world (Deed.Within fun _ => True) :=
    Action.follows_stopLoad trivial load
  refine follows_bind (anything (follows_attempt (Scenario.follows_act stops))) fun errors => ?_
  cases left with
  | error error => exact follows_throw _
  | ok code =>
      dsimp only
      split
      · exact follows_pure _
      · exact follows_throw _

/-- Either no workload was started and nothing done, or one was started, a node asked to leave, and the
workload stopped, and there is a finding only if the node has left and nothing was recorded. -/
theorem underLoad_eq_some {result : Except Failure String}
    (ended : underLoad world scenario limit run = (some (result, after), last)) :
    (∃ failure, result = .error failure ∧ after = scenario ∧ last = run) ∨
      ∃ node position started left leftRun errors,
        scenario.nodes[0]? = some node ∧
        Action.startLoad node scenario.table OperationKind.all
          scenario.config.workload.concurrencyPerKind limit run = (some position, started) ∧
        Scenario.decommission world 1 scenario.config.decommission.timeout scenario limit started =
          (some (left, after), leftRun) ∧
        Action.stopLoad world position limit leftRun = (some errors, last) ∧
        (result.isOk ↔ left.isOk ∧ errors = []) := by
  rcases bind_cases ended with ⟨_, _, endedCurrent⟩ | ⟨_, _, _, endedCurrent, rest⟩
  · cases endedCurrent
  clear ended
  cases endedCurrent
  rcases bind_cases rest with ⟨failure, failed, endedStart⟩ | ⟨position, _, started, endedStart, ended⟩
  · obtain ⟨value, starts, same⟩ := attempt_eq_some endedStart
    rcases startWorkload_eq_some starts with ⟨_, _, rfl, rfl⟩ | ⟨_, _, _, rfl, _⟩
    · exact .inl ⟨failure, failed, rfl, rfl⟩
    · cases same
  clear rest
  rcases startWorkload_eq_some (attempt_ok endedStart) with
    ⟨_, ⟨⟩, _⟩ | ⟨node, place, stands, same, rfl, starts⟩
  cases same
  right
  rcases bind_cases ended with ⟨_, _, endedTimeout⟩ | ⟨_, _, _, endedTimeout, rest⟩
  · cases endedTimeout
  clear ended
  obtain ⟨same, rfl, rfl⟩ := decommissionTimeout_eq_some endedTimeout
  cases same
  rcases bind_cases rest with ⟨_, _, endedLeave⟩ | ⟨left, _, leftRun, endedLeave, ended⟩
  · obtain ⟨_, _, ⟨⟩⟩ := observe_eq_some endedLeave
  clear rest
  obtain ⟨_, leaves, same⟩ := observe_eq_some endedLeave
  cases same
  rcases bind_cases ended with ⟨_, _, endedLook⟩ | ⟨workload, _, _, endedLook, rest⟩
  · cases endedLook
  clear ended
  obtain ⟨_, same, rfl, looks⟩ := Scenario.act_eq_some (attempt_ok endedLook)
  cases same
  cases looks
  rcases bind_cases rest with ⟨_, _, endedStop⟩ | ⟨errors, _, _, endedStop, ended⟩
  · obtain ⟨value, stops, same⟩ := attempt_eq_some endedStop
    obtain ⟨_, rfl, _⟩ := Scenario.act_eq_some stops
    cases same
  clear rest
  obtain ⟨_, same, rfl, stops⟩ := Scenario.act_eq_some (attempt_ok endedStop)
  cases same
  cases left with
  | error error =>
      obtain ⟨rfl, rfl, rfl⟩ := throw_eq_some ended
      exact ⟨_, _, _, _, _, _, stands, starts, leaves, stops, by simp [Except.isOk, Except.toBool]⟩
  | ok code =>
      dsimp only at ended
      split at ended
      · obtain ⟨rfl, rfl, rfl⟩ := pure_eq_some ended
        exact ⟨_, _, _, _, _, _, stands, starts, leaves, stops, by simp_all [Except.isOk, Except.toBool]⟩
      · obtain ⟨rfl, rfl, rfl⟩ := throw_eq_some ended
        exact ⟨_, _, _, _, _, _, stands, starts, leaves, stops, by simp_all [Except.isOk, Except.toBool]⟩

/-- A scenario that was run has come to the end of its body, has its table dropped if that is possible,
and its cluster taken down; its outcome tells what its body came to. -/
theorem run_eq_some {config : Config} {builtin : Builtin} {outcome : Outcome}
    (ended : builtin.run world config limit run = (some outcome, last)) :
    ∃ result after bodyEnd dropped,
      builtin.body world { name := builtin.clusterName, config } limit run =
        (some (result, after), bodyEnd) ∧
      Scenario.dropTable world after.table after limit bodyEnd = (some (.ok (), after), dropped) ∧
      Scenario.teardown world after limit dropped =
        (some (.ok (), { after with harness := Option.none }), last) ∧
      outcome.name = builtin.name ∧ (outcome.passed = true ↔ result.isOk = true) := by
  obtain ⟨_, _, endedNow, rest⟩ := Action.bind_eq_some.mp ended
  cases endedNow
  obtain ⟨⟨result, after⟩, bodyEnd, endedBody, rest⟩ := Action.bind_eq_some.mp rest
  obtain ⟨⟨_, spared⟩, dropped, endedDrop, rest⟩ := Action.bind_eq_some.mp rest
  obtain ⟨⟨_, bare⟩, down, endedDown, rest⟩ := Action.bind_eq_some.mp rest
  obtain ⟨_, _, endedNow, rest⟩ := Action.bind_eq_some.mp rest
  cases endedNow
  obtain ⟨rfl, rfl⟩ := Action.pure_eq_some.mp rest
  obtain ⟨rfl, rfl, _⟩ := dropTable_eq_some endedDrop
  obtain ⟨rfl, rfl, _⟩ := Scenario.teardown_eq_some endedDown
  refine ⟨result, _, bodyEnd, dropped, endedBody, endedDrop, endedDown, ?_⟩
  cases result <;> simp [outcomeOf, Except.isOk, Except.toBool]

end Builtin

end GracefulStop
