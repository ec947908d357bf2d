import GracefulStop.Proofs.Cluster.History
import GracefulStop.Proofs.Retry.Attempts
import Mathlib.Data.List.Nodup

/-!
# Where statements are sent

A cluster sends a statement only to a node that it has picked, and it picks among the nodes that are
running and have not left, at that moment. A node that has left is never picked again, so nothing is
sent to it any more, whatever is asked of the cluster later.
-/

namespace GracefulStop

/-- Nothing is asked of a node in the name of the cluster. -/
def Deed.Silent (deed : Deed) : Prop := ∀ node request, deed ≠ .ask node request

def Deed.AsksOf (node : Node) (deed : Deed) : Prop := ∃ request, deed = .ask node request

theorem Deed.silent_of_looks (deed : Deed) (looks : Within Looks deed) : Within Silent deed := by
  intro node request same
  unfold Within at looks
  rw [same] at looks
  cases looks

variable {State : Type} {world : World State} {limit : Option Instant} {run between last : Run State}

theorem cons_of_append {Item : Type} {first second before after : List Item} {item : Item}
    (same : first ++ second = before ++ item :: after) :
    (∃ rest, first = before ++ item :: rest) ∨
      ∃ middle, before = first ++ middle ∧ second = middle ++ item :: after := by
  rcases List.append_eq_append_iff.mp same with ⟨middle, reach, rest⟩ | ⟨middle, reach, rest⟩
  · exact .inr ⟨middle, reach, rest⟩
  · cases middle with
    | nil => exact .inr ⟨[], by simpa using reach.symm, rest.symm⟩
    | cons head tail =>
        rw [List.cons_append, List.cons.injEq] at rest
        rcases rest with ⟨rfl, _⟩
        exact .inl ⟨tail, reach⟩

theorem Action.bind_assoc {Result Next Last : Type} (first : Action State Result)
    (second : Result → Action State Next) (third : Next → Action State Last) :
    (first >>= second) >>= third = first >>= fun result => second result >>= third := by
  funext limit run
  rcases ended : first limit run with ⟨_ | value, between⟩
  · rw [bind_of_eq_none ended, bind_of_eq_none (bind_of_eq_none ended)]
  · rw [bind_of_eq_some ended]
    rcases endedNext : second value limit between with ⟨_ | other, last⟩
    · rw [bind_of_eq_none endedNext, bind_of_eq_none]
      rw [bind_of_eq_some ended, endedNext]
    · rw [bind_of_eq_some endedNext, bind_of_eq_some]
      rw [bind_of_eq_some ended, endedNext]

namespace Harness

/-! ## Picking a node -/

/-- What the nodes that have not left answer when they are looked at, each once. -/
structure Looked (handles : List Handle) (run : Run State) (answers : List (Node × Bool))
    (last : Run State) : Prop where
  atOnce : last.clock = run.clock
  members : answers.map Prod.fst =
    (handles.filter fun handle => !handle.decommissioned).map Handle.node
  written : run.since last = answers.map fun answer => .checked answer.1 answer.2

theorem looked_of_liveNodes (world : World State) (handles : List Handle) (limit : Option Instant)
    (run : Run State) :
    ∃ answers last, liveNodes world handles limit run =
        (some ((answers.filter Prod.snd).map Prod.fst), last) ∧
      Looked handles run answers last := by
  induction handles generalizing run with
  | nil => exact ⟨[], run, rfl, rfl, rfl, by simp⟩
  | cons handle rest ih =>
      unfold liveNodes
      cases marked : handle.decommissioned with
      | true =>
          rcases ih run with ⟨answers, last, ended, looked⟩
          refine ⟨answers, last, ?_, looked.atOnce, ?_, looked.written⟩
          · have skipped : handle.isLive world limit run = (some false, run) := by
              rw [Handle.isLive, if_pos marked]
              rfl
            rw [Action.bind_of_eq_some skipped, Action.bind_of_eq_some ended]
            rfl
          · rw [List.filter_cons_of_neg (by simp [marked])]
            exact looked.members
      | false =>
          let running := (world.isRunning handle.node run.clock run.state).1
          let checked : Run State :=
            { run with state := (world.isRunning handle.node run.clock run.state).2 }.note
              (.checked handle.node running)
          rcases ih checked with ⟨answers, last, ended, looked⟩
          have checks : handle.isLive world limit run = (some running, checked) := by
            rw [Handle.isLive, if_neg (by simp [marked])]
            rfl
          have first : Run.Course world (Deed.Within fun _ => True) run checked :=
            (handle.follows_isLive trivial).course checks
          have others : Run.Course world (Deed.Within fun _ => True) checked last :=
            (follows_liveNodes fun _ _ => trivial).course ended
          refine ⟨(handle.node, running) :: answers, last, ?_, looked.atOnce, ?_, ?_⟩
          · rw [Action.bind_of_eq_some checks, Action.bind_of_eq_some ended]
            cases running <;> rfl
          · rw [List.filter_cons_of_pos (by simp [marked]), List.map_cons, List.map_cons,
              looked.members]
          · have once : run.since checked = [.checked handle.node running] :=
              Run.since_of_events (Run.events_note _ _)
            rw [first.since_trans others, once, looked.written]
            rfl

theorem liveNodes_of_draw (world : World State) (draw : Draw State) (handles : List Handle) :
    liveNodes { world with draw } handles = liveNodes world handles := by
  induction handles with
  | nil => rfl
  | cons handle rest ih =>
      unfold liveNodes
      rw [ih]
      rfl

/-- A pick: each node that has not left is looked at once, at the moment of the pick. There is none to
pick exactly where none of them is running, and each of those that are can be picked. -/
structure Picks (world : World State) (harness : Harness) (limit : Option Instant) (run : Run State)
    (result : Except ClusterError Node) (answers : List (Node × Bool)) (last : Run State) : Prop where
  ended : harness.pickLive world limit run = (some result, last)
  atOnce : last.clock = run.clock
  members : answers.map Prod.fst =
    (harness.handles.filter fun handle => !handle.decommissioned).map Handle.node
  written : run.since last = answers.map (fun answer => .checked answer.1 answer.2) ++
    match result with
    | .ok node => [.picked node]
    | .error _ => []
  running : ∀ node, result = .ok node → (node, true) ∈ answers
  none : result = .error .noLiveNode ↔ ∀ answer ∈ answers, answer.2 = false
  failing : ∀ error, result = .error error → error = .noLiveNode
  possible : ∀ node, (node, true) ∈ answers →
    ∃ draw, (harness.pickLive { world with draw } limit run).1 = some (.ok node)

/-- What is picked is drawn among the nodes that are live. -/
theorem pickLive_of_liveNodes {harness : Harness} {live : List Node} {looked : Run State}
    (ended : liveNodes world harness.handles limit run = (some live, looked)) :
    harness.pickLive world limit run =
      match world.draw.oneOf live looked.state with
      | (some node, state) => (some (.ok node), { looked with state }.note (.picked node))
      | (none, state) => (some (.error .noLiveNode), { looked with state }) := by
  have draws : Action.pickOne world live limit looked =
      (some (world.draw.oneOf live looked.state).1,
        { looked with state := (world.draw.oneOf live looked.state).2 }) := rfl
  unfold pickLive
  rw [Action.bind_of_eq_some ended, Action.bind_of_eq_some draws]
  rcases world.draw.oneOf live looked.state with ⟨_ | node, state⟩ <;> rfl

theorem mem_answers {answers : List (Node × Bool)} {node : Node} :
    node ∈ (answers.filter Prod.snd).map Prod.fst ↔ (node, true) ∈ answers := by
  simp

/-- Every node that is live is drawn for some lot. -/
theorem pickLive_of_mem {harness : Harness} {live : List Node} {looked : Run State} {node : Node}
    (ended : liveNodes world harness.handles limit run = (some live, looked)) (member : node ∈ live) :
    ∃ draw, (harness.pickLive { world with draw } limit run).1 = some (.ok node) := by
  rcases List.mem_iff_getElem?.mp member with ⟨index, stands⟩
  have inside : index < live.length := (List.getElem?_eq_some_iff.mp stands).1
  refine ⟨fun _ state => (index, state), ?_⟩
  rw [← liveNodes_of_draw world fun _ state => (index, state)] at ended
  have drawn : Draw.oneOf (fun _ state => (index, state)) live looked.state =
      (some node, looked.state) := by
    simp [Draw.oneOf, Draw.below, Nat.mod_eq_of_lt inside, stands]
  rw [pickLive_of_liveNodes ended, drawn]

theorem idle_of_oneOf {answers : List (Node × Bool)} {draw : Draw State} {state : State}
    (drawn : (draw.oneOf ((answers.filter Prod.snd).map Prod.fst) state).1 = none) :
    ∀ answer ∈ answers, answer.2 = false := by
  rintro ⟨node, _ | _⟩ member
  · rfl
  · have several := List.ne_nil_of_mem (mem_answers.mpr member)
    rcases Draw.exists_of_oneOf draw several state with ⟨other, _, found⟩
    rw [drawn] at found
    cases found

/-- Every pick comes to an end at once. -/
theorem exists_picks (world : World State) (harness : Harness) (limit : Option Instant)
    (run : Run State) : ∃ result answers last, Picks world harness limit run result answers last := by
  rcases looked_of_liveNodes world harness.handles limit run with ⟨answers, checked, ended, looked⟩
  have looks : Run.Course world (Deed.Within fun _ => True) run checked :=
    (follows_liveNodes fun _ _ => trivial).course ended
  have possible : ∀ node, (node, true) ∈ answers →
      ∃ draw, (harness.pickLive { world with draw } limit run).1 = some (.ok node) :=
    fun node member => pickLive_of_mem ended (mem_answers.mpr member)
  have picks := pickLive_of_liveNodes ended
  rcases drawn : world.draw.oneOf ((answers.filter Prod.snd).map Prod.fst) checked.state with
    ⟨_ | node, state⟩
  · rw [drawn] at picks
    have idle : ∀ answer ∈ answers, answer.2 = false := idle_of_oneOf (congrArg Prod.fst drawn)
    refine ⟨_, answers, _, picks, looked.atOnce, looked.members, ?_, nofun, ⟨fun _ => idle, fun _ => rfl⟩,
      ?_, possible⟩
    · rw [List.append_nil, ← looked.written]
      rfl
    · rintro error ⟨⟩
      rfl
  · rw [drawn] at picks
    have running : (node, true) ∈ answers :=
      mem_answers.mp (List.mem_of_getElem? (congrArg Prod.fst drawn))
    refine ⟨_, answers, _, picks, looked.atOnce, looked.members, ?_, ?_, ⟨nofun, ?_⟩, nofun, possible⟩
    · rw [← looked.written]
      apply Run.since_of_events
      rw [Run.events_note, ← List.append_assoc, ← looks.events_eq]
      rfl
    · rintro other ⟨⟩
      exact running
    · intro idle
      cases idle _ running

/-! ## Sending a statement -/

theorem picks_of_pickLive {harness : Harness} {result : Except ClusterError Node}
    (ended : harness.pickLive world limit run = (some result, last)) :
    ∃ answers, Picks world harness limit run result answers last := by
  rcases exists_picks world harness limit run with ⟨other, answers, reached, picks⟩
  cases ended.symm.trans picks.ended
  exact ⟨answers, picks⟩

/-- Everything that was asked of a node was asked after the cluster had picked that node, and before it
picked again. -/
def Routed (world : World State) (harness : Harness) (run last : Run State) : Prop :=
  ∀ before node request after, run.since last = before ++ .asked node request :: after →
    ∃ limit choosing answers chosen between, Run.Course world (fun _ => True) run choosing ∧
      Picks world harness limit choosing (.ok node) answers chosen ∧
      before = run.since chosen ++ between ∧
      ∀ event ∈ between, ∀ other, event ≠ .picked other

theorem routed_of_silent (course : Run.Course world (Deed.Within Deed.Silent) run last)
    (harness : Harness) : Routed world harness run last := by
  intro before node request after written
  have member : .asked node request ∈ run.since last := by simp [written]
  rcases course.of_mem_since member with silent | work
  · exact absurd rfl (silent node request)
  · cases work

theorem Routed.trans {harness : Harness} (early : Routed world harness run between)
    (first : Run.Course world (fun _ => True) run between)
    (late : Routed world harness between last)
    (second : Run.Course world (fun _ => True) between last) : Routed world harness run last := by
  intro before node request after written
  rw [first.since_trans second] at written
  rcases cons_of_append written with ⟨rest, same⟩ | ⟨middle, same, rest⟩
  · exact early before node request rest same
  · rcases late middle node request after rest with
      ⟨limit, choosing, answers, chosen, meanwhile, course, picks, rfl, unpicked⟩
    have looks : Run.Course world (Deed.Within Deed.Looks) choosing chosen :=
      harness.follows_pickLive.course picks.ended
    refine ⟨limit, choosing, answers, chosen, meanwhile, first.trans course, picks, ?_, unpicked⟩
    rw [same, first.since_trans (course.trans looks.any), List.append_assoc]

/-- Where a node has been picked, only that node is asked. -/
theorem routed_of_pick {harness : Harness} {node : Node} {chosen : Run State}
    (ended : harness.pickLive world limit run = (some (.ok node), chosen))
    (course : Run.Course world (Deed.Within (Deed.AsksOf node)) chosen last) :
    Routed world harness run last := by
  have looks : Run.Course world (Deed.Within Deed.Looks) run chosen :=
    harness.follows_pickLive.course ended
  rcases picks_of_pickLive ended with ⟨answers, picks⟩
  intro before other request after written
  rw [looks.since_trans course] at written
  rcases cons_of_append written with ⟨rest, same⟩ | ⟨middle, same, rest⟩
  · have early : .asked other request ∈ run.since chosen := by simp [same]
    rcases looks.of_mem_since early with look | work
    · cases look
    · cases work
  · have onlyNode : ∀ event ∈ chosen.since last, event.deed.AsksOf node ∨ event.deed = .work :=
      fun event member => course.of_mem_since member
    rw [rest] at onlyNode
    have here : other = node := by
      rcases onlyNode (.asked other request) (by simp) with ⟨asked, deed⟩ | work
      · cases deed
        rfl
      · cases work
    subst here
    refine ⟨limit, run, answers, chosen, middle, .refl, picks, same, ?_⟩
    rintro event member another rfl
    rcases onlyNode (.picked another) (List.mem_append_left _ member) with ⟨asked, deed⟩ | work
    · cases deed
    · cases work

/-- An action of a cluster after which everything is routed, however it ends. -/
structure Routes (world : World State) (harness : Harness) {Result : Type}
    (action : Action State Result) : Prop where
  follows : action.Follows world fun _ => True
  routed : ∀ limit run, Routed world harness run (action limit run).2

variable {Result Next : Type} {harness : Harness}

theorem routes_of_silent {action : Action State Result}
    (follows : action.Follows world (Deed.Within Deed.Silent)) : Routes world harness action where
  follows := follows.mono fun _ _ => trivial
  routed limit run := routed_of_silent (follows limit run) harness

theorem routes_bind {first : Action State Result} {next : Result → Action State Next}
    (routesFirst : Routes world harness first)
    (routesNext : ∀ result, Routes world harness (next result)) :
    Routes world harness (first >>= next) where
  follows := Action.follows_bind routesFirst.follows fun result => (routesNext result).follows
  routed := by
    intro limit run
    have early := routesFirst.routed limit run
    have course := routesFirst.follows limit run
    rcases ended : first limit run with ⟨_ | value, between⟩
    · rw [ended] at early
      rw [Action.bind_of_eq_none ended]
      exact early
    · rw [ended] at early course
      rw [Action.bind_of_eq_some ended]
      exact early.trans course ((routesNext value).routed limit between)
        ((routesNext value).follows limit between)

/-- A node is picked, and then only that node is asked, or none if there is none. -/
theorem routes_pickLive {next : Except ClusterError Node → Action State Result}
    (failing : ∀ error, (next (.error error)).Follows world (Deed.Within Deed.Silent))
    (asking : ∀ node, (next (.ok node)).Follows world (Deed.Within (Deed.AsksOf node))) :
    Routes world harness (harness.pickLive world >>= next) where
  follows := by
    apply Action.follows_bind (harness.follows_pickLive.mono fun _ _ => trivial)
    rintro (error | node)
    · exact (failing error).mono fun _ _ => trivial
    · exact (asking node).mono fun _ _ => trivial
  routed := by
    intro limit run
    have looks : Run.Course world (Deed.Within Deed.Looks) run
        (harness.pickLive world limit run).2 := harness.follows_pickLive limit run
    rcases picks : harness.pickLive world limit run with ⟨_ | (error | node), chosen⟩
    · rw [picks] at looks
      rw [Action.bind_of_eq_none picks]
      exact routed_of_silent (looks.mono Deed.silent_of_looks) harness
    · rw [picks] at looks
      rw [Action.bind_of_eq_some picks]
      exact routed_of_silent ((looks.mono Deed.silent_of_looks).trans (failing error limit chosen))
        harness
    · rw [Action.bind_of_eq_some picks]
      exact routed_of_pick picks (asking node limit chosen)

theorem routes_pure (result : Result) :
    Routes world harness (pure result : Action State Result) :=
  routes_of_silent (Action.follows_pure result)

theorem routes_execute (statement : String) (params : List Json) :
    Routes world harness (harness.execute world statement params) := by
  apply routes_pickLive
  · exact fun error => Action.follows_pure _
  · intro node
    apply Action.follows_bind (harness.policy.follows_execute ⟨_, rfl⟩)
    rintro (error | response) <;> exact Action.follows_pure _

theorem routes_pushSettings (settings : KeyMap Json) :
    Routes world harness (harness.pushSettings world settings) := by
  induction settings with
  | nil => exact routes_pure _
  | cons entry rest ih =>
      apply routes_bind (routes_execute _ _)
      rintro (error | response)
      · exact routes_pure _
      · exact ih

theorem routes_ensureRunning (handles : List Handle) :
    Routes world harness (ensureRunning world handles) := by
  induction handles with
  | nil => exact routes_pure _
  | cons handle rest ih =>
      unfold ensureRunning
      split
      · exact ih
      · apply routes_bind (routes_of_silent (Action.follows_isRunning (by rintro _ _ ⟨⟩)))
        intro running
        split
        · exact ih
        · exact routes_pure _

theorem routes_quorumRounds (expected : Nat) (longest : Option Duration) (began : Instant)
    (tries : Nat) : Routes world harness (harness.quorumRounds world expected longest began tries) := by
  induction tries with
  | zero => exact routes_of_silent Action.follows_stall
  | succ tries ih =>
      unfold quorumRounds
      apply routes_bind (routes_ensureRunning _)
      rintro (error | _)
      · exact routes_pure _
      · apply routes_bind (routes_execute _ _)
        rintro (error | response)
        · exact routes_pure _
        · dsimp only
          split
          · exact routes_pure _
          · apply routes_bind (routes_of_silent Action.follows_now)
            intro now
            split
            · exact routes_pure _
            · exact routes_bind (routes_of_silent (Action.follows_sleep _)) fun _ => ih

theorem routes_awaitQuorum (longest : Option Duration) :
    Routes world harness (harness.awaitQuorum world longest) :=
  routes_bind (routes_of_silent Action.follows_now) fun _ => routes_quorumRounds _ _ _ _

/-- Awaits an invariant on a node that has been picked. -/
def awaitOn (world : World State) (verifier : Verifier) (query : ShardQuery) (node : Node) :
    ScenarioM State Response := do
  match ← Scenario.act (verifier.awaitInvariant world node query) with
  | .ok response => pure response
  | .error error => throw (.verify error)

theorem routes_awaitInvariant (name : String) (config : Config) (query : ShardQuery)
    (deadline : Option Duration) :
    Routes world harness
      (Scenario.awaitInvariant world query deadline ⟨name, config, some harness⟩) := by
  let scenario : Scenario := ⟨name, config, some harness⟩
  let verifier := Verifier.ofSettings harness.policy config.verify
  let awaits := awaitOn world { verifier with deadline := deadline.getD verifier.deadline } query
  have stages : Scenario.awaitInvariant world query deadline scenario =
      Scenario.actOnCluster (harness.pickLive world) scenario >>= fun pair =>
        ExceptT.bindCont awaits pair.1 pair.2 := rfl
  -- The pick stands inside the operation that it belongs to, and has to come first.
  rw [stages, Scenario.actOnCluster, Action.bind_assoc]
  apply routes_pickLive
  · exact fun error => Action.follows_pure _
  · intro node
    have follows : Operation.Follows world (Deed.Within (Deed.AsksOf node)) (awaits node) := by
      apply Operation.follows_bind
      · exact Scenario.follows_act (Verifier.follows_awaitInvariant _ ⟨_, rfl⟩)
      · rintro (error | response)
        · exact Operation.follows_throw _
        · exact Operation.follows_pure _
    exact follows scenario

theorem Order.routes_perform (order : Order) : Routes world harness (order.perform world harness) := by
  cases order with
  | start =>
      apply routes_bind _ fun _ => routes_pure _
      apply routes_of_silent
      exact follows_start (fun _ _ _ _ => nofun) fun _ _ _ _ => nofun
  | awaitQuorum longest => exact routes_bind (routes_awaitQuorum longest) fun _ => routes_pure _
  | pushSettings settings => exact routes_bind (routes_pushSettings settings) fun _ => routes_pure _
  | execute statement params =>
      exact routes_bind (routes_execute statement params) fun _ => routes_pure _
  | awaitInvariant name config query deadline =>
      exact routes_bind (routes_awaitInvariant name config query deadline) fun _ => routes_pure _
  | decommission index timeout =>
      apply routes_bind _ fun _ => routes_pure _
      apply routes_of_silent
      apply harness.follows_decommission
      rintro node _ deed leaves other request rfl
      cases leaves
  | teardown =>
      apply routes_bind _ fun _ => routes_pure _
      exact routes_of_silent (follows_stopAll fun _ _ _ _ => nofun)

/-! ## Nodes that have left -/

theorem ne_of_pickLive {node : Node} (nodup : (harness.handles.map Handle.node).Nodup)
    (picks : harness.pickLive world limit run = (some (.ok node), last)) {handle : Handle}
    (member : handle ∈ harness.handles) (marked : handle.decommissioned = true) :
    node ≠ handle.node := by
  rcases passed_of_pickLive picks with ⟨other, memberOther, rfl, stays, _⟩
  intro same
  have one : other = handle := List.inj_on_of_nodup_map nodup memberOther member same
  rw [one, marked] at stays
  cases stays

/-- Nothing is asked any more of a node that is marked as left. -/
theorem History.unasked {fits : Harness → Order → Prop} {first : Harness} {base : Run State}
    (history : History world fits Deed.Silent first base harness run)
    (nodup : (first.handles.map Handle.node).Nodup) {index : Nat} {handle : Handle}
    (found : first.handles[index]? = some handle) (marked : handle.decommissioned = true)
    (request : Request) : .asked handle.node request ∉ base.since run := by
  induction history with
  | begin => simp
  | @order harness run last outcome order limit history fit ended ih =>
      have routed : Routed world harness run (order.perform world harness limit run).2 :=
        order.routes_perform.routed limit run
      have course := (order.follows_perform harness).course ended
      rw [ended] at routed
      intro member
      rw [history.course.since_trans course] at member
      rcases List.mem_append.mp member with early | late
      · exact ih early
      -- What an order asks was picked from the cluster as it is by then, in which the mark is kept.
      · rcases List.append_of_mem late with ⟨before, after, written⟩
        rcases routed before handle.node request after written with
          ⟨limit, choosing, answers, chosen, between, _, picks, _⟩
        have kept := history.keeps
        apply ne_of_pickLive _ picks.ended _ marked rfl
        · rw [kept.nodes]
          exact nodup
        · exact List.mem_of_getElem? (kept.left index handle found marked)
  | aside history course ih =>
      intro member
      rw [history.course.since_trans course] at member
      rcases List.mem_append.mp member with early | late
      · exact ih early
      · rcases course.of_mem_since late with silent | work
        · exact absurd rfl (silent handle.node request)
        · cases work

theorem marked_of_decommission {index : Nat} {timeout : Duration} {code : Int} {left : Harness}
    (ended : harness.decommission world index timeout limit run = (some (.ok code, left), last)) :
    ∃ node, harness.node? index = .ok node ∧
      left.handles.map Handle.node = harness.handles.map Handle.node ∧
      ∃ handle, left.handles[index]? = some handle ∧ handle.node = node ∧
        handle.decommissioned = true := by
  rcases decommission_eq_some ended with ⟨_, ⟨⟩, _⟩ | ⟨node, found, _, rfl⟩
  refine ⟨node, found, harness.nodes_markLeft index, ?_⟩
  unfold node? at found
  cases stands : harness.handles[index]? with
  | none =>
      rw [stands] at found
      cases found
  | some handle =>
      rw [stands] at found
      cases found
      refine ⟨{ handle with decommissioned := true }, ?_, rfl, rfl⟩
      simp [Except.isOk, Except.toBool, markLeft, stands]

/-- Whatever has been asked of a cluster since it was provided: whatever is asked of it next, a statement
is sent only to a node that the cluster has picked before, and since then no other. Once a node has left,
nothing is sent to it any more, whatever is asked of the cluster later. Every pick is among the nodes
that have not left and are running at the moment of the pick. -/
theorem routing_contract {name : String} {count : Nat} {settings : KeyMap String} {config : Config}
    {first : Harness} {start : Run State}
    (provided : provision world name count settings config limit run = (some (.ok first), start))
    (history : History world (fun _ _ => True) Deed.Silent first start harness last) :
    (∀ (order : Order) limit, Routed world harness last (order.perform world harness limit last).2) ∧
    (∀ index timeout limit code left gone,
      harness.decommission world index timeout limit last = (some (.ok code, left), gone) →
      ∃ node, harness.node? index = .ok node ∧
        ∀ later final, History world (fun _ _ => True) Deed.Silent left gone later final →
          ∀ request, .asked node request ∉ gone.since final) ∧
    ∀ limit, ∃ result answers picked, Picks world harness limit last result answers picked := by
  refine ⟨fun order limit => order.routes_perform.routed limit last, ?_,
    fun limit => exists_picks world harness limit last⟩
  intro index timeout limit code left gone ended
  rcases marked_of_decommission ended with ⟨node, found, nodes, handle, stands, rfl, marked⟩
  refine ⟨handle.node, found, fun later final history' request => ?_⟩
  apply history'.unasked _ stands marked
  rw [nodes, history.keeps.nodes]
  apply List.Nodup.of_map Node.serial
  rw [List.map_map]
  have serials := (provided_of_provision provided).laid.serials
  exact serials ▸ List.nodup_range'

/-- What is asked of a cluster after one of its nodes has left: it is started once more, and a statement is
executed. -/
def afterReturn (state : Harness × Run (List Nat)) : Harness × Run (List Nat) :=
  afterOrder (.execute "select 1" []) (afterOrder .start state)

/-- Of two nodes the first leaves, and all are started once more: a statement goes to the second one. -/
theorem routing_contract_of_pair :
    ∃ first start node code left gone, obligingPair = (some (.ok first), start) ∧
      first.node? 0 = .ok node ∧
      first.decommission World.obliging 0 (.ofSeconds 5) none (afterOrder .start (first, start)).2 =
        (some (.ok code, left), gone) ∧
      ((gone.since (afterReturn (left, gone)).2).filterMap Event.asked?).map (·.1.serial) = [1] ∧
      ∀ request, .asked node request ∉ gone.since (afterReturn (left, gone)).2 := by
  have all : (obligingPair.1.bind Except.toOption).bind (fun first =>
      let started := (afterOrder .start (first, obligingPair.2)).2
      let came := first.decommission World.obliging 0 (.ofSeconds 5) none started
      came.1.map fun outcome => (outcome.1.isOk,
        ((came.2.since (afterReturn (outcome.2, came.2)).2).filterMap Event.asked?).map
          (·.1.serial))) = some (true, [1]) := by
    decide +kernel
  rcases provided : obligingPair with ⟨_ | (error | first), start⟩ <;> rw [provided] at all
  · cases all
  · cases all
  let started := (afterOrder .start (first, start)).2
  rcases leaves : first.decommission World.obliging 0 (.ofSeconds 5) none started with
    ⟨_ | ⟨error | code, left⟩, gone⟩ <;>
    simp only [Option.bind_some, Except.toOption, started, leaves] at all
  · cases all
  · cases all
  have same : (afterOrder .start (first, start)).1 = first := Order.getD_of_pure rfl
  have history : History World.obliging (fun _ _ => True) Deed.Silent first start
      (afterOrder .start (first, start)).1 started := History.begin.after .start trivial
  rw [same] at history
  have later : History World.obliging (fun _ _ => True) Deed.Silent left gone
      (afterReturn (left, gone)).1 (afterReturn (left, gone)).2 :=
    (History.begin.after .start trivial).after (.execute "select 1" []) trivial
  rcases routing_contract provided history with ⟨_, unasked, _⟩
  rcases unasked 0 _ none code left gone leaves with ⟨node, found, silent⟩
  exact ⟨first, start, node, code, left, gone, rfl, found, leaves,
    congrArg Prod.snd (Option.some.inj all), silent _ _ later⟩

end Harness

end GracefulStop
