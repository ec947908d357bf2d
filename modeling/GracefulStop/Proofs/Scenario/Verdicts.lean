import GracefulStop.Proofs.Run.Ledger
import GracefulStop.Proofs.Run.Obliging
import GracefulStop.Proofs.Scenario.Milestones

/-!
# No false pass

The outcome of a built-in scenario is a pass exactly if everything that the scenario is for has happened
in its run, in order: its cluster was started and complete, every statement and setting of its setup
was answered well, its node was seen to leave, and what was found afterwards is as it has to be. Of a
workload it is found that no answer to one of its workers was an error that is not benign.

That a pass needs all of this is read off the body from its end to its start. That it needs no more
rests on the events that decide a scenario: nothing that is done before or after the last part of
the body brings them about, and where they have happened the last part has succeeded. For a workload
both rest on its account: the records with which it is stopped are those that the answers to its
workers owe.
-/

namespace GracefulStop

namespace Builtin

/-- The index of the node that is asked to leave. -/
def leaver : Builtin → Nat
  | concurrent => 1
  | _ => 0

/-- What every node of a scenario has to be asked in its setup, one thing after another. -/
def setup (table : String) : Builtin → List (Request → Prop)
  | signal => []
  | primaries => creation 4 0 :: seeds ++ [availability .primaries]
  | full => creation 4 1 :: seeds ++ [availability .full]
  | none =>
    creation 8 0 :: refreshing :: (List.range 16).map insertion ++
      [refreshing, availability .none]
  | concurrent =>
    [creation 4 1, setting "discovery.zen.minimum_master_nodes" (.int 2), bulk, refreshing,
      setting "cluster.graceful_stop.force" (.string "false"), availability .full]
where
  creation (shards replicas : Nat) (request : Request) : Prop :=
    request = .single (createStatement table shards replicas) []
  refreshing (request : Request) : Prop := request = .single ("refresh table " ++ table) []
  seeds : List (Request → Prop) :=
    [(· = .single (insertStatement table ++ ", (?, ?)")
      [.int 1, .string "Ford", .int 2, .string "Trillian"]), refreshing]
  setting (key : String) (value : Json) (request : Request) : Prop :=
    request = .single (Harness.settingStatement key) [value]
  availability (value : MinAvailability) : Request → Prop :=
    setting MinAvailability.setting (.string value.name)
  insertion (id : Nat) (request : Request) : Prop :=
    ∃ name ∈ rowNames, request = .single (insertStatement table) [.int id, .string name]
  bulk (request : Request) : Prop :=
    ∃ rows, List.Forall₂ (fun id row => ∃ name : String, row = [.int id, .string name])
      (List.range bulkRowCount) rows ∧ request = .bulk (insertStatement table) rows

/-- What is found about the shards: a node that was running when it was picked answers. -/
def findings (asked : Node) (query : ShardQuery) (fits : Int → Prop) : List (Event → Prop) :=
  [(· = .checked asked true), (· = .picked asked),
    (· = .asked asked (.single query.statement [])),
    fun event => ∃ response : Response, fits response.rowCount ∧
      event = .answered asked (.single query.statement []) (.ok response)]

/-- A workload was stopped. -/
def stops (load : Nat) (event : Event) : Prop := ∃ errors, event = .workloadStopped load errors

/-- What has to happen besides, before a node is asked to leave and after it has left with a code. For
`concurrent` it is that a workload of all kinds was started on the first node and stopped, and that no
event blames it: no answer to one of its workers was an error that is not benign. -/
inductive Verdict (config : Config) (events : List Event) (nodes : List Node) (left : Node)
    (code : Int) : Builtin → (before after : List (Event → Prop)) → Prop
  | signal (clean : code = 0) : Verdict config events nodes left code .signal [] []
  | primaries {asked : Node} (member : asked ∈ nodes) (stays : asked ≠ left) :
      Verdict config events nodes left code .primaries []
        (findings asked .noneUnassigned (· = 0))
  | full {asked : Node} (member : asked ∈ nodes) (stays : asked ≠ left) :
      Verdict config events nodes left code .full [] (findings asked .noneUnassigned (· = 0))
  | none {asked : Node} (member : asked ∈ nodes) (stays : asked ≠ left) :
      Verdict config events nodes left code .none [] (findings asked .someUnassigned (0 < ·))
  | concurrent {first : Node} {load : Nat} (stands : nodes[0]? = some first)
      (blameless : ∀ event ∈ events, ¬event.Blames load) :
      Verdict config events nodes left code .concurrent
        [(· = .workloadStarted load first OperationKind.all config.workload.concurrencyPerKind)]
        [stops load]

/-- The events of a run in which a scenario reaches all that it is for: the nodes of a cluster of its
size are started and report each other, the setup is answered well, the node leaves, and what has to be
found is found, all of this in order. The numbers of the nodes are the first ones that were free. -/
def Succeeds (builtin : Builtin) (config : Config) (free : Nat) (events : List Event) : Prop :=
  ∃ nodes left code before verdict,
    nodes.map Node.name = Harness.namesFor builtin.clusterName builtin.nodeCount ∧
    nodes.map Node.serial = List.range' free builtin.nodeCount ∧
    nodes[builtin.leaver]? = some left ∧
    Verdict config events nodes left code builtin before verdict ∧
    InOrder
      (nodes.map (fun node => (· = .started node (.ok ()))) ++ [Event.ReportsAll nodes] ++
        (builtin.setup config.workload.table).map (Event.Meets nodes) ++ before ++
        [(· = .signalled left (.ok ())),
          (· = .waited left config.decommission.timeout (.ok (some code)))] ++ verdict)
      events

variable {State : Type} {world : World State} {scenario after : Scenario}
  {limit : Option Instant} {run last : Run State}

open Operation

/-- Nodes with numbers one after another are told apart by their places. -/
theorem place_eq_of_serials {handles : List Handle} {free index other : Nat}
    {handle found : Handle}
    (serials : handles.map (·.node.serial) = List.range' free handles.length)
    (stands : handles[index]? = some handle) (stood : handles[other]? = some found)
    (same : handle.node = found.node) : index = other := by
  have serial : ∀ {place : Nat} {handle : Handle}, handles[place]? = some handle →
      handle.node.serial = free + place := by
    intro place handle stands
    obtain ⟨inside, rfl⟩ := List.getElem?_eq_some_iff.mp stands
    have here := congrArg (·[place]?) serials
    simpa [inside] using here
  have numbers := serial stands
  rw [same, serial stood] at numbers
  omega

/-- A node that has not left is not the one at the index that was marked. -/
theorem ne_of_markLeft {harness : Harness} {free index : Nat} {left : Node} {handle : Handle}
    (serials : harness.handles.map (·.node.serial) = List.range' free harness.handles.length)
    (stands : (harness.handles.map Handle.node)[index]? = some left)
    (member : handle ∈ (harness.markLeft index).handles)
    (stays : handle.decommissioned = false) : handle.node ≠ left := by
  rw [List.getElem?_map] at stands
  obtain ⟨marked, stood, rfl⟩ := Option.map_eq_some_iff.mp stands
  obtain ⟨place, found⟩ := List.mem_iff_getElem?.mp member
  rw [Harness.markLeft, List.getElem?_modify] at found
  obtain ⟨before, stoodBefore, rfl⟩ := Option.map_eq_some_iff.mp found
  by_cases here : index = place
  · simp [here] at stays
  · intro same
    rw [if_neg here] at same
    exact here (place_eq_of_serials serials stood stoodBefore same.symm)

/-- A body that goes on after a node has been asked to leave has seen it exit. -/
theorem passed_of_leave {Result : Type} {index : Nat} {next : Int → BodyM State Result}
    {result : Result}
    (ended : (leave world index >>= next : BodyM State Result) scenario limit run =
      (some (.ok result, after), last)) :
    ∃ harness left code mid, scenario.harness = some harness ∧
      scenario.nodes[index]? = some left ∧
      Run.Passed world
        [(· = .signalled left (.ok ())),
          (· = .waited left scenario.config.decommission.timeout (.ok (some code)))] run mid ∧
      next code { scenario with harness := some (harness.markLeft index) } limit mid =
        (some (.ok result, after), last) := by
  obtain ⟨code, between, mid, endedLeave, endedNext⟩ := bind_ok ended
  obtain ⟨_ | found, leaves, same⟩ := leave_eq_some endedLeave
  · cases same
  cases same
  obtain ⟨harness, left, held, stands, rfl, passed⟩ := Scenario.passed_of_decommission leaves
  exact ⟨harness, left, code, mid, held, stands, passed, endedNext⟩

/-- A body that ends with judging the shards has asked a node that had not left, after the node had
left that was asked to. -/
theorem passed_of_judgeShards {query : ShardQuery} (fits : Int → Prop) {harness : Harness}
    {free index : Nat} {text : String} (held : scenario.harness = some harness)
    (serials : harness.handles.map (·.node.serial) = List.range' free harness.handles.length)
    (fit : ∀ count, query.predicate.holds count = true → fits count)
    (ended : (leave world index >>= judgeShards world query : BodyM State String) scenario limit run =
      (some (.ok text, after), last)) :
    ∃ left code asked, scenario.nodes[index]? = some left ∧ asked ∈ scenario.nodes ∧ asked ≠ left ∧
      Run.Passed world
        ([(· = .signalled left (.ok ())),
          (· = .waited left scenario.config.decommission.timeout (.ok (some code)))] ++
          findings asked query fits) run last := by
  obtain ⟨here, left, code, mid, heldHere, stands, passedLeave, judges⟩ := passed_of_leave ended
  cases held.symm.trans heldHere
  obtain ⟨response, between, judged, endedAwait, endedText⟩ := bind_ok judges
  obtain ⟨_, rfl, rfl⟩ := pure_eq_some endedText
  obtain ⟨marked, heldMarked, handle, member, stays, holds, course, order⟩ :=
    Scenario.passed_of_awaitInvariant (attempt_ok endedAwait)
  cases heldMarked
  have nodes := Scenario.nodes_eq_of_harness held
  refine ⟨left, code, handle.node, stands, ?_, ?_, passedLeave.trans ⟨course, order.wider ?_⟩⟩
  · rw [nodes, ← harness.nodes_markLeft index]
    exact List.mem_map_of_mem member
  · exact ne_of_markLeft serials (nodes ▸ stands) member stays
  · refine .cons (fun _ => id) (.cons (fun _ => id) (.cons (fun _ => id) (.cons ?_ .nil)))
    rintro _ rfl
    exact ⟨response, fit _ holds, rfl⟩

/-- A body goes on from a cluster of the size that it has asked for. -/
theorem passed_of_provision {Result : Type} {count : Nat} {next : Unit → BodyM State Result}
    {result : Result}
    (ended : (attempt (Scenario.provision world count) >>= next : BodyM State Result) scenario limit
      run = (some (.ok result, after), last)) :
    ∃ harness between mid, between = { scenario with harness := some harness } ∧
      between.nodes.map Node.name = Harness.namesFor scenario.name count ∧
      between.nodes.map Node.serial = List.range' run.nodes count ∧
      harness.handles.map (·.node.serial) = List.range' run.nodes harness.handles.length ∧
      Run.Passed world
        (between.nodes.map (fun node => (· = .started node (.ok ()))) ++
          [Event.ReportsAll between.nodes]) run mid ∧
      next () between limit mid = (some (.ok result, after), last) := by
  obtain ⟨_, between, mid, endedProvision, endedNext⟩ := bind_ok ended
  obtain ⟨harness, same, names, serials, passed⟩ :=
    Scenario.passed_of_provision (attempt_ok endedProvision)
  have nodes : between.nodes = harness.handles.map Handle.node := by
    simp [same, Scenario.nodes]
  refine ⟨harness, between, mid, same, ?_, ?_, ?_, passed, endedNext⟩
  · rw [nodes, List.map_map]
    exact names
  · rw [nodes, List.map_map]
    exact serials
  · have count := congrArg List.length serials
    simp only [List.length_map, List.length_range'] at count
    rw [count]
    exact serials

/-- The rows of a bulk are drawn before they are sent. -/
theorem passed_of_bulkRows {Result : Type} {ids : List Nat}
    {next : List (List Json) → BodyM State Result} {result : Result}
    (ended : (drawing (bulkRows world.draw ids) >>= next : BodyM State Result) scenario limit run =
      (some (.ok result, after), last)) :
    ∃ rows mid, Run.Passed world [] run mid ∧
      List.Forall₂ (fun id row => ∃ name : String, row = [.int id, .string name]) ids rows ∧
      next rows scenario limit mid = (some (.ok result, after), last) := by
  obtain ⟨rows, _, mid, endedDraw, endedNext⟩ := bind_ok ended
  have draws := (arranges_drawRows ids).course endedDraw
  obtain ⟨_, same, rfl, drew⟩ := Scenario.act_eq_some (attempt_ok endedDraw)
  cases same
  refine ⟨rows, mid, .of_course draws, ?_, endedNext⟩
  cases drew
  exact forall₂_bulkRows world.draw ids run.state

/-- Rows that were drawn and sent have been met. -/
theorem marks_bulk {rows : List (List Json)}
    (drew : List.Forall₂ (fun id row => ∃ name : String, row = [.int id, .string name])
      (List.range bulkRowCount) rows) (table : String) :
    Marks world scenario [setup.bulk table] (attemptAs "bulk loading rows"
      (Scenario.executeBulk world 0 (insertStatement table) rows)) :=
  (marks_attemptAs (Scenario.marks_executeBulk _ _ _)).wider fun _ same => ⟨rows, drew, same⟩

/-- A scenario succeeds whose cluster is up, whose setup is answered well, whose node leaves, and that
finds what it has to. -/
theorem succeeds_of_passed {builtin : Builtin} {config : Config} {nodes : List Node} {left : Node}
    {code : Int} {before verdict : List (Event → Prop)} {up ready bodyEnd : Run State}
    {may : Deed → Prop}
    (names : nodes.map Node.name = Harness.namesFor builtin.clusterName builtin.nodeCount)
    (serials : nodes.map Node.serial = List.range' run.nodes builtin.nodeCount)
    (stands : nodes[builtin.leaver]? = some left)
    (found : Verdict config (run.since last) nodes left code builtin before verdict)
    (passedUp : Run.Passed world
      (nodes.map (fun node => (· = .started node (.ok ()))) ++ [Event.ReportsAll nodes]) run up)
    (passedSetup : Run.Passed world
      ((builtin.setup config.workload.table).map (Event.Meets nodes)) up ready)
    (passedEnd : Run.Passed world
      (before ++ ([(· = .signalled left (.ok ())),
        (· = .waited left config.decommission.timeout (.ok (some code)))] ++ verdict)) ready bodyEnd)
    (later : Run.Course world may bodyEnd last) :
    builtin.Succeeds config run.nodes (run.since last) := by
  refine ⟨nodes, left, code, before, verdict, names, serials, stands, found, ?_⟩
  have passed := (passedUp.trans passedSetup).trans passedEnd
  rw [passed.course.since_trans later]
  simpa only [List.append_assoc] using passed.order.mono (List.sublist_append_left _ _)

/-- A body that has succeeded has reached all that its scenario is for, whatever is done after it. -/
theorem succeeds_of_body {builtin : Builtin} {config : Config} {text : String}
    {bodyEnd : Run State} {may : Deed → Prop}
    (ended : builtin.body world { name := builtin.clusterName, config } limit run =
      (some (.ok text, after), bodyEnd)) (later : Run.Course world may bodyEnd last) :
    builtin.Succeeds config run.nodes (run.since last) := by
  cases builtin with
  | signal =>
      obtain ⟨harness, _, up, rfl, names, serials, _, passedUp, rest⟩ := passed_of_provision ended
      obtain ⟨_, left, code, mid, _, stands, passedLeave, judged⟩ := passed_of_leave rest
      split at judged
      · rename_i clean
        obtain ⟨_, _, rfl⟩ := pure_eq_some judged
        exact succeeds_of_passed names serials stands (.signal clean) passedUp (.refl up) passedLeave
          later
      · obtain ⟨⟨⟩, _⟩ := throw_eq_some judged
  | primaries =>
      obtain ⟨harness, _, up, rfl, names, serials, places, passedUp, rest⟩ :=
        passed_of_provision ended
      obtain ⟨_, created, passedCreate, rest⟩ := (marks_createTable 4 0).next rest
      obtain ⟨_, seeded, passedSeed, rest⟩ := marks_seedTwoRows.next rest
      obtain ⟨_, ready, passedSet, rest⟩ :=
        (marks_attempt (Scenario.marks_pushSettings _)).next rest
      obtain ⟨left, code, asked, stands, member, stays, passedJudge⟩ :=
        passed_of_judgeShards (· = 0) rfl places (fun _ => beq_iff_eq.mp) rest
      exact succeeds_of_passed names serials stands (.primaries member stays) passedUp
        (passedCreate.trans (passedSeed.trans passedSet)) passedJudge later
  | full =>
      obtain ⟨harness, _, up, rfl, names, serials, places, passedUp, rest⟩ :=
        passed_of_provision ended
      obtain ⟨_, created, passedCreate, rest⟩ := (marks_createTable 4 1).next rest
      obtain ⟨_, seeded, passedSeed, rest⟩ := marks_seedTwoRows.next rest
      obtain ⟨_, ready, passedSet, rest⟩ :=
        (marks_attempt (Scenario.marks_pushSettings _)).next rest
      obtain ⟨left, code, asked, stands, member, stays, passedJudge⟩ :=
        passed_of_judgeShards (· = 0) rfl places (fun _ => beq_iff_eq.mp) rest
      exact succeeds_of_passed names serials stands (.full member stays) passedUp
        (passedCreate.trans (passedSeed.trans passedSet)) passedJudge later
  | none =>
      obtain ⟨harness, _, up, rfl, names, serials, places, passedUp, rest⟩ :=
        passed_of_provision ended
      obtain ⟨_, created, passedCreate, rest⟩ := (marks_createTable 8 0).next rest
      obtain ⟨_, empty, passedEmpty, rest⟩ := marks_refresh.next rest
      obtain ⟨_, filled, passedFill, rest⟩ := (marks_insertRows (List.range 16)).next rest
      obtain ⟨_, visible, passedRefresh, rest⟩ := marks_refresh.next rest
      obtain ⟨_, ready, passedSet, rest⟩ :=
        (marks_attempt (Scenario.marks_pushSettings _)).next rest
      obtain ⟨left, code, asked, stands, member, stays, passedJudge⟩ :=
        passed_of_judgeShards (0 < ·) rfl places (fun _ => of_decide_eq_true) rest
      exact succeeds_of_passed names serials stands (.none member stays) passedUp
        (passedCreate.trans (passedEmpty.trans (passedFill.trans (passedRefresh.trans passedSet))))
        passedJudge later
  | concurrent =>
      obtain ⟨harness, _, up, rfl, names, serials, places, passedUp, rest⟩ :=
        passed_of_provision ended
      obtain ⟨_, created, passedCreate, rest⟩ := (marks_createTable 4 1).next rest
      obtain ⟨_, limited, passedLimit, rest⟩ :=
        (marks_attempt (Scenario.marks_pushSettings _)).next rest
      obtain ⟨rows, drawn, passedDraw, drew, rest⟩ := passed_of_bulkRows rest
      obtain ⟨_, _, _, endedTable, rest⟩ := bind_ok rest
      cases endedTable
      obtain ⟨_, loaded, passedBulk, rest⟩ := (marks_bulk drew _).next rest
      obtain ⟨_, visible, passedRefresh, rest⟩ := marks_refresh.next rest
      obtain ⟨_, ready, passedSet, rest⟩ :=
        (marks_attempt (Scenario.marks_pushSettings _)).next rest
      have passedSetup := passedCreate.trans (passedLimit.trans
        (passedDraw.trans (passedBulk.trans (passedRefresh.trans passedSet))))
      rcases underLoad_eq_some rest with
        ⟨_, ⟨⟩, _⟩ |
        ⟨first, position, started, left, leftRun, errors, there, starts, leaves, stopping, found⟩
      obtain ⟨isLeft, rfl⟩ := found.mp rfl
      cases left with
      | error error => cases isLeft
      | ok code =>
          obtain ⟨_, left, held, stands, _, passedLeave⟩ := Scenario.passed_of_decommission leaves
          obtain ⟨_, begun, _⟩ := Action.startLoad_eq_some starts
          obtain ⟨meanwhile, written, _⟩ := Action.stopLoad_eq_some stopping
          have loads : Run.Course world (Deed.Within Deed.Loads) ready started :=
            (Action.follows_startLoad (by trivial) _ _ _).course starts
          have stop : Run.Course world (Deed.Within fun _ => True) leftRun bodyEnd :=
            (Action.follows_stopLoad trivial _).course stopping
          have passedStart : Run.Passed world [(· = .workloadStarted position first OperationKind.all
              config.workload.concurrencyPerKind)] ready started :=
            .of_event loads (by simp [begun])
          have passedStop : Run.Passed world [stops position] leftRun bodyEnd :=
            .of_mem stop (by simp [written]) ⟨[], rfl⟩
          have blameless := Event.owed_eq_nil_iff.mp (Action.owed_eq_of_stopLoad
            (passedUp.course.trans passedSetup.course) starts passedLeave.course stopping later.any)
          exact succeeds_of_passed names serials stands (.concurrent there blameless) passedUp
            passedSetup (passedStart.trans (passedLeave.trans passedStop)) later

end Builtin

namespace Operation

variable {State Error Answer Result : Type} {world : World State} {marks : List (Event → Prop)}

/-- Where certain things have all happened in the course of an operation, and nothing that spoils it, it
has succeeded. -/
structure Reveals (world : World State) (marks : List (Event → Prop)) (spoils : Event → Prop)
    (operation : Operation State Error Result) : Prop where
  follows : operation.Follows world fun _ => True
  isOk : ∀ {scenario limit run result after last},
    operation scenario limit run = (some (result, after), last) →
    (∀ mark ∈ marks, ∃ event ∈ run.since last, mark event) →
    (∀ event ∈ run.since last, ¬spoils event) → result.isOk = true

variable {spoils : Event → Prop}

/-- What happens without any of the things that are looked for, and is followed by an operation that
reveals them, reveals them. -/
theorem Reveals.after {first : Operation State Error Answer}
    {next : Answer → Operation State Error Result} {may : Deed → Prop}
    (follows : first.Follows world may)
    (silent : ∀ mark ∈ marks, ∀ event, mark event → ¬may (.write event) ∧ event.deed ≠ .work)
    (some : marks ≠ []) (reveals : ∀ answer, (next answer).Reveals world marks spoils) :
    Reveals world marks spoils (first >>= next : Operation State Error Result) := by
  have unheard : ∀ {before after : Run State}, Run.Course world may before after →
      ∀ mark ∈ marks, ∀ event ∈ before.since after, ¬mark event := by
    intro before after course mark member event happened marked
    obtain ⟨notAllowed, notWork⟩ := silent mark member event marked
    exact (course.of_mem_since happened).elim notAllowed notWork
  refine ⟨follows_bind (follows.mono fun _ _ => trivial) fun answer => (reveals answer).follows, ?_⟩
  intro scenario limit run result after last ended happened unspoilt
  rcases bind_cases ended with ⟨_, _, endedFirst⟩ | ⟨answer, between, mid, endedFirst, endedNext⟩
  · obtain ⟨mark, member⟩ := List.exists_mem_of_ne_nil marks some
    obtain ⟨event, early, marked⟩ := happened mark member
    exact absurd marked (unheard (follows.course endedFirst) mark member event early)
  · have course := follows.course endedFirst
    rw [course.since_trans ((reveals answer).follows.course endedNext)] at happened unspoilt
    refine (reveals answer).isOk endedNext (fun mark member => ?_)
      fun event late => unspoilt event (List.mem_append_right _ late)
    obtain ⟨event, whenever, marked⟩ := happened mark member
    rcases List.mem_append.mp whenever with early | late
    · exact absurd marked (unheard course mark member event early)
    · exact ⟨event, late, marked⟩

end Operation

namespace Builtin

variable {State : Type} {world : World State} {scenario after : Scenario}
  {limit : Option Instant} {run last : Run State}

open Operation

/-- A node has exited, with a code that fits. -/
def exits (fits : Int → Prop) (event : Event) : Prop :=
  ∃ node timeout code, fits code ∧ event = .waited node timeout (.ok (some code))

/-- The answer to a shard query is as expected. -/
def finds (query : ShardQuery) (event : Event) : Prop :=
  ∃ node, ∃ response : Response, query.predicate.holds response.rowCount = true ∧
    event = .answered node (.single query.statement []) (.ok response)

/-- The events that decide a scenario: where they have all happened and nothing spoils it, it has
succeeded. -/
def decisive (load : Nat) : Builtin → List (Event → Prop)
  | signal => [exits (· = 0)]
  | primaries => [finds .noneUnassigned]
  | full => [finds .noneUnassigned]
  | none => [finds .someUnassigned]
  | concurrent => [exits fun _ => True, stops load]

/-- The events that spoil a scenario. -/
def spoils (load : Nat) : Builtin → Event → Prop
  | concurrent => Event.Blames load
  | _ => fun _ => False

/-- A scenario that succeeds is decided, and not spoilt. -/
theorem Succeeds.decided {builtin : Builtin} {config : Config} {free : Nat} {events : List Event}
    (succeeds : builtin.Succeeds config free events) :
    ∃ load, (∀ mark ∈ builtin.decisive load, ∃ event ∈ events, mark event) ∧
      ∀ event ∈ events, ¬builtin.spoils load event := by
  obtain ⟨nodes, left, code, before, verdict, _, _, _, found, order⟩ := succeeds
  have exit : ∀ fits : Int → Prop, fits code → ∃ event ∈ events, exits fits event := by
    intro fits fit
    let exited : Event := .waited left config.decommission.timeout (.ok (some code))
    obtain ⟨_, member, rfl⟩ := order.exists_of_mem (show (· = exited) ∈ _ by simp [exited])
    exact ⟨_, member, left, _, code, fit, rfl⟩
  have judged : ∀ {asked : Node} {query : ShardQuery} {fits : Int → Prop},
      verdict = findings asked query fits →
      (∀ count, fits count → query.predicate.holds count = true) →
      ∀ mark ∈ [finds query], ∃ event ∈ events, mark event := by
    rintro asked query fits rfl holds mark member
    cases List.mem_singleton.mp member
    obtain ⟨event, member, response, fit, rfl⟩ := order.exists_of_mem
      (List.mem_append_right _ (List.mem_of_getElem? (i := 3) rfl))
    exact ⟨_, member, asked, response, holds _ fit, rfl⟩
  cases found with
  | signal clean =>
      refine ⟨0, fun mark member => ?_, fun _ _ => not_false⟩
      cases List.mem_singleton.mp member
      exact exit _ clean
  | primaries _ _ => exact ⟨0, judged rfl fun _ => beq_iff_eq.mpr, fun _ _ => not_false⟩
  | full _ _ => exact ⟨0, judged rfl fun _ => beq_iff_eq.mpr, fun _ _ => not_false⟩
  | none _ _ => exact ⟨0, judged rfl fun _ => decide_eq_true, fun _ _ => not_false⟩
  | @concurrent first load stands blameless =>
      refine ⟨load, fun mark member => ?_, blameless⟩
      rcases List.mem_cons.mp member with rfl | last
      · exact exit _ trivial
      · cases List.mem_singleton.mp last
        exact order.exists_of_mem (List.mem_append_right _ List.mem_cons_self)

/-- Neither bringing clusters up and down nor arranging anything decides a scenario. -/
theorem silent_of_decisive {builtin : Builtin} {load : Nat} {mark : Event → Prop}
    (member : mark ∈ builtin.decisive load) {event : Event} (marked : mark event) :
    event.deed ≠ .work ∧ ¬Deed.Provides event.deed ∧ ¬Deed.Arranges event.deed := by
  have exited : ∀ {fits : Int → Prop}, exits fits event →
      event.deed ≠ .work ∧ ¬Deed.Provides event.deed ∧ ¬Deed.Arranges event.deed := by
    rintro fits ⟨_, _, _, _, rfl⟩
    simp [Event.deed, Deed.Provides, Deed.Lays, Deed.TakesDown, Deed.Arranges]
  have judged : ∀ {query : ShardQuery}, query ∈ [.noneUnassigned, .someUnassigned] →
      finds query event →
      event.deed ≠ .work ∧ ¬Deed.Provides event.deed ∧ ¬Deed.Arranges event.deed := by
    rintro query among ⟨_, _, _, rfl⟩
    refine ⟨by rintro ⟨⟩, ?_, fun arranges => arranges ⟨query, among, rfl⟩⟩
    simp only [List.mem_cons, List.not_mem_nil, or_false] at among
    rcases among with rfl | rfl
    · intro asks
      exact absurd (Request.single.inj asks).1 (by decide)
    · intro asks
      exact absurd (Request.single.inj asks).1 (by decide)
  cases builtin with
  | signal =>
      cases List.mem_singleton.mp member
      exact exited marked
  | primaries =>
      cases List.mem_singleton.mp member
      exact judged (by simp) marked
  | full =>
      cases List.mem_singleton.mp member
      exact judged (by simp) marked
  | none =>
      cases List.mem_singleton.mp member
      exact judged (by simp) marked
  | concurrent =>
      rcases List.mem_cons.mp member with rfl | last
      · exact exited marked
      · cases List.mem_singleton.mp last
        obtain ⟨_, rfl⟩ := marked
        simp [Event.deed, Deed.Provides, Deed.Lays, Deed.TakesDown, Deed.Arranges]

/-- A node that was seen to exit has left. -/
theorem isOk_of_exits {index : Nat} {timeout : Duration} {result : Except ScenarioError Int}
    {fits : Int → Prop}
    (ended : Scenario.decommission world index timeout scenario limit run =
      (some (result, after), last))
    (exited : ∃ event ∈ run.since last, exits fits event) : ∃ code, fits code ∧ result = .ok code := by
  obtain ⟨_, member, node, longest, code, fit, rfl⟩ := exited
  rcases Scenario.decommission_eq_some ended with
    ⟨_, _, _, rfl⟩ | ⟨harness, left, answer, _, leaves, rfl, _⟩
  · simp at member
  rcases Harness.decommission_eq_some leaves with ⟨_, _, _, rfl⟩ | ⟨_, _, endedLeave, _⟩
  · simp at member
  rw [Harness.ok_of_mem_since_leave endedLeave member]
  exact ⟨code, fit, rfl⟩

variable {spoilt : Event → Prop}

/-- A wait for the shards in which the answer was as expected has ended well. -/
theorem reveals_awaitInvariant (query : ShardQuery) (deadline : Option Duration) :
    Reveals world [finds query] spoilt (Scenario.awaitInvariant world query deadline) := by
  have silent : ∀ {may : Deed → Prop},
      (∀ node, ¬may (.ask node (.single query.statement []))) →
      ∀ mark ∈ [finds query], ∀ event, mark event →
        ¬Deed.Within may (.write event) ∧ event.deed ≠ .work := by
    intro may none mark member event marked
    cases List.mem_singleton.mp member
    obtain ⟨node, _, _, rfl⟩ := marked
    exact ⟨none node, nofun⟩
  let nothing : Deed → Prop := Deed.Within fun _ => False
  have holds : Follows world nothing (Scenario.cluster : ScenarioM State Harness) :=
    Scenario.follows_cluster
  have stands : Follows world nothing (Scenario.current : ScenarioM State Scenario) :=
    Scenario.follows_current
  refine .after holds (silent fun _ => id) (by simp) fun harness => ?_
  refine .after stands (silent fun _ => id) (by simp) fun here => ?_
  refine .after (Scenario.follows_actOnCluster harness.follows_pickLive) (silent fun _ => id) (by simp)
    fun node => ?_
  have awaits : ∀ verifier : Verifier,
      Follows world (Deed.Within fun _ => True) (Scenario.act (verifier.awaitInvariant world node query)) :=
    fun verifier => Scenario.follows_act (verifier.follows_awaitInvariant trivial)
  refine ⟨follows_bind ((awaits _).mono fun _ _ => trivial) fun awaited => ?_, ?_⟩
  · cases awaited with
    | ok response => exact follows_pure _
    | error error => exact follows_throw _
  · intro scenario limit run result after last ended happened unspoilt
    obtain ⟨_, member, answering, response, holds, rfl⟩ := happened _ List.mem_cons_self
    rcases bind_cases ended with ⟨_, _, endedAct⟩ | ⟨awaited, _, mid, endedAct, endedNext⟩
    · obtain ⟨_, ⟨⟩, _⟩ := Scenario.act_eq_some endedAct
    obtain ⟨_, same, rfl, endedAwait⟩ := Scenario.act_eq_some endedAct
    cases same
    cases awaited with
    | ok found =>
        obtain ⟨rfl, _⟩ := pure_eq_some endedNext
        rfl
    | error error =>
        obtain ⟨_, _, rfl⟩ := throw_eq_some endedNext
        obtain ⟨_, _, endedNow, endedRounds⟩ := Action.bind_eq_some.mp endedAwait
        cases endedNow
        obtain ⟨_, ⟨⟩⟩ := Verifier.ok_of_mem_since endedRounds member holds

/-- Judging the shards has succeeded where the answer was as expected. -/
theorem reveals_judgeShards (query : ShardQuery) (code : Int) :
    Reveals world [finds query] spoilt (judgeShards world query code) := by
  have waits : Reveals world [finds query] spoilt (Scenario.awaitInvariant world query Option.none) :=
    reveals_awaitInvariant query Option.none
  refine ⟨follows_bind (follows_attempt waits.follows) fun _ => follows_pure _, ?_⟩
  intro scenario limit run result after last ended happened unspoilt
  rcases bind_cases ended with ⟨failure, _, endedWait⟩ | ⟨_, _, _, _, endedText⟩
  · obtain ⟨value, awaited, same⟩ := attempt_eq_some endedWait
    have isOk := waits.isOk awaited happened unspoilt
    cases value <;> simp_all [Except.isOk, Except.toBool, Except.mapError]
  · obtain ⟨rfl, _⟩ := pure_eq_some endedText
    rfl

/-- A node leaves and the shards are judged, which has succeeded where the answer was as expected. -/
theorem reveals_leaveAndJudge (index : Nat) (query : ShardQuery) :
    Reveals world [finds query] spoilt (leave world index >>= judgeShards world query) := by
  refine .after (follows_leave index) ?_ (by simp) fun code => reveals_judgeShards query code
  intro mark member event marked
  cases List.mem_singleton.mp member
  obtain ⟨_, _, _, rfl⟩ := marked
  exact ⟨fun ⟨_, _, asks⟩ => asks, nofun⟩

/-- A node leaves, which has succeeded where it has exited with code 0. -/
theorem reveals_signal :
    Reveals world [exits (· = 0)] spoilt (do
      let code ← leave world 0
      if code = 0 then return "node exited with code 0"
      else throw (.unmet ("node stopped with exit code " ++ toString code ++ ", expected 0")) :
        BodyM State String) := by
  constructor
  · refine follows_bind ((follows_leave 0).mono fun _ _ => trivial) fun code => ?_
    split
    · exact follows_pure _
    · exact follows_throw _
  · intro scenario limit run result after last ended happened unspoilt
    have exited := happened _ List.mem_cons_self
    have left : ∀ {value mid between},
        leave world 0 scenario limit run = (some (value, between), mid) →
        (∃ event ∈ run.since mid, exits (· = 0) event) → value = .ok 0 := by
      intro value mid between endedLeave happened
      obtain ⟨value, leaves, rfl⟩ := leave_eq_some endedLeave
      obtain ⟨_, rfl, rfl⟩ := isOk_of_exits leaves happened
      rfl
    rcases bind_cases ended with ⟨failure, _, endedLeave⟩ | ⟨code, _, mid, endedLeave, endedText⟩
    · cases left endedLeave exited
    · split at endedText
      · obtain ⟨rfl, _⟩ := pure_eq_some endedText
        rfl
      · obtain ⟨_, _, rfl⟩ := throw_eq_some endedText
        cases left endedLeave exited
        contradiction

/-- A node leaves under load, which has succeeded where it has exited, the workload was stopped, and
nothing has blamed it. -/
theorem reveals_underLoad (load : Nat) :
    Reveals world [exits fun _ => True, stops load] (Event.Blames load)
      (underLoad world : BodyM State String) := by
  refine ⟨follows_underLoad, ?_⟩
  intro scenario limit run result after last ended happened blameless
  have exited := happened _ List.mem_cons_self
  obtain ⟨_, stopped, records, rfl⟩ := happened _ (List.mem_cons_of_mem _ List.mem_cons_self)
  rcases underLoad_eq_some ended with
    ⟨_, _, _, rfl⟩ |
    ⟨node, position, started, left, leftRun, errors, _, starts, leaves, stopping, found⟩
  · simp at stopped
  have loads : Run.Course world (Deed.Within Deed.Loads) run started :=
    (Action.follows_startLoad (by trivial) _ _ _).course starts
  have leaving := (Scenario.follows_decommission _ _).course leaves
  have stop : Run.Course world (Deed.Within fun _ => True) leftRun last :=
    (Action.follows_stopLoad trivial _).course stopping
  obtain ⟨meanwhile, written, work, _⟩ := Action.stopLoad_eq_some stopping
  have since : run.since last =
      run.since started ++ (started.since leftRun ++ leftRun.since last) := by
    rw [loads.since_trans (leaving.any.trans stop.any), leaving.since_trans stop]
  refine found.mpr ⟨?_, ?_⟩
  · obtain ⟨event, member, marked⟩ := exited
    have here : event ∈ started.since leftRun := by
      obtain ⟨_, _, _, _, rfl⟩ := marked
      rw [since, written] at member
      simp only [List.mem_append, List.mem_singleton, reduceCtorEq, or_false] at member
      rcases member with early | here | late
      · rcases loads.of_mem_since early with ⟨⟨⟩⟩ | ⟨⟨⟩⟩
      · exact here
      · cases work _ late
    obtain ⟨_, _, rfl⟩ := isOk_of_exits leaves ⟨event, here, marked⟩
    rfl
  · -- Only the workload that was started here has been stopped.
    have here : load = position := by
      rw [since, written] at stopped
      simp only [List.mem_append, List.mem_singleton] at stopped
      rcases stopped with early | here | late | ⟨⟨⟩⟩
      · rcases loads.of_mem_since early with ⟨⟨⟩⟩ | ⟨⟨⟩⟩
      · rcases leaving.of_mem_since here with ⟨_, ⟨⟩⟩ | ⟨⟨⟩⟩
      · cases work _ late
      · rfl
    subst here
    have owed := Action.owed_eq_of_stopLoad .refl starts leaving.any stopping .refl
    exact owed.symm.trans (Event.owed_eq_nil_iff.mpr blameless)

/-- Every body has succeeded where what decides its scenario has happened and nothing spoils it. -/
theorem reveals_body (load : Nat) (builtin : Builtin) :
    Reveals world (builtin.decisive load) (builtin.spoils load) (builtin.body world) := by
  have provides : ∀ mark ∈ builtin.decisive load, ∀ event, mark event →
      ¬Deed.Within Deed.Provides (.write event) ∧ event.deed ≠ .work := fun mark member event marked =>
    ⟨(silent_of_decisive member marked).2.1, (silent_of_decisive member marked).1⟩
  have arranges : ∀ mark ∈ builtin.decisive load, ∀ event, mark event →
      ¬Deed.Within Deed.Arranges (.write event) ∧ event.deed ≠ .work := fun mark member event marked =>
    ⟨(silent_of_decisive member marked).2.2, (silent_of_decisive member marked).1⟩
  cases builtin with
  | signal =>
      exact .after (follows_attempt (Scenario.follows_provision _)) provides (by simp [decisive])
        fun _ => reveals_signal
  | primaries =>
      refine .after (follows_attempt (Scenario.follows_provision _)) provides (by simp [decisive])
        fun _ => ?_
      refine .after (arranges_createTable 4 0) arranges (by simp [decisive]) fun _ => ?_
      refine .after arranges_seedTwoRows arranges (by simp [decisive]) fun _ => ?_
      refine .after (arranges_pushSettings _) arranges (by simp [decisive]) fun _ => ?_
      exact reveals_leaveAndJudge 0 .noneUnassigned
  | full =>
      refine .after (follows_attempt (Scenario.follows_provision _)) provides (by simp [decisive])
        fun _ => ?_
      refine .after (arranges_createTable 4 1) arranges (by simp [decisive]) fun _ => ?_
      refine .after arranges_seedTwoRows arranges (by simp [decisive]) fun _ => ?_
      refine .after (arranges_pushSettings _) arranges (by simp [decisive]) fun _ => ?_
      exact reveals_leaveAndJudge 0 .noneUnassigned
  | none =>
      refine .after (follows_attempt (Scenario.follows_provision _)) provides (by simp [decisive])
        fun _ => ?_
      refine .after (arranges_createTable 8 0) arranges (by simp [decisive]) fun _ => ?_
      refine .after arranges_refresh arranges (by simp [decisive]) fun _ => ?_
      refine .after (arranges_insertRows _) arranges (by simp [decisive]) fun _ => ?_
      refine .after arranges_refresh arranges (by simp [decisive]) fun _ => ?_
      refine .after (arranges_pushSettings _) arranges (by simp [decisive]) fun _ => ?_
      exact reveals_leaveAndJudge 0 .someUnassigned
  | concurrent =>
      refine .after (follows_attempt (Scenario.follows_provision _)) provides (by simp [decisive])
        fun _ => ?_
      refine .after (arranges_createTable 4 1) arranges (by simp [decisive]) fun _ => ?_
      refine .after (arranges_pushSettings _) arranges (by simp [decisive]) fun _ => ?_
      refine .after (arranges_drawRows _) arranges (by simp [decisive]) fun rows => ?_
      have looks : Operation.Follows world (Deed.Within Deed.Arranges) (table : BodyM State String) :=
        follows_table
      refine .after looks arranges (by simp [decisive]) fun table => ?_
      refine .after (arranges_executeBulk 0 rows) arranges (by simp [decisive]) fun _ => ?_
      refine .after arranges_refresh arranges (by simp [decisive]) fun _ => ?_
      refine .after (arranges_pushSettings _) arranges (by simp [decisive]) fun _ => ?_
      exact reveals_underLoad load

/-- Whatever the surroundings do, a built-in scenario that was run passes exactly if, in this order, the
nodes of a cluster of its size were started and reported each other, every statement and every setting
of its setup was answered well, its node was asked to leave and seen to exit, and what was found
afterwards is as it has to be: the exit code for `signal`, and the answer of a node that was running and
had not left for `primaries`, `full` and `none`. For `concurrent` a workload was started before its node
was asked to leave and stopped after that, and no answer to one of its workers in the whole run was an
error that is not benign. -/
theorem passed_iff_succeeds {config : Config} {builtin : Builtin} {outcome : Outcome}
    (ended : builtin.run world config limit run = (some outcome, last)) :
    outcome.passed = true ↔ builtin.Succeeds config run.nodes (run.since last) := by
  obtain ⟨result, after, bodyEnd, dropped, endedBody, endedDrop, endedDown, _, verdict⟩ :=
    run_eq_some ended
  have drops := (Scenario.follows_dropTable _).course endedDrop
  have downs := Scenario.follows_teardown.course endedDown
  rw [verdict]
  constructor
  · intro isOk
    cases result with
    | error failure => cases isOk
    | ok text => exact succeeds_of_body endedBody (drops.any.trans downs.any)
  · intro succeeds
    obtain ⟨load, decided, unspoilt⟩ := succeeds.decided
    have body := (reveals_body load builtin).follows.course endedBody
    have since : run.since last =
        run.since bodyEnd ++ (bodyEnd.since dropped ++ dropped.since last) := by
      rw [body.since_trans (drops.any.trans downs.any), drops.since_trans downs]
    rw [since] at decided unspoilt
    refine (reveals_body load builtin).isOk endedBody (fun mark member => ?_)
      fun event early => unspoilt event (List.mem_append_left _ early)
    obtain ⟨event, happened, marked⟩ := decided mark member
    obtain ⟨notWork, notProvides, notArranges⟩ := silent_of_decisive member marked
    refine ⟨event, ?_, marked⟩
    simp only [List.mem_append] at happened
    rcases happened with here | dropping | downing
    · exact here
    · rcases drops.of_mem_since dropping with asks | work
      · exact absurd (Deed.arranges_of_asks not_judges_dropStatement _ asks) notArranges
      · exact absurd work notWork
    · rcases downs.of_mem_since downing with down | work
      · exact absurd (Deed.provides_of_takesDown _ down) notProvides
      · exact absurd work notWork

/-- In obliging surroundings a node leaves, its primaries move away, and the scenario passes. -/
theorem passed_iff_succeeds_of_obliging :
    ∃ outcome last,
      primaries.run World.obliging {} Option.none World.obligingStart = (some outcome, last) ∧
        outcome.passed = true ∧ primaries.Succeeds {} 0 (World.obligingStart.since last) := by
  have passes : (primaries.run World.obliging {} Option.none World.obligingStart).1.map (·.passed) =
      some true := by
    decide +kernel
  rcases ended : primaries.run World.obliging {} Option.none World.obligingStart with
    ⟨_ | outcome, last⟩
  · rw [ended] at passes
    cases passes
  · rw [ended] at passes
    have passed : outcome.passed = true := Option.some.inj passes
    exact ⟨outcome, last, rfl, passed, (passed_iff_succeeds ended).mp passed⟩

end Builtin

end GracefulStop
