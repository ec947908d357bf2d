import GracefulStop.Proofs.Scenario.Ends
import GracefulStop.Proofs.Scenario.Orphans

/-!
# Bodies leave things tidy

In a run that was idle when a scenario began, things stay tidy at every exit of its body: every node
that is alive belongs to the cluster that the scenario holds, and no worker is at work. In between a
workload may be under way, whose workers are then the only ones. Where things are tidy a body comes to
an end, in surroundings that answer in time.
-/

namespace GracefulStop

namespace Deed

/-- What launches and starts no node and no workload. -/
def Still : Deed → Prop
  | .launch _ => False
  | .start _ => False
  | .load _ => False
  | _ => True

/-- Where it is still it is quiet. -/
theorem quiet_of_still (deed : Deed) (still : Within Still deed) : Within Quiet deed := by
  unfold Within at *
  revert still
  cases deed.about <;> simp [Still, Quiet]

/-- To arrange something is still. -/
theorem still_of_arranges (deed : Deed) (arranges : Within Arranges deed) : Within Still deed := by
  unfold Within at *
  revert arranges
  cases deed.about <;> simp [Arranges, Still]

/-- To ask for something is still. -/
theorem still_of_asks {request : Request} (deed : Deed) (asks : Within (Asks request) deed) :
    Within Still deed := by
  unfold Within at *
  revert asks
  cases deed.about <;> simp [Asks, Still]

/-- To make a node leave is still. -/
theorem still_of_decommissions {timeout : Duration} (deed : Deed)
    (leaves : Within (Decommissions timeout) deed) : Within Still deed := by
  obtain ⟨node, leaves⟩ := leaves
  unfold Within
  revert leaves
  cases deed.about <;> simp [Leaves, Still]

end Deed

namespace Scenario

variable {State : Type} {world : World State}

/-- A scenario in a run: its nodes are guarded, and no worker is at work except perhaps those of
workloads at some positions. -/
structure Tidy (live : world.Liveness) (config : Config) (base : Run State) (busy : Nat → Prop)
    (here : Scenario × Run State) : Prop where
  guarded : Guarded live base here.1 here.2
  gathered : here.2.Gathered
  timely : here.2.Timely
  rests : here.2.Rests busy
  configured : here.1.config = config

variable {live : world.Liveness} {config : Config} {base : Run State} {busy : Nat → Prop}
  {scenario after : Scenario} {limit : Option Instant} {run last : Run State}

namespace Tidy

/-- What is still and leaves the nodes of the cluster as they are leaves things tidy. -/
theorem still (tidy : Tidy live config base busy (scenario, run))
    (course : Run.Course world (Deed.Within Deed.Still) run last)
    (nodes : after.nodes = scenario.nodes) (same : after.config = scenario.config) :
    Tidy live config base busy (after, last) where
  guarded := tidy.guarded.quiet (course.mono Deed.quiet_of_still) nodes
  gathered := course.gathered tidy.gathered
  timely := course.timely tidy.timely
  rests := course.rests (fun _ => not_false) tidy.rests
  configured := same.trans tidy.configured

/-- Providing a cluster leaves things tidy. -/
theorem provision (tidy : Tidy live config base busy (scenario, run)) {count : Nat}
    {result : Except ScenarioError Unit}
    (ended : Scenario.provision world count scenario limit run = (some (result, after), last)) :
    Tidy live config base busy (after, last) := by
  have course := (follows_provision count).course ended
  obtain ⟨_, _, same, _⟩ := provision_eq_some ended
  refine ⟨(tidy.guarded.provision ended).1, course.gathered tidy.gathered, course.timely tidy.timely,
    course.rests (fun _ allowed => ?_) tidy.rests, ?_⟩
  · exact allowed.elim id id
  · exact (congrArg Scenario.config same).trans tidy.configured

/-- A node that leaves, or does not, leaves things tidy. -/
theorem decommission (tidy : Tidy live config base busy (scenario, run)) {index : Nat}
    {timeout : Duration} {result : Except ScenarioError Int}
    (ended : Scenario.decommission world index timeout scenario limit run =
      (some (result, after), last)) :
    Tidy live config base busy (after, last) := by
  have course := ((follows_decommission index timeout).mono Deed.still_of_decommissions).course ended
  refine tidy.still course (nodes_decommission ended) ?_
  rcases decommission_eq_some ended with ⟨_, _, rfl, _⟩ | ⟨_, _, _, _, _, _, rfl⟩ <;> rfl

end Tidy

/-- An operation leaves things tidy whatever it comes to, and comes to something in surroundings that
answer in time. -/
structure Tidies (live : world.Liveness) (config : Config) (base : Run State) {Error Result : Type}
    (operation : Operation State Error Result) : Prop where
  leaves : operation.Relates fun before after =>
    Tidy live config base (fun _ => False) before → Tidy live config base (fun _ => False) after
  ends : ∀ {latest}, world.Prompt latest → config.Paced latest → ∀ scenario run,
    Tidy live config base (fun _ => False) (scenario, run) → operation.EndsFrom config scenario run

open Operation

section Tidies

variable {Error Answer Result : Type}

theorem tidies_bind {first : Operation State Error Answer}
    {next : Answer → Operation State Error Result} (tidiesFirst : Tidies live config base first)
    (tidiesNext : ∀ answer, Tidies live config base (next answer)) :
    Tidies live config base (first >>= next : Operation State Error Result) where
  leaves := relates_bind (fun _ _ _ one two tidy => two (one tidy)) tidiesFirst.leaves
    fun answer => (tidiesNext answer).leaves
  ends prompt paced scenario run tidy :=
    endsFrom_bind (tidiesFirst.ends prompt paced scenario run tidy) fun answer between mid ended _ =>
      (tidiesNext answer).ends prompt paced between mid (tidiesFirst.leaves _ _ _ _ _ _ ended tidy)

theorem tidies_pure (value : Result) :
    Tidies live config base (pure value : Operation State Error Result) where
  leaves := relates_pure (fun _ => id) value
  ends _ _ scenario run tidy := ends_pure value scenario run tidy.configured

theorem tidies_throw (error : Error) :
    Tidies live config base (throw error : Operation State Error Result) where
  leaves := relates_throw (fun _ => id) error
  ends _ _ scenario run tidy := ends_throw error scenario run tidy.configured

/-- What is still and leaves the scenario as it is leaves things tidy. -/
theorem tidies_of_spares {operation : Operation State Error Result} (spares : operation.Spares)
    (follows : operation.Follows world (Deed.Within Deed.Still))
    (ends : ∀ {latest}, world.Prompt latest → config.Paced latest → operation.Ends config) :
    Tidies live config base operation where
  leaves := by
    intro scenario limit run result after last ended tidy
    cases spares.eq ended
    exact tidy.still (follows.course ended) rfl rfl
  ends prompt paced scenario run tidy := ends prompt paced scenario run tidy.configured

end Tidies

end Scenario

namespace Builtin

open Operation Scenario

variable {State : Type} {world : World State} {live : world.Liveness} {config : Config}
  {base : Run State}

theorem tidies_provision (count : Nat) :
    Tidies live config base (attempt (provision world count)) where
  leaves := relates_attempt fun _ _ _ _ _ _ ended tidy => tidy.provision ended
  ends prompt paced scenario run tidy :=
    ends_attempt (ends_provision prompt paced count) scenario run tidy.configured

theorem tidies_table : Tidies live config base (table : BodyM State String) :=
  tidies_of_spares spares_table follows_table fun _ _ => ends_table

theorem tidies_createTable (shards replicas : Nat) :
    Tidies live config base (createTable world shards replicas) :=
  tidies_of_spares (spares_createTable _ _)
    ((arranges_createTable _ _).mono Deed.still_of_arranges) fun prompt _ =>
      ends_createTable prompt _ _

theorem tidies_refresh : Tidies live config base (refresh world) :=
  tidies_of_spares spares_refresh (arranges_refresh.mono Deed.still_of_arranges) fun prompt _ =>
    ends_refresh prompt

theorem tidies_seedTwoRows : Tidies live config base (seedTwoRows world) :=
  tidies_of_spares spares_seedTwoRows (arranges_seedTwoRows.mono Deed.still_of_arranges)
    fun prompt _ => ends_seedTwoRows prompt

theorem tidies_pushSettings (settings : KeyMap Json) :
    Tidies live config base (attempt (Scenario.pushSettings world settings)) :=
  tidies_of_spares (relates_attempt (spares_pushSettings settings))
    ((arranges_pushSettings settings).mono Deed.still_of_arranges) fun prompt _ =>
      ends_attempt (ends_pushSettings prompt settings)

theorem tidies_insertRows (ids : List Nat) : Tidies live config base (insertRows world ids) :=
  tidies_of_spares (spares_insertRows ids) ((arranges_insertRows ids).mono Deed.still_of_arranges)
    fun prompt _ => ends_insertRows prompt ids

theorem tidies_drawRows (ids : List Nat) :
    Tidies live config base (drawing (bulkRows world.draw ids)) :=
  tidies_of_spares (spares_drawing _) ((arranges_drawRows ids).mono Deed.still_of_arranges)
    fun _ _ => ends_drawing _

theorem tidies_executeBulk (context : String) (index : Nat) (statement : String)
    (rows : List (List Json)) :
    Tidies live config base
      (attemptAs context (Scenario.executeBulk world index statement rows)) :=
  tidies_of_spares (relates_attemptAs (spares_executeBulk index statement rows))
    ((arranges_executeBulk index rows).mono Deed.still_of_arranges) fun prompt _ =>
      ends_attemptAs (ends_executeBulk prompt index statement rows)

theorem tidies_leave (index : Nat) : Tidies live config base (leave world index) where
  leaves := by
    intro scenario limit run result after last ended tidy
    obtain ⟨_, left, _⟩ := leave_eq_some ended
    exact tidy.decommission left
  ends prompt paced scenario run tidy := ends_leave prompt paced index scenario run tidy.configured

theorem tidies_judgeShards (query : ShardQuery) (code : Int) :
    Tidies live config base (judgeShards world query code) :=
  tidies_of_spares (spares_judgeShards query code)
    ((follows_judgeShards query code).mono Deed.still_of_asks) fun _ paced =>
      ends_judgeShards paced query code

/-- What is done under load leaves things tidy: whatever the node does that is asked to leave, the
workload has been stopped in the end. -/
theorem tidies_underLoad : Tidies live config base (underLoad world) where
  leaves := by
    intro scenario limit run result after last ended tidy
    rcases underLoad_eq_some ended with
      ⟨_, _, rfl, rfl⟩ |
      ⟨node, position, started, left, leftRun, errors, _, starts, leaves, stops, _⟩
    · exact tidy
    have loads : Run.Course world (Deed.Within Deed.Loads) run started :=
      (Action.follows_startLoad (by trivial) _ _ _).course starts
    have quiet : Run.Course world (Deed.Within Deed.Quiet) run started :=
      loads.mono (Deed.quiet_of (fun _ => id) fun _ => id)
    have loaded : Tidy live config base (· = position) (scenario, started) :=
      ⟨tidy.guarded.quiet quiet rfl, loads.gathered tidy.gathered, loads.timely tidy.timely,
        (Action.startLoad_eq_some starts).2.2 tidy.rests, tidy.configured⟩
    have leaving := loaded.decommission leaves
    obtain ⟨meanwhile, _, _, idle⟩ := Action.stopLoad_eq_some stops
    have stopping : Run.Course world (Deed.Within Deed.Still) leftRun last :=
      (Action.follows_stopLoad (by trivial) _).course stops
    have stopped := leaving.still stopping rfl rfl
    exact ⟨stopped.guarded, stopped.gathered, stopped.timely, idle leaving.gathered leaving.rests,
      stopped.configured⟩
  ends prompt paced scenario run tidy :=
    endsFrom_underLoad prompt paced tidy.configured tidy.gathered tidy.timely tidy.rests

/-- Every body leaves things tidy, wherever it ends, and ends in surroundings that answer in time. -/
theorem tidies_body (builtin : Builtin) : Tidies live config base (builtin.body world) := by
  cases builtin with
  | signal =>
      refine tidies_bind (tidies_provision _) fun _ => tidies_bind (tidies_leave 0) fun code => ?_
      split
      · exact tidies_pure _
      · exact tidies_throw _
  | primaries =>
      refine tidies_bind (tidies_provision _) fun _ => tidies_bind (tidies_createTable 4 0) fun _ => ?_
      refine tidies_bind tidies_seedTwoRows fun _ => tidies_bind (tidies_pushSettings _) fun _ => ?_
      exact tidies_bind (tidies_leave 0) fun code => tidies_judgeShards _ code
  | full =>
      refine tidies_bind (tidies_provision _) fun _ => tidies_bind (tidies_createTable 4 1) fun _ => ?_
      refine tidies_bind tidies_seedTwoRows fun _ => tidies_bind (tidies_pushSettings _) fun _ => ?_
      exact tidies_bind (tidies_leave 0) fun code => tidies_judgeShards _ code
  | none =>
      refine tidies_bind (tidies_provision _) fun _ => tidies_bind (tidies_createTable 8 0) fun _ => ?_
      refine tidies_bind tidies_refresh fun _ => ?_
      refine tidies_bind (tidies_insertRows _) fun _ => ?_
      refine tidies_bind tidies_refresh fun _ => tidies_bind (tidies_pushSettings _) fun _ => ?_
      exact tidies_bind (tidies_leave 0) fun code => tidies_judgeShards _ code
  | concurrent =>
      refine tidies_bind (tidies_provision _) fun _ => tidies_bind (tidies_createTable 4 1) fun _ => ?_
      refine tidies_bind (tidies_pushSettings _) fun _ => ?_
      refine tidies_bind (tidies_drawRows _) fun rows => ?_
      refine tidies_bind tidies_table fun table => ?_
      refine tidies_bind (tidies_executeBulk _ 0 _ rows) fun _ => ?_
      refine tidies_bind tidies_refresh fun _ => tidies_bind (tidies_pushSettings _) fun _ => ?_
      exact tidies_underLoad

end Builtin

end GracefulStop
