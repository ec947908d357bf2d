import GracefulStop.Proofs.Cluster.Ends
import GracefulStop.Proofs.Scenario.Bodies

/-!
# Scenarios in surroundings that answer in time

What a scenario does comes to a result, or to an error, in surroundings that answer in time, if its
configuration leaves pauses between looks and does not let it wait for ever. Stopping a workload is the
only operation that also asks something of the run.
-/

namespace GracefulStop

/-- A configuration that leaves pauses between looks and lets nothing wait for ever, where a node that is
asked to leave is given no longer than some time. -/
structure Config.Paced (config : Config) (latest : Duration) : Prop where
  members : 0 < config.quorum.pollIntervalMillis
  shards : 0 < config.verify.pollIntervalMillis
  limited : config.quorum.timeoutSeconds.isSome
  leaving : config.decommission.timeout ≤ latest

theorem Duration.nanos_ofMillis_pos {millis : Nat} (positive : 0 < millis) :
    0 < (ofMillis millis).nanos := by
  simp only [ofMillis]
  omega

variable {State : Type} {world : World State} {config : Config} {latest : Duration}

namespace Operation

variable {Error Answer Result : Type} {scenario : Scenario} {run : Run State}

/-- An operation that, done in some run, comes to a result or an error, and keeps the configuration. -/
def EndsFrom (config : Config) (scenario : Scenario) (run : Run State)
    (operation : Operation State Error Result) : Prop :=
  ∃ result after last, operation scenario none run = (some (result, after), last) ∧
    after.config = config

/-- An operation that comes to a result or an error in every scenario of some configuration. -/
def Ends (config : Config) (operation : Operation State Error Result) : Prop :=
  ∀ scenario run, scenario.config = config → operation.EndsFrom config scenario run

theorem endsFrom_bind {first : Operation State Error Answer}
    {next : Answer → Operation State Error Result} (ends : first.EndsFrom config scenario run)
    (rest : ∀ answer between mid, first scenario none run = (some (.ok answer, between), mid) →
      between.config = config → (next answer).EndsFrom config between mid) :
    EndsFrom config scenario run (first >>= next : Operation State Error Result) := by
  obtain ⟨answer, between, mid, endedFirst, same⟩ := ends
  cases answer with
  | ok answer =>
      obtain ⟨result, after, last, endedNext, keeps⟩ := rest answer between mid endedFirst same
      exact ⟨result, after, last, Action.bind_eq_some.mpr ⟨_, mid, endedFirst, endedNext⟩, keeps⟩
  | error error =>
      exact ⟨.error error, between, mid, Action.bind_eq_some.mpr ⟨_, mid, endedFirst, rfl⟩, same⟩

theorem ends_bind {first : Operation State Error Answer}
    {next : Answer → Operation State Error Result} (endsFirst : first.Ends config)
    (endsNext : ∀ answer, (next answer).Ends config) :
    Ends config (first >>= next : Operation State Error Result) :=
  fun scenario run same => endsFrom_bind (endsFirst scenario run same) fun answer between mid _ =>
    endsNext answer between mid

theorem ends_pure (value : Result) : Ends config (pure value : Operation State Error Result) :=
  fun scenario run same => ⟨.ok value, scenario, run, rfl, same⟩

theorem ends_throw (error : Error) : Ends config (throw error : Operation State Error Result) :=
  fun scenario run same => ⟨.error error, scenario, run, rfl, same⟩

end Operation

namespace Scenario

open Operation

variable {Result : Type}

theorem endsFrom_act {action : Action State Result} {scenario : Scenario} {run : Run State}
    (ends : action.EndsFrom run) (same : scenario.config = config) :
    EndsFrom config scenario run (act action) := by
  obtain ⟨result, last, ended⟩ := ends
  exact ⟨.ok result, scenario, last, Action.bind_eq_some.mpr ⟨result, last, ended, rfl⟩, same⟩

theorem ends_act {action : Action State Result} (ends : action.Ends) : Ends config (act action) :=
  fun _ run same => endsFrom_act (ends run) same

theorem ends_actOnCluster {action : Action State (Except ClusterError Result)} (ends : action.Ends) :
    Ends config (actOnCluster action) := by
  intro scenario run same
  obtain ⟨result, last, ended⟩ := ends run
  cases result with
  | ok result =>
      exact ⟨.ok result, scenario, last, Action.bind_eq_some.mpr ⟨_, last, ended, rfl⟩, same⟩
  | error error =>
      exact ⟨.error (.cluster error), scenario, last,
        Action.bind_eq_some.mpr ⟨_, last, ended, rfl⟩, same⟩

theorem ends_current : Ends config (current : ScenarioM State Scenario) :=
  fun scenario run same => ⟨.ok scenario, scenario, run, rfl, same⟩

theorem ends_cluster : Ends config (cluster : ScenarioM State Harness) := by
  rintro ⟨name, config, _ | harness⟩ run same
  · exact ⟨_, _, run, rfl, same⟩
  · exact ⟨_, _, run, rfl, same⟩

theorem ends_setHarness (harness : Option Harness) :
    Ends config (setHarness harness : ScenarioM State Unit) :=
  fun scenario run same => ⟨.ok (), { scenario with harness }, run, rfl, same⟩

theorem ends_teardown : Ends config (teardown world) := by
  refine ends_bind ends_current fun scenario => ?_
  cases scenario.harness with
  | none => exact ends_pure _
  | some harness =>
      exact ends_bind (ends_setHarness _) fun _ => ends_act (Harness.ends_stopAll _)

/-- The operation that follows a look at the scenario is given it as it stands. -/
theorem ends_current_bind {next : Scenario → ScenarioM State Result}
    (ends : ∀ scenario, scenario.config = config → Ends config (next scenario)) :
    Ends config (current >>= next : ScenarioM State Result) :=
  fun scenario run same => ends scenario same scenario run same

theorem ends_startWorkload (index : Nat) (kinds : List OperationKind) (perKind : Nat) :
    Ends config (startWorkload index kinds perKind : ScenarioM State Nat) := by
  refine ends_bind ends_cluster fun harness => ?_
  cases harness.node? index with
  | error error => exact ends_throw _
  | ok node =>
      exact ends_bind ends_current fun _ => ends_act (Action.ends_startLoad _ _ _ _)

/-- Starts a cluster that has been laid out, awaits its members, and keeps it. -/
def startUp (world : World State) (harness : Harness) (longest : Option Duration) :
    ScenarioM State Unit := do
  actOnCluster (harness.start world)
  match ← act (harness.awaitQuorum world longest) with
  | .ok () => setHarness (some harness)
  | .error error =>
    act (harness.teardown world)
    throw (.cluster error)

theorem ends_provision (prompt : world.Prompt latest) (paced : config.Paced latest) (count : Nat) :
    Ends config (provision world count) := by
  refine ends_bind ends_teardown fun _ => ends_current_bind fun scenario configured => ?_
  obtain ⟨longest, limited⟩ := Option.isSome_iff_exists.mp paced.limited
  intro before run same
  refine endsFrom_bind (ends_actOnCluster (Harness.ends_provision _ _ _ _) _ _ same)
    fun harness between mid ended same => ?_
  obtain ⟨made | _, provided, _, endedProvide⟩ := actOnCluster_eq_some ended
  · cases provided
  cases provided
  have poll : 0 < harness.quorumPoll.nanos := by
    rw [(Harness.provided_of_provision endedProvide).quorumPoll, configured]
    exact Duration.nanos_ofMillis_pos paced.members
  suffices rest : Ends config (startUp world harness scenario.config.quorum.timeout) from
    rest between mid same
  refine ends_bind (ends_actOnCluster (Harness.ends_start prompt harness)) fun _ => ?_
  have awaits : (harness.awaitQuorum world scenario.config.quorum.timeout).Ends := by
    rw [configured, QuorumSettings.timeout, limited]
    exact Harness.ends_awaitQuorum (Harness.ends_execute prompt _ _ _) poll _
  refine ends_bind (ends_act awaits) fun awaited => ?_
  cases awaited with
  | ok _ => exact ends_setHarness _
  | error error => exact ends_bind (ends_act (Harness.ends_stopAll _)) fun _ => ends_throw _

theorem ends_awaitInvariant (paced : config.Paced latest) (query : ShardQuery)
    (deadline : Option Duration) : Ends config (awaitInvariant world query deadline) := by
  refine ends_bind ends_cluster fun harness => ends_current_bind fun scenario configured => ?_
  refine ends_bind (ends_actOnCluster harness.ends_pickLive) fun node => ?_
  have poll : 0 < scenario.config.verify.pollInterval.nanos := by
    rw [configured]
    exact Duration.nanos_ofMillis_pos paced.shards
  refine ends_bind (ends_act (Verifier.ends_awaitInvariant node query poll)) fun awaited => ?_
  cases awaited with
  | ok response => exact ends_pure _
  | error error => exact ends_throw _

variable (prompt : world.Prompt latest)

include prompt

theorem ends_decommission (index : Nat) {timeout : Duration} (inTime : timeout ≤ latest) :
    Ends config (decommission world index timeout) := by
  refine ends_bind ends_cluster fun harness => ?_
  refine ends_bind (ends_act (Harness.ends_decommission prompt harness index inTime)) ?_
  rintro ⟨result, left⟩
  refine ends_bind (ends_setHarness _) fun _ => ?_
  cases result with
  | ok code => exact ends_pure _
  | error error => exact ends_throw _

theorem ends_pushSettings (settings : KeyMap Json) : Ends config (pushSettings world settings) :=
  ends_bind ends_cluster fun harness =>
    ends_actOnCluster (Harness.ends_pushSettings prompt harness settings)

theorem ends_execute (statement : String) (params : List Json) :
    Ends config (execute world statement params) :=
  ends_bind ends_cluster fun harness =>
    ends_actOnCluster (Harness.ends_execute prompt harness statement params)

theorem ends_executeBulk (index : Nat) (statement : String) (rows : List (List Json)) :
    Ends config (executeBulk world index statement rows) := by
  refine ends_bind ends_cluster fun harness => ?_
  cases harness.node? index with
  | error error => exact ends_throw _
  | ok node =>
      refine ends_bind (ends_act (Action.ends_query prompt node _)) fun answer => ?_
      cases answer with
      | ok response => exact ends_pure _
      | error error => exact ends_throw _

theorem ends_dropTable (table : String) : Ends config (dropTable world table) := by
  refine ends_bind ends_current fun scenario => ?_
  cases scenario.harness with
  | none => exact ends_pure _
  | some harness =>
      exact ends_bind (ends_act (Harness.ends_execute prompt harness _ _)) fun _ => ends_pure _

end Scenario

namespace Builtin

open Operation

variable {Result : Type}

theorem endsFrom_attempt {operation : ScenarioM State Result} {scenario : Scenario} {run : Run State}
    (ends : Operation.EndsFrom config scenario run operation) :
    Operation.EndsFrom config scenario run (attempt operation) := by
  obtain ⟨result, after, last, ended, keeps⟩ := ends
  cases result with
  | ok result => exact ⟨.ok result, after, last, Action.bind_eq_some.mpr ⟨_, last, ended, rfl⟩, keeps⟩
  | error error =>
      exact ⟨.error (.failed Option.none error), after, last,
        Action.bind_eq_some.mpr ⟨_, last, ended, rfl⟩, keeps⟩

theorem ends_attempt {operation : ScenarioM State Result} (ends : Operation.Ends config operation) :
    Operation.Ends config (attempt operation) :=
  fun scenario run same => endsFrom_attempt (ends scenario run same)

theorem ends_attemptAs {context : String} {operation : ScenarioM State Result}
    (ends : Operation.Ends config operation) :
    Operation.Ends config (attemptAs context operation) := by
  intro scenario run same
  obtain ⟨result, after, last, ended, keeps⟩ := ends scenario run same
  cases result with
  | ok result => exact ⟨.ok result, after, last, Action.bind_eq_some.mpr ⟨_, last, ended, rfl⟩, keeps⟩
  | error error =>
      exact ⟨.error (.failed (some context) error), after, last,
        Action.bind_eq_some.mpr ⟨_, last, ended, rfl⟩, keeps⟩

theorem ends_observe {operation : ScenarioM State Result} (ends : Operation.Ends config operation) :
    Operation.Ends config (observe operation) := by
  intro scenario run same
  obtain ⟨result, after, last, ended, keeps⟩ := ends scenario run same
  exact ⟨.ok result, after, last, Action.bind_eq_some.mpr ⟨_, last, ended, rfl⟩, keeps⟩

theorem ends_table : Operation.Ends config (table : BodyM State String) :=
  fun scenario run same => ⟨.ok scenario.table, scenario, run, rfl, same⟩

theorem ends_drawing (draw : State → Result × State) : Operation.Ends config (drawing draw) :=
  ends_attempt (Scenario.ends_act (Action.ends_onState draw))

theorem ends_judgeShards (paced : config.Paced latest) (query : ShardQuery) (code : Int) :
    Operation.Ends config (judgeShards world query code) :=
  ends_bind (ends_attempt (Scenario.ends_awaitInvariant paced query _)) fun _ => ends_pure _

variable (prompt : world.Prompt latest)

include prompt

theorem ends_attemptExecute (context statement : String) (params : List Json) :
    Operation.Ends config (do
      let _ ← attemptAs context (Scenario.execute world statement params) : BodyM State Unit) :=
  ends_bind (ends_attemptAs (Scenario.ends_execute prompt _ _)) fun _ => ends_pure _

theorem ends_createTable (shards replicas : Nat) :
    Operation.Ends config (createTable world shards replicas) :=
  ends_bind ends_table fun _ => ends_attemptExecute prompt _ _ _

theorem ends_refresh : Operation.Ends config (refresh world) :=
  ends_bind ends_table fun _ => ends_attemptExecute prompt _ _ _

theorem ends_seedTwoRows : Operation.Ends config (seedTwoRows world) :=
  ends_bind ends_table fun _ =>
    ends_bind (ends_attemptAs (Scenario.ends_execute prompt _ _)) fun _ => ends_refresh prompt

theorem ends_insertRows (ids : List Nat) : Operation.Ends config (insertRows world ids) := by
  induction ids with
  | nil => exact ends_pure _
  | cons id rest ih =>
      refine ends_bind (ends_drawing _) fun name => ends_bind ends_table fun table => ?_
      exact ends_bind (ends_attemptAs (Scenario.ends_execute prompt _ _)) fun _ => ih

/-- The time that a node has to leave is the one of the configuration. -/
theorem ends_leave (paced : config.Paced latest) (index : Nat) :
    Operation.Ends config (leave world index) := by
  rintro scenario run rfl
  exact endsFrom_bind ⟨_, scenario, run, rfl, rfl⟩ fun timeout between mid ended same => by
    obtain ⟨⟨⟩, rfl, rfl⟩ := decommissionTimeout_eq_some ended
    exact ends_attempt (Scenario.ends_decommission prompt index paced.leaving) between mid same

/-- What is done under load comes to an end where no other workload is under way. -/
theorem endsFrom_underLoad (paced : config.Paced latest) {scenario : Scenario} {run : Run State}
    (same : scenario.config = config) (gathered : run.Gathered) (timely : run.Timely)
    (idle : run.Idle) : Operation.EndsFrom config scenario run (underLoad world) := by
  refine endsFrom_bind (ends_attempt Scenario.ends_current _ _ same) fun _ _ _ ended _ => ?_
  cases ended
  refine endsFrom_bind (ends_attempt (Scenario.ends_startWorkload _ _ _) _ _ same)
    fun position loaded started ended _ => ?_
  rcases startWorkload_eq_some (attempt_ok ended) with ⟨_, ⟨⟩, _⟩ | ⟨node, _, _, ⟨⟩, rfl, starts⟩
  refine endsFrom_bind ⟨_, loaded, started, rfl, same⟩ fun timeout timed waiting ended _ => ?_
  obtain ⟨⟨⟩, rfl, rfl⟩ := decommissionTimeout_eq_some ended
  have inTime : timed.config.decommission.timeout ≤ latest := same ▸ paced.leaving
  refine endsFrom_bind (ends_observe (Scenario.ends_decommission prompt 1 inTime) _ _ same)
    fun left after leftRun ended same => ?_
  obtain ⟨_, leaves, _⟩ := observe_eq_some ended
  -- The workload that was started is still the only one under way.
  have loads : Run.Course world (Deed.Within Deed.Loads) run waiting :=
    (Action.follows_startLoad (by trivial) _ _ _).course starts
  have leaving := (Scenario.follows_decommission _ _).course leaves
  have rests : leftRun.Rests (· = position) :=
    leaving.rests (fun _ ⟨_, never⟩ => never) ((Action.startLoad_eq_some starts).2.2 idle)
  have gatheredLeft := leaving.gathered (loads.gathered gathered)
  have timelyLeft := leaving.timely (loads.timely timely)
  have looks : Operation.Ends config
      (attempt (Scenario.act (Action.workloadAt position)) : BodyM State Workload) :=
    ends_attempt (Scenario.ends_act (Action.ends_workloadAt position))
  refine endsFrom_bind (looks after leftRun same) fun workload _ _ ended _ => ?_
  cases ended
  refine endsFrom_bind (endsFrom_attempt (Scenario.endsFrom_act
    (Action.endsFrom_stopLoad prompt gatheredLeft timelyLeft rests) same))
    fun errors between mid ended same => ?_
  cases left with
  | error error => exact ends_throw _ between mid same
  | ok code =>
      dsimp only
      split
      · exact ends_pure _ between mid same
      · exact ends_throw _ between mid same

end Builtin

end GracefulStop
