import GracefulStop.Proofs.Cluster.Course
import GracefulStop.Scenario.Builtin

/-!
# Operations of scenarios

An operation takes a scenario and gives a result or an error, and a scenario. After one that failed
no other follows. What an operation may do is a set of deeds, whatever scenario it is given; and what
it makes of the scenario is told where it has come to a result or to an error.
-/

namespace GracefulStop

/-- An operation on a scenario, with errors of some type. -/
abbrev Operation (State Error Result : Type) := ExceptT Error (StateT Scenario (Action State)) Result

namespace Operation

variable {State Error Answer Result : Type} {world : World State} {may : Deed → Prop}
  {scenario after : Scenario} {limit : Option Instant} {run last : Run State}

/-- Two operations after each other, as actions. -/
theorem bind_apply (first : Operation State Error Answer)
    (next : Answer → Operation State Error Result) (scenario : Scenario) :
    (first >>= next : Operation State Error Result) scenario =
      (first scenario >>= fun pair => ExceptT.bindCont next pair.1 pair.2 :
        Action State (Except Error Result × Scenario)) := rfl

/-- The first of two operations after each other fails, or the second goes on from its answer. -/
theorem bind_cases {first : Operation State Error Answer}
    {next : Answer → Operation State Error Result} {result : Except Error Result}
    (ended : (first >>= next : Operation State Error Result) scenario limit run =
      (some (result, after), last)) :
    (∃ error, result = .error error ∧ first scenario limit run = (some (.error error, after), last)) ∨
      ∃ answer between mid, first scenario limit run = (some (.ok answer, between), mid) ∧
        next answer between limit mid = (some (result, after), last) := by
  rw [bind_apply] at ended
  obtain ⟨⟨answer, between⟩, mid, endedFirst, ended⟩ := Action.bind_eq_some.mp ended
  cases answer with
  | ok answer => exact .inr ⟨answer, between, mid, endedFirst, ended⟩
  | error error =>
      cases ended
      exact .inl ⟨error, rfl, endedFirst⟩

/-- Two operations after each other succeed if both do. -/
theorem bind_ok {first : Operation State Error Answer}
    {next : Answer → Operation State Error Result} {result : Result}
    (ended : (first >>= next : Operation State Error Result) scenario limit run =
      (some (.ok result, after), last)) :
    ∃ answer between mid, first scenario limit run = (some (.ok answer, between), mid) ∧
      next answer between limit mid = (some (.ok result, after), last) := by
  rcases bind_cases ended with ⟨_, ⟨⟩, _⟩ | succeeded
  exact succeeded

theorem pure_eq_some {value : Result} {result : Except Error Result}
    (ended : (pure value : Operation State Error Result) scenario limit run =
      (some (result, after), last)) : result = .ok value ∧ after = scenario ∧ last = run := by
  cases ended
  exact ⟨rfl, rfl, rfl⟩

theorem throw_eq_some {error : Error} {result : Except Error Result}
    (ended : (throw error : Operation State Error Result) scenario limit run =
      (some (result, after), last)) : result = .error error ∧ after = scenario ∧ last = run := by
  cases ended
  exact ⟨rfl, rfl, rfl⟩

/-- Whatever scenario an operation is given, it does only deeds of a set. -/
def Follows (world : World State) (may : Deed → Prop) (operation : Operation State Error Result) :
    Prop :=
  ∀ scenario, Action.Follows world may (operation scenario)

theorem Follows.course {operation : Operation State Error Result}
    (follows : operation.Follows world may) {result : Except Error Result}
    (ended : operation scenario limit run = (some (result, after), last)) :
    Run.Course world may run last :=
  (follows scenario).course ended

theorem Follows.mono {might : Deed → Prop} {operation : Operation State Error Result}
    (follows : operation.Follows world may) (wider : ∀ deed, may deed → might deed) :
    operation.Follows world might :=
  fun scenario => (follows scenario).mono wider

theorem follows_bind {first : Operation State Error Answer}
    {next : Answer → Operation State Error Result} (followsFirst : first.Follows world may)
    (followsNext : ∀ answer, (next answer).Follows world may) :
    Follows world may (first >>= next : Operation State Error Result) := by
  intro scenario
  rw [bind_apply]
  refine Action.follows_bind (followsFirst scenario) ?_
  rintro ⟨answer | answer, between⟩
  · exact Action.follows_pure _
  · exact followsNext answer between

theorem follows_pure (value : Result) :
    Follows world may (pure value : Operation State Error Result) :=
  fun _ => Action.follows_pure _

theorem follows_throw (error : Error) :
    Follows world may (throw error : Operation State Error Result) :=
  fun _ => Action.follows_pure _

/-- Whatever an operation comes to, what it was given and what it leaves are related. -/
def Relates (related : Scenario × Run State → Scenario × Run State → Prop)
    (operation : Operation State Error Result) : Prop :=
  ∀ scenario limit run result after last,
    operation scenario limit run = (some (result, after), last) →
    related (scenario, run) (after, last)

section Relates

variable {related : Scenario × Run State → Scenario × Run State → Prop}
  (same : ∀ state, related state state)
  (compose : ∀ first second third, related first second → related second third →
    related first third)

include compose in
theorem relates_bind {first : Operation State Error Answer}
    {next : Answer → Operation State Error Result} (relatesFirst : first.Relates related)
    (relatesNext : ∀ answer, (next answer).Relates related) :
    Relates related (first >>= next : Operation State Error Result) := by
  intro scenario limit run result after last ended
  rcases bind_cases ended with ⟨error, _, endedFirst⟩ | ⟨answer, between, mid, endedFirst, endedNext⟩
  · exact relatesFirst _ _ _ _ _ _ endedFirst
  · exact compose _ _ _ (relatesFirst _ _ _ _ _ _ endedFirst)
      (relatesNext answer _ _ _ _ _ _ endedNext)

include same in
theorem relates_pure (value : Result) :
    Relates related (pure value : Operation State Error Result) := by
  intro scenario limit run result after last ended
  obtain ⟨_, rfl, rfl⟩ := pure_eq_some ended
  exact same _

include same in
theorem relates_throw (error : Error) :
    Relates related (throw error : Operation State Error Result) := by
  intro scenario limit run result after last ended
  obtain ⟨_, rfl, rfl⟩ := throw_eq_some ended
  exact same _

end Relates

end Operation

namespace Scenario

variable {State Result : Type} {world : World State} {may : Deed → Prop}
  {scenario after : Scenario} {limit : Option Instant} {run last : Run State}

open Operation

/-- An action that cannot fail leaves the scenario as it is. -/
theorem act_eq_some {action : Action State Result} {result : Except ScenarioError Result}
    (ended : act action scenario limit run = (some (result, after), last)) :
    ∃ value, result = .ok value ∧ after = scenario ∧ action limit run = (some value, last) := by
  obtain ⟨value, between, endedAction, ended⟩ := Action.bind_eq_some.mp ended
  obtain ⟨same, rfl⟩ := Action.pure_eq_some.mp ended
  cases same
  exact ⟨value, rfl, rfl, endedAction⟩

/-- An action on the cluster leaves the scenario as it is. -/
theorem actOnCluster_eq_some {action : Action State (Except ClusterError Result)}
    {result : Except ScenarioError Result}
    (ended : actOnCluster action scenario limit run = (some (result, after), last)) :
    ∃ value, result = value.mapError .cluster ∧ after = scenario ∧
      action limit run = (some value, last) := by
  obtain ⟨value, between, endedAction, ended⟩ := Action.bind_eq_some.mp ended
  cases value with
  | ok value =>
      obtain ⟨same, rfl⟩ := Action.pure_eq_some.mp ended
      cases same
      exact ⟨.ok value, rfl, rfl, endedAction⟩
  | error error =>
      obtain ⟨same, rfl⟩ := Action.pure_eq_some.mp ended
      cases same
      exact ⟨.error error, rfl, rfl, endedAction⟩

theorem current_eq_some {result : Except ScenarioError Scenario}
    (ended : (current : ScenarioM State Scenario) scenario limit run =
      (some (result, after), last)) : result = .ok scenario ∧ after = scenario ∧ last = run := by
  cases ended
  exact ⟨rfl, rfl, rfl⟩

theorem cluster_eq_some {result : Except ScenarioError Harness}
    (ended : (cluster : ScenarioM State Harness) scenario limit run =
      (some (result, after), last)) :
    after = scenario ∧ last = run ∧ ∀ harness, result = .ok harness →
      scenario.harness = some harness := by
  rcases scenario with ⟨name, config, _ | harness⟩
  · cases ended
    exact ⟨rfl, rfl, nofun⟩
  · cases ended
    exact ⟨rfl, rfl, by simp⟩

theorem setHarness_eq_some {harness : Option Harness} {result : Except ScenarioError Unit}
    (ended : (setHarness harness : ScenarioM State Unit) scenario limit run =
      (some (result, after), last)) :
    result = .ok () ∧ after = { scenario with harness } ∧ last = run := by
  cases ended
  exact ⟨rfl, rfl, rfl⟩

theorem follows_act {action : Action State Result} (follows : action.Follows world may) :
    Follows world may (act action) :=
  fun _ => Action.follows_bind follows fun _ => Action.follows_pure _

theorem follows_actOnCluster {action : Action State (Except ClusterError Result)}
    (follows : action.Follows world may) : Follows world may (actOnCluster action) := by
  intro scenario
  refine Action.follows_bind follows fun result => ?_
  cases result <;> exact Action.follows_pure _

theorem follows_current : Follows world may (current : ScenarioM State Scenario) :=
  fun _ => Action.follows_pure _

theorem follows_cluster : Follows world may (cluster : ScenarioM State Harness) := by
  rintro ⟨name, config, _ | harness⟩ <;> exact Action.follows_pure _

theorem follows_setHarness (harness : Option Harness) :
    Follows world may (setHarness harness : ScenarioM State Unit) :=
  fun _ => Action.follows_pure _

/-- Who asks a node to leave, and what comes of it, if there is a cluster at all. -/
theorem decommission_eq_some {index : Nat} {timeout : Duration} {result : Except ScenarioError Int}
    (ended : decommission world index timeout scenario limit run = (some (result, after), last)) :
    (∃ error, result = .error error ∧ after = scenario ∧ last = run) ∨
      ∃ harness left answer, scenario.harness = some harness ∧
        harness.decommission world index timeout limit run = (some (answer, left), last) ∧
        result = answer.mapError .cluster ∧ after = { scenario with harness := some left } := by
  rcases bind_cases ended with ⟨error, failed, endedCluster⟩ | ⟨harness, _, _, endedCluster, rest⟩
  · obtain ⟨same, stays, _⟩ := cluster_eq_some endedCluster
    exact .inl ⟨error, failed, same, stays⟩
  clear ended
  obtain ⟨rfl, rfl, held⟩ := cluster_eq_some endedCluster
  rcases bind_cases rest with ⟨error, failed, endedLeave⟩ | ⟨⟨answer, left⟩, _, _, endedLeave, setting⟩
  · obtain ⟨_, ⟨⟩, _⟩ := act_eq_some endedLeave
  clear rest
  obtain ⟨_, same, rfl, leaves⟩ := act_eq_some endedLeave
  cases same
  rcases bind_cases setting with ⟨error, failed, endedSet⟩ | ⟨_, _, _, endedSet, telling⟩
  · obtain ⟨⟨⟩, _⟩ := setHarness_eq_some endedSet
  clear setting
  obtain ⟨_, rfl, rfl⟩ := setHarness_eq_some endedSet
  refine .inr ⟨harness, left, answer, held harness rfl, ?_⟩
  cases answer with
  | ok code =>
      obtain ⟨rfl, rfl, rfl⟩ := pure_eq_some telling
      exact ⟨leaves, rfl, rfl⟩
  | error error =>
      obtain ⟨rfl, rfl, rfl⟩ := throw_eq_some telling
      exact ⟨leaves, rfl, rfl⟩

end Scenario

end GracefulStop
