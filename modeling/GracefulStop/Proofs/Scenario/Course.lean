import GracefulStop.Proofs.Scenario.Operations

/-!
# Courses of scenarios

What the operations of a scenario and the parts of the built-in ones may do, and which of them leave
the scenario as it is.
-/

namespace GracefulStop

namespace Deed

/-- What is done to take a cluster down. -/
def TakesDown : Deed → Prop
  | .stop _ => True
  | _ => False

/-- What is done to lay out, start and await a cluster. -/
def Provides : Deed → Prop
  | .start _ => True
  | .ask _ request => request = .single Harness.membershipQuery []
  | .check _ => True
  | .draw => True
  | .pick _ => True
  | deed => Lays deed ∨ TakesDown deed

/-- What is done to make some node leave. -/
def Decommissions (timeout : Duration) (deed : Deed) : Prop := ∃ node, Leaves node timeout deed

/-- What is done to send rows to a node. -/
def SendsRows (request : Request) : Deed → Prop
  | .ask _ asked => asked = request
  | _ => False

/-- To take a cluster down is a part of providing one. -/
theorem provides_of_takesDown (deed : Deed) (down : Within TakesDown deed) : Within Provides deed := by
  unfold Within at *
  revert down
  cases deed.about <;> simp [TakesDown, Provides]

/-- What launches and starts no node. -/
def Quiet : Deed → Prop
  | .launch _ => False
  | .start _ => False
  | _ => True

/-- Where no node is launched or started it is quiet. -/
theorem quiet_of {may : Deed → Prop} (noLaunch : ∀ node, ¬may (.launch node))
    (noStart : ∀ node, ¬may (.start node)) (deed : Deed) (allowed : Within may deed) :
    Within Quiet deed := by
  unfold Within at *
  cases about : deed.about with
  | launch node => exact noLaunch node (about ▸ allowed)
  | start node => exact noStart node (about ▸ allowed)
  | _ => trivial

/-- What is done to start a workload. -/
def Loads : Deed → Prop
  | .load _ => True
  | _ => False

end Deed

variable {State : Type} {world : World State} {may : Deed → Prop}

namespace Operation

variable {Error Answer Result : Type}

/-- An operation that leaves the scenario as it is. -/
def Spares (operation : Operation State Error Result) : Prop :=
  operation.Relates fun before after => after.1 = before.1

theorem Spares.eq {operation : Operation State Error Result} (spares : operation.Spares)
    {scenario after : Scenario} {limit : Option Instant} {run last : Run State}
    {result : Except Error Result}
    (ended : operation scenario limit run = (some (result, after), last)) : after = scenario :=
  spares _ _ _ _ _ _ ended

theorem spares_bind {first : Operation State Error Answer}
    {next : Answer → Operation State Error Result} (sparesFirst : first.Spares)
    (sparesNext : ∀ answer, (next answer).Spares) :
    Spares (first >>= next : Operation State Error Result) :=
  relates_bind (fun _ _ _ one two => two.trans one) sparesFirst sparesNext

theorem spares_pure (value : Result) : Spares (pure value : Operation State Error Result) :=
  relates_pure (by exact fun _ => rfl) value

theorem spares_throw (error : Error) : Spares (throw error : Operation State Error Result) :=
  relates_throw (by exact fun _ => rfl) error

end Operation

namespace Scenario

open Operation

variable {Result : Type}

theorem spares_act (action : Action State Result) : Spares (act action) := by
  intro scenario limit run result after last ended
  obtain ⟨_, _, same, _⟩ := act_eq_some ended
  exact same

theorem spares_actOnCluster (action : Action State (Except ClusterError Result)) :
    Spares (actOnCluster action) := by
  intro scenario limit run result after last ended
  obtain ⟨_, _, same, _⟩ := actOnCluster_eq_some ended
  exact same

theorem spares_current : Spares (current : ScenarioM State Scenario) := by
  intro scenario limit run result after last ended
  exact (current_eq_some ended).2.1

theorem spares_cluster : Spares (cluster : ScenarioM State Harness) := by
  intro scenario limit run result after last ended
  exact (cluster_eq_some ended).1

theorem follows_teardown : Operation.Follows world (Deed.Within Deed.TakesDown) (teardown world) := by
  refine Operation.follows_bind follows_current fun scenario => ?_
  cases scenario.harness with
  | none => exact Operation.follows_pure _
  | some harness =>
      exact Operation.follows_bind (follows_setHarness _) fun _ =>
        follows_act (Harness.follows_stopAll fun _ _ => trivial)

theorem follows_provision (count : Nat) :
    Operation.Follows world (Deed.Within Deed.Provides) (provision world count) := by
  have asks : ∀ deed, Deed.Within (Deed.Asks (.single Harness.membershipQuery [])) deed →
      Deed.Within Deed.Provides deed := by
    intro deed
    unfold Deed.Within
    cases deed.about <;> simp [Deed.Asks, Deed.Provides]
  have lays : ∀ deed, Deed.Within Deed.Lays deed → Deed.Within Deed.Provides deed := by
    intro deed
    unfold Deed.Within
    cases deed.about <;> simp [Deed.Lays, Deed.Provides]
  have downs := Deed.provides_of_takesDown
  have takesDown : ∀ harness : Harness,
      (harness.teardown world).Follows world (Deed.Within Deed.Provides) := fun harness =>
    have stops : (harness.teardown world).Follows world (Deed.Within Deed.TakesDown) :=
      Harness.follows_stopAll fun _ _ => trivial
    stops.mono downs
  refine Operation.follows_bind (follows_teardown.mono downs) fun _ => ?_
  refine Operation.follows_bind follows_current fun scenario => ?_
  refine Operation.follows_bind
    (follows_actOnCluster ((Harness.follows_provision _ _ _ _).mono lays)) fun harness => ?_
  refine Operation.follows_bind (follows_actOnCluster
    (Harness.follows_start (fun _ _ => trivial) fun _ _ => .inr trivial)) fun _ => ?_
  refine Operation.follows_bind
    (follows_act ((harness.follows_awaitQuorum _).mono asks)) fun awaited => ?_
  cases awaited with
  | ok _ => exact follows_setHarness _
  | error error =>
      exact Operation.follows_bind (follows_act (takesDown harness)) fun _ =>
        Operation.follows_throw _

theorem follows_decommission (index : Nat) (timeout : Duration) :
    Operation.Follows world (Deed.Within (Deed.Decommissions timeout))
      (decommission world index timeout) := by
  refine Operation.follows_bind follows_cluster fun harness => ?_
  refine Operation.follows_bind
    (follows_act (harness.follows_decommission fun node _ deed leaves => ⟨node, leaves⟩)) ?_
  rintro ⟨result, left⟩
  refine Operation.follows_bind (follows_setHarness _) fun _ => ?_
  cases result with
  | ok code => exact Operation.follows_pure _
  | error error => exact Operation.follows_throw _

theorem follows_startWorkload (index : Nat) (kinds : List OperationKind) (perKind : Nat) :
    Operation.Follows world (Deed.Within Deed.Loads)
      (startWorkload index kinds perKind : ScenarioM State Nat) := by
  refine Operation.follows_bind follows_cluster fun harness => ?_
  cases harness.node? index with
  | ok node =>
      have loads : Deed.Loads (.load node) := trivial
      exact Operation.follows_bind follows_current fun _ =>
        follows_act (Action.follows_startLoad loads _ _ _)
  | error error => exact Operation.follows_throw _

theorem spares_startWorkload (index : Nat) (kinds : List OperationKind) (perKind : Nat) :
    Spares (startWorkload index kinds perKind : ScenarioM State Nat) := by
  refine spares_bind spares_cluster fun harness => ?_
  cases harness.node? index with
  | ok node => exact spares_bind spares_current fun _ => spares_act _
  | error error => exact spares_throw _

theorem follows_awaitInvariant (query : ShardQuery) (deadline : Option Duration) :
    Operation.Follows world (Deed.Within (Deed.Asks (.single query.statement [])))
      (awaitInvariant world query deadline) := by
  refine Operation.follows_bind follows_cluster fun harness => ?_
  refine Operation.follows_bind follows_current fun _ => ?_
  refine Operation.follows_bind
    (follows_actOnCluster (harness.follows_pickLive.mono Deed.asks_of_looks)) fun node => ?_
  refine Operation.follows_bind
    (follows_act (Verifier.follows_awaitInvariant _ (by rfl))) fun awaited => ?_
  cases awaited with
  | ok response => exact Operation.follows_pure _
  | error error => exact Operation.follows_throw _

theorem spares_awaitInvariant (query : ShardQuery) (deadline : Option Duration) :
    Spares (awaitInvariant world query deadline) := by
  refine spares_bind spares_cluster fun harness => ?_
  refine spares_bind spares_current fun _ => ?_
  refine spares_bind (spares_actOnCluster _) fun node => ?_
  refine spares_bind (spares_act _) fun awaited => ?_
  cases awaited with
  | ok response => exact spares_pure _
  | error error => exact spares_throw _

theorem follows_pushSettings (settings : KeyMap Json) :
    Operation.Follows world (Deed.Within (Deed.Sets settings)) (pushSettings world settings) :=
  Operation.follows_bind follows_cluster fun harness =>
    follows_actOnCluster (harness.follows_pushSettings settings)

theorem spares_pushSettings (settings : KeyMap Json) : Spares (pushSettings world settings) :=
  spares_bind spares_cluster fun _ => spares_actOnCluster _

theorem follows_execute (statement : String) (params : List Json) :
    Operation.Follows world (Deed.Within (Deed.Asks (.single statement params)))
      (execute world statement params) :=
  Operation.follows_bind follows_cluster fun harness =>
    follows_actOnCluster (harness.follows_execute statement params)

theorem spares_execute (statement : String) (params : List Json) :
    Spares (execute world statement params) :=
  spares_bind spares_cluster fun _ => spares_actOnCluster _

theorem follows_executeBulk (index : Nat) (statement : String) (rows : List (List Json)) :
    Operation.Follows world (Deed.Within (Deed.SendsRows (.bulk statement rows)))
      (executeBulk world index statement rows) := by
  refine Operation.follows_bind follows_cluster fun harness => ?_
  cases harness.node? index with
  | error error => exact Operation.follows_throw _
  | ok node =>
      refine Operation.follows_bind (follows_act (Action.follows_query (by rfl))) fun answer => ?_
      cases answer with
      | ok response => exact Operation.follows_pure _
      | error error => exact Operation.follows_throw _

theorem spares_executeBulk (index : Nat) (statement : String) (rows : List (List Json)) :
    Spares (executeBulk world index statement rows) := by
  refine spares_bind spares_cluster fun harness => ?_
  cases harness.node? index with
  | error error => exact spares_throw _
  | ok node =>
      refine spares_bind (spares_act _) fun answer => ?_
      cases answer with
      | ok response => exact spares_pure _
      | error error => exact spares_throw _

theorem follows_dropTable (table : String) :
    Operation.Follows world (Deed.Within (Deed.Asks (.single (dropStatement table) [])))
      (dropTable world table) := by
  refine Operation.follows_bind follows_current fun scenario => ?_
  cases scenario.harness with
  | none => exact Operation.follows_pure _
  | some harness =>
      exact Operation.follows_bind (follows_act (harness.follows_execute _ _)) fun _ =>
        Operation.follows_pure _

theorem spares_dropTable (table : String) : Spares (dropTable world table) := by
  refine spares_bind spares_current fun scenario => ?_
  cases scenario.harness with
  | none => exact spares_pure _
  | some harness => exact spares_bind (spares_act _) fun _ => spares_pure _

end Scenario

end GracefulStop
