import GracefulStop.Proofs.Cluster.Answers
import GracefulStop.Proofs.Cluster.Upkeep
import GracefulStop.Proofs.Run.Obliging
import GracefulStop.Proofs.Scenario.Course

/-!
# Histories of a cluster

What is asked of a cluster is an order. Orders may come in any sequence, and each may end in any way: it
may succeed, fail, or be cut off. Between them other things may happen that are not asked of the cluster.
A history is such a sequence. It leaves the nodes of the cluster as they are, and a node that is marked
as left stays marked.
-/

namespace GracefulStop

namespace Harness

variable {State : Type}

/-- What can be asked of a cluster. -/
inductive Order where
  | start
  | awaitQuorum (longest : Option Duration)
  | pushSettings (settings : KeyMap Json)
  | execute (statement : String) (params : List Json)
  /-- A scenario of some name that holds the cluster waits for a state of the shards. -/
  | awaitInvariant (name : String) (config : Config) (query : ShardQuery)
      (deadline : Option Duration)
  | decommission (index : Nat) (timeout : Duration)
  | teardown

namespace Order

/-- What is done for an order, and the cluster as it is afterwards. -/
def perform (world : World State) (harness : Harness) : Order → Action State Harness
  | start => do
    let _ ← harness.start world
    pure harness
  | awaitQuorum longest => do
    let _ ← harness.awaitQuorum world longest
    pure harness
  | pushSettings settings => do
    let _ ← harness.pushSettings world settings
    pure harness
  | execute statement params => do
    let _ ← harness.execute world statement params
    pure harness
  | awaitInvariant name config query deadline => do
    let outcome ← Scenario.awaitInvariant world query deadline ⟨name, config, some harness⟩
    pure (outcome.2.harness.getD harness)
  | decommission index timeout => do
    let outcome ← harness.decommission world index timeout
    pure outcome.2
  | teardown => do
    harness.teardown world
    pure harness

/-- The deeds of an order. -/
def Does (harness : Harness) : Order → Deed → Prop
  | start, deed => ∃ handle ∈ harness.handles, deed = .start handle.node ∨ deed = .stop handle.node
  | awaitQuorum _, deed => Deed.Asks (.single membershipQuery []) deed
  | pushSettings settings, deed => Deed.Sets settings deed
  | execute statement params, deed => Deed.Asks (.single statement params) deed
  | awaitInvariant _ _ query _, deed => Deed.Asks (.single query.statement []) deed
  | decommission index timeout, deed =>
    ∃ node, harness.node? index = .ok node ∧ Deed.Leaves node timeout deed
  | teardown, deed => ∃ handle ∈ harness.handles, deed = .stop handle.node

variable {world : World State} {harness : Harness} {order : Order} {limit : Option Instant}
  {run last : Run State} {outcome : Option Harness}

theorem follows_perform (order : Order) (harness : Harness) :
    (order.perform world harness).Follows world (Deed.Within (order.Does harness)) := by
  cases order with
  | start =>
      apply Action.follows_bind _ fun _ => Action.follows_pure _
      apply follows_start
      · exact fun handle member => ⟨handle, member, .inl rfl⟩
      · exact fun handle member => ⟨handle, member, .inr rfl⟩
  | awaitQuorum longest =>
      exact Action.follows_bind (harness.follows_awaitQuorum longest) fun _ => Action.follows_pure _
  | pushSettings settings =>
      exact Action.follows_bind (harness.follows_pushSettings settings) fun _ => Action.follows_pure _
  | execute statement params =>
      exact Action.follows_bind (harness.follows_execute statement params) fun _ =>
        Action.follows_pure _
  | awaitInvariant name config query deadline =>
      exact Action.follows_bind (Scenario.follows_awaitInvariant query deadline _) fun _ =>
        Action.follows_pure _
  | decommission index timeout =>
      apply Action.follows_bind _ fun _ => Action.follows_pure _
      exact harness.follows_decommission fun node found deed leaves => ⟨node, found, leaves⟩
  | teardown =>
      apply Action.follows_bind _ fun _ => Action.follows_pure _
      exact follows_stopAll fun handle member => ⟨handle, member, rfl⟩

/-- An action after which the cluster is as it was. -/
theorem getD_of_pure {Result : Type} {action : Action State Result}
    (ended : (do
      let _ ← action
      pure harness : Action State Harness) limit run = (outcome, last)) :
    outcome.getD harness = harness := by
  rcases came : action limit run with ⟨_ | result, between⟩
  · rw [Action.bind_of_eq_none came] at ended
    cases ended
    rfl
  · rw [Action.bind_of_eq_some came] at ended
    cases ended
    rfl

/-- An order leaves the cluster as it is, or marks a node that has left. -/
theorem perform_cases (ended : order.perform world harness limit run = (outcome, last)) :
    outcome.getD harness = harness ∨
      ∃ index timeout node code, order = .decommission index timeout ∧
        harness.node? index = .ok node ∧
        leave world node timeout limit run = (some (.ok code), last) ∧
        outcome.getD harness = harness.markLeft index := by
  cases order with
  | start => exact .inl (getD_of_pure ended)
  | awaitQuorum longest => exact .inl (getD_of_pure ended)
  | pushSettings settings => exact .inl (getD_of_pure ended)
  | execute statement params => exact .inl (getD_of_pure ended)
  | teardown => exact .inl (getD_of_pure ended)
  | awaitInvariant name config query deadline =>
      left
      rcases came : Scenario.awaitInvariant world query deadline ⟨name, config, some harness⟩ limit run
        with ⟨_ | ⟨result, after⟩, between⟩
      · rw [perform, Action.bind_of_eq_none came] at ended
        cases ended
        rfl
      · rw [perform, Action.bind_of_eq_some came] at ended
        cases ended
        have same : after.harness = some harness :=
          congrArg Scenario.harness ((Scenario.spares_awaitInvariant query deadline).eq came)
        simp [same]
  | decommission index timeout =>
      rcases came : harness.decommission world index timeout limit run with
        ⟨_ | ⟨result, after⟩, between⟩
      · rw [perform, Action.bind_of_eq_none came] at ended
        cases ended
        exact .inl rfl
      · rw [perform, Action.bind_of_eq_some came] at ended
        cases ended
        rcases decommission_eq_some came with ⟨_, _, rfl, _⟩ | ⟨node, found, left, rfl⟩
        · exact .inl rfl
        · cases result with
          | error error => exact .inl rfl
          | ok code => exact .inr ⟨index, timeout, node, code, rfl, found, left, rfl⟩

end Order

/-- The clusters, each with its run, that a cluster comes to by orders that fit, each of which may end
in any way, and by other deeds aside from them. -/
inductive History (world : World State) (fits : Harness → Order → Prop) (aside : Deed → Prop)
    (first : Harness) (base : Run State) : Harness → Run State → Prop
  | begin : History world fits aside first base first base
  | order {harness : Harness} {run last : Run State} {outcome : Option Harness} (order : Order)
      {limit : Option Instant} (history : History world fits aside first base harness run)
      (fit : fits harness order)
      (ended : order.perform world harness limit run = (outcome, last)) :
      History world fits aside first base (outcome.getD harness) last
  | aside {harness : Harness} {run last : Run State}
      (history : History world fits aside first base harness run)
      (course : Run.Course world (Deed.Within aside) run last) :
      History world fits aside first base harness last

/-- A cluster with the same nodes, of which at least the same are marked as left. -/
structure Keeps (first harness : Harness) : Prop where
  nodes : harness.handles.map Handle.node = first.handles.map Handle.node
  left : ∀ (index : Nat) (handle : Handle), first.handles[index]? = some handle →
    handle.decommissioned = true → harness.handles[index]? = some handle

theorem Keeps.refl (harness : Harness) : harness.Keeps harness := ⟨rfl, fun _ _ found _ => found⟩

theorem Keeps.trans {first between last : Harness} (early : first.Keeps between)
    (late : between.Keeps last) : first.Keeps last where
  nodes := late.nodes.trans early.nodes
  left index handle found marked := late.left index handle (early.left index handle found marked) marked

theorem keeps_markLeft (harness : Harness) (index : Nat) : harness.Keeps (harness.markLeft index) where
  nodes := harness.nodes_markLeft index
  left := by
    rintro other ⟨node, _⟩ found rfl
    simp only [markLeft, List.getElem?_modify, found, Option.map_eq_map, Option.map_some]
    split <;> rfl

namespace History

variable {world : World State} {fits : Harness → Order → Prop} {aside : Deed → Prop}
  {first harness : Harness} {base run : Run State}

theorem course (history : History world fits aside first base harness run) :
    Run.Course world (fun _ => True) base run := by
  induction history with
  | begin => exact .refl
  | order order history fit ended ih => exact ih.trans ((order.follows_perform _).course ended).any
  | aside history course ih => exact ih.trans course.any

theorem keeps (history : History world fits aside first base harness run) :
    first.Keeps harness := by
  induction history with
  | begin => exact .refl first
  | order order history fit ended ih =>
      rcases Order.perform_cases ended with same | ⟨index, _, _, _, _, _, _, same⟩
      · rwa [same]
      · rw [same]
        exact ih.trans (keeps_markLeft _ index)
  | aside history course ih => exact ih

end History

/-! ## A cluster in obliging surroundings -/

/-- A cluster of two nodes in obliging surroundings. -/
def obligingPair : Option (Except ClusterError Harness) × Run (List Nat) :=
  provision World.obliging "pair" 2 [] {} none World.obligingStart

/-- A cluster, with its run, after an order in obliging surroundings. -/
def afterOrder (order : Order) (state : Harness × Run (List Nat)) : Harness × Run (List Nat) :=
  let came := order.perform World.obliging state.1 none state.2
  (came.1.getD state.1, came.2)

theorem History.after {fits : Harness → Order → Prop} {aside : Deed → Prop} {first harness : Harness}
    {base run : Run (List Nat)} (history : History World.obliging fits aside first base harness run)
    (order : Order) (fit : fits harness order) :
    History World.obliging fits aside first base (afterOrder order (harness, run)).1
      (afterOrder order (harness, run)).2 :=
  history.order order fit rfl

end Harness

end GracefulStop
