import GracefulStop.Cluster.Harness
import GracefulStop.Proofs.Run.Touches
import GracefulStop.Shard.Await

/-!
# Courses of clusters

What the operations of a cluster may do, whatever the surroundings answer.
-/

namespace GracefulStop

namespace Deed

/-- What is done to pick a live node. -/
def Looks : Deed → Prop
  | .check _ => True
  | .draw => True
  | .pick _ => True
  | _ => False

/-- What is done to ask a live node for something. -/
def Asks (request : Request) : Deed → Prop
  | .check _ => True
  | .draw => True
  | .pick _ => True
  | .ask _ asked => asked = request
  | _ => False

/-- To ask a live node for something it is picked first. -/
theorem asks_of_looks {request : Request} (deed : Deed) (looks : Within Looks deed) :
    Within (Asks request) deed := by
  unfold Within at *
  revert looks
  cases deed.about <;> simp [Looks, Asks]

/-- What is done to set settings. -/
def Sets (settings : KeyMap Json) (deed : Deed) : Prop :=
  ∃ entry ∈ settings, Asks (.single (Harness.settingStatement entry.1) [entry.2]) deed

/-- What is done to lay out a cluster. -/
def Lays : Deed → Prop
  | .reserve => True
  | .lay => True
  | .launch _ => True
  | .connect _ => True
  | .keep _ => True
  | _ => False

/-- What is done to make a node leave. -/
def Leaves (node : Node) (timeout : Duration) : Deed → Prop
  | .signal left => left = node
  | .wait left longest => left = node ∧ longest = timeout
  | _ => False

end Deed

variable {State : Type} {world : World State} {may : Deed → Prop}

namespace Action

theorem follows_reservePorts (allowed : may .reserve) (size : Nat) :
    (reservePorts world size).Follows world (Deed.Within may) :=
  follows_onPorts allowed fun _ ports state => ports.touches_reserve size state

theorem follows_nextPort (allowed : may .reserve) : (nextPort world).Follows world (Deed.Within may) :=
  follows_onPorts allowed fun _ ports state => ports.touches_next state

theorem follows_pickOne (allowed : may .draw) {Item : Type} (items : List Item) :
    (pickOne world items).Follows world (Deed.Within may) := by
  have draws : Deed.Within may .draw := allowed
  exact follows_onState draws fun _ state =>
    Draw.touches_oneOf (fun _ _ => .draw _ _ _) items state

end Action

open GracefulStop.Action

/-- Repeated attempts do what an attempt does. -/
theorem follows_attemptsFrom {Answer : Type} {plan : BackoffPlan} {retryable : QueryError → Bool}
    {attempt : Action State (Except QueryError Answer)} (follows : attempt.Follows world may)
    (waited backoff : Duration) (enough : BackoffPlan.shortest ≤ backoff) :
    (attemptsFrom world plan retryable attempt waited backoff enough).Follows world may := by
  induction waited, backoff, enough using attemptsFrom.induct plan with
  | case1 waited backoff enough ih =>
      rw [attemptsFrom]
      refine follows_bind follows fun result => ?_
      cases result with
      | ok answer => exact follows_pure _
      | error error =>
          dsimp only
          split
          · split
            · exact follows_pure _
            · exact follows_bind (follows_sleep backoff) fun _ => ih ‹_›
          · exact follows_pure _

theorem RetryPolicy.follows_execute (policy : RetryPolicy) {node : Node} {statement : String}
    {params : List Json} (allowed : may (.ask node (.single statement params))) :
    (policy.execute world node statement params).Follows world (Deed.Within may) :=
  follows_attemptsFrom (follows_query allowed) _ _ _

theorem Verifier.follows_rounds (verifier : Verifier) {node : Node} {query : ShardQuery}
    (allowed : may (.ask node (.single query.statement []))) (began : Instant)
    (lastRowCount : Option Int) (tries : Nat) :
    (verifier.rounds world node query began lastRowCount tries).Follows world (Deed.Within may) := by
  induction tries generalizing lastRowCount with
  | zero => exact follows_stall
  | succ tries ih =>
      unfold Verifier.rounds
      refine follows_bind follows_now fun _ => ?_
      refine follows_bind (follows_within _ (verifier.policy.follows_execute allowed))
        fun outcome => ?_
      cases read query lastRowCount outcome with
      | settled response => exact follows_pure _
      | failed error => exact follows_pure _
      | unsettled lastRowCount =>
          refine follows_bind follows_now fun _ => ?_
          dsimp only
          split
          · exact follows_pure _
          · exact follows_bind (follows_sleep _) fun _ => ih lastRowCount

theorem Verifier.follows_awaitInvariant (verifier : Verifier) {node : Node} {query : ShardQuery}
    (allowed : may (.ask node (.single query.statement []))) :
    (verifier.awaitInvariant world node query).Follows world (Deed.Within may) :=
  follows_bind follows_now fun _ => verifier.follows_rounds allowed _ _ _

namespace Handle

theorem follows_isLive (handle : Handle) (allowed : may (.check handle.node)) :
    (handle.isLive world).Follows world (Deed.Within may) := by
  unfold isLive
  split
  · exact follows_pure _
  · exact follows_isRunning allowed

theorem follows_startAttempts {node : Node} (mayStart : may (.start node))
    (mayStop : may (.stop node)) (total left : Nat) (last : String) :
    (startAttempts world node total left last).Follows world (Deed.Within may) := by
  induction left generalizing last with
  | zero => exact follows_pure _
  | succ left ih =>
      unfold startAttempts
      refine follows_bind (follows_startNode mayStart) fun result => ?_
      cases result with
      | ok _ => exact follows_pure _
      | error error => exact follows_bind (follows_stopNode mayStop) fun _ => ih error.message

theorem follows_startWithRetry (handle : Handle) (mayStart : may (.start handle.node))
    (mayStop : may (.stop handle.node)) (attempts : Nat) :
    (handle.startWithRetry world attempts).Follows world (Deed.Within may) :=
  follows_startAttempts mayStart mayStop _ _ _

end Handle

namespace Harness

theorem follows_layNodes_within (mayReserve : may .reserve) (mayLay : may .lay)
    (mayLaunch : ∀ node, may (.launch node)) (mayConnect : ∀ node, may (.connect node))
    (shared : NodeSpec) (names : List String) :
    (layNodes world shared names).Follows world (Deed.Within may) := by
  induction names with
  | nil => exact follows_pure _
  | cons name rest ih =>
      unfold layNodes
      refine follows_bind (follows_nextPort mayReserve) fun reserved => ?_
      cases reserved with
      | error error => exact follows_pure _
      | ok httpPort =>
          refine follows_bind (follows_lay _ mayLay) fun node => ?_
          refine follows_bind (follows_launch (mayLaunch node)) fun launched => ?_
          cases launched with
          | error error => exact follows_pure _
          | ok _ =>
              refine follows_bind (follows_connect (mayConnect node)) fun connected => ?_
              cases connected with
              | error error => exact follows_pure _
              | ok _ =>
                  refine follows_bind ih fun handles => ?_
                  cases handles <;> exact follows_pure _

theorem follows_layNodes (shared : NodeSpec) (names : List String) :
    (layNodes world shared names).Follows world (Deed.Within Deed.Lays) :=
  follows_layNodes_within trivial trivial (fun _ => trivial) (fun _ => trivial) shared names

theorem follows_provision (name : String) (count : Nat) (settings : KeyMap String)
    (config : Config) :
    (provision world name count settings config).Follows world (Deed.Within Deed.Lays) := by
  unfold provision
  split
  · exact follows_pure _
  · refine follows_bind (follows_reservePorts trivial count) fun reserved => ?_
    cases reserved with
    | error error => exact follows_pure _
    | ok range =>
        refine follows_bind (follows_layNodes _ _) fun laid => ?_
        cases laid with
        | error error => exact follows_pure _
        | ok handles =>
            refine follows_bind (follows_keepManifest trivial) fun kept => ?_
            cases kept <;> exact follows_pure _

theorem follows_stopAll {handles : List Handle}
    (allowed : ∀ handle ∈ handles, may (.stop handle.node)) :
    (stopAll world handles).Follows world (Deed.Within may) := by
  induction handles with
  | nil => exact follows_pure _
  | cons handle rest ih =>
      refine follows_bind (follows_stopNode (allowed handle List.mem_cons_self)) fun _ => ?_
      exact ih fun other member => allowed other (List.mem_cons_of_mem _ member)

theorem follows_startAll {handles : List Handle}
    (mayStart : ∀ handle ∈ handles, may (.start handle.node))
    (mayStop : ∀ handle ∈ handles, may (.stop handle.node)) (attempts : Nat) :
    (startAll world attempts handles).Follows world (Deed.Within may) := by
  induction handles with
  | nil => exact follows_pure _
  | cons handle rest ih =>
      unfold startAll
      have head := List.mem_cons_self (a := handle) (l := rest)
      refine follows_bind (handle.follows_startWithRetry (mayStart _ head) (mayStop _ head) attempts)
        fun result => ?_
      cases result with
      | ok _ =>
          exact ih (fun other member => mayStart other (List.mem_cons_of_mem _ member))
            fun other member => mayStop other (List.mem_cons_of_mem _ member)
      | error error => exact follows_pure _

theorem follows_start {harness : Harness}
    (mayStart : ∀ handle ∈ harness.handles, may (.start handle.node))
    (mayStop : ∀ handle ∈ harness.handles, may (.stop handle.node)) :
    (harness.start world).Follows world (Deed.Within may) := by
  refine follows_bind (follows_startAll mayStart mayStop _) fun result => ?_
  cases result with
  | ok _ => exact follows_pure _
  | error error => exact follows_bind (follows_stopAll mayStop) fun _ => follows_pure _

theorem follows_liveNodes {handles : List Handle}
    (allowed : ∀ handle ∈ handles, may (.check handle.node)) :
    (liveNodes world handles).Follows world (Deed.Within may) := by
  induction handles with
  | nil => exact follows_pure _
  | cons handle rest ih =>
      refine follows_bind (handle.follows_isLive (allowed handle List.mem_cons_self)) fun _ => ?_
      refine follows_bind (ih fun other member => allowed other (List.mem_cons_of_mem _ member))
        fun _ => follows_pure _

theorem follows_pickLive (harness : Harness) :
    (harness.pickLive world).Follows world (Deed.Within Deed.Looks) := by
  refine follows_bind (follows_liveNodes fun _ _ => trivial) fun live => ?_
  refine follows_bind (follows_pickOne trivial live) fun picked => ?_
  cases picked with
  | some node => exact follows_bind (follows_note trivial nofun) fun _ => follows_pure _
  | none => exact follows_pure _

theorem follows_execute (harness : Harness) (statement : String) (params : List Json) :
    (harness.execute world statement params).Follows world
      (Deed.Within (Deed.Asks (.single statement params))) := by
  refine follows_bind (harness.follows_pickLive.mono Deed.asks_of_looks) fun picked => ?_
  cases picked with
  | error error => exact follows_pure _
  | ok node =>
      refine follows_bind (harness.policy.follows_execute (by rfl)) fun result => ?_
      cases result <;> exact follows_pure _

theorem follows_ensureRunning (handles : List Handle) {request : Request} :
    (ensureRunning world handles).Follows world (Deed.Within (Deed.Asks request)) := by
  induction handles with
  | nil => exact follows_pure _
  | cons handle rest ih =>
      unfold ensureRunning
      split
      · exact ih
      · refine follows_bind (follows_isRunning trivial) fun running => ?_
        split
        · exact ih
        · exact follows_pure _

theorem follows_quorumRounds (harness : Harness) (expected : Nat) (limit : Option Duration)
    (began : Instant) (tries : Nat) :
    (harness.quorumRounds world expected limit began tries).Follows world
      (Deed.Within (Deed.Asks (.single membershipQuery []))) := by
  induction tries with
  | zero => exact follows_stall
  | succ tries ih =>
      unfold quorumRounds
      refine follows_bind (follows_ensureRunning _) fun ensured => ?_
      cases ensured with
      | error error => exact follows_pure _
      | ok _ =>
          refine follows_bind (harness.follows_execute _ _) fun result => ?_
          cases result with
          | error error => exact follows_pure _
          | ok response =>
              dsimp only
              split
              · exact follows_pure _
              · refine follows_bind follows_now fun _ => ?_
                split
                · exact follows_pure _
                · exact follows_bind (follows_sleep _) fun _ => ih

theorem follows_awaitQuorum (harness : Harness) (limit : Option Duration) :
    (harness.awaitQuorum world limit).Follows world
      (Deed.Within (Deed.Asks (.single membershipQuery []))) :=
  follows_bind follows_now fun _ => harness.follows_quorumRounds _ _ _ _

theorem follows_pushSettings (harness : Harness) (settings : KeyMap Json) :
    (harness.pushSettings world settings).Follows world (Deed.Within (Deed.Sets settings)) := by
  suffices general : ∀ some, some ⊆ settings →
      (harness.pushSettings world some).Follows world (Deed.Within (Deed.Sets settings)) from
    general settings (List.Subset.refl _)
  intro some within
  induction some with
  | nil => exact follows_pure _
  | cons entry rest ih =>
      unfold pushSettings
      have sets : ∀ deed, Deed.Asks (.single (settingStatement entry.1) [entry.2]) deed →
          Deed.Sets settings deed := fun deed asks => ⟨entry, within List.mem_cons_self, asks⟩
      refine follows_bind ((harness.follows_execute _ _).mono fun deed => sets deed.about)
        fun result => ?_
      cases result with
      | error error => exact follows_pure _
      | ok _ => exact ih fun _ member => within (List.mem_cons_of_mem _ member)

theorem follows_leave (node : Node) (timeout : Duration) :
    (leave world node timeout).Follows world (Deed.Within (Deed.Leaves node timeout)) := by
  refine follows_bind (follows_signalNode (by rfl)) fun signalled => ?_
  cases signalled with
  | error error => exact follows_pure _
  | ok _ =>
      refine follows_bind (follows_waitForNode ⟨rfl, rfl⟩) fun waited => ?_
      rcases waited with error | (_ | code) <;> exact follows_pure _

theorem follows_decommission (harness : Harness) {index : Nat} {timeout : Duration}
    (allowed : ∀ node, harness.node? index = .ok node → ∀ deed, Deed.Leaves node timeout deed →
      may deed) :
    (harness.decommission world index timeout).Follows world (Deed.Within may) := by
  unfold decommission
  cases found : harness.node? index with
  | error error => exact follows_pure _
  | ok node =>
      refine follows_bind ((follows_leave node timeout).mono fun deed => allowed node found deed.about)
        fun left => ?_
      cases left <;> exact follows_pure _

end Harness

end GracefulStop
