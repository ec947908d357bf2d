import GracefulStop.Proofs.Cluster.Upkeep
import GracefulStop.Proofs.Port.Ranges
import GracefulStop.Proofs.Run.Obliging

/-!
# Ports of clusters

A cluster takes one range of ports for what its nodes say to each other, and then a single port for
each node. As the cursor of a pool never goes back, the ports of a cluster lie between the cursor
before it was provided and the cursor after, and those of the nodes ascend behind the range.
-/

namespace GracefulStop

/-- The layout that was handed over to be kept, with what came of it, if the event is about one. -/
def Event.recorded? : Event → Option (Manifest × Except ClusterError Unit)
  | .recorded manifest result => some (manifest, result)
  | _ => none

namespace PortPool

variable {State : Type} {probe : Nat → State → Bool × State} {size : Nat} {pool : PortPool}

/-- A pool that does not look at its ports hands out a range if there are ports enough. -/
theorem reserve_of_unprobed (unprobed : pool.probing = false) (positive : size ≠ 0)
    (narrow : size < 2 ^ 32) (state : State) :
    reserve probe size pool state =
      if pool.cursor + size ≤ pool.stop then
        (.ok (.ofLength pool.cursor (rangeSize size)), { pool with cursor := pool.cursor + size },
          state)
      else (.error (.portsExhausted size pool.cursor pool.stop), pool, state) := by
  have same : cursorSize size = size := Nat.mod_eq_of_lt narrow
  rw [reserve, if_neg positive, reserveFrom, same]
  by_cases fits : pool.cursor + size ≤ pool.stop
  · simp [fits, Nat.not_lt.mpr fits, unprobed]
  · simp [fits, Nat.lt_of_not_le fits]

theorem next_of_unprobed (unprobed : pool.probing = false) (state : State) :
    next probe pool state =
      if pool.cursor + 1 ≤ pool.stop then
        (.ok pool.cursor, { pool with cursor := pool.cursor + 1 }, state)
      else (.error (.portsExhausted 1 pool.cursor pool.stop), pool, state) := by
  rw [next, reserve_of_unprobed unprobed (by decide) (by decide)]
  by_cases fits : pool.cursor + 1 ≤ pool.stop
  · simp [fits, PortRange.ofLength]
  · simp [fits]

end PortPool

variable {State : Type} {world : World State} {limit : Option Instant} {run last : Run State}
  {name : String} {count : Nat} {settings : KeyMap String} {config : Config}

namespace Action

variable {Result Next : Type}

/-- Whatever an action does to the pool, the cursor does not go back. -/
def Advancing (action : Action State Result) : Prop :=
  ∀ (limit : Option Instant) (run : Run State), run.ports.Advances (action limit run).2.ports

theorem Advancing.of_eq_some {action : Action State Result} (advancing : action.Advancing)
    {result : Result} (ended : action limit run = (some result, last)) :
    run.ports.Advances last.ports := by
  have advances := advancing limit run
  rwa [ended] at advances

/-- Whatever an action does, it leaves the pool as it is. -/
def KeepsPorts (action : Action State Result) : Prop :=
  ∀ (limit : Option Instant) (run : Run State), (action limit run).2.ports = run.ports

theorem KeepsPorts.of_eq_some {action : Action State Result} (keeps : action.KeepsPorts)
    {result : Result} (ended : action limit run = (some result, last)) : last.ports = run.ports := by
  have same := keeps limit run
  rwa [ended] at same

theorem KeepsPorts.advancing {action : Action State Result} (keeps : action.KeepsPorts) :
    action.Advancing := by
  intro limit run
  rw [keeps]
  exact .refl _

theorem advancing_pure (result : Result) : (pure result : Action State Result).Advancing :=
  fun _ _ => .refl _

theorem advancing_bind {first : Action State Result} {next : Result → Action State Next}
    (advancingFirst : first.Advancing) (advancingNext : ∀ result, (next result).Advancing) :
    (first >>= next).Advancing := by
  intro limit run
  have advances := advancingFirst limit run
  rcases ended : first limit run with ⟨_ | value, between⟩
  · rw [ended] at advances
    rwa [bind_of_eq_none ended]
  · rw [ended] at advances
    rw [bind_of_eq_some ended]
    exact advances.trans (advancingNext value limit between)

theorem keepsPorts_launch (node : Node) : (launch world node).KeepsPorts := fun _ _ => rfl

theorem keepsPorts_connect (node : Node) : (connect world node).KeepsPorts := fun _ _ => rfl

theorem keepsPorts_keepManifest (manifest : Manifest) : (keepManifest world manifest).KeepsPorts :=
  fun _ _ => rfl

theorem keepsPorts_lay (spec : NodeSpec) : (lay spec : Action State Node).KeepsPorts :=
  fun _ _ => rfl

theorem advancing_reservePorts (size : Nat) : (reservePorts world size).Advancing :=
  fun _ run => PortPool.advances_reserve (world.portInUse run.clock) size run.ports run.state

theorem advancing_nextPort : (nextPort world).Advancing :=
  fun _ run => PortPool.advances_next (world.portInUse run.clock) run.ports run.state

theorem cut_of_reservePorts {size : Nat} {range : PortRange} (small : run.ports.stop < 2 ^ 16)
    (narrow : size < 2 ^ 32)
    (reserved : reservePorts world size limit run = (some (.ok range), last)) :
    run.ports.Cut size range last.ports := by
  rcases found : PortPool.reserve (world.portInUse run.clock) size run.ports run.state with
    ⟨result, ports, state⟩
  simp only [reservePorts, onPorts, found, Prod.mk.injEq, Option.some.injEq] at reserved
  rcases reserved with ⟨rfl, rfl⟩
  exact PortPool.cut_of_reserve small narrow found

theorem cut_of_nextPort {port : Nat} (small : run.ports.stop < 2 ^ 16)
    (reserved : nextPort world limit run = (some (.ok port), last)) :
    run.ports.Cut 1 ⟨port, port⟩ last.ports := by
  rcases found : PortPool.next (world.portInUse run.clock) run.ports run.state with ⟨result, ports, state⟩
  simp only [nextPort, onPorts, found, Prod.mk.injEq, Option.some.injEq] at reserved
  rcases reserved with ⟨rfl, rfl⟩
  exact PortPool.cut_of_next small found

end Action

open GracefulStop.Action

namespace Harness

/-- The ports of the nodes, one for each. -/
def httpPorts (harness : Harness) : List Nat := harness.handles.map (·.node.spec.httpPort)

/-- Every port that a cluster takes. -/
def usedPorts (harness : Harness) : List Nat := harness.transportRange.ports ++ harness.httpPorts

theorem advancing_layNodes (shared : NodeSpec) (names : List String) :
    (layNodes world shared names).Advancing := by
  induction names with
  | nil => exact advancing_pure _
  | cons name rest ih =>
      unfold layNodes
      apply advancing_bind advancing_nextPort
      intro reserved
      cases reserved with
      | error error => exact advancing_pure _
      | ok httpPort =>
          apply advancing_bind (keepsPorts_lay _).advancing
          intro node
          apply advancing_bind (keepsPorts_launch node).advancing
          intro launched
          cases launched with
          | error error => exact advancing_pure _
          | ok _ =>
              apply advancing_bind (keepsPorts_connect node).advancing
              intro connected
              cases connected with
              | error error => exact advancing_pure _
              | ok _ =>
                  apply advancing_bind ih
                  intro laid
                  cases laid <;> exact advancing_pure _

theorem advancing_provision (name : String) (count : Nat) (settings : KeyMap String)
    (config : Config) : (provision world name count settings config).Advancing := by
  unfold provision
  split
  · exact advancing_pure _
  · apply advancing_bind (advancing_reservePorts count)
    intro reserved
    cases reserved with
    | error error => exact advancing_pure _
    | ok range =>
        apply advancing_bind (advancing_layNodes _ _)
        intro laid
        cases laid with
        | error error => exact advancing_pure _
        | ok handles =>
            apply advancing_bind (keepsPorts_keepManifest _).advancing
            intro kept
            cases kept <;> exact advancing_pure _

/-- The handles of nodes that were laid out, where the ports of the nodes ascend between the cursor
before and the cursor after. -/
structure Spread (shared : NodeSpec) (pool : PortPool) (handles : List Handle) (after : PortPool) :
    Prop where
  advances : pool.Advances after
  shared : ∀ handle ∈ handles, handle.node.spec =
    { shared with name := handle.name, httpPort := handle.node.spec.httpPort }
  ascending : (handles.map (·.node.spec.httpPort)).Pairwise (· < ·)
  above : ∀ handle ∈ handles, pool.cursor ≤ handle.node.spec.httpPort
  below : ∀ handle ∈ handles, handle.node.spec.httpPort < after.cursor

theorem layNodes_cons_eq_ok {shared : NodeSpec} {rest : List String} {handles : List Handle}
    (ended : layNodes world shared (name :: rest) limit run = (some (.ok handles), last)) :
    ∃ port reserved node connected others,
      nextPort world limit run = (some (.ok port), reserved) ∧
        node.spec = { shared with name, httpPort := port } ∧
        connected.ports = reserved.ports ∧
        layNodes world shared rest limit connected = (some (.ok others), last) ∧
        handles = ⟨node, false⟩ :: others := by
  generalize made : Except.ok handles = result at ended
  cases lays_of_layNodes ended with
  | @onward port reserved launched connected laid _ reserves launches connects others =>
      cases laid with
      | error error => cases made
      | ok _ =>
          cases made
          refine ⟨port, reserved, _, connected, _, reserves, rfl, ?_, others, rfl⟩
          rw [(keepsPorts_connect _).of_eq_some connects, (keepsPorts_launch _).of_eq_some launches]
  | _ => cases made

/-- Nodes that were laid out share their specs, but for their names and ports of statements. -/
theorem shared_of_layNodes {shared : NodeSpec} {names : List String} {handles : List Handle}
    (ended : layNodes world shared names limit run = (some (.ok handles), last)) :
    ∀ handle ∈ handles, handle.node.spec =
      { shared with name := handle.name, httpPort := handle.node.spec.httpPort } := by
  induction names generalizing run handles with
  | nil =>
      cases ended
      nofun
  | cons name rest ih =>
      rcases layNodes_cons_eq_ok ended with
        ⟨port, reserved, node, connected, others, _, spec, _, endedRest, rfl⟩
      intro handle member
      rcases List.mem_cons.mp member with rfl | memberRest
      · simp only [Handle.name, Node.name, spec]
      · exact ih endedRest handle memberRest

theorem spread_of_layNodes {shared : NodeSpec} {names : List String} {handles : List Handle}
    (small : run.ports.stop < 2 ^ 16)
    (ended : layNodes world shared names limit run = (some (.ok handles), last)) :
    Spread shared run.ports handles last.ports := by
  induction names generalizing run handles with
  | nil =>
      cases ended
      exact ⟨.refl _, by simp, by simp, by simp, by simp⟩
  | cons name rest ih =>
      rcases layNodes_cons_eq_ok ended with
        ⟨port, reserved, node, connected, others, endedPort, spec, samePorts, endedRest, rfl⟩
      have cut := cut_of_nextPort small endedPort
      have inner : Spread shared reserved.ports others last.ports := by
        rw [← samePorts]
        apply ih _ endedRest
        rw [samePorts, cut.advances.stop]
        exact small
      have first := cut.above
      have next := cut.next
      have onward := inner.advances.cursor
      have here : node.spec.httpPort = port := by rw [spec]
      dsimp only at first next
      constructor
      · exact cut.advances.trans inner.advances
      · exact shared_of_layNodes ended
      · simp only [List.map_cons, List.pairwise_cons, List.mem_map]
        refine ⟨?_, inner.ascending⟩
        rintro _ ⟨handle, member, rfl⟩
        have above := inner.above handle member
        omega
      · intro handle member
        rcases List.mem_cons.mp member with rfl | memberRest
        · dsimp only
          omega
        · have above := inner.above handle memberRest
          omega
      · intro handle member
        rcases List.mem_cons.mp member with rfl | memberRest
        · dsimp only
          omega
        · exact inner.below handle memberRest

/-- A cluster as it was asked for: its nodes by name and in order, all with its range of ports and with
the names of all nodes as peers, and each with a port of its own outside of the range. -/
structure AsAsked (name : String) (count : Nat) (harness : Harness) : Prop where
  names : harness.handles.map (·.node.spec.name) = (List.range count).map (NodeSpec.nodeName name)
  length : harness.transportRange.ports.length = count
  range : ∀ handle ∈ harness.handles, handle.node.spec.transportRange = harness.transportRange
  peers : ∀ handle ∈ harness.handles,
    handle.node.spec.peers = (List.range count).map (NodeSpec.nodeName name)
  distinct : harness.httpPorts.Nodup
  outside : ∀ port ∈ harness.httpPorts, harness.transportRange.contains port = false

/-- The ports of a provided cluster lie between the cursor before and the cursor after. -/
structure Placed (pool : PortPool) (harness : Harness) (after : PortPool) : Prop where
  nodup : harness.usedPorts.Nodup
  above : ∀ port ∈ harness.usedPorts, pool.cursor ≤ port
  below : ∀ port ∈ harness.usedPorts, port < after.cursor

variable {harness : Harness}

theorem mem_httpPorts {port : Nat} :
    port ∈ harness.httpPorts ↔ ∃ handle ∈ harness.handles, handle.node.spec.httpPort = port := by
  simp [httpPorts]

theorem placed_of_cut {shared : NodeSpec} {pool between after : PortPool}
    (cut : pool.Cut count harness.transportRange between)
    (spread : Spread shared between harness.handles after) : Placed pool harness after := by
  have above := cut.above
  have next := cut.next
  have onward := spread.advances.cursor
  constructor
  · apply List.Nodup.append (PortRange.nodup_ports _) (spread.ascending.imp Nat.ne_of_lt)
    intro port inRange inNodes
    rw [PortRange.mem_ports, PortRange.contains_iff] at inRange
    rcases mem_httpPorts.mp inNodes with ⟨handle, member, rfl⟩
    have behind := spread.above handle member
    omega
  · intro port member
    rcases List.mem_append.mp member with inRange | inNodes
    · rw [PortRange.mem_ports, PortRange.contains_iff] at inRange
      omega
    · rcases mem_httpPorts.mp inNodes with ⟨handle, memberHandle, rfl⟩
      have behind := spread.above handle memberHandle
      have ascending := cut.ascending
      omega
  · intro port member
    rcases List.mem_append.mp member with inRange | inNodes
    · rw [PortRange.mem_ports, PortRange.contains_iff] at inRange
      omega
    · rcases mem_httpPorts.mp inNodes with ⟨handle, memberHandle, rfl⟩
      exact spread.below handle memberHandle

/-- The nodes of a provided cluster have their specs in common, but for their names and ports of
statements. -/
theorem shared_of_provision
    (ended : provision world name count settings config limit run = (some (.ok harness), last)) :
    ∀ handle ∈ harness.handles, handle.node.spec =
      { sharedSpec name count settings config harness.transportRange with
        name := handle.name, httpPort := handle.node.spec.httpPort } := by
  cases provides_of_provision ended with
  | kept positive reserves lays keeps => exact shared_of_layNodes lays

/-- A cluster was provided: its range was cut off the pool, and then the ports of its nodes. -/
theorem cut_of_provision (small : run.ports.stop < 2 ^ 16) (narrow : count < 2 ^ 31)
    (ended : provision world name count settings config limit run = (some (.ok harness), last)) :
    ∃ between, run.ports.Cut count harness.transportRange between ∧
      Spread (sharedSpec name count settings config harness.transportRange) between harness.handles
        last.ports := by
  cases provides_of_provision ended with
  | @kept range reserved laid handles _ positive reserves lays keeps =>
      have cut := cut_of_reservePorts small (by omega) reserves
      have spread := spread_of_layNodes (by rwa [cut.advances.stop]) lays
      rw [← (keepsPorts_keepManifest _).of_eq_some keeps] at spread
      exact ⟨reserved.ports, cut, spread⟩

theorem placed_of_provision (small : run.ports.stop < 2 ^ 16) (narrow : count < 2 ^ 31)
    (ended : provision world name count settings config limit run = (some (.ok harness), last)) :
    Placed run.ports harness last.ports := by
  rcases cut_of_provision small narrow ended with ⟨between, cut, spread⟩
  exact placed_of_cut cut spread

theorem asAsked_of_provision (small : run.ports.stop < 2 ^ 16) (narrow : count < 2 ^ 31)
    (ended : provision world name count settings config limit run = (some (.ok harness), last)) :
    AsAsked name count harness := by
  rcases cut_of_provision small narrow ended with ⟨between, cut, spread⟩
  constructor
  · exact (provided_of_provision ended).laid.named
  · have total := cut.size
    rw [PortRange.length_ports]
    omega
  · intro handle member
    rw [spread.shared handle member]
    rfl
  · intro handle member
    rw [spread.shared handle member]
    rfl
  · exact spread.ascending.imp Nat.ne_of_lt
  · intro port member
    rcases mem_httpPorts.mp member with ⟨handle, memberHandle, rfl⟩
    have behind := spread.above handle memberHandle
    rw [cut.next] at behind
    rw [← Bool.not_eq_true, PortRange.contains_iff]
    omega

/-- What is done before the layout of a cluster is handed over. -/
def Prepares (deed : Deed) : Prop := ∀ manifest, deed ≠ .keep manifest

theorem recorded_of_prepares (course : Run.Course world (Deed.Within Prepares) run last) :
    (run.since last).filterMap Event.recorded? = [] := by
  rw [List.filterMap_eq_nil_iff]
  intro event member
  cases event with
  | recorded manifest result =>
      rcases course.of_mem_since member with allowed | work
      · exact absurd rfl (allowed manifest)
      · cases work
  | _ => rfl

theorem prepares_reservePorts (count : Nat) :
    (reservePorts world count).Follows world (Deed.Within Prepares) :=
  follows_reservePorts nofun count

theorem prepares_layNodes (shared : NodeSpec) (names : List String) :
    (layNodes world shared names).Follows world (Deed.Within Prepares) :=
  follows_layNodes_within nofun nofun (fun _ => nofun) (fun _ => nofun) shared names

theorem recorded_of_keepManifest {laid : Run State} {manifest : Manifest}
    {kept : Except ClusterError Unit} (prepares : Run.Course world (Deed.Within Prepares) run laid)
    (ended : keepManifest world manifest limit laid = (some kept, last)) :
    (run.since last).filterMap Event.recorded? = [(manifest, kept)] := by
  have keeps : Run.Course world (Deed.Within fun _ => True) laid last :=
    (follows_keepManifest trivial).course ended
  rw [prepares.since_trans keeps, List.filterMap_append, recorded_of_prepares prepares,
    since_keepManifest ended]
  rfl

/-- The layout of a cluster is handed over once if it is provided. If not, it was handed over only where
that itself has failed. -/
theorem recorded_of_provision {result : Except ClusterError Harness}
    (ended : provision world name count settings config limit run = (some result, last)) :
    match result with
    | .ok harness => (run.since last).filterMap Event.recorded? = [(harness.manifest, .ok ())]
    | .error error => ∀ kept ∈ (run.since last).filterMap Event.recorded?, kept.2 = .error error := by
  have reserving : ∀ {range reserved},
      reservePorts world count limit run = (some range, reserved) →
        Run.Course world (Deed.Within Prepares) run reserved :=
    (prepares_reservePorts count).course
  have laying : ∀ {shared laid reserved laidRun},
      layNodes world shared (namesFor name count) limit reserved = (some laid, laidRun) →
        Run.Course world (Deed.Within Prepares) reserved laidRun :=
    (prepares_layNodes _ _).course
  cases provides_of_provision ended with
  | empty nothing => simp
  | unreserved reserves => simp [recorded_of_prepares (reserving reserves)]
  | unlaid reserves lays =>
      simp [recorded_of_prepares ((reserving reserves).trans (laying lays))]
  | unkept reserves lays keeps =>
      simp [recorded_of_keepManifest ((reserving reserves).trans (laying lays)) keeps]
  | kept positive reserves lays keeps =>
      exact recorded_of_keepManifest ((reserving reserves).trans (laying lays)) keeps

end Harness

/-- Surroundings that prepare every node and keep every layout. -/
structure World.Willing (world : World State) : Prop where
  launch : ∀ node now state, (world.launch node now state).1 = .ok ()
  connect : ∀ node now state, (world.connect node now state).1 = .ok ()
  record : ∀ manifest now state, (world.record manifest now state).1 = .ok ()

namespace Action

theorem launch_of_willing (willing : world.Willing) (node : Node) (limit : Option Instant)
    (run : Run State) :
    launch world node limit run = (some (.ok ()), (launch world node limit run).2) :=
  Prod.ext (congrArg some (willing.launch node run.clock run.state)) rfl

theorem connect_of_willing (willing : world.Willing) (node : Node) (limit : Option Instant)
    (run : Run State) :
    connect world node limit run = (some (.ok ()), (connect world node limit run).2) :=
  Prod.ext (congrArg some (willing.connect node run.clock run.state)) rfl

theorem keepManifest_of_willing (willing : world.Willing) (manifest : Manifest)
    (limit : Option Instant) (run : Run State) :
    keepManifest world manifest limit run =
      (some (.ok ()), (keepManifest world manifest limit run).2) :=
  Prod.ext (congrArg some (willing.record manifest run.clock run.state)) rfl

theorem nextPort_of_unprobed (world : World State) (unprobed : run.ports.probing = false)
    (limit : Option Instant) :
    nextPort world limit run =
      if run.ports.cursor + 1 ≤ run.ports.stop then
        (some (.ok run.ports.cursor),
          { run with ports := { run.ports with cursor := run.ports.cursor + 1 } })
      else
        (some (.error (.portsExhausted 1 run.ports.cursor run.ports.stop)), run) := by
  simp only [nextPort, onPorts, PortPool.next_of_unprobed unprobed]
  split <;> rfl

theorem reservePorts_of_unprobed (world : World State) (unprobed : run.ports.probing = false)
    (positive : count ≠ 0) (narrow : count < 2 ^ 32) (limit : Option Instant) :
    reservePorts world count limit run =
      if run.ports.cursor + count ≤ run.ports.stop then
        (some (.ok (.ofLength run.ports.cursor (PortPool.rangeSize count))),
          { run with ports := { run.ports with cursor := run.ports.cursor + count } })
      else
        (some (.error (.portsExhausted count run.ports.cursor run.ports.stop)), run) := by
  simp only [reservePorts, onPorts, PortPool.reserve_of_unprobed unprobed positive narrow]
  split <;> rfl

end Action

namespace Harness

theorem layNodes_cons_of_willing (willing : world.Willing) (shared : NodeSpec) {rest : List String}
    {port : Nat} {reserved : Run State}
    (reserves : nextPort world limit run = (some (.ok port), reserved)) :
    ∃ node connected, connected.ports = reserved.ports ∧
      ∀ laid last, layNodes world shared rest limit connected = (some laid, last) →
        layNodes world shared (name :: rest) limit run =
          (some (laid.map (⟨node, false⟩ :: ·)), last) := by
  let node : Node := ⟨{ shared with name, httpPort := port }, reserved.nodes⟩
  let numbered : Run State := { reserved with nodes := reserved.nodes + 1 }
  let launched : Run State := (launch world node limit numbered).2
  refine ⟨node, (connect world node limit launched).2, ?_, ?_⟩
  · rw [keepsPorts_connect, keepsPorts_launch]
  · intro laid last lays
    unfold layNodes
    refine bind_eq_some.mpr ⟨_, _, reserves, bind_eq_some.mpr ⟨node, numbered, rfl, ?_⟩⟩
    refine bind_eq_some.mpr ⟨_, launched, launch_of_willing willing node _ _, ?_⟩
    refine bind_eq_some.mpr ⟨_, _, connect_of_willing willing node _ _, ?_⟩
    refine bind_eq_some.mpr ⟨_, _, lays, ?_⟩
    cases laid <;> rfl

/-- Where nothing else can fail, nodes are laid out if there is a port for each of them. -/
theorem layNodes_of_willing (willing : world.Willing) (shared : NodeSpec) (names : List String)
    (limit : Option Instant) (run : Run State) (unprobed : run.ports.probing = false) :
    ∃ result last, layNodes world shared names limit run = (some result, last) ∧
      (result.isOk = true ↔ names.length ≤ run.ports.stop - run.ports.cursor) := by
  induction names generalizing run with
  | nil => exact ⟨.ok [], run, rfl, by simp [Except.isOk, Except.toBool]⟩
  | cons name rest ih =>
      have reserves := nextPort_of_unprobed world unprobed limit
      by_cases fits : run.ports.cursor + 1 ≤ run.ports.stop
      · rw [if_pos fits] at reserves
        rcases layNodes_cons_of_willing willing shared reserves with
          ⟨node, connected, samePorts, lays⟩
        have unprobedRest : connected.ports.probing = false := by
          rw [samePorts]
          exact unprobed
        rcases ih connected unprobedRest with ⟨laid, last, endedRest, enough⟩
        refine ⟨_, last, lays laid last endedRest, ?_⟩
        have sameOutcome : (laid.map (⟨node, false⟩ :: ·)).isOk = laid.isOk := by cases laid <;> rfl
        rw [sameOutcome, enough, samePorts, List.length_cons]
        dsimp only
        omega
      · rw [if_neg fits] at reserves
        refine ⟨_, _, bind_eq_some.mpr ⟨_, _, reserves, rfl⟩, ?_⟩
        simp only [Except.isOk, Except.toBool, List.length_cons, Bool.false_eq_true, false_iff]
        omega

theorem length_namesFor (name : String) (count : Nat) : (namesFor name count).length = count := by
  simp [namesFor]

/-- Where nothing else can fail, a cluster is provided if there are two ports for each of its nodes. -/
theorem provision_of_willing (willing : world.Willing) (unprobed : run.ports.probing = false)
    (positive : 1 ≤ count) (narrow : count < 2 ^ 31) (name : String) (settings : KeyMap String)
    (config : Config) (limit : Option Instant) :
    ∃ result last, provision world name count settings config limit run = (some result, last) ∧
      (result.isOk = true ↔ 2 * count ≤ run.ports.stop - run.ports.cursor) := by
  have nonzero : count ≠ 0 := by omega
  have reserves := reservePorts_of_unprobed world unprobed nonzero (by omega) limit
  unfold provision
  rw [if_neg nonzero]
  by_cases fits : run.ports.cursor + count ≤ run.ports.stop
  · rw [if_pos fits] at reserves
    rcases layNodes_of_willing willing
        (sharedSpec name count settings config (.ofLength run.ports.cursor (PortPool.rangeSize count)))
        (namesFor name count) limit
        { run with ports := { run.ports with cursor := run.ports.cursor + count } } unprobed with
      ⟨laid, laidRun, lays, enough⟩
    rw [length_namesFor] at enough
    dsimp only at enough
    cases laid with
    | error error =>
        refine ⟨.error error, laidRun, ?_, ?_⟩
        · exact bind_eq_some.mpr ⟨_, _, reserves, bind_eq_some.mpr ⟨_, _, lays, rfl⟩⟩
        · simp only [Except.isOk, Except.toBool, Bool.false_eq_true, false_iff] at enough ⊢
          omega
    | ok handles =>
        refine ⟨_, _, bind_eq_some.mpr ⟨_, _, reserves, bind_eq_some.mpr ⟨_, _, lays,
          bind_eq_some.mpr ⟨_, _, keepManifest_of_willing willing _ limit laidRun, rfl⟩⟩⟩, ?_⟩
        simp only [Except.isOk, Except.toBool, true_iff] at enough ⊢
        omega
  · rw [if_neg fits] at reserves
    refine ⟨_, _, bind_eq_some.mpr ⟨_, _, reserves, rfl⟩, ?_⟩
    simp only [Except.isOk, Except.toBool, Bool.false_eq_true, false_iff]
    omega

/-! ## Histories of clusters -/

/-- The clusters that came of any calls on one pool, and the run after them. Between the calls anything
may happen, and others may take ports out of the pool too. -/
inductive Provisions (world : World State) (base : Run State) : List Harness → Run State → Prop
  | none : Provisions world base [] base
  | meanwhile {clusters : List Harness} {run last : Run State}
      (before : Provisions world base clusters run) (advances : run.ports.Advances last.ports) :
      Provisions world base clusters last
  | provided {clusters : List Harness} {run last : Run State} {name : String} {count : Nat}
      {settings : KeyMap String} {config : Config} {limit : Option Instant} {harness : Harness}
      (before : Provisions world base clusters run) (narrow : count < 2 ^ 31)
      (ended : provision world name count settings config limit run =
        (some (.ok harness), last)) :
      Provisions world base (clusters ++ [harness]) last
  | failed {clusters : List Harness} {run last : Run State} {name : String} {count : Nat}
      {settings : KeyMap String} {config : Config} {limit : Option Instant} {error : ClusterError}
      (before : Provisions world base clusters run)
      (ended : provision world name count settings config limit run =
        (some (.error error), last)) :
      Provisions world base clusters last

/-- The cursor has passed all ports of all clusters, and no port is taken twice. -/
structure Passed (stop : Nat) (clusters : List Harness) (pool : PortPool) : Prop where
  stop : pool.stop = stop
  nodup : (clusters.flatMap usedPorts).Nodup
  below : ∀ port ∈ clusters.flatMap usedPorts, port < pool.cursor

theorem Passed.advance {stop : Nat} {clusters : List Harness} {pool after : PortPool}
    (passed : Passed stop clusters pool) (advances : pool.Advances after) :
    Passed stop clusters after where
  stop := advances.stop.trans passed.stop
  nodup := passed.nodup
  below port member := Nat.lt_of_lt_of_le (passed.below port member) advances.cursor

theorem Passed.place {stop : Nat} {clusters : List Harness} {pool after : PortPool}
    (passed : Passed stop clusters pool) (advances : pool.Advances after)
    (placed : Placed pool harness after) : Passed stop (clusters ++ [harness]) after := by
  have further := passed.advance advances
  constructor
  · exact further.stop
  · rw [List.flatMap_append, List.flatMap_singleton]
    apply List.Nodup.append passed.nodup placed.nodup
    intro port earlier here
    have below := passed.below port earlier
    have above := placed.above port here
    omega
  · intro port member
    rw [List.flatMap_append, List.flatMap_singleton] at member
    rcases List.mem_append.mp member with earlier | here
    · exact further.below port earlier
    · exact placed.below port here

theorem passed_of_provisions {base : Run State} {clusters : List Harness}
    (small : base.ports.stop < 2 ^ 16) (history : Provisions world base clusters run) :
    Passed base.ports.stop clusters run.ports := by
  induction history with
  | none => exact ⟨rfl, by simp, by simp⟩
  | meanwhile before advances ih => exact ih.advance advances
  | provided before narrow ended ih =>
      have advances := (advancing_provision _ _ _ _).of_eq_some ended
      apply ih.place advances
      apply placed_of_provision _ narrow ended
      rwa [ih.stop]
  | failed before ended ih => exact ih.advance ((advancing_provision _ _ _ _).of_eq_some ended)

/-- Over any history of calls on one pool no port is used twice. Every cluster that is provided is as it
was asked for, and its layout, which lists the specs of its nodes, is handed over once. Where the pool
does not look at its ports and nothing else can fail, a cluster is provided if there are two ports for
each of its nodes; and one without nodes never is. -/
theorem layouts_apart (world : World State) :
    (∀ base clusters run, base.ports.stop < 2 ^ 16 → Provisions world base clusters run →
        (clusters.flatMap usedPorts).Nodup) ∧
      (∀ name count settings config limit run harness last, run.ports.stop < 2 ^ 16 →
        count < 2 ^ 31 →
        provision world name count settings config limit run = (some (.ok harness), last) →
        AsAsked name count harness ∧
          (run.since last).filterMap Event.recorded? =
            [(⟨name, harness.transportRange, harness.handles.map (·.node.spec)⟩, .ok ())]) ∧
      (∀ name count settings config limit run error last,
        provision world name count settings config limit run = (some (.error error), last) →
        ∀ kept ∈ (run.since last).filterMap Event.recorded?, kept.2 = .error error) ∧
      (∀ name count settings config limit run, world.Willing → run.ports.probing = false →
        1 ≤ count → count < 2 ^ 31 →
        ∃ result last, provision world name count settings config limit run = (some result, last) ∧
          (result.isOk = true ↔ 2 * count ≤ run.ports.stop - run.ports.cursor)) ∧
      ∀ name settings config limit run, provision world name 0 settings config limit run =
        (some (.error (.invalidNodeCount 0)), run) := by
  refine ⟨?_, ?_, ?_, ?_, ?_⟩
  · intro base clusters run small history
    exact (passed_of_provisions small history).nodup
  · intro name count settings config limit run harness last small narrow ended
    refine ⟨asAsked_of_provision small narrow ended, ?_⟩
    rw [← (provided_of_provision ended).named]
    exact recorded_of_provision ended
  · intro name count settings config limit run error last ended
    exact recorded_of_provision ended
  · intro name count settings config limit run willing unprobed positive narrow
    exact provision_of_willing willing unprobed positive narrow name settings config limit
  · intro name settings config limit run
    rfl

/-- Two clusters in obliging surroundings, one after the other. -/
def firstOfTwo : Option (Except ClusterError Harness) × Run (List Nat) :=
  provision World.obliging "first" 2 [] {} none World.obligingStart

def secondOfTwo : Option (Except ClusterError Harness) × Run (List Nat) :=
  provision World.obliging "second" 1 [] {} none firstOfTwo.2

theorem layouts_apart_of_two :
    ∃ first second between last,
      firstOfTwo = (some (.ok first), between) ∧ secondOfTwo = (some (.ok second), last) ∧
        [first, second].flatMap usedPorts = [42000, 42001, 42002, 42003, 42004, 42005] ∧
        ([first, second].flatMap usedPorts).Nodup ∧ AsAsked "second" 1 second ∧
        (provision World.obliging "third" 998 [] {} none last).1.map (·.isOk) = some false := by
  rcases layouts_apart World.obliging with ⟨apart, asAsked, _, enough, _⟩
  have willing : World.obliging.Willing := ⟨fun _ _ _ => rfl, fun _ _ _ => rfl, fun _ _ _ => rfl⟩
  have firstTaken : firstOfTwo.1.map (·.map usedPorts) =
      some (.ok [42000, 42001, 42002, 42003]) := by decide +kernel
  have secondTaken : secondOfTwo.1.map (·.map usedPorts) = some (.ok [42004, 42005]) := by
    decide +kernel
  have middle : firstOfTwo.2.ports = ⟨42004, 44000, false⟩ := by decide +kernel
  have left : secondOfTwo.2.ports = ⟨42006, 44000, false⟩ := by decide +kernel
  rcases firstEnded : firstOfTwo with ⟨_ | ⟨_ | first⟩, between⟩ <;>
    rw [firstEnded] at firstTaken middle
  · cases firstTaken
  · cases firstTaken
  rcases secondEnded : secondOfTwo with ⟨_ | ⟨_ | second⟩, last⟩ <;>
    rw [secondEnded] at secondTaken left
  · cases secondTaken
  · cases secondTaken
  dsimp only at middle left
  have firstPorts : first.usedPorts = [42000, 42001, 42002, 42003] := by
    simpa [Except.map] using firstTaken
  have secondPorts : second.usedPorts = [42004, 42005] := by simpa [Except.map] using secondTaken
  have afterFirst : provision World.obliging "second" 1 [] {} none between =
      (some (.ok second), last) := by rwa [secondOfTwo, firstEnded] at secondEnded
  have history : Provisions World.obliging World.obligingStart [first, second] last :=
    .provided (.provided .none (by decide) firstEnded) (by decide) afterFirst
  rcases enough "third" 998 [] {} none last willing (by rw [left]) (by decide) (by decide) with
    ⟨result, after, ended, inTime⟩
  rw [left] at inTime
  refine ⟨first, second, between, last, rfl, rfl, ?_, ?_, ?_, ?_⟩
  · simp [firstPorts, secondPorts]
  · exact apart _ _ _ (by decide) history
  · exact (asAsked _ _ _ _ _ _ _ _ (by rw [middle]; decide) (by decide) afterFirst).1
  · simpa [ended] using inTime

end Harness

end GracefulStop
