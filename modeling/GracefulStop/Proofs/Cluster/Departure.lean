import GracefulStop.Proofs.Cluster.History
import GracefulStop.Proofs.Cluster.Premises

/-!
# Nodes that have left

A node is marked as left when its exit code has been seen, and from then on it is not alive until it is
started. Nothing but a start of the cluster does that. A start does not ask whether a node has left,
and nothing takes the mark away, so that a cluster that is started once more has more nodes alive than
it counts as members.
-/

namespace GracefulStop

variable {State : Type} {world : World State} {limit : Option Instant} {run last : Run State}

/-- Surroundings in which a node is not alive whose exit code has just been given. -/
def World.Liveness.Exits (live : world.Liveness) : Prop :=
  ∀ node timeout look state code, live.sound state →
    (world.wait node timeout look state).1 = .done (.ok (some code)) →
    ¬live.alive node.serial look.now (world.wait node timeout look state).2

/-- What every look without an answer and the sleep after it keep holds when the answer is found. -/
theorem Action.kept_of_poll {Answer : Type} {look : Look → State → Progress Answer × State}
    {holds : Run State → Prop}
    (kept : ∀ (run : Run State) (moment : Look) (length : Duration) (limit : Option Instant),
      holds run → moment.now = run.clock → (look moment run.state).1 = .pause length →
        holds (sleep world length limit { run with state := (look moment run.state).2 }).2)
    (first : holds run) {began : Instant} {index tries : Nat} {answer : Answer}
    (ended : poll world look began index tries limit run = (some answer, last)) :
    ∃ found moment, holds found ∧ moment.now = found.clock ∧
      (look moment found.state).1 = .done answer ∧
      last = { found with state := (look moment found.state).2 } := by
  induction tries generalizing index run with
  | zero => exact absurd ended stall_ne_some
  | succ tries ih =>
      let moment : Look := ⟨began, run.clock, index⟩
      rw [poll_succ] at ended
      cases seen : (look moment run.state).1 with
      | done found =>
          rw [seen] at ended
          rcases pure_eq_some.mp ended with ⟨rfl, rfl⟩
          exact ⟨run, moment, first, rfl, seen, rfl⟩
      | pause length =>
          rw [seen] at ended
          rcases bind_eq_some.mp ended with ⟨_, slept, sleeps, polled⟩
          have after := kept run moment length limit first rfl seen
          rw [sleeps] at after
          exact ih after polled
      | stalled =>
          rw [seen] at ended
          exact absurd ended stall_ne_some

/-- A look and the sleep after it are a course of one deed. -/
theorem Action.course_pause {Answer : Type} {look : Look → State → Progress Answer × State}
    {deed : Deed} (touched : ∀ moment state, world.Touch deed moment.now state (look moment state).2)
    {moment : Look} (atOnce : moment.now = run.clock) (length : Duration) :
    Run.Course world (· = deed) run
      (sleep world length limit { run with state := (look moment run.state).2 }).2 := by
  have looks : Run.Course world (· = deed) run { run with state := (look moment run.state).2 } :=
    .single (.touch rfl (atOnce ▸ touched moment run.state))
  exact looks.trans (follows_sleep length limit _)

theorem Action.found_of_poll {Answer : Type} {look : Look → State → Progress Answer × State}
    {deed : Deed} (touched : ∀ moment state, world.Touch deed moment.now state (look moment state).2)
    {began : Instant} {index tries : Nat} {answer : Answer}
    (ended : poll world look began index tries limit run = (some answer, last)) :
    ∃ found moment, Run.Course world (· = deed) run found ∧ moment.now = found.clock ∧
      (look moment found.state).1 = .done answer ∧
      last = { found with state := (look moment found.state).2 } := by
  refine kept_of_poll ?_ .refl ended
  intro between moment length limit course atOnce _
  exact course.trans (course_pause touched atOnce length)

namespace Harness

variable {live : world.Liveness}

theorem not_alive_of_leave (exits : live.Exits) (sound : live.Sound run) {node : Node}
    {timeout : Duration} {code : Int}
    (ended : leave world node timeout limit run = (some (.ok code), last)) :
    ¬live.Alive last node := by
  rcases Action.bind_eq_some.mp ended with ⟨signalled, between, endedSignal, endedAll⟩
  have signals : Run.Course world (Deed.Within (· = .signal node)) run between :=
    (Action.follows_signalNode (by rfl)).course endedSignal
  cases signalled with
  | error error => cases endedAll
  | ok _ =>
      rcases Action.bind_eq_some.mp endedAll with ⟨waited, exited, endedWait, endedAll⟩
      rcases waited with error | (_ | exitCode)
      · cases endedAll
      · cases endedAll
      · cases endedAll
        rcases Action.noted_eq_some endedWait with ⟨answered, awaited, rfl⟩
        rcases Action.bind_eq_some.mp awaited with ⟨began, _, looked, polled⟩
        cases looked
        rcases Action.found_of_poll (.wait node timeout) polled with
          ⟨found, moment, course, atOnce, came, rfl⟩
        have soundFound := World.Liveness.sound_course course
          (World.Liveness.sound_course signals sound)
        have gone := exits node timeout moment found.state code soundFound came
        rwa [atOnce] at gone

/-- The nodes that are marked as left are not alive. -/
def Departed (live : world.Liveness) (harness : Harness) (run : Run State) : Prop :=
  ∀ handle ∈ harness.handles, handle.decommissioned = true → ¬live.Alive run handle.node

/-- A start is asked for only while no node is marked as left. -/
def StartsWhole (harness : Harness) (order : Order) : Prop :=
  order = .start → ∀ handle ∈ harness.handles, handle.decommissioned = false

/-- No node of a cluster is started. -/
def StartsNone (harness : Harness) (deed : Deed) : Prop :=
  ∀ started, deed = .start started → ∀ node ∈ harness.handles.map Handle.node,
    started.serial ≠ node.serial

theorem Order.startsNone {harness : Harness} {order : Order} (other : order ≠ .start) (deed : Deed)
    (does : order.Does harness deed) (first : Harness) : first.StartsNone deed := by
  rintro started rfl
  cases order with
  | start => exact absurd rfl other
  | awaitQuorum longest => cases does
  | pushSettings settings =>
      rcases does with ⟨_, _, asks⟩
      cases asks
  | execute statement params => cases does
  | awaitInvariant name config query deadline => cases does
  | decommission index timeout =>
      rcases does with ⟨_, _, leaves⟩
      cases leaves
  | teardown =>
      rcases does with ⟨_, _, stops⟩
      cases stops

/-- Where no node of the cluster is started, those that have left stay as they are. -/
theorem Departed.quiet {harness : Harness} (departed : harness.Departed live run)
    (sound : live.Sound run) (course : Run.Course world (Deed.Within harness.StartsNone) run last) :
    harness.Departed live last := by
  intro handle member marked alive
  apply departed handle member marked
  apply World.Liveness.alive_of_course course sound _ alive
  intro started allowed
  exact allowed started rfl handle.node (List.mem_map_of_mem member)

theorem Departed.markLeft {harness : Harness} (departed : harness.Departed live run) {index : Nat}
    {node : Node} (found : harness.node? index = .ok node) (gone : ¬live.Alive run node) :
    (harness.markLeft index).Departed live run := by
  intro handle member marked
  rcases List.mem_iff_getElem?.mp member with ⟨other, stands⟩
  rw [Harness.markLeft, List.getElem?_modify] at stands
  rcases Option.map_eq_some_iff.mp stands with ⟨before, stood, rfl⟩
  by_cases here : index = other
  · subst here
    have same : before.node = node := by
      simp only [node?, stood] at found
      exact Except.ok.inj found
    simpa [same] using gone
  · rw [if_neg here] at marked ⊢
    exact departed before (List.mem_of_getElem? stood) marked

/-- Every order keeps it so, unless it starts a cluster from which a node has left. -/
theorem Departed.order {harness : Harness} {order : Order} {outcome : Option Harness}
    (departed : harness.Departed live run) (exits : live.Exits) (sound : live.Sound run)
    (fit : harness.StartsWhole order)
    (ended : order.perform world harness limit run = (outcome, last)) :
    (outcome.getD harness).Departed live last := by
  have course := (order.follows_perform harness).course ended
  by_cases starts : order = .start
  · subst starts
    have same : outcome.getD harness = harness := Order.getD_of_pure ended
    rw [same]
    -- A start is the one order that could bring back a node, and here nobody has left before it.
    intro handle member marked
    rw [fit rfl handle member] at marked
    cases marked
  · have quiet : harness.Departed live last :=
      departed.quiet sound (course.mono fun deed does => order.startsNone starts _ does harness)
    rcases Order.perform_cases ended with same | ⟨index, timeout, node, code, _, found, left, same⟩
    · rwa [same]
    · rw [same]
      exact quiet.markLeft found (not_alive_of_leave exits sound left)

theorem Departed.length_le {harness : Harness} (departed : harness.Departed live run)
    {alive : List Handle} (among : alive.Sublist harness.handles)
    (each : ∀ handle ∈ alive, live.Alive run handle.node) : alive.length ≤ harness.memberCount := by
  have stays : alive.filter (fun handle => !handle.decommissioned) = alive := by
    rw [List.filter_eq_self]
    intro handle member
    by_contra marked
    apply departed handle (among.subset member) _ (each handle member)
    simpa using marked
  rw [← stays]
  exact (among.filter _).length_le

/-- As long as no cluster is started from which a node has left, whatever else is asked of it and
however that ends: a node that is marked as left is not alive, and no more nodes are alive than are
counted as members. A start that succeeds starts every node once more, whether it is marked or not. -/
theorem departed_contract (live : world.Liveness) (exits : live.Exits) {name : String} {count : Nat}
    {settings : KeyMap String} {config : Config} {first harness : Harness} {start : Run State}
    (sound : live.Sound run)
    (provided : provision world name count settings config limit run = (some (.ok first), start))
    (history : History world StartsWhole first.StartsNone first start harness last) :
    (∀ handle ∈ harness.handles, handle.decommissioned = true → ¬live.Alive last handle.node) ∧
    (∀ alive : List Handle, alive.Sublist harness.handles →
      (∀ handle ∈ alive, live.Alive last handle.node) → alive.length ≤ harness.memberCount) ∧
    ∀ limit later, harness.start world limit last = (some (.ok ()), later) →
      last.started later = harness.handles.map Handle.node := by
  have soundStart : live.Sound start :=
    World.Liveness.sound_course ((follows_provision _ _ _ _).course provided) sound
  have departed : harness.Departed live last := by
    induction history with
    | begin =>
        intro handle member marked
        rw [(provided_of_provision provided).laid.member handle member] at marked
        cases marked
    | order order history fit ended ih =>
        exact ih.order exits (World.Liveness.sound_course history.course soundStart) fit ended
    | aside history course ih =>
        apply ih.quiet (World.Liveness.sound_course history.course soundStart)
        apply course.mono
        intro deed none started starts
        rw [history.keeps.nodes]
        exact none started starts
  exact ⟨departed, fun alive => departed.length_le, fun limit later => started_of_start⟩

/-- A cluster, with its run, that has been started and one of whose nodes has left then. -/
def afterLeaving (state : Harness × Run (List Nat)) : Harness × Run (List Nat) :=
  afterOrder (.decommission 0 (.ofSeconds 5)) (afterOrder .start state)

/-- Of each node of a cluster whether it is marked as left and whether it is alive, and how many are
counted as members. -/
def standings (state : Harness × Run (List Nat)) : List (Bool × Bool) × Nat :=
  (state.1.handles.map fun handle =>
    (handle.decommissioned, state.2.state.contains handle.node.serial), state.1.memberCount)

theorem standings_of_pair : ∃ first start, obligingPair = (some (.ok first), start) ∧
    standings (afterLeaving (first, start)) = ([(true, false), (false, true)], 1) ∧
    standings (afterOrder .start (afterLeaving (first, start))) =
      ([(true, true), (false, true)], 1) := by
  have all : (obligingPair.1.bind Except.toOption).map (fun first =>
      (standings (afterLeaving (first, obligingPair.2)),
        standings (afterOrder .start (afterLeaving (first, obligingPair.2))))) =
      some (([(true, false), (false, true)], 1), ([(true, true), (false, true)], 1)) := by
    decide +kernel
  rcases provided : obligingPair with ⟨_ | (error | first), start⟩
  · rw [provided] at all
    cases all
  · rw [provided] at all
    cases all
  · rw [provided] at all
    simp only [Option.bind_some, Except.toOption, Option.map_some, Option.some.injEq,
      Prod.mk.injEq] at all
    exact ⟨first, start, rfl, all.1, all.2⟩

theorem exits_obliging : World.obligingLiveness.Exits := by
  intro node timeout look alive code _ _ member
  simp [World.obliging, World.obligingLiveness] at member

/-- One of two nodes that were started has left: it is not alive, and one member is counted. -/
theorem departed_contract_of_pair :
    ∃ first start, obligingPair = (some (.ok first), start) ∧
      standings (afterLeaving (first, start)) = ([(true, false), (false, true)], 1) ∧
      ∀ alive : List Handle, alive.Sublist (afterLeaving (first, start)).1.handles →
        (∀ handle ∈ alive,
          World.obligingLiveness.Alive (afterLeaving (first, start)).2 handle.node) →
        alive.length ≤ 1 := by
  rcases standings_of_pair with ⟨first, start, provided, left, _⟩
  have whole : first.StartsWhole .start :=
    fun _ handle member => (provided_of_provision provided).laid.member handle member
  have history : History World.obliging StartsWhole first.StartsNone first start
      (afterLeaving (first, start)).1 (afterLeaving (first, start)).2 :=
    (History.begin.after .start whole).after (.decommission 0 (.ofSeconds 5)) nofun
  rcases departed_contract World.obligingLiveness exits_obliging trivial provided history with
    ⟨_, most, _⟩
  have members : (afterLeaving (first, start)).1.memberCount = 1 := congrArg Prod.snd left
  rw [members] at most
  exact ⟨first, start, provided, left, most⟩

/-- A cluster that is started once more after one of its two nodes has left has both nodes alive, of
which one is marked as left, and counts one member. -/
theorem alive_of_restarted_pair :
    ∃ first start harness last, obligingPair = (some (.ok first), start) ∧
      History World.obliging (fun _ _ => True) first.StartsNone first start harness last ∧
      (∃ handle ∈ harness.handles, handle.decommissioned = true ∧
        World.obligingLiveness.Alive last handle.node) ∧
      (∀ handle ∈ harness.handles, World.obligingLiveness.Alive last handle.node) ∧
      harness.memberCount < harness.handles.length := by
  rcases standings_of_pair with ⟨first, start, provided, _, restarted⟩
  let state := afterOrder .start (afterLeaving (first, start))
  have history : History World.obliging (fun _ _ => True) first.StartsNone first start
      state.1 state.2 :=
    ((History.begin.after .start trivial).after (.decommission 0 (.ofSeconds 5)) trivial).after
      .start trivial
  have each : state.1.handles.map (fun handle =>
      (handle.decommissioned, state.2.state.contains handle.node.serial)) =
      [(true, true), (false, true)] := congrArg Prod.fst restarted
  have members : state.1.memberCount = 1 := congrArg Prod.snd restarted
  have up : ∀ pair ∈ [(true, true), (false, true)], pair.2 = true := by decide
  have alive : ∀ handle ∈ state.1.handles, World.obligingLiveness.Alive state.2 handle.node := by
    intro handle member
    apply List.contains_iff_mem.mp
    apply up (handle.decommissioned, state.2.state.contains handle.node.serial)
    rw [← each]
    exact List.mem_map_of_mem member
  have marked : (true, true) ∈ state.1.handles.map (fun handle =>
      (handle.decommissioned, state.2.state.contains handle.node.serial)) := by
    rw [each]
    exact List.mem_cons_self
  rcases List.mem_map.mp marked with ⟨handle, member, same⟩
  have two : state.1.handles.length = 2 := by simpa using congrArg List.length each
  refine ⟨first, start, state.1, state.2, provided, history, ?_, alive, ?_⟩
  · exact ⟨handle, member, congrArg Prod.fst same, alive handle member⟩
  · omega

end Harness

namespace Launcher

variable {Rest : Type}

theorem child_of_exit {process : NodeProcess} {host : Host} {timeout : Duration} {look : Look}
    {found : Progress (Except ClusterError (Option Int)) × NodeProcess} {code : Int}
    (waits : process.Waits host timeout look found) (exited : found.1 = .done (.ok (some code))) :
    found.2.child = none := by
  cases waits with
  | known free _ => exact free
  | unknown free going => exact free
  | ended held ended => rfl
  | late held going late => cases exited
  | waits held going early => cases exited

/-- A node that is a process of a host is not alive once its exit code has been given. -/
theorem exits_liveness (launcher : Launcher)
    {ask : Node → Request → Look → Premises Rest →
      Progress (Except QueryError Response) × Premises Rest}
    {draw : Draw Rest}
    (ages : ∀ node request look (premises : Premises Rest),
      premises.Ages (ask node request look premises).2) :
    (@Launcher.liveness Rest launcher ask draw ages).Exits := by
  rintro node timeout look premises code _ exited ⟨process, pid, held, child, _⟩
  have after : ((launcher.world ask draw).wait node timeout look premises).2 =
      premises.setProcess node
        ((premises.process launcher node).wait premises.host timeout look).2 := rfl
  rw [after, Premises.lookup_setProcess, if_pos rfl] at held
  cases held
  have free : ((premises.process launcher node).wait premises.host timeout look).2.child = none :=
    child_of_exit (NodeProcess.wait_waits _ _ _ _) exited
  rw [free] at child
  cases child

end Launcher

end GracefulStop
