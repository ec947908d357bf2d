import GracefulStop.Proofs.Cluster.Ends
import GracefulStop.Proofs.Run.Answers

/-!
# Starting all nodes or none

A schedule says what comes of each attempt on each node. It then says all that a start of a cluster
does: which nodes are attempted how often, what is stopped in between, and whether in the end every
node is up or every node is stopped.
-/

namespace GracefulStop

variable {State : Type} {world : World State} {may : Deed → Prop} {run between last : Run State}
  {limit : Option Instant} {node : Node}

/-- What comes of the attempts to start nodes. The surroundings keep count of them. -/
structure World.Schedule (world : World State) where
  /-- What comes of the attempt of some number on a node, the first of which is attempt 0. -/
  outcome : Node → Nat → Except ClusterError Unit
  /-- How many attempts on a node there have been. -/
  attempts : Node → State → Nat
  started : ∀ node look state answer, (world.start node look state).1 = .done answer →
    answer = outcome node (attempts node state) ∧
      attempts node (world.start node look state).2 = attempts node state + 1
  starting : ∀ node look state, (∀ answer, (world.start node look state).1 ≠ .done answer) →
    attempts node (world.start node look state).2 = attempts node state
  attempts_touch : ∀ node deed now before after, world.Touch deed now before after →
    deed ≠ .start node → attempts node after = attempts node before

/-- What happens to the process of a node: an attempt to start it and what came of it, or a stop. -/
inductive Move where
  | started (node : Node) (result : Except ClusterError Unit)
  | stopped (node : Node)
  deriving DecidableEq

/-- The move that an event is about. -/
def Event.move? : Event → Option Move
  | .started node result => some (.started node result)
  | .stopped node _ => some (.stopped node)
  | _ => none

/-- Failed attempts on a node, with a stop after each. -/
def Move.tried (node : Node) (errors : List ClusterError) : List Move :=
  errors.flatMap fun error => [.started node (.error error), .stopped node]

/-- The errors up to the first success. -/
def leadingErrors : List (Except ClusterError Unit) → List ClusterError
  | .error error :: rest => error :: leadingErrors rest
  | _ => []

namespace Run

/-- What happened to the processes of nodes between two moments. -/
def moves (run last : Run State) : List Move := (run.since last).filterMap Event.move?

@[simp]
theorem moves_self (run : Run State) : run.moves run = [] := by
  simp [moves]

theorem Course.moves_trans {might : Deed → Prop} (first : Course world may run between)
    (second : Course world might between last) :
    run.moves last = run.moves between ++ between.moves last := by
  rw [moves, first.since_trans second, List.filterMap_append]
  rfl

end Run

namespace Action

theorem moves_of_startNode {result : Except ClusterError Unit}
    (ended : startNode world node limit run = (some result, last)) :
    run.moves last = [.started node result] := by
  rcases since_startNode ended with ⟨meanwhile, written, work⟩
  have nothing : meanwhile.filterMap Event.move? = [] := by
    rw [List.filterMap_eq_nil_iff]
    intro event member
    cases event with
    | started other result => cases work _ member
    | stopped other result => cases work _ member
    | _ => rfl
  rw [Run.moves, written, List.filterMap_append, nothing]
  rfl

theorem moves_of_stopNode {result : Except ClusterError Unit}
    (ended : stopNode world node limit run = (some result, last)) :
    run.moves last = [.stopped node] := by
  rw [Run.moves, since_stopNode ended]
  rfl

end Action

open GracefulStop.Action

namespace World.Schedule

variable (schedule : world.Schedule)

/-- What comes of so many attempts on a node from now on. -/
def next (state : State) (node : Node) (count : Nat) : List (Except ClusterError Unit) :=
  (List.range' (schedule.attempts node state) count).map (schedule.outcome node)

/-- What happens to a node that one of its next attempts brings up. -/
def rise (state : State) (most : Nat) (node : Node) : List Move :=
  Move.tried node (leadingErrors (schedule.next state node most)) ++ [.started node (.ok ())]

variable {schedule}

theorem attempts_touches {deed : Deed} {now : Instant} {before after : State}
    (touched : world.Touches deed now before after) (other : deed ≠ .start node) :
    schedule.attempts node after = schedule.attempts node before := by
  induction touched with
  | refl => rfl
  | tail _ touch ih => rw [schedule.attempts_touch node _ _ _ _ touch other, ih]

theorem attempts_course (course : Run.Course world may run last) (none : ¬may (.start node)) :
    schedule.attempts node last.state = schedule.attempts node run.state := by
  induction course with
  | refl => rfl
  | tail _ stride ih =>
      rcases stride.touches with ⟨deed, now, allowed, touched⟩
      rw [attempts_touches touched _, ih]
      rintro rfl
      rcases allowed with may | work
      · exact none may
      · cases work

theorem next_eq {before after : State}
    (same : schedule.attempts node after = schedule.attempts node before) (count : Nat) :
    schedule.next after node count = schedule.next before node count := by
  simp only [next, same]

/-- A look in the course of an attempt either ends it, as the schedule says, or leaves the count. -/
theorem started_of_poll {began : Instant} {index tries : Nat} {answer : Except ClusterError Unit}
    (ended : poll world (world.start node) began index tries limit run = (some answer, last)) :
    answer = schedule.outcome node (schedule.attempts node run.state) ∧
      schedule.attempts node last.state = schedule.attempts node run.state + 1 := by
  induction tries generalizing index run with
  | zero => exact absurd ended stall_ne_some
  | succ tries ih =>
      rw [poll_succ] at ended
      cases found : (world.start node ⟨began, run.clock, index⟩ run.state).1 with
      | done answer =>
          rw [found] at ended
          cases ended
          exact schedule.started node _ _ _ found
      | pause length =>
          rw [found] at ended
          rcases bind_eq_some.mp ended with ⟨_, slept, sleeps, ended⟩
          have waits : Run.Course world (fun _ => False) _ slept :=
            (follows_sleep length).course sleeps
          have count := schedule.starting node ⟨began, run.clock, index⟩ run.state (by simp [found])
          have same := (schedule.attempts_course waits id).trans count
          rw [← same]
          exact ih ended
      | stalled =>
          rw [found] at ended
          exact absurd ended stall_ne_some

theorem started_of_startNode {result : Except ClusterError Unit}
    (ended : startNode world node limit run = (some result, last)) :
    result = schedule.outcome node (schedule.attempts node run.state) ∧
      schedule.attempts node last.state = schedule.attempts node run.state + 1 := by
  rcases noted_eq_some ended with ⟨between, awaited, rfl⟩
  rcases bind_eq_some.mp awaited with ⟨began, beginning, looked, polled⟩
  cases looked
  have came := schedule.started_of_poll polled
  exact came

end World.Schedule

namespace Handle

/-- What comes of attempts on a node: one of them succeeds, or all of them fail. -/
inductive Tried (schedule : world.Schedule) (node : Node) (total left : Nat) (text : String)
    (run last : Run State) : Except ClusterError Unit → Prop
  | up (possible : .ok () ∈ schedule.next run.state node left)
      (moves : run.moves last = schedule.rise run.state left node) :
      Tried schedule node total left text run last (.ok ())
  | exhausted (errors : List ClusterError)
      (impossible : schedule.next run.state node left = errors.map .error)
      (moves : run.moves last = Move.tried node errors) :
      Tried schedule node total left text run last
        (.error (.startupFailed node.name total
          (errors.foldl (fun _ error => error.message) text)))

variable {schedule : world.Schedule}

/-- An attempt that fails comes before the others. -/
theorem Tried.cons {total left : Nat} {text : String} {stopped : Run State} {error : ClusterError}
    {result : Except ClusterError Unit}
    (coming : schedule.next run.state node (left + 1) =
      .error error :: schedule.next stopped.state node left)
    (moved : run.moves last =
      .started node (.error error) :: .stopped node :: stopped.moves last)
    (tried : Tried schedule node total left error.message stopped last result) :
    Tried schedule node total (left + 1) text run last result := by
  cases tried with
  | up possible moves =>
      apply Tried.up
      · rw [coming]
        exact List.mem_cons_of_mem _ possible
      · rw [moved, moves]
        simp [World.Schedule.rise, coming, leadingErrors, Move.tried]
  | exhausted errors impossible moves =>
      apply Tried.exhausted (error :: errors)
      · rw [coming, impossible, List.map_cons]
      · rw [moved, moves]
        simp [Move.tried]

theorem tried_startAttempts (schedule : world.Schedule) (ends : (startNode world node).Ends)
    (total left : Nat) (text : String) (run : Run State) :
    ∃ result last, startAttempts world node total left text none run = (some result, last) ∧
      Tried schedule node total left text run last result := by
  induction left generalizing run text with
  | zero => exact ⟨_, run, rfl, .exhausted [] rfl (Run.moves_self run)⟩
  | succ left ih =>
      rcases ends run with ⟨result, between, starts⟩
      rcases schedule.started_of_startNode starts with ⟨outcome, count⟩
      have coming : schedule.next run.state node (left + 1) =
          result :: schedule.next between.state node left := by
        simp [World.Schedule.next, List.range'_succ, outcome, count]
      have moved := moves_of_startNode starts
      unfold startAttempts
      cases result with
      | ok _ =>
          refine ⟨.ok (), between, bind_eq_some.mpr ⟨_, _, starts, rfl⟩, .up ?_ ?_⟩
          · simp [coming]
          · simp [moved, World.Schedule.rise, coming, leadingErrors, Move.tried]
      | error error =>
          have endsStop : (stopNode world node).Ends := ends_stopNode node
          rcases endsStop between with ⟨stop, stopped, stops⟩
          rcases ih error.message stopped with ⟨result, last, attempts, tried⟩
          have stopping : Run.Course world (Deed.Within (· = .stop node)) between stopped :=
            (follows_stopNode (by rfl)).course stops
          refine ⟨result, last, ?_, tried.cons ?_ ?_⟩
          · exact bind_eq_some.mpr ⟨_, _, starts, bind_eq_some.mpr ⟨_, _, stops, attempts⟩⟩
          · rw [coming, schedule.next_eq (schedule.attempts_course stopping (by rintro ⟨⟩))]
          · have starting : Run.Course world (Deed.Within (· = .start node)) run between :=
              (follows_startNode (by rfl)).course starts
            have onward : Run.Course world (Deed.Within fun _ => True) stopped last :=
              (follows_startAttempts trivial trivial _ _ _).course attempts
            rw [starting.moves_trans (stopping.any.trans onward.any), stopping.moves_trans onward,
              moved, moves_of_stopNode stops]
            rfl

end Handle

namespace Harness

variable {schedule : world.Schedule}

/-- What comes of starting nodes one after another: all are up, or one had only errors and those after
it were left alone. -/
inductive Brought (schedule : world.Schedule) (most : Nat) (handles : List Handle)
    (run last : Run State) : Except ClusterError Unit → Prop
  | up (possible : ∀ handle ∈ handles, .ok () ∈ schedule.next run.state handle.node most)
      (moves : run.moves last =
        handles.flatMap fun handle => schedule.rise run.state most handle.node) :
      Brought schedule most handles run last (.ok ())
  | exhausted {before after : List Handle} {handle : Handle} {errors : List ClusterError}
      {final : ClusterError} (split : handles = before ++ handle :: after)
      (possible : ∀ earlier ∈ before, .ok () ∈ schedule.next run.state earlier.node most)
      (impossible : schedule.next run.state handle.node most = (errors ++ [final]).map .error)
      (moves : run.moves last =
        (before.flatMap fun earlier => schedule.rise run.state most earlier.node) ++
          Move.tried handle.node (errors ++ [final])) :
      Brought schedule most handles run last
        (.error (.startupFailed handle.name most final.message))

/-- The first node is up, and then others are started, which it has nothing to do with. -/
theorem Brought.cons {most : Nat} {handle : Handle} {rest : List Handle}
    {result : Except ClusterError Unit}
    (possible : .ok () ∈ schedule.next run.state handle.node most)
    (moved : run.moves last = schedule.rise run.state most handle.node ++ between.moves last)
    (same : ∀ other ∈ rest,
      schedule.next between.state other.node most = schedule.next run.state other.node most)
    (brought : Brought schedule most rest between last result) :
    Brought schedule most (handle :: rest) run last result := by
  have sameRise : ∀ some, some ⊆ rest →
      (some.flatMap fun other => schedule.rise between.state most other.node) =
        some.flatMap fun other => schedule.rise run.state most other.node := by
    intro some among
    apply List.flatMap_congr
    intro other member
    rw [World.Schedule.rise, same other (among member), World.Schedule.rise]
  cases brought with
  | up possibleRest moves =>
      apply Brought.up
      · intro other member
        rcases List.mem_cons.mp member with rfl | memberRest
        · exact possible
        · rw [← same other memberRest]
          exact possibleRest other memberRest
      · rw [moved, moves, sameRise rest (List.Subset.refl _), List.flatMap_cons]
  | @exhausted before after failed errors final split possibleBefore impossible moves =>
      have among : before ⊆ rest := by simp [split]
      have member : failed ∈ rest := by simp [split]
      have splitAll : handle :: rest = (handle :: before) ++ failed :: after := by
        rw [split, List.cons_append]
      apply Brought.exhausted splitAll
      · intro other memberOther
        rcases List.mem_cons.mp memberOther with rfl | memberBefore
        · exact possible
        · rw [← same other (among memberBefore)]
          exact possibleBefore other memberBefore
      · rw [← same failed member, impossible]
      · rw [moved, moves, sameRise before among, List.flatMap_cons, List.append_assoc]

theorem brought_startAll (schedule : world.Schedule) (attempts : Nat) {handles : List Handle}
    (run : Run State)
    (distinct : (handles.map Handle.node).Nodup)
    (ends : ∀ handle ∈ handles, (startNode world handle.node).Ends) :
    ∃ result last, startAll world attempts handles none run = (some result, last) ∧
      Brought schedule (max attempts 1) handles run last result := by
  induction handles generalizing run with
  | nil => exact ⟨.ok (), run, rfl, .up (by simp) (Run.moves_self run)⟩
  | cons handle rest ih =>
      rw [List.map_cons, List.nodup_cons] at distinct
      rcases Handle.tried_startAttempts schedule (ends handle List.mem_cons_self)
        (max attempts 1) (max attempts 1) "" run with ⟨result, between, starts, tried⟩
      unfold startAll
      cases tried with
      | up possible moves =>
          have endsRest : ∀ other ∈ rest, (startNode world other.node).Ends :=
            fun other member => ends other (List.mem_cons_of_mem _ member)
          rcases ih between distinct.2 endsRest with ⟨resultRest, last, startsRest, brought⟩
          refine ⟨resultRest, last, bind_eq_some.mpr ⟨_, _, starts, startsRest⟩, ?_⟩
          have own : Run.Course world
              (Deed.Within fun deed => deed = .start handle.node ∨ deed = .stop handle.node)
              run between :=
            (handle.follows_startWithRetry (Or.inl rfl) (Or.inr rfl) attempts).course starts
          have onward : Run.Course world (Deed.Within fun _ => True) between last :=
            (follows_startAll (fun _ _ => trivial) (fun _ _ => trivial) attempts).course startsRest
          apply brought.cons possible
          · rw [own.moves_trans onward, moves]
          · intro other member
            apply World.Schedule.next_eq
            apply World.Schedule.attempts_course own
            intro allowed
            rcases allowed with started | stopped
            · have same : other.node = handle.node := by injection started
              exact distinct.1 (same ▸ List.mem_map_of_mem member)
            · cases stopped
      | exhausted errors impossible moves =>
          refine ⟨_, between, bind_eq_some.mpr ⟨_, _, starts, rfl⟩, ?_⟩
          rcases List.eq_nil_or_concat' errors with rfl | ⟨init, final, rfl⟩
          · have lengths := congrArg List.length impossible
            simp only [World.Schedule.next, List.length_map, List.length_range', List.length_nil]
              at lengths
            omega
          · rw [List.foldl_append]
            have split : handle :: rest = [] ++ handle :: rest := rfl
            exact .exhausted split (by simp) impossible moves

theorem moves_of_stopAll {handles : List Handle}
    (ended : stopAll world handles limit run = (some (), last)) :
    run.moves last = handles.map fun handle => .stopped handle.node := by
  induction handles generalizing run with
  | nil =>
      cases ended
      exact Run.moves_self _
  | cons handle rest ih =>
      rcases bind_eq_some.mp ended with ⟨_, between, stops, endedRest⟩
      have stopping : Run.Course world (Deed.Within fun _ => True) run between :=
        (follows_stopNode trivial).course stops
      have onward : Run.Course world (Deed.Within fun _ => True) between last :=
        (follows_stopAll fun _ _ => trivial).course endedRest
      rw [stopping.moves_trans onward, moves_of_stopNode stops, ih endedRest]
      rfl

theorem not_ok_of_map_error {outcomes : List (Except ClusterError Unit)} {errors : List ClusterError}
    (impossible : outcomes = errors.map .error) : .ok () ∉ outcomes := by
  simp [impossible]

/-- Whatever the schedule of the attempts is, and whatever comes of stopping nodes: a cluster is started
if one of so many attempts on each of its nodes succeeds. Its nodes are then started in their order, and
each is stopped after each attempt that has failed. If not, the error names the first node that has only
errors, with the last of them; the nodes after it are left alone, and in the end all nodes are stopped. -/
theorem start_all_or_none (schedule : world.Schedule) (harness : Harness) (run : Run State)
    (distinct : (harness.handles.map Handle.node).Nodup)
    (ends : ∀ handle ∈ harness.handles, (startNode world handle.node).Ends) :
    let most := max harness.startAttempts 1
    let coming := fun handle : Handle => schedule.next run.state handle.node most
    let rise := fun handle : Handle =>
      Move.tried handle.node (leadingErrors (coming handle)) ++ [.started handle.node (.ok ())]
    ∃ result last, harness.start world none run = (some result, last) ∧
      (result = .ok () ↔ ∀ handle ∈ harness.handles, .ok () ∈ coming handle) ∧
      (result = .ok () → run.moves last = harness.handles.flatMap rise) ∧
      ∀ error, result = .error error → ∃ before handle after errors final,
        harness.handles = before ++ handle :: after ∧
          (∀ earlier ∈ before, .ok () ∈ coming earlier) ∧
          coming handle = (errors ++ [final]).map .error ∧
          errors.length + 1 = most ∧
          error = .startupFailed handle.name most final.message ∧
          run.moves last = before.flatMap rise ++ Move.tried handle.node (errors ++ [final]) ++
            harness.handles.map fun handle => .stopped handle.node := by
  intro most coming rise
  rcases brought_startAll schedule harness.startAttempts run distinct ends with
    ⟨result, between, starts, brought⟩
  unfold start
  cases brought with
  | up possible moves =>
      refine ⟨.ok (), between, bind_eq_some.mpr ⟨_, _, starts, rfl⟩, ?_, fun _ => moves, nofun⟩
      exact ⟨fun _ => possible, fun _ => rfl⟩
  | @exhausted before after handle errors final split possible impossible moves =>
      have endsStop : (stopAll world harness.handles).Ends := ends_stopAll _
      rcases endsStop between with ⟨⟨⟩, last, stops⟩
      refine ⟨_, last, bind_eq_some.mpr ⟨_, _, starts, bind_eq_some.mpr ⟨_, _, stops, rfl⟩⟩,
        ?_, nofun, ?_⟩
      · refine ⟨nofun, fun possibleAll => ?_⟩
        have member : handle ∈ harness.handles := by simp [split]
        exact absurd (possibleAll handle member) (not_ok_of_map_error impossible)
      · rintro error ⟨⟩
        have lengths := congrArg List.length impossible
        have starting : Run.Course world (Deed.Within fun _ => True) run between :=
          (follows_startAll (fun _ _ => trivial) (fun _ _ => trivial) _).course starts
        have stopping : Run.Course world (Deed.Within fun _ => True) between last :=
          (follows_stopAll fun _ _ => trivial).course stops
        refine ⟨before, handle, after, errors, final, split, possible, impossible, ?_, rfl, ?_⟩
        · simpa [World.Schedule.next, eq_comm] using lengths
        · rw [starting.moves_trans stopping, moves, moves_of_stopAll stops]
          rfl

end Harness

/-! ## Surroundings on a schedule -/

/-- Surroundings in which the attempts on nodes come out as scheduled, and so does each stop after so
many attempts. Their state is the nodes that were attempted, the latest first. -/
def World.scheduled (starts stops : Node → Nat → Except ClusterError Unit) : World (List Node) where
  launch _ _ tried := (.ok (), tried)
  connect _ _ tried := (.ok (), tried)
  record _ _ tried := (.ok (), tried)
  portInUse _ _ tried := (false, tried)
  start node _ tried := (.done (starts node (tried.count node)), node :: tried)
  stop node _ tried := (stops node (tried.count node), tried)
  signal _ _ tried := (.ok (), tried)
  wait _ _ _ tried := (.done (.ok none), tried)
  isRunning _ _ tried := (false, tried)
  query _ _ _ tried := (.done (.ok (.affected 0)), tried)
  draw _ tried := (0, tried)

/-- Every schedule can be had. -/
def World.schedule (starts stops : Node → Nat → Except ClusterError Unit) :
    (World.scheduled starts stops).Schedule where
  outcome := starts
  attempts node tried := tried.count node
  started := by
    intro node look tried answer came
    cases came
    exact ⟨rfl, List.count_cons_self⟩
  starting := by
    intro node look tried going
    exact absurd rfl (going _)
  attempts_touch := by
    intro node deed now before after touched other
    cases touched with
    | start started =>
        apply List.count_cons_of_ne
        rintro rfl
        exact other rfl
    | _ => rfl

namespace Harness

/-- Three nodes. The first attempt on each fails, and so do all on the second and all stops. -/
def trio : Harness where
  name := "trio"
  transportRange := .ofLength 42000 3
  handles := (namesFor "trio" 3).zipIdx.map fun (name, serial) =>
    ⟨⟨{ (default : NodeSpec) with name }, serial⟩, false⟩
  policy := .ofSettings {}
  startAttempts := 2
  quorumPoll := .ofMillis 100

def trioStarts (node : Node) (attempt : Nat) : Except ClusterError Unit :=
  if node.serial = 1 || attempt = 0 then .error (.spawnFailed (toString attempt)) else .ok ()

def trioStops (node : Node) (attempts : Nat) : Except ClusterError Unit :=
  .error (.signalFailed node.name (toString attempts))

def trioStart : Option (Except ClusterError Unit) × Run (List Node) :=
  trio.start (World.scheduled trioStarts trioStops) none (.start [] ⟨42000, 44000, false⟩)

theorem start_all_or_none_of_trio :
    ∃ last before handle after, ∃ errors : List ClusterError, ∃ final : ClusterError,
      trioStart =
        (some (.error (.startupFailed "crate_trio_1" 2 "Failed to spawn process: 1")), last) ∧
      trio.handles = before ++ handle :: after ∧ handle.name = "crate_trio_1" ∧
      errors.length + 1 = 2 ∧ final.message = "Failed to spawn process: 1" := by
  have ends : ∀ node, (startNode (World.scheduled trioStarts trioStops) node).Ends := by
    intro node
    have prompt : Prompts .zero ((World.scheduled trioStarts trioStops).start node) :=
      ⟨nofun, nofun, fun _ _ _ => ⟨_, rfl⟩⟩
    exact ends_noted (ends_await prompt (by decide)) _
  rcases start_all_or_none (World.schedule trioStarts trioStops) trio
    (.start [] ⟨42000, 44000, false⟩) (by decide +kernel) (fun _ _ => ends _) with
    ⟨result, last, ended, _, _, exhausted⟩
  have failed : trioStart.1 =
      some (.error (.startupFailed "crate_trio_1" 2 "Failed to spawn process: 1")) := by
    decide +kernel
  rw [trioStart, ended, Option.some.injEq] at failed
  rcases exhausted _ failed with
    ⟨before, handle, after, errors, final, split, _, _, count, same, _⟩
  rw [ClusterError.startupFailed.injEq] at same
  rcases same with ⟨named, _, text⟩
  refine ⟨last, before, handle, after, errors, final, ?_, split, named.symm, count, text.symm⟩
  rw [trioStart, ended, failed]

end Harness

end GracefulStop
