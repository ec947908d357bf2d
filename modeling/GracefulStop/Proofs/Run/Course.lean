import GracefulStop.Run.Effects
import Mathlib.Logic.Relation

/-!
# Courses of runs

Whatever an action does, it does in strides: the clock moves on, the surroundings are asked for one
thing, one event is written down, a workload takes steps, or a worker goes on. A course is any number
of strides. What an action may do is a set of deeds, and an action follows a set of deeds if every run
of it, cut off or not, is a course in which only those deeds are done.

An invariant is then shown stride by stride, once for all actions.
-/

namespace GracefulStop

/-- One thing that a run does to its surroundings or to itself. -/
inductive Deed where
  | launch (node : Node)
  | connect (node : Node)
  | keep (manifest : Manifest)
  /-- Takes ports out of the pool. -/
  | reserve
  /-- Gives a node its number. -/
  | lay
  | start (node : Node)
  | stop (node : Node)
  | signal (node : Node)
  | wait (node : Node) (timeout : Duration)
  | check (node : Node)
  | pick (node : Node)
  | ask (node : Node) (request : Request)
  | draw
  /-- Starts a workload. -/
  | load (node : Node)
  /-- Takes steps of the caller of a workload. -/
  | steer
  /-- What the workers of workloads do. -/
  | work
  /-- Writes an event into the log. -/
  | write (event : Event)

/-- The deed that an event is about. -/
def Event.deed : Event → Deed
  | .launched node _ => .launch node
  | .connected node _ => .connect node
  | .recorded manifest _ => .keep manifest
  | .started node _ => .start node
  | .stopped node _ => .stop node
  | .signalled node _ => .signal node
  | .waited node timeout _ => .wait node timeout
  | .checked node _ => .check node
  | .picked node => .pick node
  | .asked node request => .ask node request
  | .answered node request _ => .ask node request
  | .workloadStarted _ node _ _ => .load node
  | .workerAsked _ _ _ => .work
  | .workerAnswered _ _ _ _ => .work
  | .workloadStopped _ _ => .steer

/-- What a deed is about, where writing an event down is about what the event is about. -/
def Deed.about : Deed → Deed
  | .write event => event.deed
  | deed => deed

/-- The deeds of a set, and writing down what is about them. -/
def Deed.Within (may : Deed → Prop) (deed : Deed) : Prop := may deed.about

/-- What is about a deed of a set is within the set. -/
theorem Deed.within_of_eq {may : Deed → Prop} {part : Deed} (allowed : may part) (deed : Deed)
    (same : Within (· = part) deed) : Within may deed := by
  have about : deed.about = part := same
  rwa [Within, about]

variable {State : Type}

/-- What a deed does at some moment to the surroundings when they are asked once. -/
inductive World.Touch (world : World State) : Deed → Instant → State → State → Prop
  | launch (node : Node) (now : Instant) (state : State) :
      Touch world (.launch node) now state (world.launch node now state).2
  | connect (node : Node) (now : Instant) (state : State) :
      Touch world (.connect node) now state (world.connect node now state).2
  | keep (manifest : Manifest) (now : Instant) (state : State) :
      Touch world (.keep manifest) now state (world.record manifest now state).2
  | reserve (port : Nat) (now : Instant) (state : State) :
      Touch world .reserve now state (world.portInUse now port state).2
  | start (node : Node) (look : Look) (state : State) :
      Touch world (.start node) look.now state (world.start node look state).2
  | stop (node : Node) (now : Instant) (state : State) :
      Touch world (.stop node) now state (world.stop node now state).2
  | signal (node : Node) (now : Instant) (state : State) :
      Touch world (.signal node) now state (world.signal node now state).2
  | wait (node : Node) (timeout : Duration) (look : Look) (state : State) :
      Touch world (.wait node timeout) look.now state (world.wait node timeout look state).2
  | check (node : Node) (now : Instant) (state : State) :
      Touch world (.check node) now state (world.isRunning node now state).2
  | ask (node : Node) (request : Request) (look : Look) (state : State) :
      Touch world (.ask node request) look.now state (world.query node request look state).2
  | draw (bound : Nat) (now : Instant) (state : State) :
      Touch world .draw now state (world.draw bound state).2
  | workerAsk (node : Node) (request : Request) (look : Look) (now : Instant) (state : State) :
      Touch world .work now state (world.query node request look state).2
  | workerDraw (bound : Nat) (now : Instant) (state : State) :
      Touch world .work now state (world.draw bound state).2

/-- What a deed does to the surroundings when they are asked any number of times. -/
def World.Touches (world : World State) (deed : Deed) (now : Instant) : State → State → Prop :=
  Relation.ReflTransGen (world.Touch deed now)

/-- A step that the caller of a workload takes, and none of its workers. -/
def Workload.Step.OfCaller : Workload.Step → Prop
  | .lower => True
  | .meet => True
  | .collect => True
  | _ => False

namespace Run

/-- One stride of a run in which only some deeds are done. -/
inductive Stride (world : World State) (may : Deed → Prop) (run : Run State) : Run State → Prop
  | tick {moment : Instant} (later : run.clock ≤ moment) :
      Stride world may run { run with clock := moment }
  | touch {deed : Deed} {state : State} (allowed : may deed)
      (touched : world.Touch deed run.clock run.state state) :
      Stride world may run { run with state }
  /-- What workers have done only they write down. -/
  | note {event : Event} (allowed : may (.write event)) (own : event.deed ≠ .work) :
      Stride world may run (run.note event)
  | reserve {ports : PortPool} (allowed : may .reserve) : Stride world may run { run with ports }
  | lay (allowed : may .lay) : Stride world may run { run with nodes := run.nodes + 1 }
  | load {node : Node} {table : String} {kinds : List OperationKind} {perKind : Nat}
      (allowed : may (.load node)) :
      Stride world may run
        { run with
          loads := run.loads ++
            [⟨node, table, .start kinds perKind,
              (Workload.start kinds perKind).workers.map fun _ => ⟨run.clock, none⟩⟩] }
  | steer {position : Nat} {steps : List Workload.Step} (allowed : may .steer)
      (ofCaller : ∀ step ∈ steps, step.OfCaller) :
      Stride world may run
        { run with loads := run.loads.modify position fun load => load.perform steps }
  | work {due : Instant} {position index : Nat} (next : run.nextDue = some (due, position, index)) :
      Stride world may run (run.work world due position index)

/-- Any number of strides. -/
def Course (world : World State) (may : Deed → Prop) : Run State → Run State → Prop :=
  Relation.ReflTransGen (Stride world may)

namespace Course

variable {world : World State} {may : Deed → Prop} {run between last : Run State}

theorem refl : Course world may run run := Relation.ReflTransGen.refl

theorem trans (first : Course world may run between) (second : Course world may between last) :
    Course world may run last := Relation.ReflTransGen.trans first second

theorem single (stride : Stride world may run last) : Course world may run last :=
  Relation.ReflTransGen.single stride

/-- More deeds allow more courses. -/
theorem mono {might : Deed → Prop} (wider : ∀ deed, may deed → might deed)
    (course : Course world may run last) : Course world might run last := by
  induction course with
  | refl => exact .refl
  | tail _ stride ih =>
      refine ih.trans (.single ?_)
      cases stride with
      | tick later => exact .tick later
      | touch allowed touched => exact .touch (wider _ allowed) touched
      | note allowed own => exact .note (wider _ allowed) own
      | reserve allowed => exact .reserve (wider _ allowed)
      | lay allowed => exact .lay (wider _ allowed)
      | load allowed => exact .load (wider _ allowed)
      | steer allowed ofCaller => exact .steer (wider _ allowed) ofCaller
      | work next => exact .work next

/-- A course, whatever is done in it. -/
theorem any (course : Course world may run last) : Course world (fun _ => True) run last :=
  course.mono fun _ _ => trivial

/-- A relation that every stride is in, and that is closed under composition, holds of a course. -/
theorem induct {holds : Run State → Run State → Prop} (same : ∀ run, holds run run)
    (compose : ∀ {first second third}, holds first second → holds second third →
      holds first third)
    (each : ∀ {before after}, Stride world may before after → holds before after)
    (course : Course world may run last) : holds run last := by
  induction course with
  | refl => exact same run
  | tail _ stride ih => exact compose ih (each stride)

/-- Surroundings that are asked any number of times. -/
theorem touches {deed : Deed} {state : State} (allowed : may deed)
    (touched : world.Touches deed run.clock run.state state) :
    Course world may run { run with state } := by
  induction touched with
  | refl => exact .refl
  | tail _ touch ih => exact ih.trans (.single (.touch allowed touch))

/-- Workers go on up to a moment. -/
theorem workUntil (moment : Instant) (steps : Nat) (run : Run State) :
    Course world may run (run.workUntil world moment steps) := by
  induction steps generalizing run with
  | zero => exact .refl
  | succ steps ih =>
      unfold Run.workUntil
      cases once : run.workOnce world moment with
      | none => exact .refl
      | some next =>
          simp only [workOnce] at once
          split at once
          · rename_i due position index found
            split at once
            · cases once
              exact (Course.single (.work found)).trans (ih _)
            · cases once
          · cases once

/-- Time passes. -/
theorem advance (moment : Instant) (run : Run State) :
    Course world may run (run.advance world moment) := by
  refine (workUntil moment _ run).trans (.single (.tick ?_))
  simp only [Duration.le_def, Duration.nanos_max]
  omega

/-- Workers go on to the end of a workload. -/
theorem workToEnd {position steps : Nat} (ended : run.workToEnd world position steps = some last) :
    Course world may run last := by
  induction steps generalizing run with
  | zero => cases ended
  | succ steps ih =>
      unfold Run.workToEnd at ended
      split at ended
      · cases ended
        exact .refl
      · split at ended
        · cases ended
          exact .refl
        · split at ended
          · rename_i due next index found
            exact (Course.single (.work found)).trans (ih ended)
          · cases ended

end Course

end Run

namespace Action

variable {world : World State} {may : Deed → Prop} {Result Next : Type}

/-- Whatever an action does, it does only deeds of a set. -/
def Follows (world : World State) (may : Deed → Prop) (action : Action State Result) : Prop :=
  ∀ limit run, Run.Course world may run (action limit run).2

/-- The course of an action that has come to a result. -/
theorem Follows.course {action : Action State Result} (follows : action.Follows world may)
    {limit : Option Instant} {run last : Run State} {result : Option Result}
    (ended : action limit run = (result, last)) : Run.Course world may run last := by
  have course := follows limit run
  rw [ended] at course
  exact course

/-- An action that does less may do more. -/
theorem Follows.mono {might : Deed → Prop} {action : Action State Result}
    (follows : action.Follows world may) (wider : ∀ deed, may deed → might deed) :
    action.Follows world might :=
  fun limit run => (follows limit run).mono wider

/-- The second of two actions goes on where the first one came to a result. -/
theorem bind_of_eq_some {first : Action State Result} {next : Result → Action State Next}
    {limit : Option Instant} {run between : Run State} {value : Result}
    (ended : first limit run = (some value, between)) :
    (first >>= next) limit run = next value limit between := by
  change Action.bind first next limit run = _
  simp only [Action.bind, ended]

/-- An action that is cut off is not followed by another. -/
theorem bind_of_eq_none {first : Action State Result} {next : Result → Action State Next}
    {limit : Option Instant} {run between : Run State}
    (ended : first limit run = (none, between)) : (first >>= next) limit run = (none, between) := by
  change Action.bind first next limit run = _
  simp only [Action.bind, ended]

/-- Two actions after each other come to a result by a result of the first one. -/
theorem bind_eq_some {first : Action State Result} {next : Result → Action State Next}
    {limit : Option Instant} {run last : Run State} {result : Next} :
    (first >>= next) limit run = (some result, last) ↔
      ∃ value between, first limit run = (some value, between) ∧
        next value limit between = (some result, last) := by
  rcases ended : first limit run with ⟨_ | value, between⟩
  · simp [bind_of_eq_none ended]
  · rw [bind_of_eq_some ended]
    constructor
    · intro endedNext
      exact ⟨value, between, rfl, endedNext⟩
    · rintro ⟨_, _, ⟨⟩, endedNext⟩
      exact endedNext

theorem pure_eq_some {value result : Result} {limit : Option Instant} {run last : Run State} :
    (pure value : Action State Result) limit run = (some result, last) ↔
      value = result ∧ run = last := by
  change (some value, run) = (some result, last) ↔ _
  simp

theorem follows_pure (result : Result) : (pure result : Action State Result).Follows world may :=
  fun _ _ => .refl

theorem follows_bind {first : Action State Result} {next : Result → Action State Next}
    (followsFirst : first.Follows world may) (followsNext : ∀ result, (next result).Follows world may) :
    (first >>= next).Follows world may := by
  intro limit run
  have course := followsFirst limit run
  rcases ended : first limit run with ⟨_ | value, between⟩
  · rw [ended] at course
    rw [bind_of_eq_none ended]
    exact course
  · rw [ended] at course
    rw [bind_of_eq_some ended]
    exact course.trans (followsNext value limit between)

theorem follows_now : (now : Action State Instant).Follows world may := fun _ _ => .refl

theorem follows_note {event : Event} (allowed : may (.write event)) (own : event.deed ≠ .work) :
    (note event : Action State Unit).Follows world may :=
  fun _ _ => .single (.note allowed own)

theorem follows_sleep (length : Duration) : (sleep world length).Follows world may := by
  intro limit run
  simp only [sleep]
  split
  · exact .refl
  · split
    · exact .advance _ run
    · split <;> exact .advance _ run

theorem follows_stall : (stall world : Action State Result).Follows world may := by
  intro limit run
  cases limit with
  | none => exact .refl
  | some limit => exact .advance limit run

/-- What never comes does not come. -/
theorem stall_ne_some {result : Result} {limit : Option Instant} {run last : Run State} :
    stall world limit run ≠ (some result, last) := by
  cases limit <;> simp [stall]

/-- What comes in time comes of the action itself. -/
theorem of_within_eq_some {length : Duration} {action : Action State Result} {result : Result}
    {limit : Option Instant} {run last : Run State}
    (ended : within world length action limit run = (some (some result), last)) :
    ∃ sooner, action sooner run = (some result, last) := by
  cases limit with
  | none =>
      simp only [within] at ended
      split at ended
      · rename_i came
        cases ended
        exact ⟨_, came⟩
      · cases ended
  | some limit =>
      simp only [within] at ended
      split at ended
      · rename_i came
        cases ended
        exact ⟨_, came⟩
      · split at ended <;> cases ended

/-- Whatever an action that is cut off leads to, the time that it was given leads there too. -/
theorem course_within {length : Duration} {action : Action State Result} {first run : Run State}
    (course : ∀ limit, Run.Course world may first (action limit run).2) (limit : Option Instant) :
    Run.Course world may first (within world length action limit run).2 := by
  cases limit with
  | none =>
      simp only [within]
      have reached := course (some (wakeTime run.clock length))
      revert reached
      rcases action (some (wakeTime run.clock length)) run with ⟨_ | value, between⟩ <;>
        intro reached
      · exact reached.trans (.advance _ between)
      · exact reached
  | some limit =>
      simp only [within]
      have reached := course (some (min (wakeTime run.clock length) limit))
      revert reached
      rcases action (some (min (wakeTime run.clock length) limit)) run with ⟨_ | value, between⟩ <;>
        intro reached
      · dsimp only
        split <;> exact reached.trans (.advance _ between)
      · exact reached

theorem follows_within (length : Duration) {action : Action State Result}
    (follows : action.Follows world may) : (within world length action).Follows world may :=
  fun limit run => course_within (fun sooner => follows sooner run) limit

/-- One look at something that takes time. -/
theorem poll_succ (look : Look → State → Progress Answer × State) (began : Instant)
    (index tries : Nat) (limit : Option Instant) (run : Run State) :
    poll world look began index (tries + 1) limit run =
      (match (look ⟨began, run.clock, index⟩ run.state).1 with
        | .done answer => pure answer
        | .pause length => do
            sleep world length
            poll world look began (index + 1) tries
        | .stalled => stall world : Action State Answer)
        limit { run with state := (look ⟨began, run.clock, index⟩ run.state).2 } := rfl

theorem patience_pos : 5 < patience := by
  unfold patience
  decide

theorem looks_eq_succ (world : World State) : world.looks = world.looks - 1 + 1 := by
  unfold World.looks
  omega

/-- What is done at the first look is awaited no longer. -/
theorem await_of_done {look : Look → State → Progress Answer × State} {answer : Answer}
    {state : State} {limit : Option Instant} {run : Run State}
    (found : look ⟨run.clock, run.clock, 0⟩ run.state = (.done answer, state)) :
    await world look limit run = (some answer, { run with state }) := by
  refine bind_eq_some.mpr ⟨run.clock, run, rfl, ?_⟩
  rw [looks_eq_succ world, poll_succ, found]
  rfl

/-- Looking again and again is a course if each look is one deed. -/
theorem follows_poll {Answer : Type} {look : Look → State → Progress Answer × State} {deed : Deed}
    (allowed : may deed)
    (touched : ∀ moment state, world.Touch deed moment.now state (look moment state).2)
    (began : Instant) (index tries : Nat) :
    (poll world look began index tries).Follows world may := by
  induction tries generalizing index with
  | zero => exact follows_stall
  | succ tries ih =>
      intro limit run
      let moment : Look := ⟨began, run.clock, index⟩
      have looked : Run.Course world may run { run with state := (look moment run.state).2 } :=
        .single (.touch allowed (touched moment run.state))
      refine looked.trans ?_
      rw [poll_succ]
      cases (look moment run.state).1 with
      | done answer => exact .refl
      | pause length =>
          exact follows_bind (follows_sleep length) (fun _ => ih (index + 1)) limit _
      | stalled => exact follows_stall limit _

theorem follows_await {Answer : Type} {look : Look → State → Progress Answer × State} {deed : Deed}
    (touched : ∀ moment state, world.Touch deed moment.now state (look moment state).2)
    (allowed : may deed) : (await world look).Follows world may :=
  follows_bind follows_now fun began => follows_poll allowed touched began 0 world.looks

theorem follows_atOnce {Answer : Type} {use : Instant → State → Answer × State} {deed : Deed}
    (touched : ∀ now state, world.Touch deed now state (use now state).2) (allowed : may deed) :
    (atOnce use).Follows world may :=
  fun _ run => .single (.touch allowed (touched run.clock run.state))

theorem follows_onState {change : State → Result × State} {deed : Deed} (allowed : may deed)
    (touched : ∀ now state, world.Touches deed now state (change state).2) :
    (onState change).Follows world may :=
  fun _ run => .touches allowed (touched run.clock run.state)

theorem follows_onPorts {use : Instant → PortPool → State → Result × PortPool × State}
    (allowed : may .reserve)
    (touched : ∀ now ports state, world.Touches .reserve now state (use now ports state).2.2) :
    (onPorts use).Follows world may := by
  intro limit run
  have probed : Run.Course world may run
      { run with state := (use run.clock run.ports run.state).2.2 } :=
    .touches allowed (touched run.clock run.ports run.state)
  exact probed.trans (.single (.reserve allowed))

theorem follows_lay (spec : NodeSpec) (allowed : may .lay) :
    (lay spec : Action State Node).Follows world may :=
  fun _ _ => .single (.lay allowed)

theorem follows_startLoad {node : Node} (allowed : may (.load node)) (table : String)
    (kinds : List OperationKind) (perKind : Nat) :
    (startLoad node table kinds perKind : Action State Nat).Follows world (Deed.Within may) := by
  intro limit run
  have loads : Deed.Within may (.load node) := allowed
  have notes : Deed.Within may (.write (.workloadStarted run.loads.length node kinds perKind)) := allowed
  exact (Run.Course.single (.load loads)).trans (.single (.note notes nofun))

theorem follows_workloadAt (position : Nat) :
    (workloadAt position : Action State Workload).Follows world may := fun _ _ => .refl

theorem follows_performOn (allowed : may .steer) (position : Nat) {steps : List Workload.Step}
    (ofCaller : ∀ step ∈ steps, step.OfCaller) :
    (performOn position steps : Action State Unit).Follows world may :=
  fun _ _ => .single (.steer allowed ofCaller)

theorem ofCaller_stopSteps : ∀ step ∈ Workload.stopSteps, step.OfCaller := by
  simp [Workload.stopSteps, Workload.Step.OfCaller]

theorem ofCaller_collect : ∀ step ∈ [Workload.Step.collect], step.OfCaller := by
  simp [Workload.Step.OfCaller]

theorem course_resume {next : Option (Run State)} {run : Run State}
    (comes : ∀ last, next = some last → Run.Course world may run last) (limit : Option Instant) :
    Run.Course world may run (resume world next limit run).2 := by
  cases next with
  | some last => exact comes last rfl
  | none => exact follows_stall limit run

theorem follows_awaitWorkers (position : Nat) :
    (awaitWorkers world position).Follows world may :=
  fun limit _ => course_resume (fun _ ended => .workToEnd ended) limit

theorem follows_stopLoad (allowed : may .steer) (position : Nat) :
    (stopLoad world position).Follows world (Deed.Within may) := by
  have steers : Deed.Within may .steer := allowed
  refine follows_bind (follows_performOn steers position ofCaller_stopSteps) fun _ => ?_
  refine follows_bind (follows_awaitWorkers position) fun _ => ?_
  refine follows_bind (follows_performOn steers position ofCaller_collect) fun _ => ?_
  refine follows_bind (follows_workloadAt position) fun workload => ?_
  exact follows_bind (follows_note allowed nofun) fun _ => follows_pure _

/-! ## Effects -/

theorem follows_launch {node : Node} (allowed : may (.launch node)) :
    (launch world node).Follows world (Deed.Within may) :=
  follows_bind (follows_atOnce (World.Touch.launch node) allowed) fun _ =>
    follows_bind (follows_note allowed nofun) fun _ => follows_pure _

theorem follows_connect {node : Node} (allowed : may (.connect node)) :
    (connect world node).Follows world (Deed.Within may) :=
  follows_bind (follows_atOnce (World.Touch.connect node) allowed) fun _ =>
    follows_bind (follows_note allowed nofun) fun _ => follows_pure _

theorem follows_keepManifest {manifest : Manifest} (allowed : may (.keep manifest)) :
    (keepManifest world manifest).Follows world (Deed.Within may) :=
  follows_bind (follows_atOnce (World.Touch.keep manifest) allowed) fun _ =>
    follows_bind (follows_note allowed nofun) fun _ => follows_pure _

theorem follows_startNode {node : Node} (allowed : may (.start node)) :
    (startNode world node).Follows world (Deed.Within may) :=
  follows_bind (follows_await (World.Touch.start node) allowed) fun _ =>
    follows_bind (follows_note allowed nofun) fun _ => follows_pure _

theorem follows_stopNode {node : Node} (allowed : may (.stop node)) :
    (stopNode world node).Follows world (Deed.Within may) :=
  follows_bind (follows_atOnce (World.Touch.stop node) allowed) fun _ =>
    follows_bind (follows_note allowed nofun) fun _ => follows_pure _

theorem follows_signalNode {node : Node} (allowed : may (.signal node)) :
    (signalNode world node).Follows world (Deed.Within may) :=
  follows_bind (follows_atOnce (World.Touch.signal node) allowed) fun _ =>
    follows_bind (follows_note allowed nofun) fun _ => follows_pure _

theorem follows_waitForNode {node : Node} {timeout : Duration}
    (allowed : may (.wait node timeout)) :
    (waitForNode world node timeout).Follows world (Deed.Within may) :=
  follows_bind (follows_await (World.Touch.wait node timeout) allowed) fun _ =>
    follows_bind (follows_note allowed nofun) fun _ => follows_pure _

theorem follows_isRunning {node : Node} (allowed : may (.check node)) :
    (isRunning world node).Follows world (Deed.Within may) :=
  follows_bind (follows_atOnce (World.Touch.check node) allowed) fun _ =>
    follows_bind (follows_note allowed nofun) fun _ => follows_pure _

theorem follows_query {node : Node} {request : Request} (allowed : may (.ask node request)) :
    (query world node request).Follows world (Deed.Within may) :=
  follows_bind (follows_note allowed nofun) fun _ =>
    follows_bind (follows_await (World.Touch.ask node request) allowed) fun _ =>
      follows_bind (follows_note allowed nofun) fun _ => follows_pure _

end Action

end GracefulStop
