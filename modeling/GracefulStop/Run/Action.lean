import GracefulStop.Port.Pool
import GracefulStop.Run.World
import GracefulStop.Workload.Workers

/-!
# Actions of a run

A run has a clock, which moves only while everything sleeps, the state of its surroundings, a
pool of ports, the workloads that are under way, and a log of what was done. An action is
a function on runs. It may be cut off at a limit: then it has no result, but what it did up to
the limit stays.

A sleep ends at a whole millisecond. Whatever sleeps in the background and is due before
goes on before; at the same millisecond the action itself goes on first.
-/

namespace GracefulStop

/-- The call of a worker that has not ended. -/
structure PendingCall where
  request : Request
  /-- The next look at the call. -/
  look : Look

/-- When a worker goes on, and with which call. -/
structure WorkerSlot where
  due : Instant
  call : Option PendingCall

/-- A workload under way: the node that its workers ask, and when each of them goes on. -/
structure Load where
  node : Node
  table : String
  workload : Workload
  slots : List WorkerSlot

/-- A run and its surroundings. -/
structure Run (State : Type) where
  clock : Instant
  state : State
  ports : PortPool
  /-- The number of nodes laid out so far. -/
  nodes : Nat
  loads : List Load
  /-- What was done, the latest first. -/
  log : List LogEntry

namespace Run

variable {State : Type}

/-- A run that has done nothing yet. -/
def start (state : State) (ports : PortPool) : Run State := ⟨⟨0⟩, state, ports, 0, [], []⟩

/-- The run with one more event in its log. -/
def note (run : Run State) (event : Event) : Run State :=
  { run with log := ⟨run.clock, event⟩ :: run.log }

/-- The events of a run in their order. -/
def events (run : Run State) : List Event := run.log.reverse.map (·.event)

end Run

/-- No sleep is longer: thirty years of 365 days. -/
def longestSleep : Duration := .ofSeconds (30 * 365 * 86400)

/-- The moment at which a sleep ends. -/
def wakeTime (now : Instant) (length : Duration) : Instant :=
  if length.nanos = 0 then now else (now + min length longestSleep).ceilMillis

namespace Load

variable {State : Type}

/-- The next moment of a worker that waits: a worker never goes on twice in one millisecond, so that
time passes even where calls take none. -/
def nextMoment (now : Instant) (length : Duration) : Instant :=
  max (wakeTime now length) (wakeTime now (.ofMillis 1))

/-- The load with the worker at an index waiting for a moment. -/
def await (load : Load) (index : Nat) (slot : WorkerSlot) : Load :=
  { load with slots := load.slots.set index slot }

/-- The load after steps of its workload, as far as they are possible. -/
def perform (load : Load) (steps : List Workload.Step) : Load :=
  { load with workload := load.workload.perform steps }

/-- Looks at the call of a worker. -/
def lookAtCall (world : World State) (load : Load) (worker : WorkerLabel) (call : PendingCall)
    (run : Run State) : Load × Run State :=
  let (progress, state) := world.query load.node call.request call.look run.state
  let run := { run with state }
  match progress with
  | .done result =>
    let run :=
      run.note (.workerAnswered worker load.node call.request (result.map Response.rowCount))
    let due := if call.look.index = 0 then nextMoment run.clock .zero else run.clock
    ((load.perform (Workload.endSteps worker.index (.returned result))).await worker.index
      ⟨due, none⟩, run)
  | .pause length =>
    let due := nextMoment run.clock length
    (load.await worker.index
      ⟨due, some { call with look := ⟨call.look.began, due, call.look.index + 1⟩ }⟩, run)
  | .stalled =>
    (load.await worker.index ⟨nextMoment run.clock (.ofSeconds 1), some call⟩, run)

/-- The worker at an index of the load at a position goes on. -/
def goOn (world : World State) (load : Load) (position index : Nat) (run : Run State) :
    Load × Run State :=
  match load.workload.workers[index]?, load.slots[index]? with
  | some worker, some slot =>
    let label : WorkerLabel := ⟨position, index, worker.kind⟩
    match slot.call with
    | some call => lookAtCall world load label call run
    | none =>
      let load := load.perform (Workload.lookSteps index)
      if load.workload.active then
        let (params, state) := worker.kind.params world.draw run.state
        let request := Request.single (worker.kind.statement load.table) params
        let run := { run with state }.note (.workerAsked label load.node request)
        lookAtCall world load label ⟨request, ⟨run.clock, run.clock, 0⟩⟩ run
      else (load, run)
  | _, _ => (load, run)

/-- The worker that goes on next, with its moment: the earliest, of several the first. -/
def nextDue (load : Load) : Option (Instant × Nat) :=
  (load.workload.workers.zip load.slots).zipIdx.foldl
    (fun best ((worker, slot), index) =>
      if worker.phase = .finished then best
      else match best with
        | some (due, _) => if slot.due < due then some (slot.due, index) else best
        | none => some (slot.due, index))
    none

end Load

namespace Run

variable {State : Type}

/-- The workload and the worker that go on next, with their moment. -/
def nextDue (run : Run State) : Option (Instant × Nat × Nat) :=
  run.loads.zipIdx.foldl
    (fun best (load, position) =>
      match load.nextDue, best with
      | some (due, index), some (earliest, _) =>
        if due < earliest then some (due, position, index) else best
      | some (due, index), none => some (due, position, index)
      | none, _ => best)
    none

/-- A worker goes on at its moment. -/
def work (world : World State) (due : Instant) (position index : Nat) (run : Run State) :
    Run State :=
  match run.loads[position]? with
  | some load =>
    let (load, run) := load.goOn world position index { run with clock := max run.clock due }
    { run with loads := run.loads.set position load }
  | none => run

/-- The worker that goes on next does so, if its moment is before `stop`. -/
def workOnce (world : World State) (stop : Instant) (run : Run State) : Option (Run State) :=
  match run.nextDue with
  | some (due, position, index) =>
    if due < stop then some (run.work world due position index) else none
  | none => none

/-- Lets the workers go on up to a moment, for at most so many steps. -/
def workUntil (world : World State) (stop : Instant) : (steps : Nat) → Run State → Run State
  | 0, run => run
  | steps + 1, run =>
    match run.workOnce world stop with
    | some run => workUntil world stop steps run
    | none => run

/-- Lets the workers go on until those of one workload have all come to its barrier; nothing if they
have not after so many steps. -/
def workToEnd (world : World State) (position : Nat) :
    (steps : Nat) → Run State → Option (Run State)
  | 0, _ => none
  | steps + 1, run =>
    match run.loads[position]? with
    | none => some run
    | some load =>
      if load.workload.isFinished then some run
      else match run.nextDue with
        | some (due, next, index) => workToEnd world position steps (run.work world due next index)
        | none => none

/-- How many workers are under way. -/
def workerCount (run : Run State) : Nat :=
  (run.loads.map fun load => load.workload.workers.length).foldr (· + ·) 0

/-- No more steps than these are possible up to a moment: a worker goes on at most three times in a
millisecond. -/
def stepsUntil (run : Run State) (stop : Instant) : Nat :=
  3 * run.workerCount * ((stop - run.clock).millis + 2)

/-- The clock moves to a moment, and the workers that are due before go on before. -/
def advance (world : World State) (moment : Instant) (run : Run State) : Run State :=
  let run := run.workUntil world moment (run.stepsUntil moment)
  { run with clock := max run.clock moment }

end Run

/-- How often something is looked at that takes time: more often than once in every millisecond that is
allowed. -/
@[irreducible]
def World.looks {State : Type} (world : World State) : Nat := world.allowed.millis + 6

/-- A function on runs. It is given the moment at which it is cut off, if there is one, and has no
result if it was cut off or never ends. -/
def Action (State Result : Type) := Option Instant → Run State → Option Result × Run State

namespace Action

variable {State Result Next : Type}

/-- Does nothing. -/
protected def pure (result : Result) : Action State Result := fun _ run => (some result, run)

/-- Does one action and then another, unless the first was cut off. -/
protected def bind (first : Action State Result) (next : Result → Action State Next) :
    Action State Next := fun limit run =>
  match first limit run with
  | (some result, run) => next result limit run
  | (none, run) => (none, run)

instance : Monad (Action State) where
  pure := Action.pure
  bind := Action.bind

/-- The time. -/
def now : Action State Instant := fun _ run => (some run.clock, run)

/-- Writes an event into the log. -/
def note (event : Event) : Action State Unit := fun _ run => (some (), run.note event)

/-- Uses the state of the surroundings. -/
def onState (change : State → Result × State) : Action State Result := fun _ run =>
  let (result, state) := change run.state
  (some result, { run with state })

/-- Sleeps. A sleep of no length ends at once. -/
def sleep (world : World State) (length : Duration) : Action State Unit := fun limit run =>
  if length.nanos = 0 then (some (), run)
  else
    let wake := wakeTime run.clock length
    match limit with
    | none => (some (), run.advance world wake)
    | some limit =>
      if wake ≤ limit then (some (), run.advance world wake)
      else (none, run.advance world limit)

/-- Waits for what never comes. -/
def stall (world : World State) : Action State Result := fun limit run =>
  match limit with
  | some limit => (none, run.advance world limit)
  | none => (none, run)

/-- Cuts an action off after a time. What it can do at the very end of that time still counts. -/
def within (world : World State) (length : Duration) (action : Action State Result) :
    Action State (Option Result) := fun limit run =>
  let stop := wakeTime run.clock length
  match limit with
  | none =>
    match action (some stop) run with
    | (some result, run) => (some (some result), run)
    | (none, run) => (some none, run.advance world stop)
  | some limit =>
    match action (some (min stop limit)) run with
    | (some result, run) => (some (some result), run)
    | (none, run) =>
      if stop ≤ limit then (some none, run.advance world stop)
      else (none, run.advance world limit)

/-- How often something is looked at that might never be done, where nothing says how long it may
take. -/
@[irreducible]
def patience : Nat := 1000000

/-- Looks again and again until there is an answer. -/
def poll {Answer : Type} (world : World State)
    (look : Look → State → Progress Answer × State) (began : Instant) (index : Nat) :
    (tries : Nat) → Action State Answer
  | 0 => stall world
  | tries + 1 => do
    let now ← now
    match ← onState (look ⟨began, now, index⟩) with
    | .done answer => pure answer
    | .pause length =>
      sleep world length
      poll world look began (index + 1) tries
    | .stalled => stall world

/-- Waits for the answer to something that takes time. -/
def await {Answer : Type} (world : World State)
    (look : Look → State → Progress Answer × State) : Action State Answer := do
  poll world look (← now) 0 world.looks

/-- Uses the surroundings at this moment. -/
def atOnce {Answer : Type} (use : Instant → State → Answer × State) : Action State Answer := do
  onState (use (← now))

/-- Uses the pool of ports at this moment. -/
def onPorts (use : Instant → PortPool → State → Result × PortPool × State) : Action State Result :=
  fun _ run =>
    let (result, ports, state) := use run.clock run.ports run.state
    (some result, { run with ports, state })

/-- Starts a workload whose workers ask a node, and gives its position among the workloads of the
run. -/
def startLoad (node : Node) (table : String) (kinds : List OperationKind) (perKind : Nat) :
    Action State Nat := fun _ run =>
  let workload := Workload.start kinds perKind
  let slots := workload.workers.map fun _ => (⟨run.clock, none⟩ : WorkerSlot)
  let load : Load := ⟨node, table, workload, slots⟩
  let position := run.loads.length
  (some position,
    { run with loads := run.loads ++ [load] }.note (.workloadStarted position node kinds perKind))

/-- A workload as it stands. -/
def workloadAt (position : Nat) : Action State Workload := fun _ run =>
  (some ((run.loads[position]?.map Load.workload).getD (Workload.start [] 0)), run)

/-- The caller takes steps of a workload, as far as they are possible. -/
def performOn (position : Nat) (steps : List Workload.Step) : Action State Unit := fun _ run =>
  (some (), { run with loads := run.loads.modify position fun load => load.perform steps })

/-- Goes on with a run, or stalls where there is none. -/
def resume (world : World State) (next : Option (Run State)) : Action State Unit := fun limit run =>
  match next with
  | some run => (some (), run)
  | none => stall world limit run

/-- Waits until the workers of a workload have ended. Each of them is given so many steps. -/
def awaitWorkers (world : World State) (position : Nat) : Action State Unit := fun limit run =>
  resume world (run.workToEnd world position (world.looks * (run.workerCount + 1))) limit run

/-- Stops a workload: takes its flag down, waits until its workers have ended, and gives what they
recorded. -/
def stopLoad (world : World State) (position : Nat) : Action State (List WorkloadError) := do
  performOn position Workload.stopSteps
  awaitWorkers world position
  performOn position [.collect]
  let errors := (← workloadAt position).collected
  note (.workloadStopped position errors)
  pure errors

/-- Gives a node its number. -/
def lay (spec : NodeSpec) : Action State Node := fun _ run =>
  (some ⟨spec, run.nodes⟩, { run with nodes := run.nodes + 1 })

end Action

end GracefulStop
