import GracefulStop.Proofs.Run.Touches
import GracefulStop.Proofs.Workload.Barrier

/-!
# What workers do to a run

A worker that goes on asks the surroundings, writes down what it asked and was answered, and takes
steps of its workload. The clock and everything else of the run stay as they are.
-/

namespace GracefulStop

namespace Workload

/-- A step that every property of a workload is kept by, or that is left out, keeps it. -/
theorem perform_induction {holds : Workload → Prop}
    (kept : ∀ workload step next, holds workload → workload.Move step next → holds next)
    (steps : List Step) {workload : Workload} (first : holds workload) :
    holds (workload.perform steps) := by
  induction steps generalizing workload with
  | nil => exact first
  | cons step rest ih =>
      have once : holds ((workload.step? step).getD workload) := by
        cases stepped : workload.step? step with
        | none => exact first
        | some next => exact kept workload step next first (step?_eq_some_iff.mp stepped)
      exact ih once

/-- The parties stay together whatever steps are taken as far as they are possible. -/
theorem Assembled.perform {workload : Workload} (assembled : workload.Assembled)
    (steps : List Step) : (workload.perform steps).Assembled :=
  perform_induction (fun _ _ _ together moved => together.move moved) steps assembled

/-- Every worker has ended. -/
def Ended (workload : Workload) : Prop := ∀ worker ∈ workload.workers, worker.phase = .finished

/-- Workers that have ended do not move. -/
theorem Ended.move {workload next : Workload} {step : Step} (ended : workload.Ended)
    (moved : workload.Move step next) : next.Ended := by
  have still : ∀ {index : Nat} {worker : Worker},
      workload.workers[index]? = some worker → worker.phase = .finished :=
    fun stands => ended _ (List.mem_of_getElem? stands)
  cases moved with
  | look stands => cases still stands
  | answer stands => cases still stands
  | count stands => cases still stands
  | recordReturn stands => cases still stands
  | recordBreak stands => cases still stands
  | arrive stands => cases still stands
  | lower away => exact ended
  | meet lowered => exact ended
  | collect waiting opened => exact ended

/-- Workers that have ended do not move whatever steps are tried. -/
theorem Ended.perform {workload : Workload} (ended : workload.Ended) (steps : List Step) :
    (workload.perform steps).Ended :=
  perform_induction (fun _ _ _ before moved => before.move moved) steps ended

/-- Who finds the barrier open finds every worker ended. -/
theorem Assembled.ended {workload : Workload} (assembled : workload.Assembled)
    (opened : workload.isFinished = true) : workload.Ended :=
  fun _ member => assembled.finished_of_open opened member

end Workload

variable {State : Type} {world : World State}

@[simp]
theorem Run.events_note (run : Run State) (event : Event) :
    (run.note event).events = run.events ++ [event] := by
  simp [Run.note, Run.events]

/-- A worker of the workload at a position has asked or was answered. -/
inductive Event.OfWorker (position : Nat) : Event → Prop
  | asked {worker : WorkerLabel} {node : Node} {request : Request} (place : worker.load = position) :
      OfWorker position (.workerAsked worker node request)
  | answered {worker : WorkerLabel} {node : Node} {request : Request}
      {result : Except QueryError Int} (place : worker.load = position) :
      OfWorker position (.workerAnswered worker node request result)

theorem Event.OfWorker.deed {position : Nat} {event : Event} (ofWorker : event.OfWorker position) :
    event.deed = .work := by
  cases ofWorker <;> rfl

/-- The records that an event owes to the workload at a position: an answer to one of its workers owes
one if it is an error that is not benign. -/
def Event.records (position : Nat) : Event → List WorkloadError
  | .workerAnswered worker _ _ (.error error) =>
    if worker.load = position then Workload.recordOf worker.kind (some error) else []
  | _ => []

/-- The records that events owe to the workload at a position, in their order. -/
def Event.owed (position : Nat) (events : List Event) : List WorkloadError :=
  events.flatMap (records position)

@[simp]
theorem Event.owed_nil (position : Nat) : owed position [] = [] := rfl

@[simp]
theorem Event.owed_append (position : Nat) (first second : List Event) :
    owed position (first ++ second) = owed position first ++ owed position second :=
  List.flatMap_append

@[simp]
theorem Event.owed_singleton (position : Nat) (event : Event) :
    owed position [event] = event.records position :=
  List.flatMap_singleton _ _

/-- What a worker that goes on does to its load, which stands at a position, and to the run. -/
structure Load.Went (world : World State) (position : Nat) (load : Load) (run : Run State)
    (after : Load × Run State) : Prop where
  node : after.1.node = load.node
  table : after.1.table = load.table
  workload : ∃ steps, after.1.workload = load.workload.perform steps
  slots : after.1.slots.length = load.slots.length
  clock : after.2.clock = run.clock
  ports : after.2.ports = run.ports
  nodes : after.2.nodes = run.nodes
  loads : after.2.loads = run.loads
  touched : world.Touches .work run.clock run.state after.2.state
  events : ∃ added, after.2.events = run.events ++ added ∧ ∀ event ∈ added, event.OfWorker position

namespace Load

variable {position : Nat}

/-- Nothing done. -/
theorem Went.refl (load : Load) (run : Run State) : Went world position load run (load, run) where
  node := rfl
  table := rfl
  workload := ⟨[], rfl⟩
  slots := rfl
  clock := rfl
  ports := rfl
  nodes := rfl
  loads := rfl
  touched := .refl
  events := ⟨[], (List.append_nil _).symm, by simp⟩

theorem Went.trans {load : Load} {run : Run State} {between last : Load × Run State}
    (first : Went world position load run between)
    (second : Went world position between.1 between.2 last) : Went world position load run last where
  node := second.node.trans first.node
  table := second.table.trans first.table
  workload := by
    obtain ⟨steps, taken⟩ := first.workload
    obtain ⟨more, takenThen⟩ := second.workload
    refine ⟨steps ++ more, ?_⟩
    rw [takenThen, taken]
    simp [Workload.perform, List.foldl_append]
  slots := second.slots.trans first.slots
  clock := second.clock.trans first.clock
  ports := second.ports.trans first.ports
  nodes := second.nodes.trans first.nodes
  loads := second.loads.trans first.loads
  touched := by
    have later := second.touched
    rw [first.clock] at later
    exact first.touched.trans later
  events := by
    obtain ⟨added, written, ofWorker⟩ := first.events
    obtain ⟨more, writtenThen, ofWorkerThen⟩ := second.events
    refine ⟨added ++ more, ?_, ?_⟩
    · rw [writtenThen, written, List.append_assoc]
    · intro event member
      rcases List.mem_append.mp member with early | late
      · exact ofWorker event early
      · exact ofWorkerThen event late

/-- The surroundings are asked, and nothing else. -/
theorem Went.of_touch (load : Load) (run : Run State) {state : State}
    (touched : world.Touches .work run.clock run.state state) :
    Went world position load run (load, { run with state }) :=
  { (Went.refl load run : Went world position load run (load, run)) with touched }

/-- An event is written down, and nothing else. -/
theorem Went.of_note (load : Load) (run : Run State) {event : Event}
    (ofWorker : event.OfWorker position) : Went world position load run (load, run.note event) :=
  { (Went.refl load run : Went world position load run (load, run)) with
    events := ⟨[event], Run.events_note run event, by simpa using ofWorker⟩ }

/-- A worker takes steps and waits, and nothing else. -/
theorem Went.of_steps (load : Load) (run : Run State) (steps : List Workload.Step) (index : Nat)
    (slot : WorkerSlot) : Went world position load run ((load.perform steps).await index slot, run) :=
  { (Went.refl load run : Went world position load run (load, run)) with
    workload := ⟨steps, rfl⟩
    slots := by simp [Load.await, Load.perform] }

/-- A worker looks at its call. -/
theorem went_lookAtCall (load : Load) (worker : WorkerLabel) (call : PendingCall) (run : Run State) :
    Went world worker.load load run (load.lookAtCall world worker call run) := by
  have touch : world.Touch .work run.clock run.state
      (world.query load.node call.request call.look run.state).2 := .workerAsk _ _ _ _ _
  rcases answer : world.query load.node call.request call.look run.state with ⟨progress, state⟩
  rw [answer] at touch
  have asked : Went world worker.load load run (load, { run with state }) :=
    .of_touch load run (.single touch)
  cases progress with
  | done result =>
      simp only [lookAtCall, answer]
      exact asked.trans (.trans (.of_note _ _ (.answered rfl)) (.of_steps _ _ _ _ _))
  | pause length =>
      simp only [lookAtCall, answer]
      exact asked.trans (.of_steps _ _ [] _ _)
  | stalled =>
      simp only [lookAtCall, answer]
      exact asked.trans (.of_steps _ _ [] _ _)

/-- A worker goes on. -/
theorem went_goOn (world : World State) (load : Load) (position index : Nat) (run : Run State) :
    Went world position load run (load.goOn world position index run) := by
  unfold goOn
  split
  · rename_i worker slot stands place
    split
    · exact went_lookAtCall load ⟨position, index, worker.kind⟩ _ run
    · have looked : Went world position load run (load.perform (Workload.lookSteps index), run) :=
        { (Went.refl load run : Went world position load run (load, run)) with
          workload := ⟨_, rfl⟩ }
      have drawn : world.Touches .work run.clock run.state
          (worker.kind.params world.draw run.state).2 :=
        worker.kind.touches_params (fun bound state => .workerDraw bound run.clock state) run.state
      rcases draws : worker.kind.params world.draw run.state with ⟨params, state⟩
      rw [draws] at drawn
      dsimp only
      split
      · refine looked.trans (.trans (.of_touch _ run drawn) ?_)
        exact Went.trans (.of_note _ _ (.asked rfl)) (went_lookAtCall _ ⟨position, index, worker.kind⟩ _ _)
      · exact looked
  · exact .refl load run

end Load

/-- Whatever every step of a search may take for the best so far is what the search finds. -/
theorem foldl_search {Item Best : Type} {step : Option Best → Item → Option Best}
    {items : List Item} (good : Best → Prop)
    (each : ∀ best item, item ∈ items → (∀ found, best = some found → good found) →
      ∀ found, step best item = some found → good found)
    {found : Best} (ended : items.foldl step none = some found) : good found := by
  have all : ∀ found, items.foldl step none = some found → good found :=
    List.foldlRecOn (motive := fun best => ∀ found, best = some found → good found) items step
      (by simp) fun best before item member => each best item member before
  exact all found ended

/-- A worker that has not ended waits for a moment. -/
def Load.Waits (load : Load) (due : Instant) (index : Nat) : Prop :=
  ∃ worker slot, load.workload.workers[index]? = some worker ∧ load.slots[index]? = some slot ∧
    worker.phase ≠ .finished ∧ slot.due = due

/-- A worker that waits has not ended. -/
theorem Load.Waits.not_ended {load : Load} {due : Instant} {index : Nat}
    (waits : load.Waits due index) : ¬load.workload.Ended := by
  obtain ⟨worker, _, stands, _, onTheWay, _⟩ := waits
  exact fun ended => onTheWay (ended worker (List.mem_of_getElem? stands))

/-- The worker of a load that goes on next waits for its moment. -/
theorem Load.waits_of_nextDue {load : Load} {due : Instant} {index : Nat}
    (found : load.nextDue = some (due, index)) : load.Waits due index := by
  refine foldl_search (fun next => load.Waits next.1 next.2) ?_ found
  rintro best ⟨⟨worker, slot⟩, place⟩ member before next chosen
  have places := List.getElem?_zip_eq_some.mp (List.mem_zipIdx_iff_getElem?.mp member)
  have here : worker.phase ≠ .finished → some (slot.due, place) = some next →
      load.Waits next.1 next.2 := by
    rintro onTheWay ⟨⟩
    exact ⟨worker, slot, places.1, places.2, onTheWay, rfl⟩
  dsimp only at chosen
  split at chosen
  · exact before next chosen
  · rename_i onTheWay
    split at chosen
    · split at chosen
      · exact here onTheWay chosen
      · exact before next chosen
    · exact here onTheWay chosen

namespace Run

/-- A worker of the load at a position has not ended, and waits for a moment. -/
def Waits (run : Run State) (due : Instant) (position index : Nat) : Prop :=
  ∃ load, run.loads[position]? = some load ∧ load.Waits due index

/-- The worker that goes on next waits for its moment. -/
theorem waits_of_nextDue {run : Run State} {due : Instant} {position index : Nat}
    (found : run.nextDue = some (due, position, index)) : run.Waits due position index := by
  refine foldl_search (fun next => run.Waits next.1 next.2.1 next.2.2) ?_ found
  rintro best ⟨load, place⟩ member before next chosen
  have stands : run.loads[place]? = some load := List.mem_zipIdx_iff_getElem?.mp member
  have here : ∀ {due index}, load.nextDue = some (due, index) →
      some (due, place, index) = some next → run.Waits next.1 next.2.1 next.2.2 := by
    rintro due index ofLoad ⟨⟩
    exact ⟨load, stands, Load.waits_of_nextDue ofLoad⟩
  dsimp only at chosen
  split at chosen
  · rename_i ofLoad
    split at chosen
    · exact here ofLoad chosen
    · exact before next chosen
  · exact here ‹_› chosen
  · exact before next chosen

/-- What a worker that goes on does to a run. -/
theorem work_cases (world : World State) (due : Instant) (position index : Nat) (run : Run State) :
    (run.loads[position]? = none ∧ run.work world due position index = run) ∨
      ∃ load after, run.loads[position]? = some load ∧
        load.Went world position { run with clock := max run.clock due } after ∧
        run.work world due position index =
          { after.2 with loads := run.loads.set position after.1 } := by
  unfold work
  cases stands : run.loads[position]? with
  | none => exact .inl ⟨rfl, rfl⟩
  | some load =>
      have went := load.went_goOn world position index { run with clock := max run.clock due }
      refine .inr ⟨load, _, rfl, went, ?_⟩
      simp only [went.loads]

/-- A worker that goes on leaves the loads at all positions but its own as they are. -/
theorem getElem?_loads_work (world : World State) (due : Instant) {position other : Nat}
    (index : Nat) {run : Run State} (elsewhere : position ≠ other) :
    (run.work world due position index).loads[other]? = run.loads[other]? := by
  rcases run.work_cases world due position index with ⟨_, same⟩ | ⟨load, after, _, _, done⟩
  · rw [same]
  · rw [done]
    exact List.getElem?_set_ne elsewhere

end Run

end GracefulStop
