import GracefulStop.Proofs.Run.Drain

/-!
# The records of workloads and the log of a run

Every answer to a worker stands in the log of the run, and an answer that is an error that is not
benign owes its workload a record. What the workload at a position has recorded grows, stride by
stride, by exactly what the new events owe to it. So whoever stops a workload is given the records
that are owed to it in the whole course of the run: before it was started nobody owes it anything,
and after it was stopped nobody does so any more.
-/

namespace GracefulStop

namespace Workload

/-- All that a workload has recorded, whether its caller has taken it or not. -/
def recorded (workload : Workload) : List WorkloadError := workload.collected ++ workload.errors

/-- A worker that changes adds what it enters to what is recorded. -/
theorem Changes.recorded {workload after : Workload} {index : Nat} {worker : Worker}
    {entered : List WorkloadError} (changes : workload.Changes index worker entered after) :
    after.recorded = workload.recorded ++ entered := by
  simp only [Workload.recorded, collected, changes.caller, changes.errors, List.append_assoc]

/-- The caller's steps hand records over, and neither add nor lose one. -/
theorem recorded_perform_ofCaller {workload : Workload} {steps : List Step}
    (ofCaller : ∀ step ∈ steps, step.OfCaller) :
    (workload.perform steps).recorded = workload.recorded := by
  refine view_perform_ofCaller Workload.recorded (fun mine moved => ?_) ofCaller
  cases moved with
  | lower away => simp [recorded, collected, away]
  | meet lowered => simp [recorded, collected, lowered]
  | collect waiting opened => simp [recorded, collected, waiting]
  | _ => exact absurd mine not_false

/-- A workload whose caller is back with records, all parties being through the barrier. -/
structure Settled (errors : List WorkloadError) (workload : Workload) : Prop where
  assembled : workload.Assembled
  served : workload.caller = .served errors

/-- Nothing moves in a settled workload. -/
theorem Settled.move {errors : List WorkloadError} {workload next : Workload} {step : Step}
    (settled : workload.Settled errors) (moved : workload.Move step next) : next.Settled errors := by
  have stuck := settled.assembled.step?_eq_none settled.served step
  rw [step?_eq_some_iff.mpr moved] at stuck
  cases stuck

/-- What a settled workload has recorded is what its caller is back with. -/
theorem Settled.recorded {errors : List WorkloadError} {workload : Workload}
    (settled : workload.Settled errors) : workload.recorded = errors := by
  have empty := (settled.assembled.served errors settled.served).2
  simp [Workload.recorded, collected, settled.served, empty]

/-- Where the barrier is open the caller has come to it. -/
theorem Assembled.arrivals_of_open {workload : Workload} (assembled : workload.Assembled)
    (opened : workload.isFinished = true) : workload.caller.arrivals ≠ 0 := by
  intro absent
  have size := assembled.size
  have arrived := assembled.arrived
  have some := List.countP_le_length (p := fun worker : Worker => worker.phase.isFinished)
    (l := workload.workers)
  simp only [isFinished, Barrier.isOpen, decide_eq_true_eq] at opened
  omega

/-- A workload whose caller takes the records at the open barrier is settled. -/
theorem Assembled.settled_collect {workload : Workload} (assembled : workload.Assembled)
    (opened : workload.isFinished = true) :
    (workload.perform [.collect]).Settled (workload.perform [.collect]).collected := by
  refine ⟨assembled.perform _, ?_⟩
  have come := assembled.arrivals_of_open opened
  cases caller : workload.caller with
  | away => simp [caller, CallerPhase.arrivals] at come
  | lowered => simp [caller, CallerPhase.arrivals] at come
  | waiting =>
      rw [perform_of_move (.collect caller opened)]
      rfl
  | served errors =>
      rw [perform_of_none (assembled.step?_eq_none caller .collect)]
      change workload.caller = .served workload.collected
      simp [collected, caller]

end Workload

namespace Event

variable {position : Nat} {event : Event}

/-- A worker of the workload at a position was answered with an error that is not benign. -/
inductive Blames (position : Nat) : Event → Prop
  | answered {worker : WorkerLabel} {node : Node} {request : Request} {error : QueryError}
      (place : worker.load = position) (counts : worker.kind.isBenign error = false) :
      Blames position (.workerAnswered worker node request (.error error))

/-- What nobody but a worker has done owes no record. -/
theorem records_of_own (own : event.deed ≠ .work) : event.records position = [] := by
  cases event with
  | workerAnswered worker node request result => exact absurd rfl own
  | _ => rfl

/-- What the workers of another workload do owes no record. -/
theorem OfWorker.records {other : Nat} (ofWorker : event.OfWorker other)
    (elsewhere : other ≠ position) : event.records position = [] := by
  cases ofWorker with
  | asked place => rfl
  | @answered worker node request result place =>
      cases result with
      | ok count => rfl
      | error error => simp [Event.records, place, elsewhere]

/-- An event owes a record exactly if it blames the workload. -/
theorem records_eq_nil_iff : event.records position = [] ↔ ¬event.Blames position := by
  constructor
  · rintro nothing ⟨rfl, counts⟩
    simp [records, Workload.recordOf, counts] at nothing
  · intro blameless
    cases event with
    | workerAnswered worker node request result =>
        cases result with
        | ok count => rfl
        | error error =>
            by_cases place : worker.load = position
            · cases benign : worker.kind.isBenign error with
              | true => simp [records, Workload.recordOf, benign]
              | false => exact absurd (.answered place benign) blameless
            · simp [records, place]
    | _ => rfl

/-- Events owe no record exactly if none of them blames the workload. -/
theorem owed_eq_nil_iff {events : List Event} :
    owed position events = [] ↔ ∀ event ∈ events, ¬event.Blames position := by
  simp only [owed, List.flatMap_eq_nil_iff, records_eq_nil_iff]

end Event

namespace Run

variable {State : Type} {world : World State} {may : Deed → Prop} {run last : Run State}
  {position : Nat}

/-- What the workload at a position has recorded; nothing if there is none. -/
def recorded (position : Nat) (run : Run State) : List WorkloadError :=
  (run.loads[position]?.map (·.workload.recorded)).getD []

/-- A workload that starts has recorded nothing, as if it were not there. -/
theorem recorded_load (run : Run State) {load : Load} (fresh : load.workload.recorded = []) :
    ({ run with loads := run.loads ++ [load] } : Run State).recorded position =
      run.recorded position := by
  unfold Run.recorded
  rw [List.getElem?_append]
  split
  · rfl
  · rename_i outside
    rw [List.getElem?_eq_none (Nat.le_of_not_lt outside)]
    cases stands : [load][position - run.loads.length]? with
    | none => rfl
    | some found =>
        cases List.mem_singleton.mp (List.mem_of_getElem? stands)
        exact fresh

/-- The caller of a workload changes the records of none. -/
theorem recorded_steer (run : Run State) (moved : Nat) {steps : List Workload.Step}
    (ofCaller : ∀ step ∈ steps, step.OfCaller) :
    ({ run with loads := run.loads.modify moved fun load => load.perform steps } :
      Run State).recorded position = run.recorded position := by
  unfold Run.recorded
  rw [List.getElem?_modify]
  cases run.loads[position]? with
  | none => rfl
  | some load =>
      by_cases here : moved = position
      · simp [here, Load.perform, Workload.recorded_perform_ofCaller ofCaller]
      · simp [here]

/-- A stride adds to the records of a workload what the new events owe to it. -/
theorem Stride.recorded (stride : Stride world may run last)
    (timely : run.TimelyAt position) :
    last.recorded position = run.recorded position ++ Event.owed position (run.since last) := by
  have silent : ∀ {after : Run State}, after.recorded position = run.recorded position →
      after.events = run.events →
      after.recorded position = run.recorded position ++ Event.owed position (run.since after) := by
    intro after same events
    have none : run.since after = [] := since_of_events (by simp [events])
    simp [same, none]
  cases stride with
  | tick later => exact silent rfl rfl
  | touch allowed touched => exact silent rfl rfl
  | reserve allowed => exact silent rfl rfl
  | lay allowed => exact silent rfl rfl
  | @note event allowed own =>
      have same : (run.note event).recorded position = run.recorded position := rfl
      simp [same, Event.records_of_own own]
  | load allowed => exact silent (recorded_load run rfl) rfl
  | @steer moved steps allowed ofCaller => exact silent (recorded_steer run moved ofCaller) rfl
  | @work due moved index next =>
      by_cases here : moved = position
      · subst moved
        obtain ⟨load, after, added, turns, _⟩ := turns_of_nextDue world next timely
        obtain ⟨_, _, changes⟩ := turns.workload
        have inside := (List.getElem?_eq_some_iff.mp turns.stands).1
        rw [since_of_events turns.events, Run.recorded, Run.recorded, turns.loads,
          List.getElem?_set_self inside, turns.stands]
        exact changes.recorded
      · -- What this worker is answered is owed to its own workload.
        obtain ⟨added, written, ofWorker⟩ := run.work_events world due moved index
        have none : Event.owed position added = [] :=
          List.flatMap_eq_nil_iff.mpr fun event member => (ofWorker event member).records here
        rw [since_of_events written, none]
        simp [Run.recorded, getElem?_loads_work world due index here]

/-- A course adds to the records of a workload what its events owe to it. -/
theorem Course.recorded (course : Course world may run last)
    (timely : run.TimelyAt position) :
    last.recorded position = run.recorded position ++ Event.owed position (run.since last) := by
  induction course with
  | refl => simp
  | tail first stride ih =>
      rw [stride.recorded (Course.timelyAt first timely), ih,
        Course.since_trans first (.single stride), Event.owed_append, List.append_assoc]

/-- There is a workload at a position, and it has a property. -/
def Has (position : Nat) (property : Workload → Prop) (run : Run State) : Prop :=
  ∃ load, run.loads[position]? = some load ∧ property load.workload

variable {property : Workload → Prop}

/-- What every possible step of a workload keeps, a stride keeps. -/
theorem Stride.has (stride : Stride world may run last)
    (kept : ∀ workload step next, property workload → workload.Move step next → property next)
    (has : run.Has position property) : last.Has position property := by
  obtain ⟨load, stands, holds⟩ := has
  have inside := (List.getElem?_eq_some_iff.mp stands).1
  have stays := List.getElem?_eq_getElem (Nat.lt_of_lt_of_le inside stride.loads_le)
  refine ⟨_, stays, ?_⟩
  cases stride.arises stays with
  | started place allowed assembled => omega
  | steered stood allowed steps taken =>
      cases stands.symm.trans stood
      rw [taken]
      exact Workload.perform_induction kept steps holds
  | worked stood waits steps taken =>
      cases stands.symm.trans stood
      rw [taken]
      exact Workload.perform_induction kept steps holds
  | kept stood =>
      cases stands.symm.trans stood
      exact holds

/-- What every possible step of a workload keeps, a course keeps. -/
theorem Course.has (course : Course world may run last)
    (kept : ∀ workload step next, property workload → workload.Move step next → property next)
    (has : run.Has position property) : last.Has position property := by
  induction course with
  | refl => exact has
  | tail _ stride ih => exact stride.has kept ih

end Run

namespace Action

variable {State : Type} {world : World State} {limit : Option Instant}
  {run ready started left stopped last : Run State} {position : Nat}

/-- The parties of a workload that has just been started are together. -/
theorem has_of_startLoad {node : Node} {table : String} {kinds : List OperationKind} {perKind : Nat}
    (ended : startLoad node table kinds perKind limit run = (some position, last)) :
    last.Has position Workload.Assembled := by
  cases ended
  exact ⟨_, List.getElem?_concat_length, Workload.assembled_start kinds perKind⟩

/-- A workload that was stopped is settled, with the records that it was stopped with. -/
theorem has_of_stopLoad {errors : List WorkloadError}
    (ended : stopLoad world position limit run = (some errors, last))
    (has : run.Has position Workload.Assembled) :
    last.Has position (Workload.Settled errors) := by
  obtain ⟨_, lowered, endedLower, ended⟩ := bind_eq_some.mp ended
  obtain ⟨_, reached, endedAwait, ended⟩ := bind_eq_some.mp ended
  obtain ⟨_, collected, endedCollect, ended⟩ := bind_eq_some.mp ended
  obtain ⟨workload, _, endedLook, ended⟩ := bind_eq_some.mp ended
  obtain ⟨_, noted, endedNote, ended⟩ := bind_eq_some.mp ended
  obtain ⟨rfl, rfl⟩ := pure_eq_some.mp ended
  have lower : Run.Course world (fun _ => True) run lowered :=
    (follows_performOn trivial position ofCaller_stopSteps).course endedLower
  have waited : Run.Course world (fun _ => True) lowered reached :=
    (follows_awaitWorkers position).course endedAwait
  obtain ⟨load, stands, assembled⟩ := (lower.trans waited).has
    (fun _ _ _ assembled moved => assembled.move moved) has
  have settled := assembled.settled_collect (awaitWorkers_eq_some endedAwait stands)
  cases endedNote
  cases endedLook
  cases endedCollect
  refine ⟨load.perform [.collect], ?_, ?_⟩
  · simp [Run.note, stands]
  · simpa [stands, Load.perform] using settled

/-- The records with which a workload is stopped are those that all events owe to it, whatever was done
before it was started, while it was under way, and after it was stopped. -/
theorem owed_eq_of_stopLoad {node : Node} {table : String} {kinds : List OperationKind} {perKind : Nat}
    {errors : List WorkloadError} (before : Run.Course world (fun _ => True) run ready)
    (starts : startLoad node table kinds perKind limit ready = (some position, started))
    (during : Run.Course world (fun _ => True) started left)
    (stops : stopLoad world position limit left = (some errors, stopped))
    (after : Run.Course world (fun _ => True) stopped last) :
    Event.owed position (run.since last) = errors := by
  obtain ⟨_, stands, settled⟩ := after.has (fun _ _ _ settled moved => settled.move moved)
    (has_of_stopLoad stops
      (during.has (fun _ _ _ assembled moved => assembled.move moved) (has_of_startLoad starts)))
  have start : Run.Course world (Deed.Within fun _ => True) ready started :=
    (follows_startLoad trivial table kinds perKind).course starts
  have stop : Run.Course world (Deed.Within fun _ => True) left stopped :=
    (follows_stopLoad trivial position).course stops
  have course := before.trans (start.any.trans (during.trans (stop.any.trans after)))
  -- Nobody has stood at the position before.
  have absent : run.loads[position]? = none := by
    rw [(startLoad_eq_some starts).1]
    exact List.getElem?_eq_none before.loads_le
  have account := course.recorded (fun load stands => by rw [absent] at stands; cases stands)
  simpa [Run.recorded, absent, stands, settled.recorded] using account.symm

end Action

end GracefulStop
