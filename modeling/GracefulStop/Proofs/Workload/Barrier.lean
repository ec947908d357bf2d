import GracefulStop.Workload.Workers
import Mathlib

/-!
# The barrier of a workload

Every worker and the caller come to the barrier once, a worker whose call broke off too. The barrier
opens when all of them have come, so a caller that is back from it finds every worker ended, and
nothing is possible any more. Until then something is possible unless every worker that has not
ended waits for a statement, and once the flag is down only so many steps are left.

`Workload.Move` says everything that one step can do. What holds of a workload in the course of a
run is shown move by move.
-/

namespace GracefulStop

namespace Workload

/-- What one step of a workload does. -/
inductive Move (workload : Workload) : Step → Workload → Prop
  | look {index : Nat} {kind : OperationKind}
      (stands : workload.workers[index]? = some ⟨kind, .ready⟩) :
      Move workload (.look index)
        (workload.setPhase index (if workload.active then .calling else .leaving))
  | answer {index : Nat} {kind : OperationKind} {outcome : CallOutcome}
      (stands : workload.workers[index]? = some ⟨kind, .calling⟩) :
      Move workload (.answer index outcome) (workload.setPhase index (phaseAfter outcome))
  | count {index : Nat} {kind : OperationKind} {error : Option QueryError}
      (stands : workload.workers[index]? = some ⟨kind, .returned error⟩) :
      Move workload (.count index)
        { workload.setPhase index (.counted error) with operations := workload.operations + 1 }
  | recordReturn {index : Nat} {kind : OperationKind} {error : Option QueryError}
      (stands : workload.workers[index]? = some ⟨kind, .counted error⟩) :
      Move workload (.record index) ((workload.setPhase index .ready).enter (recordOf kind error))
  | recordBreak {index : Nat} {kind : OperationKind} {message : String}
      (stands : workload.workers[index]? = some ⟨kind, .broken message⟩) :
      Move workload (.record index)
        ((workload.setPhase index .leaving).enter [.panicked kind message])
  | arrive {index : Nat} {kind : OperationKind}
      (stands : workload.workers[index]? = some ⟨kind, .leaving⟩) :
      Move workload (.arrive index)
        { workload.setPhase index .finished with barrier := workload.barrier.meet }
  | lower (away : workload.caller = .away) :
      Move workload .lower { workload with active := false, caller := .lowered }
  | meet (lowered : workload.caller = .lowered) :
      Move workload .meet
        { workload with barrier := workload.barrier.meet, caller := .waiting }
  | collect (waiting : workload.caller = .waiting) (opened : workload.barrier.isOpen = true) :
      Move workload .collect
        { workload with errors := [], caller := .served workload.errors }

/-- A step is possible exactly as a move. -/
theorem step?_eq_some_iff {workload next : Workload} {step : Step} :
    workload.step? step = some next ↔ workload.Move step next := by
  constructor
  · intro stepped
    cases step with
    | look index =>
        simp only [step?] at stepped
        split at stepped
        · cases stepped
          exact .look ‹_›
        · cases stepped
    | answer index outcome =>
        simp only [step?] at stepped
        split at stepped
        · cases stepped
          exact .answer ‹_›
        · cases stepped
    | count index =>
        simp only [step?] at stepped
        split at stepped
        · cases stepped
          exact .count ‹_›
        · cases stepped
    | record index =>
        simp only [step?] at stepped
        split at stepped
        · cases stepped
          exact .recordReturn ‹_›
        · cases stepped
          exact .recordBreak ‹_›
        · cases stepped
    | arrive index =>
        simp only [step?] at stepped
        split at stepped
        · cases stepped
          exact .arrive ‹_›
        · cases stepped
    | lower =>
        simp only [step?] at stepped
        split at stepped
        · cases stepped
          exact .lower ‹_›
        · cases stepped
    | meet =>
        simp only [step?] at stepped
        split at stepped
        · cases stepped
          exact .meet ‹_›
        · cases stepped
    | collect =>
        simp only [step?, Bool.and_eq_true, decide_eq_true_eq] at stepped
        split at stepped
        · cases stepped
          rename_i both
          exact .collect both.1 both.2
        · cases stepped
  · intro move
    cases move <;> simp_all [step?]

/-- The steps of a run and one more. -/
theorem replay?_concat (workload : Workload) (steps : List Step) (step : Step) :
    workload.replay? (steps ++ [step]) = (workload.replay? steps).bind (·.step? step) := by
  induction steps generalizing workload with
  | nil =>
      simp only [List.nil_append, replay?, Option.bind_some]
      cases workload.step? step <;> rfl
  | cons first rest ih =>
      simp only [List.cons_append, replay?]
      cases workload.step? first with
      | none => rfl
      | some next => simpa using ih next

/-- What holds at first and is kept by every move holds in the course of every run. -/
theorem replay?_induction {start : Workload} (holds : List Step → Workload → Prop)
    (first : holds [] start)
    (kept : ∀ steps step workload next, holds steps workload → workload.Move step next →
      holds (steps ++ [step]) next)
    {steps : List Step} {workload : Workload} (replayed : start.replay? steps = some workload) :
    holds steps workload := by
  induction steps using List.reverseRecOn generalizing workload with
  | nil =>
      cases replayed
      exact first
  | append_singleton steps step ih =>
      rw [replay?_concat] at replayed
      obtain ⟨before, replayedBefore, stepped⟩ := Option.bind_eq_some_iff.mp replayed
      exact kept steps step before workload (ih replayedBefore) (step?_eq_some_iff.mp stepped)

/-- The workers after one of them has moved on. -/
theorem workers_setPhase {workload : Workload} {index : Nat} {kind : OperationKind}
    {before after : WorkerPhase} (stands : workload.workers[index]? = some ⟨kind, before⟩) :
    (workload.setPhase index after).workers = workload.workers.set index ⟨kind, after⟩ := by
  obtain ⟨inside, found⟩ := List.getElem?_eq_some_iff.mp stands
  apply List.ext_getElem
  · simp [setPhase]
  · intro other otherInside _
    simp only [setPhase, List.getElem_modify, List.getElem_set]
    split
    · subst other
      simp [found]
    · rfl

/-- Where the workers stand after one of them has moved on. -/
theorem getElem?_setPhase {workload : Workload} {index : Nat} {kind : OperationKind}
    {before : WorkerPhase} (after : WorkerPhase)
    (stands : workload.workers[index]? = some ⟨kind, before⟩) (other : Nat) :
    (workload.setPhase index after).workers[other]? =
      if other = index then some ⟨kind, after⟩ else workload.workers[other]? := by
  rw [workers_setPhase stands]
  by_cases same : other = index
  · subst other
    obtain ⟨inside, _⟩ := List.getElem?_eq_some_iff.mp stands
    simp [inside]
  · rw [List.getElem?_set_ne (Ne.symm same), if_neg same]

/-- How many workers stand in one of some phases, before and after one of them has moved on. -/
theorem countP_setPhase {workload : Workload} {index : Nat} {kind : OperationKind}
    {before : WorkerPhase} (after : WorkerPhase)
    (stands : workload.workers[index]? = some ⟨kind, before⟩) (among : WorkerPhase → Bool) :
    (workload.setPhase index after).workers.countP (among ·.phase) + (among before).toNat =
      workload.workers.countP (among ·.phase) + (among after).toNat := by
  obtain ⟨inside, found⟩ := List.getElem?_eq_some_iff.mp stands
  rw [workers_setPhase stands, List.countP_set inside, found]
  have present : (among before).toNat ≤ workload.workers.countP (among ·.phase) := by
    cases holds : among before with
    | false => simp
    | true =>
        have member : (⟨kind, before⟩ : Worker) ∈ workload.workers := List.mem_of_getElem? stands
        simpa using List.countP_pos_iff.mpr ⟨_, member, by simpa using holds⟩
  cases fromThere : among before <;> cases among after <;>
    simp only [fromThere, Bool.toNat_false, Bool.toNat_true, if_true, if_false,
      Bool.false_eq_true] at present ⊢ <;> omega

end Workload

/-- Whether a worker has come to the barrier. -/
def WorkerPhase.isFinished (phase : WorkerPhase) : Bool := phase = .finished

/-- How often the caller has come to the barrier. -/
def CallerPhase.arrivals : CallerPhase → Nat
  | .away => 0
  | .lowered => 0
  | .waiting => 1
  | .served _ => 1

namespace Workload

/-- The barrier is as large as the number of parties, and those have come to it that stand there. The
flag is up as long as nobody stops the workload, and who is back has taken all records. -/
structure Assembled (workload : Workload) : Prop where
  size : workload.barrier.size = workload.workers.length + 1
  arrived : workload.barrier.arrived =
    workload.workers.countP (·.phase.isFinished) + workload.caller.arrivals
  flag : workload.active = true ↔ workload.caller = .away
  served : ∀ errors, workload.caller = .served errors →
    workload.barrier.isOpen = true ∧ workload.errors = []

/-- A workload that is about to start. -/
theorem assembled_start (kinds : List OperationKind) (perKind : Nat) :
    (start kinds perKind).Assembled where
  size := by
    simp [start, List.length_flatMap, List.map_const']
  arrived := by
    symm
    simp only [start, CallerPhase.arrivals, Nat.add_zero, List.countP_eq_zero, List.mem_flatMap,
      List.mem_replicate]
    rintro worker ⟨kind, _, _, rfl⟩
    simp [WorkerPhase.isFinished]
  flag := by simp [start]
  served := by simp [start]

namespace Assembled

variable {workload : Workload}

/-- All parties have come through an open barrier: every worker has ended. -/
theorem finished_of_open (assembled : workload.Assembled)
    (opened : workload.barrier.isOpen = true) {worker : Worker}
    (member : worker ∈ workload.workers) : worker.phase = .finished := by
  have reached : workload.workers.length + 1 ≤
      workload.workers.countP (·.phase.isFinished) + workload.caller.arrivals := by
    rw [← assembled.size, ← assembled.arrived]
    simpa [Barrier.isOpen] using opened
  have single : workload.caller.arrivals ≤ 1 := by
    cases workload.caller <;> simp [CallerPhase.arrivals]
  have all : workload.workers.countP (·.phase.isFinished) = workload.workers.length := by
    have := List.countP_le_length (p := fun worker : Worker => worker.phase.isFinished)
      (l := workload.workers)
    omega
  simpa [WorkerPhase.isFinished] using List.countP_eq_length.mp all worker member

/-- A worker that is on its way is at no open barrier. -/
theorem closed_of_stands (assembled : workload.Assembled) {index : Nat} {worker : Worker}
    (stands : workload.workers[index]? = some worker) (onTheWay : worker.phase ≠ .finished) :
    workload.barrier.isOpen = false := by
  cases opened : workload.barrier.isOpen with
  | false => rfl
  | true => exact absurd (assembled.finished_of_open opened (List.mem_of_getElem? stands)) onTheWay

/-- A worker that moves on short of the barrier keeps the parties together, whatever it counts or
records. -/
theorem moveOn (assembled : workload.Assembled) {index : Nat} {kind : OperationKind}
    {before after : WorkerPhase} (stands : workload.workers[index]? = some ⟨kind, before⟩)
    (onTheWay : before ≠ .finished) (short : after ≠ .finished) (errors : List WorkloadError)
    (operations : Nat) :
    Assembled { workload.setPhase index after with errors, operations } where
  size := by simpa [setPhase] using assembled.size
  arrived := by
    have counted := countP_setPhase after stands WorkerPhase.isFinished
    have stays := assembled.arrived
    simp only [WorkerPhase.isFinished, onTheWay, short, decide_false, Bool.toNat_false] at counted
    simp only [setPhase, WorkerPhase.isFinished] at counted stays ⊢
    omega
  flag := assembled.flag
  served := by
    intro taken isServed
    have opened := (assembled.served taken isServed).1
    rw [assembled.closed_of_stands stands onTheWay] at opened
    cases opened

/-- Every move keeps the parties together. -/
theorem move (assembled : workload.Assembled) {step : Step} {next : Workload}
    (moved : workload.Move step next) : next.Assembled := by
  cases moved with
  | look stands =>
      refine assembled.moveOn stands (by simp) ?_ workload.errors workload.operations
      split <;> simp
  | answer stands =>
      refine assembled.moveOn stands (by simp) ?_ workload.errors workload.operations
      unfold phaseAfter
      split <;> simp
  | count stands => exact assembled.moveOn stands (by simp) (by simp) workload.errors _
  | recordReturn stands => exact assembled.moveOn stands (by simp) (by simp) _ workload.operations
  | recordBreak stands => exact assembled.moveOn stands (by simp) (by simp) _ workload.operations
  | arrive stands =>
      have counted := countP_setPhase .finished stands WorkerPhase.isFinished
      have closed := assembled.closed_of_stands stands (by simp)
      refine ⟨by simpa [setPhase, Barrier.meet] using assembled.size, ?_, assembled.flag, ?_⟩
      · have stays := assembled.arrived
        simp [WorkerPhase.isFinished] at counted
        simp only [setPhase, Barrier.meet, WorkerPhase.isFinished] at counted stays ⊢
        omega
      · intro taken isServed
        rw [(assembled.served taken isServed).1] at closed
        cases closed
  | lower away =>
      refine ⟨assembled.size, ?_, by simp, by simp⟩
      simpa [CallerPhase.arrivals, away] using assembled.arrived
  | meet lowered =>
      refine ⟨assembled.size, ?_, ?_, by simp⟩
      · simpa [CallerPhase.arrivals, lowered, Barrier.meet] using assembled.arrived
      · simpa [lowered] using assembled.flag
  | collect waiting opened =>
      refine ⟨assembled.size, ?_, ?_, ?_⟩
      · simpa [CallerPhase.arrivals, waiting] using assembled.arrived
      · simpa [waiting] using assembled.flag
      · intro taken _
        exact ⟨opened, rfl⟩

end Assembled

/-- The parties are together in the course of every run. -/
theorem assembled_of_replay? {kinds : List OperationKind} {perKind : Nat} {steps : List Step}
    {workload : Workload} (replayed : (start kinds perKind).replay? steps = some workload) :
    workload.Assembled :=
  replay?_induction (fun _ workload => workload.Assembled) (assembled_start kinds perKind)
    (fun _ _ _ _ assembled moved => assembled.move moved) replayed

/-- Once the caller is back, nobody does anything any more. -/
theorem Assembled.step?_eq_none {workload : Workload} (assembled : workload.Assembled)
    {errors : List WorkloadError} (served : workload.caller = .served errors) (step : Step) :
    workload.step? step = none := by
  cases stepped : workload.step? step with
  | none => rfl
  | some next =>
      have opened := (assembled.served errors served).1
      have ended : ∀ {index : Nat} {worker : Worker},
          workload.workers[index]? = some worker → worker.phase = .finished :=
        fun stands => assembled.finished_of_open opened (List.mem_of_getElem? stands)
      cases step?_eq_some_iff.mp stepped with
      | look stands => cases ended stands
      | answer stands => cases ended stands
      | count stands => cases ended stands
      | recordReturn stands => cases ended stands
      | recordBreak stands => cases ended stands
      | arrive stands => cases ended stands
      | lower away => rw [served] at away; cases away
      | meet lowered => rw [served] at lowered; cases lowered
      | collect waiting _ => rw [served] at waiting; cases waiting

end Workload

/-- How many steps a worker may still take once the flag is down. -/
def WorkerPhase.distance : WorkerPhase → Nat
  | .ready => 2
  | .calling => 5
  | .returned _ => 4
  | .counted _ => 3
  | .broken _ => 2
  | .leaving => 1
  | .finished => 0

/-- How many steps the caller may still take. -/
def CallerPhase.distance : CallerPhase → Nat
  | .away => 3
  | .lowered => 2
  | .waiting => 1
  | .served _ => 0

namespace Workload

/-- How many steps are left once the flag is down. -/
def distance (workload : Workload) : Nat :=
  (workload.workers.map (·.phase.distance)).sum + workload.caller.distance

/-- A worker that moves on changes the number of steps that are left by its own. -/
theorem distance_setPhase {workload : Workload} {index : Nat} {kind : OperationKind}
    {before : WorkerPhase} (after : WorkerPhase)
    (stands : workload.workers[index]? = some ⟨kind, before⟩) :
    (workload.setPhase index after).distance + before.distance =
      workload.distance + after.distance := by
  obtain ⟨inside, found⟩ := List.getElem?_eq_some_iff.mp stands
  have split := List.getElem_cons_drop inside
  rw [found] at split
  have whole : workload.workers =
      workload.workers.take index ++ ⟨kind, before⟩ :: workload.workers.drop (index + 1) := by
    rw [split, List.take_append_drop]
  have changed : (workload.setPhase index after).workers =
      workload.workers.take index ++ ⟨kind, after⟩ :: workload.workers.drop (index + 1) := by
    rw [workers_setPhase stands, List.set_eq_take_append_cons_drop, if_pos inside]
  have caller : (workload.setPhase index after).caller = workload.caller := rfl
  simp only [distance, changed, caller, List.map_append, List.map_cons, List.sum_append,
    List.sum_cons]
  have summed := congrArg (fun workers => (workers.map (·.phase.distance)).sum) whole
  simp only [List.map_append, List.map_cons, List.sum_append, List.sum_cons] at summed
  omega

/-- Once the flag is down every move comes nearer to the end, and the flag stays down. -/
theorem Move.distance_lt {workload next : Workload} {step : Step} (moved : workload.Move step next)
    (assembled : workload.Assembled) (stopping : workload.caller ≠ .away) :
    next.distance < workload.distance ∧ next.caller ≠ .away := by
  cases moved with
  | look stands =>
      have down : workload.active = false := by
        cases up : workload.active with
        | false => rfl
        | true => exact absurd (assembled.flag.mp up) stopping
      have nearer := distance_setPhase .leaving stands
      simp only [WorkerPhase.distance] at nearer
      rw [down]
      exact ⟨by simp; omega, stopping⟩
  | @answer index kind outcome stands =>
      have nearer := distance_setPhase (phaseAfter outcome) stands
      have short : (phaseAfter outcome).distance ≤ 4 := by
        unfold phaseAfter
        split <;> simp [WorkerPhase.distance]
      have far : WorkerPhase.calling.distance = 5 := rfl
      exact ⟨by omega, stopping⟩
  | @count index kind error stands =>
      have nearer := distance_setPhase (.counted error) stands
      simp only [WorkerPhase.distance] at nearer
      exact ⟨by simp only [distance] at nearer ⊢; omega, stopping⟩
  | recordReturn stands =>
      have nearer := distance_setPhase .ready stands
      simp only [WorkerPhase.distance] at nearer
      exact ⟨by simp only [distance, enter] at nearer ⊢; omega, stopping⟩
  | recordBreak stands =>
      have nearer := distance_setPhase .leaving stands
      simp only [WorkerPhase.distance] at nearer
      exact ⟨by simp only [distance, enter] at nearer ⊢; omega, stopping⟩
  | arrive stands =>
      have nearer := distance_setPhase .finished stands
      simp only [WorkerPhase.distance] at nearer
      exact ⟨by simp only [distance] at nearer ⊢; omega, stopping⟩
  | lower away => exact absurd away stopping
  | meet lowered => simp [distance, CallerPhase.distance, lowered]
  | collect waiting _ => simp [distance, CallerPhase.distance, waiting]

/-- Until the caller is back some step is possible besides the end of a call, unless every worker that
has not ended waits for one. -/
theorem Assembled.step_possible {workload : Workload} (assembled : workload.Assembled)
    (stopping : workload.caller ≠ .away) (pending : ∀ errors, workload.caller ≠ .served errors)
    (idle : ∀ worker ∈ workload.workers, worker.phase ≠ .calling) :
    ∃ step next, workload.step? step = some next := by
  by_cases ended : ∀ worker ∈ workload.workers, worker.phase = .finished
  · cases caller : workload.caller with
    | away => exact absurd caller stopping
    | lowered => exact ⟨.meet, _, step?_eq_some_iff.mpr (.meet caller)⟩
    | waiting =>
        refine ⟨.collect, _, step?_eq_some_iff.mpr (.collect caller ?_)⟩
        have all : workload.workers.countP (·.phase.isFinished) = workload.workers.length :=
          List.countP_eq_length.mpr fun worker member => by
            simp [WorkerPhase.isFinished, ended worker member]
        simp [Barrier.isOpen, assembled.size, assembled.arrived, all, caller,
          CallerPhase.arrivals]
    | served errors => exact absurd caller (pending errors)
  · push Not at ended
    obtain ⟨⟨kind, phase⟩, member, onTheWay⟩ := ended
    obtain ⟨index, stands⟩ := List.mem_iff_getElem?.mp member
    have possible : ∀ {step next}, workload.Move step next →
        ∃ step next, workload.step? step = some next :=
      fun moved => ⟨_, _, step?_eq_some_iff.mpr moved⟩
    cases phase with
    | ready => exact possible (.look stands)
    | calling => exact absurd rfl (idle _ member)
    | returned error => exact possible (.count stands)
    | counted error => exact possible (.recordReturn stands)
    | broken message => exact possible (.recordBreak stands)
    | leaving => exact possible (.arrive stands)
    | finished => exact absurd rfl onTheWay

/-- However the calls that are under way end, the caller can always come back: stopping has a run in
which they end so. -/
theorem stop_returns {workload : Workload} (assembled : workload.Assembled)
    (stopping : workload.caller ≠ .away) (outcome : Nat → CallOutcome) :
    ∃ steps next errors, workload.replay? steps = some next ∧ next.caller = .served errors ∧
      ∀ index ended, .answer index ended ∈ steps → ended = outcome index := by
  by_cases back : ∃ errors, workload.caller = .served errors
  · obtain ⟨errors, served⟩ := back
    exact ⟨[], workload, errors, rfl, served, by simp⟩
  · push Not at back
    have onward : ∃ step next, workload.step? step = some next ∧
        ∀ index ended, step = .answer index ended → ended = outcome index := by
      by_cases idle : ∀ worker ∈ workload.workers, worker.phase ≠ .calling
      · obtain ⟨step, next, stepped⟩ := assembled.step_possible stopping back idle
        refine ⟨step, next, stepped, ?_⟩
        rintro index ended rfl
        cases step?_eq_some_iff.mp stepped with
        | answer stands => exact absurd rfl (idle _ (List.mem_of_getElem? stands))
      · push Not at idle
        obtain ⟨⟨kind, phase⟩, member, calls⟩ := idle
        obtain ⟨index, stands⟩ := List.mem_iff_getElem?.mp member
        cases calls
        refine ⟨.answer index (outcome index), _, step?_eq_some_iff.mpr (.answer stands), ?_⟩
        rintro other ended ⟨⟩
        rfl
    obtain ⟨step, next, stepped, asTold⟩ := onward
    have moved := step?_eq_some_iff.mp stepped
    have nearer := moved.distance_lt assembled stopping
    obtain ⟨rest, last, errors, continued, served, restAsTold⟩ :=
      stop_returns (assembled.move moved) nearer.2 outcome
    refine ⟨step :: rest, last, errors, by simp [replay?, stepped, continued], served, ?_⟩
    intro index ended member
    rcases List.mem_cons.mp member with here | later
    · exact asTold index ended here.symm
    · exact restAsTold index ended later
termination_by workload.distance
decreasing_by exact nearer.1

end Workload

end GracefulStop
