import GracefulStop.Proofs.Run.Loads
import GracefulStop.Proofs.Run.Prompt
import GracefulStop.Proofs.Workload.Records
import Mathlib

/-!
# Workloads that come to an end

In surroundings that answer in time, the workers of a workload that is stopped come to its barrier.
Every worker fits to its slot: it has a call under way exactly if it is calling, and the call is looked
at later and later. Once the flag is down, each time a worker goes on the milliseconds that its
workload may still take become fewer.
-/

namespace GracefulStop

namespace Workload

/-- A workload in which one worker has changed and entered some records, and otherwise nothing, as far
as workers, flag, caller and records go. -/
structure Changes (workload : Workload) (index : Nat) (worker : Worker)
    (entered : List WorkloadError) (after : Workload) : Prop where
  workers : after.workers = workload.workers.set index worker
  active : after.active = workload.active
  caller : after.caller = workload.caller
  errors : after.errors = workload.errors ++ entered

/-- A worker that moves on is the only one that changes. -/
theorem changes_setPhase {workload : Workload} {index : Nat} {kind : OperationKind}
    {phase : WorkerPhase} (stands : workload.workers[index]? = some ⟨kind, phase⟩)
    (next : WorkerPhase) : workload.Changes index ⟨kind, next⟩ [] (workload.setPhase index next) where
  workers := workers_setPhase stands
  active := rfl
  caller := rfl
  errors := (List.append_nil _).symm

/-- Nothing has changed. -/
theorem Changes.refl {workload : Workload} {index : Nat} {worker : Worker}
    (stands : workload.workers[index]? = some worker) :
    workload.Changes index worker [] workload where
  workers := by
    obtain ⟨inside, rfl⟩ := List.getElem?_eq_some_iff.mp stands
    simp
  active := rfl
  caller := rfl
  errors := (List.append_nil _).symm

/-- A worker that changes twice. -/
theorem Changes.trans {workload between after : Workload} {index : Nat} {worker next : Worker}
    {entered more : List WorkloadError} (first : workload.Changes index worker entered between)
    (second : between.Changes index next more after) :
    workload.Changes index next (entered ++ more) after where
  workers := by rw [second.workers, first.workers, List.set_set]
  active := second.active.trans first.active
  caller := second.caller.trans first.caller
  errors := by rw [second.errors, first.errors, List.append_assoc]

/-- Where a worker stands that has changed. -/
theorem Changes.stands {workload after : Workload} {index : Nat} {worker : Worker}
    {entered : List WorkloadError} (changes : workload.Changes index worker entered after)
    (inside : index < workload.workers.length) :
    after.workers[index]? = some worker := by
  simp [changes.workers, inside]

/-- A step that is possible is taken. -/
theorem perform_of_move {workload next : Workload} {step : Step} (moved : workload.Move step next)
    (rest : List Step) : workload.perform (step :: rest) = next.perform rest := by
  simp [perform, step?_eq_some_iff.mpr moved]

/-- A step that is not possible is left out. -/
theorem perform_of_none {workload : Workload} {step : Step} (stepped : workload.step? step = none)
    (rest : List Step) : workload.perform (step :: rest) = workload.perform rest := by
  simp [perform, stepped]

/-- A worker that looks at the flag sends a statement, or ends if the flag is down. -/
theorem changes_lookSteps {workload : Workload} {index : Nat} {kind : OperationKind}
    (stands : workload.workers[index]? = some ⟨kind, .ready⟩) :
    workload.Changes index ⟨kind, if workload.active then .calling else .finished⟩ []
      (workload.perform (lookSteps index)) := by
  have inside := (List.getElem?_eq_some_iff.mp stands).1
  rw [lookSteps, perform_of_move (.look stands)]
  cases active : workload.active with
  | true =>
      simp only [↓reduceIte]
      have calls := changes_setPhase stands .calling
      rw [perform_of_none (by simp only [step?, calls.stands inside])]
      exact calls
  | false =>
      simp only [Bool.false_eq_true, ↓reduceIte]
      have leaves := changes_setPhase stands .leaving
      have leaving := leaves.stands inside
      have ends := leaves.trans (changes_setPhase leaving .finished)
      rw [perform_of_move (.arrive leaving)]
      exact ⟨ends.workers, ends.active, ends.caller, ends.errors⟩

/-- A worker whose call returns has entered what the return owes, and is about to look at the flag
again. -/
theorem changes_endSteps {workload : Workload} {index : Nat} {kind : OperationKind}
    (stands : workload.workers[index]? = some ⟨kind, .calling⟩)
    (result : Except QueryError Response) :
    workload.Changes index ⟨kind, .ready⟩ ((CallOutcome.returned result).records kind)
      (workload.perform (endSteps index (.returned result))) := by
  have inside := (List.getElem?_eq_some_iff.mp stands).1
  obtain ⟨error, phase, owes⟩ : ∃ error, phaseAfter (.returned result) = .returned error ∧
      (CallOutcome.returned result).records kind = recordOf kind error := by
    cases result <;> exact ⟨_, rfl, rfl⟩
  have returns := changes_setPhase stands (.returned error)
  have returned := returns.stands inside
  have counts : workload.Changes index ⟨kind, .counted error⟩ []
      { (workload.setPhase index (.returned error)).setPhase index (.counted error) with
        operations := (workload.setPhase index (.returned error)).operations + 1 } := by
    have moves := returns.trans (changes_setPhase returned (.counted error))
    exact ⟨moves.workers, moves.active, moves.caller, moves.errors⟩
  have counted := counts.stands inside
  have readies := counts.trans (changes_setPhase counted .ready)
  rw [endSteps, perform_of_move (.answer stands), phase, perform_of_move (.count returned),
    perform_of_move (.recordReturn counted)]
  have ready : workload.Changes index ⟨kind, .ready⟩ (recordOf kind error)
      ((setPhase _ index .ready).enter (recordOf kind error)) :=
    ⟨readies.workers, readies.active, readies.caller, congrArg (· ++ _) (by simpa using readies.errors)⟩
  rw [perform_of_none (by simp only [step?, ready.stands inside]), owes]
  exact ready

/-- What the caller's steps leave as it is when they are possible, they leave as it is. -/
theorem view_perform_ofCaller {View : Type} (view : Workload → View)
    (kept : ∀ {workload step next}, step.OfCaller → workload.Move step next →
      view next = view workload)
    {workload : Workload} {steps : List Step} (ofCaller : ∀ step ∈ steps, step.OfCaller) :
    view (workload.perform steps) = view workload := by
  induction steps generalizing workload with
  | nil => rfl
  | cons step rest ih =>
      have others := fun other member => ofCaller other (List.mem_cons_of_mem step member)
      cases stepped : workload.step? step with
      | none => rw [perform_of_none stepped, ih others]
      | some next =>
          have moved := step?_eq_some_iff.mp stepped
          rw [perform_of_move moved, ih others, kept (ofCaller step List.mem_cons_self) moved]

/-- The caller's steps leave the workers as they are. -/
theorem workers_perform_ofCaller {workload : Workload} {steps : List Step}
    (ofCaller : ∀ step ∈ steps, step.OfCaller) :
    (workload.perform steps).workers = workload.workers := by
  refine view_perform_ofCaller Workload.workers (fun mine moved => ?_) ofCaller
  cases moved with
  | lower away => rfl
  | meet lowered => rfl
  | collect waiting opened => rfl
  | _ => exact absurd mine not_false

/-- Whoever stops a workload has come to its barrier, with its flag down. -/
theorem waits_of_stopSteps {workload : Workload} (assembled : workload.Assembled) :
    (workload.perform stopSteps).active = false ∧
      (workload.perform stopSteps).caller.arrivals = 1 := by
  have flag := assembled.flag
  cases caller : workload.caller <;>
    simp_all [stopSteps, perform, step?, CallerPhase.arrivals]

/-- Where the caller has come to the barrier and finds it closed, some worker has not come. -/
theorem Assembled.exists_of_closed {workload : Workload} (assembled : workload.Assembled)
    (arrived : workload.caller.arrivals = 1) (closed : workload.isFinished = false) :
    ∃ worker ∈ workload.workers, worker.phase ≠ .finished := by
  refine Classical.byContradiction fun none => ?_
  have all : workload.workers.countP (·.phase.isFinished) = workload.workers.length := by
    refine List.countP_eq_length.mpr fun worker member => ?_
    simp only [WorkerPhase.isFinished, decide_eq_true_eq]
    exact Classical.byContradiction fun onTheWay => none ⟨worker, member, onTheWay⟩
  have size := assembled.size
  have come := assembled.arrived
  rw [all, arrived] at come
  simp only [isFinished, Barrier.isOpen, decide_eq_false_iff_not] at closed
  omega

end Workload

/-- A worker fits to its slot: it has a call exactly if it is calling, and is to look at the call no
sooner than the call has come to. -/
def WorkerSlot.Fits (slot : WorkerSlot) (worker : Worker) : Prop :=
  match slot.call with
  | none => worker.phase = .ready ∨ worker.phase = .finished
  | some call => worker.phase = .calling ∧ call.look.began ≤ call.look.now ∧ call.look.now ≤ slot.due

/-- The milliseconds that a call may still take, if it takes no longer than some time. -/
def PendingCall.left (latest : Duration) (call : PendingCall) : Nat :=
  (call.look.began + latest).millis + 1 - call.look.now.millis

/-- How often a worker may still go on once the flag is down, if its call takes no longer than some
time. -/
def WorkerSlot.weight (latest : Duration) (worker : Worker) (slot : WorkerSlot) : Nat :=
  if worker.phase = .finished then 0
  else match slot.call with
    | none => 1
    | some call => call.left latest + 2

/-- A step of one summand takes it out of a sum and puts another one in. -/
theorem sum_zipWith_set {First Second : Type} (value : First → Second → Nat) {firsts : List First}
    {seconds : List Second} {index : Nat} {first : First} {second : Second}
    (standsFirst : firsts[index]? = some first) (standsSecond : seconds[index]? = some second)
    (newFirst : First) (newSecond : Second) :
    (List.zipWith value (firsts.set index newFirst) (seconds.set index newSecond)).sum +
        value first second =
      (List.zipWith value firsts seconds).sum + value newFirst newSecond := by
  induction firsts generalizing seconds index with
  | nil => simp at standsFirst
  | cons head rest ih =>
      cases seconds with
      | nil => simp at standsSecond
      | cons other others =>
          cases index with
          | zero =>
              simp only [List.getElem?_cons_zero, Option.some.injEq] at standsFirst standsSecond
              subst standsFirst standsSecond
              simp only [List.set_cons_zero, List.zipWith_cons_cons, List.sum_cons]
              omega
          | succ index =>
              simp only [List.getElem?_cons_succ] at standsFirst standsSecond
              have step := ih standsFirst standsSecond
              simp only [List.set_cons_succ, List.zipWith_cons_cons, List.sum_cons]
              omega

namespace Load

/-- Every worker fits to its slot. -/
structure Timely (load : Load) : Prop where
  length : load.slots.length = load.workload.workers.length
  fits : ∀ {index : Nat} {worker : Worker} {slot : WorkerSlot},
    load.workload.workers[index]? = some worker → load.slots[index]? = some slot → slot.Fits worker

/-- How often the workers of a load may still go on. -/
def weight (latest : Duration) (load : Load) : Nat :=
  (List.zipWith (WorkerSlot.weight latest) load.workload.workers load.slots).sum

variable {State : Type} {world : World State} {load : Load} {run : Run State}
  {after : Load × Run State} {position index : Nat} {worker : Worker} {slot : WorkerSlot}
  {added : List Event}

/-- One worker of a load that stands at a position has gone on, and waits in a slot that it fits to.
Among the records it has entered what the events owe that it has added. -/
structure Moves (load : Load) (run : Run State) (position index : Nat) (worker : Worker)
    (slot : WorkerSlot) (added : List Event) (after : Load × Run State) : Prop where
  workload : load.workload.Changes index worker (Event.owed position added) after.1.workload
  slots : after.1.slots = load.slots.set index slot
  fits : slot.Fits worker
  events : after.2.events = run.events ++ added

/-- A load in which one worker has gone on is timely if it was. -/
theorem Moves.timely (moves : load.Moves run position index worker slot added after)
    (timely : load.Timely) : after.1.Timely where
  length := by simp [moves.workload.workers, moves.slots, timely.length]
  fits := by
    intro other there thereSlot stands place
    rw [moves.workload.workers] at stands
    rw [moves.slots] at place
    by_cases here : index = other
    · subst other
      have inside : index < load.workload.workers.length := by
        simpa using (List.getElem?_eq_some_iff.mp stands).1
      rw [List.getElem?_set_self inside] at stands
      rw [List.getElem?_set_self (timely.length ▸ inside)] at place
      cases stands
      cases place
      exact moves.fits
    · rw [List.getElem?_set_ne here] at stands place
      exact timely.fits stands place

/-- A load in which one worker has gone on weighs less if that worker does. -/
theorem Moves.weight_lt {old : Worker} {waiting : WorkerSlot} {latest : Duration}
    (moves : load.Moves run position index worker slot added after)
    (stands : load.workload.workers[index]? = some old) (place : load.slots[index]? = some waiting)
    (lighter : slot.weight latest worker < waiting.weight latest old) :
    after.1.weight latest < load.weight latest := by
  have step := sum_zipWith_set (WorkerSlot.weight latest) stands place worker slot
  unfold weight
  rw [moves.workload.workers, moves.slots]
  omega

/-- A worker waits for a later millisecond, and no moment that it waits for is in the past. -/
theorem millis_lt_nextMoment (now length : Duration) :
    now.millis < (nextMoment now length).millis := by
  have positive : 0 < (Duration.ofMillis 1).nanos := by decide
  refine Nat.lt_of_lt_of_le (millis_lt_wakeTime positive) (Duration.millis_le_of_le ?_)
  simp only [nextMoment, Duration.le_def, Duration.nanos_max]
  omega

/-- A worker that looks at its call waits for the next look, or is about to look at the flag. -/
theorem moves_lookAtCall (world : World State) {label : WorkerLabel}
    (stands : load.workload.workers[label.index]? = some ⟨label.kind, .calling⟩) (call : PendingCall)
    (run : Run State) (began : call.look.began ≤ call.look.now) (come : call.look.now ≤ run.clock) :
    ∃ worker slot added,
      load.Moves run label.load label.index worker slot added
        (load.lookAtCall world label call run) ∧
      ∀ latest, world.Prompt latest → slot.weight latest worker < call.left latest + 2 := by
  have later : ∀ length, run.clock ≤ nextMoment run.clock length :=
    fun length => Duration.le_of_millis_lt (millis_lt_nextMoment run.clock length)
  have stays := Workload.Changes.refl stands
  rcases found : world.query load.node call.request call.look run.state with ⟨progress, state⟩
  cases progress with
  | done result =>
      have changes := Workload.changes_endSteps stands result
      simp only [lookAtCall, found]
      let answered : Event := .workerAnswered label load.node call.request (result.map Response.rowCount)
      have owes : (CallOutcome.returned result).records label.kind = Event.owed label.load [answered] := by
        cases result <;> simp [answered, Event.records, CallOutcome.records, Workload.recordOf, Except.map]
      rw [owes] at changes
      exact ⟨_, _, [answered], ⟨changes, rfl, .inl rfl, Run.events_note _ _⟩,
        fun latest prompt => by simp [WorkerSlot.weight]⟩
  | pause length =>
      simp only [lookAtCall, found]
      refine ⟨_, _, [], ⟨stays, rfl, ⟨rfl, ?_, Nat.le_refl _⟩, (List.append_nil _).symm⟩,
        fun latest prompt => ?_⟩
      · exact Nat.le_trans began (Nat.le_trans come (later length))
      · have left : call.look.now.millis ≤ (call.look.began + latest).millis := by
          refine Nat.le_of_not_lt fun late => ?_
          obtain ⟨answer, answered⟩ := (prompt.query load.node call.request).answering call.look
            run.state (Duration.le_of_millis_lt late)
          rw [found] at answered
          cases answered
        have passed := millis_lt_nextMoment run.clock length
        have before := Duration.millis_le_of_le come
        simp only [WorkerSlot.weight, PendingCall.left, reduceCtorEq, ↓reduceIte]
        omega
  | stalled =>
      simp only [lookAtCall, found]
      refine ⟨_, _, [], ⟨stays, rfl, ⟨rfl, began, ?_⟩, (List.append_nil _).symm⟩,
        fun latest prompt => ?_⟩
      · exact Nat.le_trans come (later _)
      · have going := (prompt.query load.node call.request).going call.look run.state
        rw [found] at going
        exact absurd rfl going

/-- A worker that goes on at its moment stays fit to its slot, and goes on less often from then on if
the flag is down. -/
theorem moves_goOn (world : World State) (position : Nat)
    (stands : load.workload.workers[index]? = some worker) (place : load.slots[index]? = some slot)
    (onTheWay : worker.phase ≠ .finished) (fits : slot.Fits worker) (run : Run State)
    (come : slot.due ≤ run.clock) :
    ∃ next waiting added,
      load.Moves run position index next waiting added (load.goOn world position index run) ∧
      ∀ latest, world.Prompt latest → load.workload.active = false →
        waiting.weight latest next < slot.weight latest worker := by
  obtain ⟨kind, phase⟩ := worker
  obtain ⟨due, _ | call⟩ := slot
  · have ready : phase = .ready := Or.resolve_right fits onTheWay
    subst ready
    have inside := (List.getElem?_eq_some_iff.mp stands).1
    have looks := Workload.changes_lookSteps stands
    cases active : load.workload.active with
    | true =>
        simp only [active, ↓reduceIte] at looks
        have flag : (load.perform (Workload.lookSteps index)).workload.active = true :=
          looks.active.trans active
        simp only [goOn, stands, place, flag, ↓reduceIte]
        let request := Request.single (kind.statement load.table) (kind.params world.draw run.state).1
        let asked : Run State := { run with state := (kind.params world.draw run.state).2 }
        have calling : (load.perform (Workload.lookSteps index)).workload.workers[index]? =
            some ⟨kind, .calling⟩ := looks.stands inside
        let label : WorkerLabel := ⟨position, index, kind⟩
        let sent : Event := .workerAsked label load.node request
        obtain ⟨next, waiting, added, moves, _⟩ := @moves_lookAtCall _ _ world label calling
          ⟨request, ⟨run.clock, run.clock, 0⟩⟩ (asked.note sent) (Nat.le_refl _) (Nat.le_refl _)
        have written := moves.events
        rw [Run.events_note, List.append_assoc] at written
        exact ⟨next, waiting, sent :: added,
          ⟨looks.trans moves.workload, moves.slots, moves.fits, written⟩, nofun⟩
    | false =>
        simp only [active, Bool.false_eq_true, ↓reduceIte] at looks
        have flag : (load.perform (Workload.lookSteps index)).workload.active = false :=
          looks.active.trans active
        simp only [goOn, stands, place, flag, Bool.false_eq_true, ↓reduceIte]
        refine ⟨⟨kind, .finished⟩, ⟨due, none⟩, [],
          ⟨looks, ?_, .inr rfl, (List.append_nil _).symm⟩, fun latest _ _ => ?_⟩
        · obtain ⟨_, same⟩ := List.getElem?_eq_some_iff.mp place
          rw [← same, List.set_getElem_self]
          rfl
        · simp [WorkerSlot.weight]
  · obtain ⟨calling, began, soon⟩ := fits
    have phase : phase = .calling := calling
    subst phase
    simp only [goOn, stands, place]
    obtain ⟨next, waiting, added, moves, lighter⟩ := @moves_lookAtCall _ _ world
      ⟨position, index, kind⟩ stands call run began (Nat.le_trans soon come)
    refine ⟨next, waiting, added, moves, fun latest prompt _ => ?_⟩
    have less := lighter latest prompt
    simpa [WorkerSlot.weight] using less

/-- A load whose workers have all just started is timely. -/
theorem timely_start (node : Node) (table : String) (kinds : List OperationKind) (perKind : Nat)
    (now : Instant) :
    Timely ⟨node, table, .start kinds perKind,
      (Workload.start kinds perKind).workers.map fun _ => ⟨now, none⟩⟩ where
  length := by simp
  fits := by
    intro index worker slot stands place
    have ready := List.mem_of_getElem? stands
    simp only [Workload.start, List.mem_flatMap, List.mem_replicate] at ready
    obtain ⟨_, _, _, rfl⟩ := ready
    obtain ⟨_, _, rfl⟩ := Option.map_eq_some_iff.mp ((List.getElem?_map ..).symm.trans place)
    exact .inl rfl

/-- The caller's steps leave a load timely. -/
theorem Timely.perform {load : Load} (timely : load.Timely) {steps : List Workload.Step}
    (ofCaller : ∀ step ∈ steps, step.OfCaller) : (load.perform steps).Timely where
  length := by
    rw [Load.perform, Workload.workers_perform_ofCaller ofCaller]
    exact timely.length
  fits := by
    intro index worker slot stands place
    rw [Load.perform, Workload.workers_perform_ofCaller ofCaller] at stands
    exact timely.fits stands place

/-- A call that takes no longer than some time lets its worker go on only so often. -/
theorem weight_le_of_fits {slot : WorkerSlot} {worker : Worker} (fits : slot.Fits worker)
    (latest : Duration) : slot.weight latest worker ≤ latest.millis + 4 := by
  obtain ⟨due, _ | call⟩ := slot
  · simp only [WorkerSlot.weight]
    split <;> omega
  · obtain ⟨_, began, _⟩ := fits
    have rounding := Duration.millis_add_le call.look.began latest
    have later := Duration.millis_le_of_le began
    simp only [WorkerSlot.weight, PendingCall.left]
    split <;> omega

/-- The workers of a timely load go on only so often. -/
theorem Timely.weight_le {load : Load} (timely : load.Timely) (latest : Duration) :
    load.weight latest ≤ load.workload.workers.length * (latest.millis + 4) := by
  have each : ∀ weight ∈ List.zipWith (WorkerSlot.weight latest) load.workload.workers load.slots,
      weight ≤ latest.millis + 4 := by
    intro weight member
    obtain ⟨index, found⟩ := List.mem_iff_getElem?.mp member
    obtain ⟨worker, slot, stands, place, rfl⟩ := List.getElem?_zipWith_eq_some.mp found
    exact weight_le_of_fits (timely.fits stands place) latest
  have bound := List.sum_le_card_nsmul _ _ each
  simpa [weight, timely.length] using bound

end Load

/-- A search that keeps what it has found finds something where some item is something. -/
theorem foldl_search_ne_none {Item Best : Type} {step : Option Best → Item → Option Best}
    {items : List Item} (keeps : ∀ best item, best ≠ none → step best item ≠ none) {item : Item}
    (member : item ∈ items) (here : ∀ best, step best item ≠ none) (best : Option Best) :
    items.foldl step best ≠ none := by
  obtain ⟨before, after, rfl⟩ := List.append_of_mem member
  rw [List.foldl_append, List.foldl_cons]
  exact List.foldlRecOn (motive := fun found => found ≠ none) after step (here _)
    fun found kept other _ => keeps found other kept

/-- Some worker goes on next where one has not ended. -/
theorem Load.nextDue_ne_none {load : Load} (timely : load.Timely) {worker : Worker}
    (member : worker ∈ load.workload.workers) (onTheWay : worker.phase ≠ .finished) :
    load.nextDue ≠ none := by
  obtain ⟨index, stands⟩ := List.mem_iff_getElem?.mp member
  have inside : index < load.slots.length := timely.length ▸ (List.getElem?_eq_some_iff.mp stands).1
  have place : load.slots[index]? = some load.slots[index] := List.getElem?_eq_getElem inside
  have paired : ((worker, load.slots[index]), index) ∈
      (load.workload.workers.zip load.slots).zipIdx :=
    List.mem_zipIdx_iff_getElem?.mpr (List.getElem?_zip_eq_some.mpr ⟨stands, place⟩)
  refine foldl_search_ne_none ?_ paired ?_ none
  · rintro best ⟨⟨other, slot⟩, there⟩ found
    dsimp only
    split
    · exact found
    · split
      · split <;> simp
      · simp
  · intro best
    simp only [onTheWay, ↓reduceIte]
    split
    · split <;> simp
    · simp

namespace Run

variable {State : Type} {world : World State} {may : Deed → Prop} {run last : Run State}
  {latest : Duration}

/-- Every worker of every workload fits to its slot. -/
def Timely (run : Run State) : Prop := ∀ load ∈ run.loads, load.Timely

/-- Every worker of the workload at a position fits to its slot, if there is one. -/
def TimelyAt (run : Run State) (position : Nat) : Prop :=
  ∀ load, run.loads[position]? = some load → load.Timely

theorem Timely.at (timely : run.Timely) (position : Nat) : run.TimelyAt position :=
  fun load stands => timely load (List.mem_of_getElem? stands)

/-- A load that stands at a position has become another one, one of its workers having gone on. -/
structure Turns (run : Run State) (position : Nat) (load after : Load) (added : List Event)
    (last : Run State) : Prop where
  stands : run.loads[position]? = some load
  workload : ∃ index worker,
    load.workload.Changes index worker (Event.owed position added) after.workload
  timely : after.Timely
  loads : last.loads = run.loads.set position after
  events : last.events = run.events ++ added

/-- The worker that goes on next stays fit to its slot, and goes on less often from then on if its flag
is down. -/
theorem turns_of_nextDue (world : World State) {due : Instant} {position index : Nat}
    (next : run.nextDue = some (due, position, index)) (timely : run.TimelyAt position) :
    ∃ load after added,
      run.Turns position load after added (run.work world due position index) ∧
      ∀ latest, world.Prompt latest → load.workload.active = false →
        after.weight latest < load.weight latest := by
  obtain ⟨load, stands, worker, slot, there, place, onTheWay, rfl⟩ := waits_of_nextDue next
  have fit := timely load stands
  have come : slot.due ≤ max run.clock slot.due := by
    simp only [Duration.le_def, Duration.nanos_max]
    omega
  let moved : Run State := { run with clock := max run.clock slot.due }
  obtain ⟨next, _, added, moves, lighter⟩ := Load.moves_goOn world position there place onTheWay
    (fit.fits there place) moved come
  have went := load.went_goOn world position index moved
  refine ⟨load, _, added, ⟨stands, ⟨index, next, moves.workload⟩, moves.timely fit, ?_, ?_⟩,
    fun latest prompt lowered => moves.weight_lt there place (lighter latest prompt lowered)⟩
  · simp only [work, stands, went.loads, moved]
  · simp only [work, stands]
    exact moves.events

/-- Every stride keeps the workers of a workload fit to their slots. -/
theorem Stride.timelyAt (stride : Stride world may run last) {position : Nat}
    (timely : run.TimelyAt position) : last.TimelyAt position := by
  cases stride with
  | load allowed =>
      intro load stands
      rw [List.getElem?_append] at stands
      split at stands
      · exact timely load stands
      · rw [List.mem_singleton.mp (List.mem_of_getElem? stands)]
        exact Load.timely_start ..
  | @steer moved steps allowed ofCaller =>
      intro load stands
      rw [List.getElem?_modify] at stands
      obtain ⟨before, stood, rfl⟩ := Option.map_eq_some_iff.mp stands
      split
      · exact (timely before stood).perform ofCaller
      · exact timely before stood
  | @work due moved index next =>
      by_cases here : moved = position
      · subst moved
        obtain ⟨_, after, _, turns, _⟩ := turns_of_nextDue world next timely
        intro load stands
        rw [turns.loads, List.getElem?_set_self (List.getElem?_eq_some_iff.mp turns.stands).1] at stands
        cases stands
        exact turns.timely
      · intro load stands
        rw [getElem?_loads_work world due index here] at stands
        exact timely load stands
  | _ => exact timely

/-- Every stride keeps all workers fit to their slots. -/
theorem Stride.timely (stride : Stride world may run last) (timely : run.Timely) : last.Timely := by
  intro load member
  obtain ⟨position, stands⟩ := List.mem_iff_getElem?.mp member
  exact stride.timelyAt (timely.at position) load stands

/-- Every course keeps the workers of a workload fit to their slots. -/
theorem Course.timelyAt (course : Course world may run last) {position : Nat}
    (timely : run.TimelyAt position) : last.TimelyAt position := by
  induction course with
  | refl => exact timely
  | tail _ stride ih => exact stride.timelyAt ih

/-- Every course keeps the workers fit to their slots. -/
theorem Course.timely (course : Course world may run last) (timely : run.Timely) : last.Timely := by
  induction course with
  | refl => exact timely
  | tail _ stride ih => exact stride.timely ih

/-- Some worker of a run goes on next where one of a load has not ended. -/
theorem nextDue_ne_none {position : Nat} {load : Load} (stands : run.loads[position]? = some load)
    (ofLoad : load.nextDue ≠ none) : run.nextDue ≠ none := by
  have placed : (load, position) ∈ run.loads.zipIdx := List.mem_zipIdx_iff_getElem?.mpr stands
  refine foldl_search_ne_none ?_ placed ?_ none
  · rintro best ⟨other, there⟩ found
    dsimp only
    split
    · split <;> simp
    · simp
    · exact found
  · intro best
    dsimp only
    split
    · split <;> simp
    · simp
    · exact absurd ‹load.nextDue = none› ofLoad

/-- A run in which no worker is at work. -/
structure Calm (run : Run State) : Prop where
  gathered : run.Gathered
  timely : run.Timely
  idle : run.Idle

/-- A run that has done nothing yet is calm. -/
theorem calm_start (state : State) (ports : PortPool) : (start state ports).Calm where
  gathered := by simp [Gathered, start]
  timely := by simp [Timely, start]
  idle := by simp [Idle, Rests, start]

/-- Only the workers of the load at some position may be under way, and its caller waits at its
barrier. -/
structure Draining (run : Run State) (position : Nat) : Prop where
  gathered : run.Gathered
  timely : run.Timely
  rests : run.Rests (· = position)
  stopped : ∀ load, run.loads[position]? = some load →
    load.workload.active = false ∧ load.workload.caller.arrivals = 1

/-- Until the barrier of a workload opens the worker that goes on next is one of its own, and its
workers may go on less often from then on. -/
theorem Draining.work (prompt : world.Prompt latest) {position : Nat} {load : Load}
    (draining : run.Draining position) (stands : run.loads[position]? = some load)
    (closed : load.workload.isFinished = false) :
    ∃ due index after, run.nextDue = some (due, position, index) ∧
      (run.work world due position index).Draining position ∧
      (run.work world due position index).loads[position]? = some after ∧
      after.weight latest < load.weight latest := by
  obtain ⟨lowered, arrived⟩ := draining.stopped load stands
  have member := List.mem_of_getElem? stands
  obtain ⟨worker, there, onTheWay⟩ :=
    (draining.gathered load member).exists_of_closed arrived closed
  have some := nextDue_ne_none stands
    (Load.nextDue_ne_none (draining.timely load member) there onTheWay)
  obtain ⟨⟨due, next, index⟩, found⟩ := Option.ne_none_iff_exists'.mp some
  -- Whoever goes on next has not ended, and the workers of all other loads have.
  obtain ⟨other, stood, waits⟩ := waits_of_nextDue found
  have here : next = position := Classical.byContradiction fun elsewhere =>
    waits.not_ended (draining.rests next other stood elsewhere)
  subst here
  cases stands.symm.trans stood
  obtain ⟨_, after, _, turns, lighter⟩ := turns_of_nextDue world found (draining.timely.at next)
  cases stood.symm.trans turns.stands
  obtain ⟨_, _, changes⟩ := turns.workload
  have inside := (List.getElem?_eq_some_iff.mp stands).1
  have stride : Stride world (fun _ => False) run (run.work world due next index) := .work found
  have standsAfter : (run.work world due next index).loads[next]? = .some after := by
    rw [turns.loads, List.getElem?_set_self inside]
  refine ⟨due, index, after, found, ⟨stride.gathered draining.gathered, stride.timely draining.timely,
    stride.rests (fun _ => False.elim) draining.rests, ?_⟩, standsAfter, lighter latest prompt lowered⟩
  intro load stands
  cases standsAfter.symm.trans stands
  exact ⟨changes.active.trans lowered, changes.caller ▸ arrived⟩

/-- The workers of a workload whose caller waits come to its barrier, if they are given as many steps as
they may still go on. -/
theorem Draining.workToEnd (prompt : world.Prompt latest) {position : Nat} {steps : Nat}
    (draining : run.Draining position)
    (enough : ∀ load, run.loads[position]? = some load → load.weight latest < steps)
    (positive : 0 < steps) : ∃ last, run.workToEnd world position steps = some last := by
  induction steps generalizing run with
  | zero => omega
  | succ steps ih =>
      unfold Run.workToEnd
      cases stands : run.loads[position]? with
      | none => exact ⟨run, rfl⟩
      | some load =>
          cases finished : load.workload.isFinished with
          | true => exact ⟨run, by simp [finished]⟩
          | false =>
              obtain ⟨due, index, after, found, drainingAfter, standsAfter, lighter⟩ :=
                draining.work prompt stands finished
              have light := enough load stands
              obtain ⟨last, ended⟩ := ih drainingAfter
                (fun load stands => by cases standsAfter.symm.trans stands; omega) (by omega)
              exact ⟨last, by simp [finished, found, ended]⟩

/-- The workers that may still be under way are given steps enough. -/
theorem weight_lt_looks (prompt : world.Prompt latest) (timely : run.Timely) {position : Nat}
    {load : Load} (stands : run.loads[position]? = some load) :
    load.weight latest < world.looks * (run.workerCount + 1) := by
  have member := List.mem_of_getElem? stands
  have bound := (timely load member).weight_le latest
  have some : load.workload.workers.length ≤ run.workerCount := by
    rw [Run.workerCount, ← List.sum_eq_foldr]
    exact List.le_sum_of_mem (List.mem_map_of_mem member)
  have enough := world.looks_enough prompt.short
  calc load.weight latest
      ≤ load.workload.workers.length * (latest.millis + 4) := bound
    _ ≤ run.workerCount * world.looks := Nat.mul_le_mul some (by omega)
    _ < world.looks * (run.workerCount + 1) := by
        rw [Nat.mul_add, Nat.mul_comm]
        omega

/-- A workload that is the only one under way drains as soon as its flag is down. -/
theorem draining_stopSteps (world : World State) {position : Nat} (gathered : run.Gathered)
    (timely : run.Timely) (rests : run.Rests (· = position)) :
    Draining
      { run with
        loads := run.loads.modify position fun load => load.perform Workload.stopSteps } position := by
  have lower : Run.Stride world (fun deed => deed = .steer) run
      { run with
        loads := run.loads.modify position fun load => load.perform Workload.stopSteps } :=
    .steer rfl Action.ofCaller_stopSteps
  refine ⟨lower.gathered gathered, lower.timely timely, lower.rests nofun rests, ?_⟩
  intro load stands
  have moved : (run.loads.modify position fun load => load.perform Workload.stopSteps)[position]? =
    some load := stands
  rw [List.getElem?_modify] at moved
  obtain ⟨before, stood, rfl⟩ := Option.map_eq_some_iff.mp moved
  simpa [Load.perform] using
    Workload.waits_of_stopSteps (gathered before (List.mem_of_getElem? stood))

end Run

/-- Workers that drain are awaited to their end, in surroundings that answer in time. -/
theorem Action.awaitWorkers_of_draining {State : Type} {world : World State} {latest : Duration}
    {run : Run State} {position : Nat} (prompt : world.Prompt latest)
    (draining : run.Draining position) :
    ∃ last, awaitWorkers world position none run = (some (), last) := by
  have enough : ∀ load, run.loads[position]? = some load →
      load.weight latest < world.looks * (run.workerCount + 1) :=
    fun load stands => Run.weight_lt_looks prompt draining.timely stands
  have positive : 0 < world.looks * (run.workerCount + 1) := by
    have enough := World.looks_enough prompt.short
    exact Nat.mul_pos (by omega) (Nat.succ_pos _)
  obtain ⟨last, ended⟩ := draining.workToEnd prompt enough positive
  refine ⟨last, ?_⟩
  rw [awaitWorkers, ended]
  rfl

/-- Stopping the only workload that is under way returns, in surroundings that answer in time. -/
theorem Action.endsFrom_stopLoad {State : Type} {world : World State} {latest : Duration}
    {run : Run State} {position : Nat} (prompt : world.Prompt latest) (gathered : run.Gathered)
    (timely : run.Timely) (rests : run.Rests (· = position)) :
    (stopLoad world position).EndsFrom run := by
  have draining := Run.draining_stopSteps world gathered timely rests
  obtain ⟨reached, awaited⟩ := awaitWorkers_of_draining prompt draining
  have collects : Ends (do
      performOn position [.collect]
      let errors := (← workloadAt position).collected
      note (.workloadStopped position errors)
      pure errors : Action State (List WorkloadError)) :=
    ends_bind (ends_performOn position _) fun _ => ends_bind (ends_workloadAt position) fun _ =>
      ends_bind (ends_note _) fun _ => ends_pure _
  exact endsFrom_bind rfl (endsFrom_bind awaited (collects reached))

end GracefulStop
