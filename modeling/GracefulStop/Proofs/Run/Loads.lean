import GracefulStop.Proofs.Run.Trail

/-!
# Workloads in the course of a run

A course keeps the parties of every workload together, and workers that have ended stay so. A run
whose workers have all ended is idle: time passes without anything being asked, until another
workload starts. Stopping a workload returns only when its workers have ended.
-/

namespace GracefulStop

variable {State : Type} {world : World State} {may : Deed → Prop} {run last : Run State}

namespace Run

/-- The parties of every workload are together. -/
def Gathered (run : Run State) : Prop := ∀ load ∈ run.loads, load.workload.Assembled

/-- Every worker has ended, except perhaps those of workloads at some positions. -/
def Rests (busy : Nat → Prop) (run : Run State) : Prop :=
  ∀ position load, run.loads[position]? = some load → ¬busy position → load.workload.Ended

/-- Every worker has ended. -/
def Idle (run : Run State) : Prop := run.Rests fun _ => False

theorem idle_start (state : State) (ports : PortPool) : (start state ports).Idle := nofun

/-- A load that has come out of a stride: it has just been started, or its caller or one of its workers
that had not ended has gone on, or it is as before. -/
inductive Stride.Arises (may : Deed → Prop) (run : Run State) (position : Nat) (load : Load) : Prop
  | started (place : position = run.loads.length) (allowed : may (.load load.node))
      (assembled : load.workload.Assembled)
  | steered {before : Load} (stands : run.loads[position]? = some before) (allowed : may .steer)
      (steps : List Workload.Step) (taken : load.workload = before.workload.perform steps)
  | worked {before : Load} (stands : run.loads[position]? = some before) {due : Instant}
      {index : Nat} (waits : before.Waits due index) (steps : List Workload.Step)
      (taken : load.workload = before.workload.perform steps)
  | kept (stands : run.loads[position]? = some load)

/-- Where a load has come from. -/
theorem Stride.arises (stride : Stride world may run last) {position : Nat} {load : Load}
    (stands : last.loads[position]? = some load) : Stride.Arises may run position load := by
  cases stride with
  | tick later => exact .kept stands
  | touch allowed touched => exact .kept stands
  | note allowed => exact .kept stands
  | reserve allowed => exact .kept stands
  | lay allowed => exact .kept stands
  | load allowed =>
      rw [List.getElem?_append] at stands
      split at stands
      · exact .kept stands
      · obtain ⟨place, rfl⟩ := List.getElem?_eq_some_iff.mp stands
        simp only [List.length_singleton] at place
        exact .started (by omega) (by simpa using allowed)
          (by simpa using Workload.assembled_start _ _)
  | @steer moved steps allowed ofCaller =>
      rw [List.getElem?_modify] at stands
      obtain ⟨before, stood, rfl⟩ := Option.map_eq_some_iff.mp stands
      by_cases here : moved = position
      · exact .steered stood allowed steps (by simp [here, Load.perform])
      · exact .kept (by simpa [here] using stood)
  | @work due moved index next =>
      rcases run.work_cases world due moved index with ⟨_, same⟩ | ⟨before, after, stood, went, done⟩
      · rw [same] at stands
        exact .kept stands
      · rw [done] at stands
        obtain ⟨steps, taken⟩ := went.workload
        by_cases here : moved = position
        · subst position
          obtain ⟨_, waiting, waits⟩ := waits_of_nextDue next
          cases stood.symm.trans waiting
          have inside := (List.getElem?_eq_some_iff.mp stood).1
          rw [List.getElem?_set_self inside] at stands
          cases stands
          exact .worked stood waits steps taken
        · rw [List.getElem?_set_ne here] at stands
          exact .kept stands

/-- Every stride keeps the parties together. -/
theorem Stride.gathered (stride : Stride world may run last) (gathered : run.Gathered) :
    last.Gathered := by
  intro load member
  obtain ⟨position, stands⟩ := List.mem_iff_getElem?.mp member
  cases stride.arises stands with
  | started place allowed assembled => exact assembled
  | steered stood allowed steps taken =>
      rw [taken]
      exact (gathered _ (List.mem_of_getElem? stood)).perform steps
  | worked stood waits steps taken =>
      rw [taken]
      exact (gathered _ (List.mem_of_getElem? stood)).perform steps
  | kept stood => exact gathered load (List.mem_of_getElem? stood)

/-- Unless it starts a workload, or one that may be busy, a stride wakes no worker that has ended. -/
theorem Stride.rests {busy : Nat → Prop} (stride : Stride world may run last)
    (fresh : ∀ node, may (.load node) → busy run.loads.length) (rests : run.Rests busy) :
    last.Rests busy := by
  intro position load stands free
  cases stride.arises stands with
  | started place allowed assembled => exact absurd (place ▸ fresh load.node allowed) free
  | steered stood allowed steps taken =>
      rw [taken]
      exact (rests position _ stood free).perform steps
  | worked stood waits steps taken => exact absurd (rests position _ stood free) waits.not_ended
  | kept stood => exact rests position load stood free

namespace Course

/-- Every course keeps the parties together. -/
theorem gathered (course : Course world may run last) (gathered : run.Gathered) :
    last.Gathered := by
  induction course with
  | refl => exact gathered
  | tail _ stride ih => exact stride.gathered ih

/-- Unless it starts a workload, a course wakes no worker that has ended. -/
theorem rests {busy : Nat → Prop} (course : Course world may run last)
    (none : ∀ node, ¬may (.load node)) (rests : run.Rests busy) : last.Rests busy := by
  induction course with
  | refl => exact rests
  | tail _ stride ih => exact stride.rests (fun node allowed => absurd allowed (none node)) ih

end Course

/-- No stride takes a workload away. -/
theorem Stride.loads_le (stride : Stride world may run last) :
    run.loads.length ≤ last.loads.length := by
  cases stride with
  | load allowed => simp
  | steer allowed ofCaller => simp
  | @work due position index next =>
      rcases run.work_cases world due position index with ⟨_, same⟩ | ⟨load, after, _, _, done⟩
      · exact Nat.le_of_eq (congrArg (·.loads.length) same.symm)
      · rw [done]
        simp
  | _ => exact Nat.le_refl _

/-- No course takes a workload away. -/
theorem Course.loads_le (course : Course world may run last) :
    run.loads.length ≤ last.loads.length := by
  induction course with
  | refl => exact Nat.le_refl _
  | tail _ stride ih => exact Nat.le_trans ih stride.loads_le

/-- Whatever happens after a run was idle, the workers that had ended do not go on any more. -/
theorem Course.ended_of_idle (course : Course world may run last) (idle : run.Idle)
    {position : Nat} {load : Load} (early : position < run.loads.length)
    (stands : last.loads[position]? = some load) : load.workload.Ended := by
  have rests : last.Rests (run.loads.length ≤ ·) ∧ run.loads.length ≤ last.loads.length := by
    clear stands
    induction course with
    | refl => exact ⟨fun position load stands _ => idle position load stands not_false, Nat.le_refl _⟩
    | tail _ stride ih =>
        obtain ⟨rests, longer⟩ := ih
        exact ⟨stride.rests (fun _ _ => longer) rests, Nat.le_trans longer stride.loads_le⟩
  exact rests.1 position load stands (Nat.not_le_of_lt early)

/-- Nobody goes on in an idle run. -/
theorem Idle.nextDue_eq_none (idle : run.Idle) : run.nextDue = none := by
  cases found : run.nextDue with
  | none => rfl
  | some next =>
      obtain ⟨load, stands, waits⟩ := waits_of_nextDue found
      exact absurd (idle _ load stands not_false) waits.not_ended

/-- In a course from an idle run no worker does anything until a workload starts. -/
theorem Course.of_idle (course : Course world may run last) (none : ∀ node, ¬may (.load node))
    (idle : run.Idle) : last.Idle ∧ ∀ event ∈ run.since last, may (.write event) := by
  induction course with
  | refl => exact ⟨idle, by simp⟩
  | @tail between last first stride ih =>
      obtain ⟨idleBetween, allowed⟩ := ih
      refine ⟨stride.rests (fun node allowed => none node allowed) idleBetween, ?_⟩
      intro event member
      rw [Course.since_trans first (.single stride)] at member
      rcases List.mem_append.mp member with early | late
      · exact allowed event early
      · obtain ⟨added, written, known⟩ := stride.events
        rw [since_of_events written] at late
        rcases known event late with fromStride | ⟨_, waits⟩
        · exact fromStride
        · exact absurd idleBetween.nextDue_eq_none waits

/-- In an idle run time passes and nothing else. -/
theorem Idle.advance (idle : run.Idle) (world : World State) (moment : Instant) :
    run.advance world moment = { run with clock := max run.clock moment } := by
  have still : ∀ steps, run.workUntil world moment steps = run := by
    intro steps
    cases steps with
    | zero => rfl
    | succ steps => simp [workUntil, workOnce, idle.nextDue_eq_none]
  simp only [Run.advance, still]

/-- Who waits for the workers of a workload until its barrier is open finds it open. -/
theorem finished_of_workToEnd {position steps : Nat}
    (ended : run.workToEnd world position steps = some last) {load : Load}
    (stands : last.loads[position]? = some load) : load.workload.isFinished = true := by
  induction steps generalizing run with
  | zero => cases ended
  | succ steps ih =>
      unfold workToEnd at ended
      split at ended
      · rename_i nowhere
        cases ended
        rw [nowhere] at stands
        cases stands
      · rename_i found
        split at ended
        · rename_i finished
          cases ended
          cases found.symm.trans stands
          exact finished
        · split at ended
          · exact ih ended
          · cases ended

end Run

namespace Action

/-- Who has started a workload has written that down, and in a run that was idle it is the only one
under way. -/
theorem startLoad_eq_some {node : Node} {table : String} {kinds : List OperationKind}
    {perKind position : Nat} {limit : Option Instant}
    (ended : startLoad node table kinds perKind limit run = (some position, last)) :
    position = run.loads.length ∧
      run.since last = [.workloadStarted position node kinds perKind] ∧
      (run.Idle → last.Rests (· = position)) := by
  cases ended
  refine ⟨rfl, Run.since_of_events (Run.events_note _ _), fun idle position load stands free => ?_⟩
  simp only [Run.note] at stands
  rw [List.getElem?_append_left] at stands
  · exact idle position load stands not_false
  · have inside := (List.getElem?_eq_some_iff.mp stands).1
    simp only [List.length_append, List.length_singleton] at inside
    omega

/-- Who has waited for the workers of a workload finds its barrier open. -/
theorem awaitWorkers_eq_some {position : Nat} {limit : Option Instant}
    (ended : awaitWorkers world position limit run = (some (), last)) {load : Load}
    (stands : last.loads[position]? = some load) : load.workload.isFinished = true := by
  unfold awaitWorkers at ended
  revert ended
  generalize reached : run.workToEnd world position (world.looks * (run.workerCount + 1)) = next
  intro ended
  cases next with
  | some next =>
      cases ended
      exact Run.finished_of_workToEnd reached stands
  | none => exact absurd ended stall_ne_some

/-- Who has stopped a workload has written down its records, after what its workers did meanwhile. -/
theorem stopLoad_eq_some {position : Nat} {limit : Option Instant} {errors : List WorkloadError}
    (ended : stopLoad world position limit run = (some errors, last)) :
    ∃ meanwhile, run.since last = meanwhile ++ [.workloadStopped position errors] ∧
      (∀ event ∈ meanwhile, event.deed = .work) ∧
      (run.Gathered → run.Rests (· = position) → last.Idle) := by
  obtain ⟨_, lowered, endedLower, ended⟩ := bind_eq_some.mp ended
  obtain ⟨_, reached, endedAwait, ended⟩ := bind_eq_some.mp ended
  obtain ⟨_, collected, endedCollect, ended⟩ := bind_eq_some.mp ended
  obtain ⟨workload, _, endedLook, ended⟩ := bind_eq_some.mp ended
  obtain ⟨_, noted, endedNote, ended⟩ := bind_eq_some.mp ended
  obtain ⟨rfl, rfl⟩ := pure_eq_some.mp ended
  let steers : Deed → Prop := Deed.Within (· = .steer)
  have lower : Run.Course world steers run lowered :=
    (follows_performOn (by rfl) position ofCaller_stopSteps).course endedLower
  have waited : Run.Course world (fun _ => False) lowered reached :=
    (follows_awaitWorkers position).course endedAwait
  have collect : Run.Course world steers reached collected :=
    (follows_performOn (by rfl) position ofCaller_collect).course endedCollect
  have write : Run.Course world steers collected noted := by
    cases endedLook
    exact (follows_note (by rfl) (by nofun)).course endedNote
  refine ⟨lowered.since reached, ?_, ?_, ?_⟩
  · cases endedNote
    cases endedLook
    cases endedCollect
    cases endedLower
    refine Run.since_of_events ?_
    rw [Run.events_note, ← List.append_assoc]
    exact congrArg (· ++ _) waited.events_eq
  · exact fun event member => (waited.of_mem_since member).resolve_left not_false
  · intro gathered rests
    have gatheredReached := waited.gathered (lower.gathered gathered)
    have restsReached := waited.rests (fun _ => not_false) (lower.rests nofun rests)
    have idle : reached.Idle := by
      intro other load stands _
      by_cases here : other = position
      · subst other
        exact (gatheredReached load (List.mem_of_getElem? stands)).ended
          (awaitWorkers_eq_some endedAwait stands)
      · exact restsReached other load stands here
    exact (collect.trans write).rests nofun idle

end Action

end GracefulStop
