import GracefulStop.Proofs.Run.Work
import Mathlib.Data.List.Forall2

/-!
# What a course leaves behind

A course only adds to the log, and every event that it adds is about a deed that it may do or about a
worker. The clock does not go back, and no number is given to two nodes. What happened in a course is
the list of events that it added, and some things happened in an order if there are events among them
in that order, one for each.
-/

namespace GracefulStop

variable {State : Type} {world : World State} {may : Deed → Prop} {run between last : Run State}

theorem World.kept_of_touches {Kept : State → Prop} {deed : Deed} {now : Instant}
    {before after : State}
    (each : ∀ before after, world.Touch deed now before after → Kept before → Kept after)
    (touched : world.Touches deed now before after) (kept : Kept before) : Kept after := by
  induction touched with
  | refl => exact kept
  | tail _ touch ih => exact each _ _ touch ih

theorem World.view_of_touches {View : Type} {view : State → View} {deed : Deed} {now : Instant}
    {before after : State}
    (kept : ∀ before after, world.Touch deed now before after → view after = view before)
    (touched : world.Touches deed now before after) : view after = view before :=
  @kept_of_touches _ _ (view · = view before) _ _ _ _
    (fun _ _ touch same => (kept _ _ touch).trans same) touched rfl

namespace Run

/-- The events that have been added to a run. -/
def since (before after : Run State) : List Event := after.events.drop before.events.length

theorem since_of_events {added : List Event} (written : last.events = run.events ++ added) :
    run.since last = added := by
  simp [since, written]

@[simp]
theorem since_self (run : Run State) : run.since run = [] := by
  simp [since]

@[simp]
theorem since_note (run : Run State) (event : Event) : run.since (run.note event) = [event] :=
  since_of_events (run.events_note event)

/-- What a worker does is written down as such. -/
theorem work_events (world : World State) (due : Instant) (position index : Nat)
    (run : Run State) :
    ∃ added, (run.work world due position index).events = run.events ++ added ∧
      ∀ event ∈ added, event.OfWorker position := by
  rcases run.work_cases world due position index with ⟨_, same⟩ | ⟨load, after, _, went, done⟩
  · exact ⟨[], by simp [same], by simp⟩
  · rw [done]
    exact went.events

/-- Everything that one stride adds is about what it may do, or about a worker that was waiting. -/
theorem Stride.events (stride : Stride world may run last) :
    ∃ added, last.events = run.events ++ added ∧
      ∀ event ∈ added, may (.write event) ∨ event.deed = .work ∧ run.nextDue ≠ none := by
  have nothing : ∃ added, run.events = run.events ++ added ∧
      ∀ event ∈ added, may (.write event) ∨ event.deed = .work ∧ run.nextDue ≠ none :=
    ⟨[], by simp, by simp⟩
  cases stride with
  | tick later => exact nothing
  | touch allowed touched => exact nothing
  | @note event allowed =>
      exact ⟨[event], run.events_note event, by simpa using .inl allowed⟩
  | reserve allowed => exact nothing
  | lay allowed => exact nothing
  | load allowed => exact nothing
  | steer allowed ofCaller => exact nothing
  | work next =>
      obtain ⟨added, written, ofWorker⟩ := run.work_events world _ _ _
      exact ⟨added, written, fun event member => .inr ⟨(ofWorker event member).deed, by simp [next]⟩⟩

/-- Whatever a stride does to the surroundings, it asks them only for one of its deeds, or for what a
worker does, and at the moment at which it ends. -/
theorem Stride.touches_at (stride : Stride world may run last) :
    ∃ deed, (may deed ∨ deed = .work) ∧ world.Touches deed last.clock run.state last.state := by
  have nothing : ∀ now, ∃ deed, (may deed ∨ deed = .work) ∧
      world.Touches deed now run.state run.state := fun _ => ⟨.work, .inr rfl, .refl⟩
  cases stride with
  | touch allowed touched => exact ⟨_, .inl allowed, .single touched⟩
  | @work due position index next =>
      rcases run.work_cases world due position index with ⟨_, same⟩ | ⟨load, after, _, went, done⟩
      · rw [same]
        exact nothing run.clock
      · rw [done]
        dsimp only
        rw [went.clock]
        exact ⟨_, .inr rfl, went.touched⟩
  | _ => exact nothing _

theorem Stride.touches (stride : Stride world may run last) :
    ∃ deed now, (may deed ∨ deed = .work) ∧ world.Touches deed now run.state last.state := by
  rcases stride.touches_at with ⟨deed, allowed, touched⟩
  exact ⟨deed, last.clock, allowed, touched⟩

/-- No stride turns the clock back or takes a number away. -/
theorem Stride.ahead (stride : Stride world may run last) :
    run.clock ≤ last.clock ∧ run.nodes ≤ last.nodes := by
  have still : run.clock ≤ run.clock := Nat.le_refl run.clock.nanos
  cases stride with
  | tick later => exact ⟨later, Nat.le_refl _⟩
  | touch allowed touched => exact ⟨still, Nat.le_refl _⟩
  | note allowed => exact ⟨still, Nat.le_refl _⟩
  | reserve allowed => exact ⟨still, Nat.le_refl _⟩
  | lay allowed => exact ⟨still, Nat.le_succ _⟩
  | load allowed => exact ⟨still, Nat.le_refl _⟩
  | steer allowed ofCaller => exact ⟨still, Nat.le_refl _⟩
  | @work due position index next =>
      rcases run.work_cases world due position index with ⟨_, same⟩ | ⟨load, after, _, went, done⟩
      · rw [same]
        exact ⟨still, Nat.le_refl _⟩
      · rw [done]
        refine ⟨?_, Nat.le_of_eq went.nodes.symm⟩
        have clock : after.2.clock = max run.clock due := went.clock
        simp only [clock, Duration.le_def, Duration.nanos_max]
        omega

/-- A stride that lays out no node gives no number away. -/
theorem Stride.nodes_eq (stride : Stride world may run last) (none : ¬may .lay) :
    last.nodes = run.nodes := by
  cases stride with
  | tick later => rfl
  | touch allowed touched => rfl
  | note allowed => rfl
  | reserve allowed => rfl
  | lay allowed => exact absurd allowed none
  | load allowed => rfl
  | steer allowed ofCaller => rfl
  | @work due position index next =>
      rcases run.work_cases world due position index with ⟨_, same⟩ | ⟨load, after, _, went, done⟩
      · rw [same]
      · rw [done]
        exact went.nodes

namespace Course

/-- Everything that a course adds is about what it may do or about a worker. -/
theorem events (course : Course world may run last) :
    ∃ added, last.events = run.events ++ added ∧
      ∀ event ∈ added, may (.write event) ∨ event.deed = .work := by
  induction course with
  | refl => exact ⟨[], by simp, by simp⟩
  | tail _ stride ih =>
      obtain ⟨added, written, allowed⟩ := ih
      obtain ⟨more, writtenThen, allowedThen⟩ := stride.events
      refine ⟨added ++ more, by rw [writtenThen, written, List.append_assoc], ?_⟩
      intro event member
      rcases List.mem_append.mp member with early | late
      · exact allowed event early
      · exact (allowedThen event late).imp_right And.left

/-- A course adds to the log. -/
theorem events_eq (course : Course world may run last) :
    last.events = run.events ++ run.since last := by
  obtain ⟨added, written, _⟩ := course.events
  rw [since_of_events written, written]

/-- What happened in a course was allowed, or a worker did it. -/
theorem of_mem_since (course : Course world may run last) {event : Event}
    (member : event ∈ run.since last) : may (.write event) ∨ event.deed = .work := by
  obtain ⟨added, written, allowed⟩ := course.events
  rw [since_of_events written] at member
  exact allowed event member

/-- What happened in two courses after each other. -/
theorem since_trans {might : Deed → Prop} (first : Course world may run between)
    (second : Course world might between last) :
    run.since last = run.since between ++ between.since last := by
  refine since_of_events ?_
  rw [second.events_eq, first.events_eq, List.append_assoc]

/-- A course does not turn the clock back. -/
theorem clock_le (course : Course world may run last) : run.clock ≤ last.clock := by
  induction course with
  | refl => exact Nat.le_refl run.clock.nanos
  | tail _ stride ih => exact Nat.le_trans ih stride.ahead.1

/-- What whatever is asked of the surroundings keeps up, a course keeps up. -/
theorem kept {Kept : State → Prop} (course : Course world may run last)
    (each : ∀ {deed now before after}, world.Touch deed now before after → Kept before → Kept after)
    (kept : Kept run.state) : Kept last.state := by
  induction course with
  | refl => exact kept
  | tail _ stride ih =>
      rcases stride.touches with ⟨deed, now, _, touched⟩
      exact World.kept_of_touches (fun _ _ => each) touched ih

/-- What none of the deeds of a course changes stays as it is. -/
theorem view_eq {View : Type} (view : State → View)
    (kept : ∀ deed now before after, may deed ∨ deed = .work → world.Touch deed now before after →
      view after = view before)
    (course : Course world may run last) : view last.state = view run.state := by
  induction course with
  | refl => rfl
  | tail _ stride ih =>
      rcases stride.touches with ⟨deed, now, allowed, touched⟩
      exact (World.view_of_touches (kept deed now · · allowed) touched).trans ih

/-- A course that lays out no node gives no number away. -/
theorem nodes_eq (course : Course world may run last) (none : ¬may .lay) :
    last.nodes = run.nodes := by
  induction course with
  | refl => rfl
  | tail _ stride ih => exact (stride.nodes_eq none).trans ih

/-- A course does not take numbers away. -/
theorem nodes_le (course : Course world may run last) : run.nodes ≤ last.nodes := by
  induction course with
  | refl => exact Nat.le_refl _
  | tail _ stride ih => exact Nat.le_trans ih stride.ahead.2

end Course

end Run

/-- Things that happened in an order, each as some event. -/
def InOrder (stones : List (Event → Prop)) (events : List Event) : Prop :=
  List.SublistForall₂ (fun stone event => stone event) stones events

namespace InOrder

variable {stones more : List (Event → Prop)} {events later : List Event}

theorem nil (events : List Event) : InOrder [] events := List.SublistForall₂.nil

/-- A single thing that happened. -/
theorem single {stone : Event → Prop} {event : Event} (member : event ∈ events)
    (marked : stone event) : InOrder [stone] events :=
  List.sublistForall₂_iff.mpr
    ⟨[event], .cons marked .nil, List.singleton_sublist.mpr member⟩

theorem append (first : InOrder stones events) (second : InOrder more later) :
    InOrder (stones ++ more) (events ++ later) := by
  obtain ⟨picked, marked, among⟩ := List.sublistForall₂_iff.mp first
  obtain ⟨pickedThen, markedThen, amongThen⟩ := List.sublistForall₂_iff.mp second
  exact List.sublistForall₂_iff.mpr
    ⟨picked ++ pickedThen, List.rel_append marked markedThen, among.append amongThen⟩

/-- More may have happened besides. -/
theorem mono (order : InOrder stones events) (among : events.Sublist later) :
    InOrder stones later := by
  obtain ⟨picked, marked, amongEvents⟩ := List.sublistForall₂_iff.mp order
  exact List.sublistForall₂_iff.mpr ⟨picked, marked, amongEvents.trans among⟩

/-- What happened as some things happened as wider ones. -/
theorem wider {others : List (Event → Prop)} (order : InOrder stones events)
    (each : List.Forall₂ (fun stone other => ∀ event, stone event → other event) stones others) :
    InOrder others events := by
  induction order generalizing others with
  | nil =>
      cases each
      exact .nil _
  | cons marked _ ih =>
      cases each with
      | cons wide rest => exact .cons (wide _ marked) (ih rest)
  | cons_right _ ih => exact .cons_right (ih each)

/-- Each of the things has happened. -/
theorem exists_of_mem (order : InOrder stones events) {stone : Event → Prop}
    (member : stone ∈ stones) : ∃ event ∈ events, stone event := by
  induction order with
  | nil => cases member
  | @cons first event stones events marked order ih =>
      rcases List.mem_cons.mp member with rfl | memberRest
      · exact ⟨event, List.mem_cons_self, marked⟩
      · obtain ⟨found, memberFound, holds⟩ := ih memberRest
        exact ⟨found, List.mem_cons_of_mem _ memberFound, holds⟩
  | cons_right order ih =>
      obtain ⟨found, memberFound, holds⟩ := ih member
      exact ⟨found, List.mem_cons_of_mem _ memberFound, holds⟩

end InOrder

/-- A course in which things happened in an order. -/
structure Run.Passed (world : World State) (stones : List (Event → Prop)) (run last : Run State) :
    Prop where
  course : Run.Course world (fun _ => True) run last
  order : InOrder stones (run.since last)

namespace Run.Passed

variable {stones more : List (Event → Prop)}

theorem trans (first : Passed world stones run between) (second : Passed world more between last) :
    Passed world (stones ++ more) run last where
  course := first.course.trans second.course
  order := by
    rw [first.course.since_trans second.course]
    exact first.order.append second.order

/-- Nothing happened. -/
theorem refl (run : Run State) : Passed world [] run run := ⟨.refl, .nil _⟩

/-- Nothing in particular happened. -/
theorem of_course (course : Course world may run last) : Passed world [] run last :=
  ⟨course.any, .nil _⟩

/-- Something happened. -/
theorem of_mem {stone : Event → Prop} {event : Event} (course : Course world may run last)
    (member : event ∈ run.since last) (marked : stone event) : Passed world [stone] run last :=
  ⟨course.any, .single member marked⟩

/-- A certain event has happened. -/
theorem of_event {event : Event} (course : Course world may run last)
    (member : event ∈ run.since last) : Passed world [(· = event)] run last :=
  of_mem course member rfl

/-- Something else, and then what happened. -/
theorem after (course : Course world may run between) (second : Passed world stones between last) :
    Passed world stones run last :=
  Passed.trans (.of_course course) second

end Run.Passed

end GracefulStop
