import GracefulStop.Proofs.Run.Trail

/-!
# Which nodes are alive

What it means that a node is alive is up to the surroundings. A `World.Liveness` is such a meaning
that fits to what the surroundings do: only a start brings a node to life, time does not, a node that
has just been laid out has no process yet, and stopping succeeds and ends the process.

A course in which a node is not started does not bring it to life.
-/

namespace GracefulStop

variable {State : Type} {world : World State}

/-- A meaning of being alive, for surroundings in which stopping a node succeeds. -/
structure World.Liveness (world : World State) where
  /-- Whether the node of a number is alive at some moment. -/
  alive : (serial : Nat) → Instant → State → Prop
  /-- What holds of the surroundings from the start on. -/
  sound : State → Prop
  sound_touch : ∀ {deed now before after}, world.Touch deed now before after → sound before →
    sound after
  /-- Time brings nobody to life. -/
  alive_of_later : ∀ {serial earlier later state}, sound state → earlier ≤ later →
    alive serial later state → alive serial earlier state
  /-- Only its start brings a node to life. -/
  alive_of_touch : ∀ {deed now before after serial moment}, world.Touch deed now before after →
    sound before → (∀ node, deed = .start node → node.serial ≠ serial) →
    alive serial moment after → alive serial moment before
  /-- A node whose process has just been prepared is not alive. -/
  not_alive_launch : ∀ node now state, sound state →
    ¬alive node.serial now (world.launch node now state).2
  /-- Stopping a node succeeds. -/
  stop_eq_ok : ∀ node now state, sound state → (world.stop node now state).1 = .ok ()
  /-- A node that has been stopped is not alive. -/
  not_alive_stop : ∀ node now state, sound state →
    ¬alive node.serial now (world.stop node now state).2

namespace World.Liveness

variable (live : world.Liveness) {may : Deed → Prop} {run last : Run State}

/-- The surroundings of a run are as they have to be. -/
def Sound (run : Run State) : Prop := live.sound run.state

/-- Whether a node is alive at this moment of a run. -/
def Alive (run : Run State) (node : Node) : Prop := live.alive node.serial run.clock run.state

variable {live}

theorem alive_of_touches {deed : Deed} {now moment : Instant} {before after : State} {serial : Nat}
    (touched : world.Touches deed now before after) (sound : live.sound before)
    (other : ∀ node, deed = .start node → node.serial ≠ serial)
    (alive : live.alive serial moment after) : live.alive serial moment before := by
  induction touched with
  | refl => exact alive
  | tail first touch ih =>
      have soundFirst := World.kept_of_touches (fun _ _ => live.sound_touch) first sound
      exact ih (live.alive_of_touch touch soundFirst other alive)

/-- A stride brings no node to life that it does not start. -/
theorem alive_of_stride (stride : Run.Stride world may run last) (sound : live.Sound run)
    {node : Node} (unstarted : ∀ started, may (.start started) → started.serial ≠ node.serial)
    (alive : live.Alive last node) : live.Alive run node := by
  rcases stride.touches with ⟨deed, now, allowed, touched⟩
  apply live.alive_of_later sound stride.ahead.1
  apply alive_of_touches touched sound _ alive
  rintro started rfl
  rcases allowed with starts | work
  · exact unstarted started starts
  · cases work

/-- Every course leaves the surroundings as they have to be. -/
theorem sound_course (course : Run.Course world may run last) (sound : live.Sound run) :
    live.Sound last :=
  course.kept live.sound_touch sound

/-- A course brings no node to life that it does not start. -/
theorem alive_of_course (course : Run.Course world may run last) (sound : live.Sound run)
    {node : Node} (unstarted : ∀ started, may (.start started) → started.serial ≠ node.serial)
    (alive : live.Alive last node) : live.Alive run node := by
  induction course with
  | refl => exact alive
  | tail first stride ih =>
      exact ih (alive_of_stride stride (sound_course first sound) unstarted alive)

end World.Liveness

namespace Action

variable {live : world.Liveness} {run last : Run State} {limit : Option Instant}

/-- A node whose process has just been prepared is not alive. -/
theorem not_alive_of_launch {node : Node} {result : Except ClusterError Unit}
    (ended : launch world node limit run = (some result, last)) (sound : live.Sound run) :
    ¬live.Alive last node := by
  cases ended
  exact live.not_alive_launch node run.clock run.state sound

/-- A node that has been stopped is not alive. -/
theorem not_alive_of_stopNode {node : Node} {result : Except ClusterError Unit}
    (ended : stopNode world node limit run = (some result, last)) (sound : live.Sound run) :
    result = .ok () ∧ ¬live.Alive last node := by
  cases ended
  exact ⟨live.stop_eq_ok node run.clock run.state sound,
    live.not_alive_stop node run.clock run.state sound⟩

end Action

end GracefulStop
