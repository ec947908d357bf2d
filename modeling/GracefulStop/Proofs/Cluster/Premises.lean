import GracefulStop.Cluster.Launcher
import GracefulStop.Proofs.Node.Life
import GracefulStop.Proofs.Run.Liveness

/-!
# Nodes that are processes of a host

Where nodes are processes of a host, a node is alive if its process has a child that is. The launcher
does what such a meaning asks for: only the start of a node starts a child for it, and stopping a node
succeeds and leaves it without one. Whoever answers the statements may let processes end, but has to
leave them alone otherwise.
-/

namespace GracefulStop

namespace Premises

variable {Rest : Type} {premises : Premises Rest} {node : Node} {launcher : Launcher}

/-- The process of a node, which may be one that was never started. -/
def process (launcher : Launcher) (premises : Premises Rest) (node : Node) : NodeProcess :=
  (premises.processes.lookup node.serial).getD (launcher.process node.spec)

/-- Whether the node of a number has a child that is alive. -/
def Alive (serial : Nat) (moment : Instant) (premises : Premises Rest) : Prop :=
  ∃ process pid, premises.processes.lookup serial = some process ∧ process.child = some pid ∧
    premises.host.isAlive pid moment = true

/-- Every child that a process has was started on the host. -/
def Sound (premises : Premises Rest) : Prop :=
  ∀ serial process pid, premises.processes.lookup serial = some process →
    process.child = some pid → pid < premises.host.children.length

/-- Premises on which no child lives longer and no process gets another child. -/
structure Ages (premises after : Premises Rest) : Prop where
  host : premises.host.Ages after.host
  processes : after.processes = premises.processes

theorem Ages.sound {after : Premises Rest} (ages : premises.Ages after) (sound : premises.Sound) :
    after.Sound := by
  intro serial process pid held child
  rw [ages.processes] at held
  rw [ages.host.count]
  exact sound serial process pid held child

theorem Ages.alive {after : Premises Rest} (ages : premises.Ages after) {serial : Nat}
    {moment : Instant} (alive : after.Alive serial moment) : premises.Alive serial moment := by
  obtain ⟨process, pid, held, child, going⟩ := alive
  rw [ages.processes] at held
  exact ⟨process, pid, held, child, ages.host.alive pid moment going⟩

/-- Another key is found whether or not the entries of one key are left out. -/
theorem lookup_filter_ne {Item : Type} (entries : List (Nat × Item)) {key other : Nat}
    (different : other ≠ key) :
    (entries.filter (·.1 != key)).lookup other = entries.lookup other := by
  induction entries with
  | nil => rfl
  | cons entry rest ih =>
      obtain ⟨first, item⟩ := entry
      by_cases same : first = key
      · have unlike : (other == first) = false := by simpa [same] using different
        simp [same, List.lookup_cons, same ▸ unlike, ih]
      · simp only [List.filter_cons, bne_iff_ne, ne_eq, same, not_false_eq_true, if_true,
          List.lookup_cons, ih]

/-- The process that stands in the place of a node's. -/
theorem lookup_setProcess (premises : Premises Rest) (node : Node) (process : NodeProcess)
    (serial : Nat) :
    (premises.setProcess node process).processes.lookup serial =
      if serial = node.serial then some process else premises.processes.lookup serial := by
  simp only [setProcess, List.lookup_cons]
  by_cases same : serial = node.serial
  · simp [same]
  · have unlike : (serial == node.serial) = false := by simpa using same
    simp only [unlike, if_neg same, lookup_filter_ne _ same]

/-- What holds of every process also holds after one of which it holds was put in. -/
theorem forall_setProcess {Kept : NodeProcess → Prop} {process : NodeProcess}
    (all : ∀ serial found, premises.processes.lookup serial = some found → Kept found)
    (kept : Kept process) (serial : Nat) (found : NodeProcess)
    (stands : (premises.setProcess node process).processes.lookup serial = some found) :
    Kept found := by
  rw [lookup_setProcess] at stands
  split at stands
  · cases stands
    exact kept
  · exact all serial found stands

/-- A node that has a child is one that was started. -/
theorem lookup_of_child {pid : Pid} (held : (premises.process launcher node).child = some pid) :
    premises.processes.lookup node.serial = some (premises.process launcher node) := by
  unfold process at *
  cases found : premises.processes.lookup node.serial with
  | none =>
      rw [found] at held
      cases held
  | some process => rfl

section SetProcess

variable {process : NodeProcess} {host : Host}

/-- Every child that a process has is one of the host after a start, too. -/
theorem sound_setProcess
    (starts : (premises.process launcher node).Starts premises.host process host)
    (sound : premises.Sound) : ({ premises with host }.setProcess node process).Sound := by
  intro serial other pid held child
  rw [lookup_setProcess] at held
  split at held
  · cases held
    rcases starts.child pid child with before | inside
    · exact Nat.lt_of_lt_of_le (sound _ _ pid (lookup_of_child before) before) starts.count
    · exact inside
  · exact Nat.lt_of_lt_of_le (sound serial other pid held child) starts.count

/-- A start brings no other node to life. -/
theorem alive_setProcess_ne
    (starts : (premises.process launcher node).Starts premises.host process host)
    (sound : premises.Sound) {serial : Nat} {moment : Instant} (different : serial ≠ node.serial)
    (alive : ({ premises with host }.setProcess node process).Alive serial moment) :
    premises.Alive serial moment := by
  obtain ⟨other, pid, held, child, going⟩ := alive
  rw [lookup_setProcess, if_neg different] at held
  exact ⟨other, pid, held, child, starts.alive pid moment (sound serial other pid held child) going⟩

/-- What starts no process brings no node to life. -/
theorem alive_setProcess
    (ages : (premises.process launcher node).Ages premises.host process host)
    (sound : premises.Sound) {serial : Nat} {moment : Instant}
    (alive : ({ premises with host }.setProcess node process).Alive serial moment) :
    premises.Alive serial moment := by
  by_cases same : serial = node.serial
  · obtain ⟨other, pid, held, child, going⟩ := alive
    rw [lookup_setProcess, if_pos same] at held
    cases held
    have before := ages.child_eq child
    rw [same]
    exact ⟨_, pid, lookup_of_child before, before, ages.host.alive pid moment going⟩
  · exact alive_setProcess_ne ages.starts sound same alive

end SetProcess

end Premises

namespace Launcher

variable {Rest : Type} (launcher : Launcher)
  {ask : Node → Request → Look → Premises Rest →
    Progress (Except QueryError Response) × Premises Rest}
  {draw : Draw Rest}

/-- What the surroundings are asked at most ends processes, or prepares the process of a node, or does
something with it. Only who asks for a start gives a process another child. -/
theorem touch_uses
    (ages : ∀ node request look (premises : Premises Rest),
      premises.Ages (ask node request look premises).2)
    {deed : Deed} {now : Instant} {before after : Premises Rest}
    (touched : (launcher.world ask draw).Touch deed now before after) :
    before.Ages after ∨
      (∃ node, deed = .launch node ∧ after = before.setProcess node (launcher.process node.spec)) ∨
      ∃ (node : Node) (process : NodeProcess) (host : Host),
        after = { before with host }.setProcess node process ∧
          NodeProcess.Used now (before.process launcher node) before.host process host ∧
          (deed = .start node ∨
            NodeProcess.Tended now (before.process launcher node) before.host process host) := by
  have same : ∀ premises : Premises Rest, premises.Ages premises := fun _ => ⟨.refl _, rfl⟩
  cases touched with
  | launch node => exact .inr (.inl ⟨node, rfl, rfl⟩)
  | connect node =>
      left
      simp only [world]
      split <;> exact same _
  | keep manifest =>
      left
      simp only [world, Premises.record]
      split
      · exact ⟨⟨rfl, fun _ _ => id⟩, rfl⟩
      · exact same _
  | reserve port => exact .inl (same _)
  | start node look => exact .inr (.inr ⟨node, _, _, rfl, .start look rfl, .inl rfl⟩)
  | stop node => exact .inr (.inr ⟨node, _, _, rfl, .tend .stop, .inr .stop⟩)
  | signal node => exact .inr (.inr ⟨node, _, _, rfl, .tend .leave, .inr .leave⟩)
  | wait node timeout look =>
      exact .inr (.inr ⟨node, _, _, rfl, .tend (.wait timeout look rfl), .inr (.wait timeout look rfl)⟩)
  | check node => exact .inr (.inr ⟨node, _, _, rfl, .tend .check, .inr .check⟩)
  | ask node request look => exact .inl (ages node request look before)
  | draw bound => exact .inl ⟨.refl _, rfl⟩
  | workerAsk node request look => exact .inl (ages node request look before)
  | workerDraw bound => exact .inl ⟨.refl _, rfl⟩

/-- A process that has just been prepared has no child. -/
theorem ages_prepared (premises : Premises Rest) (node : Node) :
    (premises.process launcher node).Ages premises.host (launcher.process node.spec) premises.host :=
  ⟨.refl _, .inl rfl⟩

/-- What it means that the process of a node is alive. -/
def liveness
    (ages : ∀ node request look (premises : Premises Rest),
      premises.Ages (ask node request look premises).2) :
    (launcher.world ask draw).Liveness where
  alive := Premises.Alive
  sound := Premises.Sound
  sound_touch := by
    intro deed now before after touched sound
    rcases launcher.touch_uses ages touched with
      aged | ⟨node, _, rfl⟩ | ⟨node, process, host, rfl, used, _⟩
    · exact aged.sound sound
    · exact Premises.sound_setProcess (launcher.ages_prepared before node).starts sound
    · exact Premises.sound_setProcess used.starts sound
  alive_of_later := by
    intro serial earlier later premises _ sooner alive
    obtain ⟨process, pid, held, child, going⟩ := alive
    exact ⟨process, pid, held, child, Host.isAlive_of_later sooner going⟩
  alive_of_touch := by
    intro deed now before after serial moment touched sound other alive
    rcases launcher.touch_uses ages touched with
      aged | ⟨node, _, rfl⟩ | ⟨node, process, host, rfl, used, rfl | tended⟩
    · exact aged.alive alive
    · exact Premises.alive_setProcess (launcher.ages_prepared before node) sound alive
    · exact Premises.alive_setProcess_ne used.starts sound (Ne.symm (other node rfl)) alive
    · exact Premises.alive_setProcess tended.ages sound alive
  not_alive_launch := by
    rintro node now premises _ ⟨process, pid, held, child, _⟩
    rw [show ((launcher.world ask draw).launch node now premises).2 =
      premises.setProcess node (launcher.process node.spec) from rfl,
      Premises.lookup_setProcess, if_pos rfl] at held
    cases held
    cases child
  stop_eq_ok := fun _ _ _ _ => rfl
  not_alive_stop := by
    rintro node now premises _ ⟨process, pid, held, child, _⟩
    rw [show ((launcher.world ask draw).stop node now premises).2 =
      { premises with host := ((premises.process launcher node).stop premises.host now).2 }.setProcess
        node ((premises.process launcher node).stop premises.host now).1 from rfl,
      Premises.lookup_setProcess, if_pos rfl] at held
    cases held
    rw [(NodeProcess.ages_stop _ _ _).1] at child
    cases child

end Launcher

end GracefulStop
