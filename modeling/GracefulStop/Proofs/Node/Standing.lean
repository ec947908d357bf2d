import GracefulStop.Proofs.Node.Life
import Mathlib

/-!
# How a process stands

A process is asked to start, to stop, to leave, whether it runs, or to be waited for, again and again
and in any order, while its host goes on. The status and the child are two things that every call
keeps in step: the children that the process has started have all ended, except for the one that it
holds, which is the last one.

Nothing is assumed about what the programs do, except that what has ended stays as it ended.
-/

namespace GracefulStop

namespace Child

variable {child : Child} {now : Instant} {status : ExitStatus}

theorem endNow_of_ended (ended : child.endedAs? now = some status) (other : ExitStatus) :
    child.endNow now other = child := by
  simp [endNow, ended]

theorem take_of_ended (ended : child.endedAs? now = some status) (signal : Signal) :
    child.take now signal = child := by
  simp [take, endNow_of_ended, ended]

theorem endedAs?_endNow (child : Child) (now : Instant) (status : ExitStatus) :
    ((child.endNow now status).endedAs? now).isSome = true := by
  unfold endNow
  split
  · assumption
  · simp [endedAs?]

end Child

namespace Host

variable {host before after last : Host} {now earlier later moment : Instant} {pid : Pid}
  {status : ExitStatus}

theorem endedAs?_eq_some : host.endedAs? pid now = some status ↔
    ∃ child, host.children[pid]? = some child ∧ child.endedAs? now = some status := by
  unfold endedAs?
  cases host.children[pid]? <;> simp

theorem not_isAlive_of_ended (ended : host.endedAs? pid now = some status) :
    ¬host.isAlive pid now = true := by
  rw [isAlive_iff]
  rintro ⟨child, stands, going⟩
  rcases endedAs?_eq_some.mp ended with ⟨other, standsOther, gone⟩
  cases stands.symm.trans standsOther
  rw [going] at gone
  cases gone

/-- What may come of a host from one moment to another: what has ended stays as it ended. Whatever is
alive may end, other children may be started, and the files, the ports and the programs are as they may. -/
structure Drifts (before : Host) (earlier : Instant) (after : Host) (later : Instant) : Prop where
  count : before.children.length ≤ after.children.length
  ended : ∀ pid status, before.endedAs? pid earlier = some status →
    after.endedAs? pid later = some status

theorem Drifts.refl (host : Host) (now : Instant) : host.Drifts now host now :=
  ⟨Nat.le_refl _, fun _ _ => id⟩

theorem drifts_modify {change : Child → Child}
    (kept : ∀ child status, child.endedAs? now = some status → change child = child) (pid : Pid) :
    host.Drifts now { host with children := host.children.modify pid change } now where
  count := Nat.le_of_eq (List.length_modify _ _ _).symm
  ended := by
    intro other status ended
    rcases endedAs?_eq_some.mp ended with ⟨child, stands, gone⟩
    refine endedAs?_eq_some.mpr ⟨child, ?_, gone⟩
    rw [List.getElem?_modify, stands]
    simp [kept child status gone]

theorem drifts_kill (host : Host) (pid : Pid) (now : Instant) :
    host.Drifts now (host.kill pid now) now :=
  drifts_modify (fun _ _ ended => Child.endNow_of_ended ended _) pid

theorem drifts_signal (host : Host) (pid : Pid) (now : Instant) (signal : Signal) :
    host.Drifts now (host.signal pid now signal) now :=
  drifts_modify (fun _ _ ended => Child.take_of_ended ended signal) pid

theorem drifts_of_append {children : List Child}
    (added : after.children = before.children ++ children) : before.Drifts now after now where
  count := by
    rw [added, List.length_append]
    omega
  ended := by
    intro pid status ended
    rcases endedAs?_eq_some.mp ended with ⟨child, stands, gone⟩
    refine endedAs?_eq_some.mpr ⟨child, ?_, gone⟩
    have inside := (List.getElem?_eq_some_iff.mp stands).1
    rw [added, List.getElem?_append_left inside]
    exact stands

/-- The children that have come to a host since it was as before. -/
def newcomers (before after : Host) : List Pid :=
  List.range' before.children.length (after.children.length - before.children.length)

theorem newcomers_of_same (same : after.children.length = before.children.length) :
    before.newcomers after = [] := by
  simp [newcomers, same]

theorem newcomers_of_one (one : after.children.length = before.children.length + 1) :
    before.newcomers after = [before.children.length] := by
  simp [newcomers, one]

theorem ended_kill (inside : pid < host.children.length) (now : Instant) :
    ∃ status, (host.kill pid now).endedAs? pid now = some status := by
  have gone := host.children[pid].endedAs?_endNow now (.signalled Signal.killNumber)
  rcases Option.isSome_iff_exists.mp gone with ⟨status, ended⟩
  refine ⟨status, endedAs?_eq_some.mpr ⟨_, ?_, ended⟩⟩
  simp [kill, List.getElem?_eq_getElem inside]

end Host

namespace NodeProcess

/-- What can be asked of a process. -/
inductive Call where
  | start
  | stop
  | wait (timeout : Duration)
  /-- Asks it to leave. -/
  | leave
  /-- Whether it runs. -/
  | check
  deriving DecidableEq

/-- What comes of a call. -/
inductive Reply where
  | started (result : Except ClusterError Unit)
  | stopped
  | waited (result : Except ClusterError (Option Int))
  | left
  | checked (running : Bool)

/-- A reply in the place of the answer. -/
def replied {Answer : Type} (reply : Answer → Reply) : Progress Answer → Progress Reply
  | .done answer => .done (reply answer)
  | .pause length => .pause length
  | .stalled => .stalled

/-- One look of a call. Only a start and a wait look more than once. -/
def Call.look (call : Call) (look : Look) (process : NodeProcess) (host : Host) :
    Progress Reply × NodeProcess × Host :=
  match call with
  | .start =>
    let (progress, process, host) := process.start host look
    (replied .started progress, process, host)
  | .stop =>
    let (process, host) := process.stop host look.now
    (.done .stopped, process, host)
  | .wait timeout =>
    let (progress, process) := process.wait host timeout look
    (replied .waited progress, process, host)
  | .leave => (.done .left, process, process.askToLeave host look.now)
  | .check =>
    let (running, process) := process.isRunning host look.now
    (.done (.checked running), process, host)

/-- A call under way: when it began, and how often it has looked. -/
structure Pending where
  call : Call
  began : Instant
  index : Nat

/-- The call after a look: it is over, or looks again. -/
def Pending.next (pending : Pending) : Progress Reply → Option Pending
  | .done _ => none
  | _ => some { pending with index := pending.index + 1 }

/-- A process on its host at some moment, with all children that it has started so far. -/
structure Scene where
  process : NodeProcess
  host : Host
  now : Instant
  spawned : List Pid
  pending : Option Pending

namespace Scene

variable (scene : Scene)

/-- Whether a call may look: it is under way, or it begins while no other is. -/
def Due (pending : Pending) : Prop :=
  scene.pending = some pending ∨
    scene.pending = none ∧ pending.began = scene.now ∧ pending.index = 0

/-- What a look of a call finds, and what it makes of the process and its host. -/
def found (pending : Pending) : Progress Reply × NodeProcess × Host :=
  pending.call.look ⟨pending.began, scene.now, pending.index⟩ scene.process scene.host

/-- After a look of a call. The children that have come to the host meanwhile are those that the process
has started. -/
def after (pending : Pending) : Scene where
  process := (scene.found pending).2.1
  host := (scene.found pending).2.2
  now := scene.now
  spawned := scene.spawned ++ scene.host.newcomers (scene.found pending).2.2
  pending := pending.next (scene.found pending).1

def Alive (pid : Pid) : Prop := pid ∈ scene.spawned ∧ scene.host.isAlive pid scene.now = true

/-- Nothing has been asked of the process so far. -/
structure Fresh : Prop where
  child : scene.process.child = none
  status : scene.process.status = .stopped
  spawned : scene.spawned = []
  pending : scene.pending = none

end Scene

/-- A call looks, or time passes. -/
inductive Step : Scene → Scene → Prop
  | look {scene : Scene} {pending : Pending} (due : scene.Due pending) : Step scene (scene.after pending)
  | pass {scene : Scene} {host : Host} {later : Instant} (ordered : scene.now ≤ later)
      (drifts : scene.host.Drifts scene.now host later) : Step scene { scene with host, now := later }

/-! ## The children of a process -/

/-- The children that a process has started have ended, except for the one that it holds, which is the
last one. An exit code is that of the last one. -/
structure Tracks (process : NodeProcess) (host : Host) (now : Instant) (spawned : List Pid) : Prop where
  inside : ∀ pid ∈ spawned, pid < host.children.length
  last : ∀ pid, process.child = some pid → spawned.getLast? = some pid
  ended : ∀ pid ∈ spawned, process.child ≠ some pid →
    ∃ status, host.endedAs? pid now = some status
  exited : ∀ code, process.status = .exited code → ∃ pid status,
    spawned.getLast? = some pid ∧ host.endedAs? pid now = some status ∧ status.code = code

variable {process : NodeProcess} {host after : Host} {now later : Instant} {spawned : List Pid}
  {pid : Pid} {status : NodeStatus}

namespace Tracks

theorem mem_of_held (tracks : process.Tracks host now spawned) (held : process.child = some pid) :
    pid ∈ spawned := List.mem_of_getLast? (tracks.last pid held)

/-- What has ended stays so, and the process does not notice anything. -/
theorem drift (tracks : process.Tracks host now spawned) (drifts : host.Drifts now after later) :
    process.Tracks after later spawned where
  inside pid member := Nat.lt_of_lt_of_le (tracks.inside pid member) drifts.count
  last := tracks.last
  ended := by
    intro pid member other
    rcases tracks.ended pid member other with ⟨status, ended⟩
    exact ⟨status, drifts.ended pid status ended⟩
  exited := by
    intro code left
    rcases tracks.exited code left with ⟨pid, status, isLast, ended, same⟩
    exact ⟨pid, status, isLast, drifts.ended pid status ended, same⟩

/-- The child goes on and the status changes, but not to an exit code. -/
theorem restate (tracks : process.Tracks host now spawned) (going : ∀ code, status ≠ .exited code) :
    NodeProcess.Tracks { process with status } host now spawned where
  inside := tracks.inside
  last := tracks.last
  ended := tracks.ended
  exited code left := absurd left (going code)

/-- A child that has ended is let go, without an exit code. -/
theorem release (tracks : process.Tracks host now spawned)
    (gone : ∀ pid, process.child = some pid → ∃ status, host.endedAs? pid now = some status)
    (going : ∀ code, status ≠ .exited code) :
    NodeProcess.Tracks { process with child := none, status } host now spawned where
  inside := tracks.inside
  last := nofun
  ended := by
    intro pid member _
    by_cases held : process.child = some pid
    · exact gone pid held
    · exact tracks.ended pid member held
  exited code left := absurd left (going code)

/-- A child that has ended is let go, and its exit code is kept. -/
theorem reap {status : ExitStatus} (tracks : process.Tracks host now spawned)
    (held : process.child = some pid) (ended : host.endedAs? pid now = some status) :
    NodeProcess.Tracks { process with child := none, status := .exited status.code } host now
      spawned where
  inside := tracks.inside
  last := nofun
  ended := by
    intro other member _
    by_cases same : process.child = some other
    · cases held.symm.trans same
      exact ⟨status, ended⟩
    · exact tracks.ended other member same
  exited := by
    rintro code ⟨⟩
    exact ⟨pid, status, tracks.last pid held, ended, rfl⟩

theorem kill (tracks : process.Tracks host now spawned) (held : process.child = some pid)
    (going : ∀ code, status ≠ .exited code) :
    NodeProcess.Tracks { process with child := none, status } (host.kill pid now) now spawned := by
  apply (tracks.drift (host.drifts_kill pid now)).release _ going
  intro other heldOther
  cases held.symm.trans heldOther
  exact Host.ended_kill (tracks.inside pid (tracks.mem_of_held held)) now

theorem spawn {child : Child} (tracks : process.Tracks host now spawned) (free : process.child = none)
    (added : after.children = host.children ++ [child]) (going : ∀ code, status ≠ .exited code) :
    NodeProcess.Tracks { process with child := some host.children.length, status } after now
      (spawned ++ [host.children.length]) where
  inside := by
    intro pid member
    rw [added, List.length_append, List.length_singleton]
    rcases List.mem_append.mp member with old | new
    · exact Nat.lt_succ_of_lt (tracks.inside pid old)
    · cases List.mem_singleton.mp new
      exact Nat.lt_succ_self _
  last := by
    rintro pid ⟨⟩
    exact List.getLast?_concat
  ended := by
    intro pid member other
    rcases List.mem_append.mp member with old | new
    · rcases tracks.ended pid old (by simp [free]) with ⟨status, ended⟩
      exact ⟨status, (Host.drifts_of_append added).ended pid status ended⟩
    · cases List.mem_singleton.mp new
      exact absurd rfl other
  exited code left := absurd left (going code)

/-- Whatever is alive is held. -/
theorem held_of_isAlive (tracks : process.Tracks host now spawned) (member : pid ∈ spawned)
    (alive : host.isAlive pid now = true) : process.child = some pid := by
  refine Decidable.byContradiction fun other => ?_
  rcases tracks.ended pid member other with ⟨status, ended⟩
  exact Host.not_isAlive_of_ended ended alive

end Tracks

/-! ## What a look does -/

namespace Tracks

theorem note {found : Option Int × NodeProcess} (tracks : process.Tracks host now spawned)
    (reaps : process.Reaps host now found) : found.2.Tracks host now spawned := by
  cases reaps with
  | ended held ended => exact tracks.reap held ended
  | going going => exact tracks

theorem check {look : Look} {found : Progress (Except ClusterError Unit) × NodeProcess × Host}
    (tracks : process.Tracks host look.now spawned) (held : process.child = some pid)
    (checks : process.Checks host look found) : found.2.1.Tracks found.2.2 look.now spawned := by
  cases checks with
  | ended heldToo ended => exact (tracks.reap heldToo ended).release nofun nofun
  | serves going serves => exact tracks.restate nofun
  | late going unready late =>
      simp only [giveUp, held]
      exact tracks.kill held nofun
  | waits going unready early => exact tracks

theorem start {look : Look} {found : Progress (Except ClusterError Unit) × NodeProcess × Host}
    (tracks : process.Tracks host look.now spawned)
    (again : look.index ≠ 0 → process.child.isSome = true)
    (free : look.index = 0 → process.isTaken = false → process.child = none)
    (begins : process.Begins host look found) :
    found.2.1.Tracks found.2.2 look.now (spawned ++ host.newcomers found.2.2) := by
  cases begins with
  | again later checks =>
      rcases Option.isSome_iff_exists.mp (again later) with ⟨pid, held⟩
      rw [Host.newcomers_of_same checks.ages.host.count, List.append_nil]
      exact tracks.check held checks
  | refused first taken =>
      rw [Host.newcomers_of_same rfl, List.append_nil]
      exact tracks
  | failed first untaken launched =>
      rw [Host.newcomers_of_same rfl, List.append_nil]
      exact tracks.restate nofun
  | waits first untaken launched added readiness =>
      rw [Host.newcomers_of_one (by simp [added])]
      exact tracks.spawn (free first untaken) added nofun
  | @checked grown child _ _ _ first untaken launched added readiness checks =>
      -- The check of what has just been started adds no other child.
      have one : grown.children.length = host.children.length + 1 := by simp [added]
      have tracksGrown : (process.started host.children.length).Tracks grown look.now
          (spawned ++ [host.children.length]) := tracks.spawn (free first untaken) added nofun
      rw [Host.newcomers_of_one (checks.ages.host.count.trans one)]
      exact tracksGrown.check rfl checks

theorem stop {found : NodeProcess × Host} (tracks : process.Tracks host now spawned)
    (stops : process.Stops host now found) : found.1.Tracks found.2 now spawned := by
  cases stops with
  | rests free settled => exact tracks
  | marked free unsettled => exact tracks.release (by simp [free]) nofun
  | ended held ended => exact tracks.reap held ended
  | killed held going => exact tracks.kill held nofun

theorem askToLeave (tracks : process.Tracks host now spawned) :
    process.Tracks (process.askToLeave host now) now spawned := by
  unfold NodeProcess.askToLeave
  split
  · exact tracks.drift (host.drifts_signal _ now _)
  · exact tracks

end Tracks

/-- A process as it stands between two looks. While no call is under way it has a child if and only if it
is running. -/
def Stands (process : NodeProcess) : Option Pending → Prop
  | none => process.status ≠ .starting ∧ (process.child.isSome = true ↔ process.status = .running)
  | some pending => pending.index ≠ 0 ∧ process.child.isSome = true ∧
      (pending.call = .start ∧ process.status = .starting ∨
        (∃ timeout, pending.call = .wait timeout) ∧ process.status = .running)

/-- What a start comes to that is not refused: it waits, the process serves, or the start has failed. -/
inductive Comes : Progress (Except ClusterError Unit) → NodeProcess → Prop
  | waits {length : Duration} {process : NodeProcess} (held : process.child.isSome = true)
      (starting : process.status = .starting) : Comes (.pause length) process
  | serves {process : NodeProcess} (held : process.child.isSome = true)
      (running : process.status = .running) : Comes (.done (.ok ())) process
  | fails {error : ClusterError} {process : NodeProcess} (free : process.child = none)
      (crashed : process.status = .crashed) (other : ∀ name, error ≠ .nodeAlreadyRunning name) :
      Comes (.done (.error error)) process

theorem Comes.stands {progress : Progress (Except ClusterError Unit)} {process : NodeProcess}
    (comes : Comes progress process) {pending : Pending} (start : pending.call = .start) :
    process.Stands (pending.next (replied .started progress)) := by
  cases comes with
  | waits held starting => exact ⟨Nat.succ_ne_zero _, held, .inl ⟨start, starting⟩⟩
  | serves held running => simp [Stands, Pending.next, replied, held, running]
  | fails free crashed other => simp [Stands, Pending.next, replied, free, crashed]

theorem Checks.comes {look : Look} {found : Progress (Except ClusterError Unit) × NodeProcess × Host}
    (checks : process.Checks host look found) (held : process.child.isSome = true)
    (starting : process.status = .starting) : Comes found.1 found.2.1 := by
  cases checks with
  | ended held ended => exact .fails rfl rfl nofun
  | serves going serves => exact .serves held rfl
  | late going unready late => exact .fails rfl rfl nofun
  | waits going unready early => exact .waits held starting

theorem spawn_eq_error {error : ClusterError} (failed : process.spawn host now = .error error)
    (name : String) : error ≠ .nodeAlreadyRunning name := by
  simp only [spawn] at failed
  split at failed
  · cases failed
    rintro ⟨⟩
  · split at failed
    · cases failed
      rintro ⟨⟩
    · split at failed <;> cases failed

theorem Stands.free (stands : process.Stands none) (untaken : process.isTaken = false) :
    process.child = none := by
  rw [← Option.not_isSome_iff_eq_none, stands.2]
  intro running
  simp [isTaken, running] at untaken

/-- A look of a start: it is refused and changes nothing, or it comes to something. -/
theorem Begins.comes {look : Look} {found : Progress (Except ClusterError Unit) × NodeProcess × Host}
    (begins : process.Begins host look found)
    (stands : look.index ≠ 0 ∧ process.child.isSome = true ∧ process.status = .starting ∨
      look.index = 0 ∧ process.Stands none) :
    look.index = 0 ∧ process.status = .running ∧
      found = (.done (.error (.nodeAlreadyRunning process.name)), process, host) ∨
    Comes found.1 found.2.1 := by
  have settled : look.index = 0 → process.Stands none := fun first =>
    (stands.resolve_left fun again => again.1 first).2
  cases begins with
  | again later checks =>
      rcases stands.resolve_right fun begun => later begun.1 with ⟨_, held, starting⟩
      exact .inr (checks.comes held starting)
  | refused first taken =>
      exact .inl ⟨first, by simpa [isTaken, (settled first).1] using taken, rfl⟩
  | failed first untaken failed =>
      exact .inr (.fails ((settled first).free untaken) rfl (spawn_eq_error failed))
  | waits first untaken launched added readiness => exact .inr (.waits rfl rfl)
  | checked first untaken launched added readiness checks => exact .inr (checks.comes rfl rfl)

/-- A process that is not starting stands as well after it was stopped. -/
theorem Stops.stands {found : NodeProcess × Host} (stops : process.Stops host now found)
    (settled : process.Stands none) : found.1.Stands none := by
  cases stops with
  | rests free ended => exact settled
  | marked free unsettled => simp [Stands]
  | ended held ended => simp [Stands]
  | killed held going => simp [Stands]

theorem Reaps.stands {found : Option Int × NodeProcess} (reaps : process.Reaps host now found)
    (settled : process.Stands none) : found.2.Stands none := by
  cases reaps with
  | ended held ended => simp [Stands]
  | going going => exact settled

theorem Waits.stands {timeout : Duration} {look : Look} {pending : Pending}
    {found : Progress (Except ClusterError (Option Int)) × NodeProcess}
    (waits : process.Waits host timeout look found) (call : pending.call = .wait timeout)
    (settled : process.Stands none) :
    found.2.Stands (pending.next (replied .waited found.1)) := by
  cases waits with
  | known free exited => exact settled
  | unknown free going => exact settled
  | ended held ended => simp [Stands, Pending.next, replied]
  | late held going late => exact settled
  | waits held going early =>
      have running : process.status = .running := settled.2.mp (by simp [held])
      exact ⟨Nat.succ_ne_zero _, by simp [held], .inr ⟨⟨timeout, call⟩, running⟩⟩

/-! ## Scenes -/

namespace Scene

variable {scene last : Scene} {pending : Pending}

/-- What holds of a scene whatever has been asked of the process. -/
structure Sound (scene : Scene) : Prop where
  tracks : scene.process.Tracks scene.host scene.now scene.spawned
  stands : scene.process.Stands scene.pending

theorem after_of_found {progress : Progress Reply} {process : NodeProcess} {host : Host}
    (found : scene.found pending = (progress, process, host)) : scene.after pending =
      ⟨process, host, scene.now, scene.spawned ++ scene.host.newcomers host, pending.next progress⟩ := by
  simp only [after, found]

theorem Fresh.sound (fresh : scene.Fresh) : scene.Sound where
  tracks :=
    { inside := by simp [fresh.spawned]
      last := by simp [fresh.child]
      ended := by simp [fresh.spawned]
      exited := by simp [fresh.status] }
  stands := by
    rw [fresh.pending]
    simp [Stands, fresh.child, fresh.status]

/-- A look keeps track of all children, if a start that goes on has a child and one that begins has none
unless it is refused. -/
theorem tracks_after (tracks : scene.process.Tracks scene.host scene.now scene.spawned)
    (again : pending.call = .start → pending.index ≠ 0 → scene.process.child.isSome = true)
    (free : pending.call = .start → pending.index = 0 → scene.process.isTaken = false →
      scene.process.child = none) :
    (scene.after pending).process.Tracks (scene.after pending).host scene.now
      (scene.after pending).spawned := by
  unfold after found
  cases call : pending.call with
  | start =>
      simp only [Call.look]
      exact Tracks.start tracks (again call) (free call) (start_begins _ _ _)
  | stop =>
      have same := (scene.process.ages_stop scene.host scene.now).2.count
      simp only [Call.look, Host.newcomers_of_same same, List.append_nil]
      exact tracks.stop (stop_stops _ _ _)
  | wait timeout =>
      simp only [Call.look, Host.newcomers_of_same rfl, List.append_nil]
      rcases (scene.process.wait_waits scene.host timeout
        ⟨pending.began, scene.now, pending.index⟩).reaps with ⟨code, reaps⟩
      exact tracks.note reaps
  | leave =>
      have same := (scene.process.ages_askToLeave scene.host scene.now).count
      simp only [Call.look, Host.newcomers_of_same same, List.append_nil]
      exact tracks.askToLeave
  | check =>
      simp only [Call.look, Host.newcomers_of_same rfl, List.append_nil]
      exact tracks.note (reap_reaps _ _ _)

/-- A process that is not starting stands as it does while no call is under way. -/
theorem Sound.settled (sound : scene.Sound) (due : scene.Due pending)
    (other : pending.call ≠ .start) : scene.process.Stands none := by
  have stands := sound.stands
  rcases due with under | ⟨idle, _, _⟩
  · rw [under] at stands
    rcases stands with ⟨_, held, ⟨start, _⟩ | ⟨_, running⟩⟩
    · exact absurd start other
    · simp [Stands, held, running]
  · rwa [idle] at stands

theorem Sound.comes (sound : scene.Sound) (due : scene.Due pending) (call : pending.call = .start) :
    (scene.pending = none ∧ scene.process.status = .running ∧ scene.found pending =
      (.done (.started (.error (.nodeAlreadyRunning scene.process.name))), scene.process,
        scene.host)) ∨
    ∃ progress, (scene.found pending).1 = replied .started progress ∧
      Comes progress (scene.after pending).process ∧ (scene.after pending).Sound := by
  let look : Look := ⟨pending.began, scene.now, pending.index⟩
  have looks : scene.found pending =
      let found := scene.process.start scene.host look
      (replied .started found.1, found.2.1, found.2.2) := by
    simp only [found, call, Call.look, look]
  -- Whether a look is the first one is seen from its index, which agrees with what is under way.
  have beginning : (scene.pending ≠ none ∧ pending.index ≠ 0 ∧ scene.process.child.isSome = true ∧
      scene.process.status = .starting) ∨
      (scene.pending = none ∧ pending.index = 0 ∧ scene.process.Stands none) := by
    have stands := sound.stands
    rcases due with under | ⟨idle, _, first⟩
    · rw [under] at stands
      rcases stands with ⟨again, held, ⟨_, starting⟩ | ⟨⟨timeout, wait⟩, _⟩⟩
      · exact .inl ⟨by simp [under], again, held, starting⟩
      · rw [call] at wait
        cases wait
    · rw [idle] at stands
      exact .inr ⟨idle, first, stands⟩
  have begins := scene.process.start_begins scene.host look
  rcases begins.comes (beginning.imp And.right And.right) with ⟨first, running, refused⟩ | comes
  · left
    rw [refused] at looks
    exact ⟨(beginning.resolve_left fun under => under.2.1 first).1, running, looks⟩
  · right
    refine ⟨_, congrArg Prod.fst looks, ?_⟩
    rw [after_of_found looks]
    refine ⟨comes, Tracks.start sound.tracks ?_ ?_ begins, comes.stands call⟩
    · exact fun again => (beginning.resolve_right fun idle => again idle.2.1).2.2.1
    · exact fun first => (beginning.resolve_left fun under => under.2.1 first).2.2.free

theorem after_of_refused {reply : Reply} (idle : scene.pending = none)
    (refused : scene.found pending = (.done reply, scene.process, scene.host)) :
    scene.after pending = scene := by
  rw [after_of_found refused, Host.newcomers_of_same rfl, List.append_nil, Pending.next, ← idle]

theorem Sound.start (sound : scene.Sound) (due : scene.Due pending) (call : pending.call = .start) :
    (scene.after pending).Sound := by
  rcases sound.comes due call with ⟨idle, _, refused⟩ | ⟨_, _, _, after⟩
  · rwa [after_of_refused idle refused]
  · exact after

/-- A look of a call other than a start. -/
theorem Sound.of_stands (sound : scene.Sound) (other : pending.call ≠ .start)
    (stands : (scene.found pending).2.1.Stands (pending.next (scene.found pending).1)) :
    (scene.after pending).Sound :=
  ⟨tracks_after sound.tracks (fun start => absurd start other) fun start => absurd start other, stands⟩

theorem Sound.stop (sound : scene.Sound) (due : scene.Due pending) (call : pending.call = .stop) :
    (scene.after pending).Sound := by
  have other : pending.call ≠ .start := by simp [call]
  have settled := sound.settled due other
  apply sound.of_stands other
  simp only [found, call, Call.look, Pending.next]
  exact (stop_stops _ _ _).stands settled

theorem Sound.wait (sound : scene.Sound) (due : scene.Due pending) {timeout : Duration}
    (call : pending.call = .wait timeout) : (scene.after pending).Sound := by
  have other : pending.call ≠ .start := by simp [call]
  have settled := sound.settled due other
  apply sound.of_stands other
  simp only [found, call, Call.look]
  exact (wait_waits _ _ _ _).stands call settled

theorem Sound.leave (sound : scene.Sound) (due : scene.Due pending) (call : pending.call = .leave) :
    (scene.after pending).Sound := by
  have other : pending.call ≠ .start := by simp [call]
  apply sound.of_stands other
  simpa only [found, call, Call.look, Pending.next] using sound.settled due other

theorem Sound.check (sound : scene.Sound) (due : scene.Due pending) (call : pending.call = .check) :
    (scene.after pending).Sound := by
  have other : pending.call ≠ .start := by simp [call]
  have settled := sound.settled due other
  apply sound.of_stands other
  simp only [found, call, Call.look, Pending.next]
  exact (reap_reaps _ _ _).stands settled

/-- Whatever is asked of a process, it stays in step with its children. -/
theorem Sound.step (sound : scene.Sound) (step : Step scene last) : last.Sound := by
  cases step with
  | @look pending due =>
      cases call : pending.call with
      | start => exact sound.start due call
      | stop => exact sound.stop due call
      | wait timeout => exact sound.wait due call
      | leave => exact sound.leave due call
      | check => exact sound.check due call
  | pass ordered drifts => exact ⟨sound.tracks.drift drifts, sound.stands⟩

theorem Sound.reaches (sound : scene.Sound) (reaches : Relation.ReflTransGen Step scene last) :
    last.Sound := by
  induction reaches with
  | refl => exact sound
  | tail _ step ih => exact ih.step step

/-- A process that is neither starting nor running has no child left. -/
theorem Sound.free (sound : scene.Sound) (settled : scene.process.status ≠ .starting)
    (ended : scene.process.status ≠ .running) : scene.process.child = none := by
  have stands := sound.stands
  cases under : scene.pending with
  | none =>
      rw [under] at stands
      rw [← Option.not_isSome_iff_eq_none, stands.2]
      exact ended
  | some pending =>
      rw [under] at stands
      rcases stands with ⟨_, _, ⟨_, starting⟩ | ⟨_, running⟩⟩
      · exact absurd starting settled
      · exact absurd running ended

theorem Sound.not_alive (sound : scene.Sound) (free : scene.process.child = none) (pid : Pid) :
    ¬scene.Alive pid := by
  rintro ⟨member, alive⟩
  have held := sound.tracks.held_of_isAlive member alive
  rw [free] at held
  cases held

end Scene

/-- However a process is used from the beginning on, and whatever its programs do: between two calls it
has a child if and only if it is running. At most one of the children that it has started is alive, and
none if it is stopped, ended or crashed. An exit code is how the last of them ended. A start that is
refused changes nothing, and after one that fails nothing that was started is alive. -/
theorem lifecycle_contract {first last : Scene} (fresh : first.Fresh)
    (reaches : Relation.ReflTransGen Step first last) :
    (last.pending = none → (last.process.child.isSome = true ↔ last.process.status = .running)) ∧
    (∀ pid other, last.Alive pid → last.Alive other → pid = other) ∧
    (∀ code, last.process.status ∈ [.stopped, .exited code, .crashed] →
      ∀ pid, ¬last.Alive pid) ∧
    (∀ code, last.process.status = .exited code → ∃ pid status,
      last.spawned.getLast? = some pid ∧ last.host.endedAs? pid last.now = some status ∧
        status.code = code) ∧
    ∀ pending error, last.Due pending → pending.call = .start →
      (last.found pending).1 = .done (.started (.error error)) →
      (∀ name, error = .nodeAlreadyRunning name → last.after pending = last) ∧
      ((∀ name, error ≠ .nodeAlreadyRunning name) →
        (last.after pending).process.status = .crashed ∧ ∀ pid, ¬(last.after pending).Alive pid) := by
  have sound := fresh.sound.reaches reaches
  refine ⟨?_, ?_, ?_, sound.tracks.exited, ?_⟩
  · intro idle
    have stands := sound.stands
    rw [idle] at stands
    exact stands.2
  · intro pid other alive aliveOther
    have held := sound.tracks.held_of_isAlive alive.1 alive.2
    have heldOther := sound.tracks.held_of_isAlive aliveOther.1 aliveOther.2
    rw [held] at heldOther
    exact Option.some.inj heldOther
  · intro code among
    apply sound.not_alive
    apply sound.free
    · intro starting
      simp [starting] at among
    · intro running
      simp [running] at among
  · intro pending error due call failed
    rcases sound.comes due call with ⟨idle, _, refused⟩ | ⟨progress, looked, comes, after⟩
    · rw [refused] at failed
      cases failed
      exact ⟨fun _ _ => Scene.after_of_refused idle refused, fun other => absurd rfl (other _)⟩
    · rw [looked] at failed
      cases comes with
      | waits held starting => cases failed
      | serves held running => cases failed
      | fails free crashed other =>
          cases failed
          exact ⟨fun name same => absurd same (other name), fun _ => ⟨crashed, after.not_alive free⟩⟩

/-- A host that has started nothing yet, whose programs go on until they are killed or sent a signal. -/
def quietHost : Host where
  programs _ _ := .ok { reaction := Signal.plainReaction }
  listens _ _ _ := false
  children := []
  files := { workingDir := "/" }

/-- A process without a name that has not been asked for anything. -/
def nameless : Scene where
  process := ⟨"", ⟨"crate", [], []⟩, .aliveAfter .zero, .ofSeconds 5, .term, "/", none, .stopped⟩
  host := quietHost
  now := ⟨0⟩
  spawned := []
  pending := none

theorem makeDir_root : quietHost.files.makeDir "/" = .ok quietHost.files := by
  have fine : Path.error? "/" = none := by decide +kernel
  have full : quietHost.files.fullPath "/" = "/" := by decide +kernel
  have names : Path.names "/" = ["", ""] := by
    unfold Path.names
    cbv
  simp only [FileTree.makeDir, fine, full, names]
  rfl

theorem place_log : quietHost.files.place "/.log" = .ok [".log"] := by
  have fine : Path.error? "/.log" = none := by decide +kernel
  have full : quietHost.files.fullPath "/.log" = "/.log" := by decide +kernel
  have names : Path.names "/.log" = ["", ".log"] := by
    unfold Path.names
    cbv
  simp only [FileTree.place, FileTree.resolve, fine, full, names]
  rfl

theorem spawn_of_programOf {process : NodeProcess} {host : Host} {now : Instant} {files : FileTree}
    {program : Program}
    (appended : host.files.append process.logDir process.logName [] = .ok files)
    (program_eq : host.programOf process.command = .ok program) :
    ∃ files, process.spawn host now = .ok (host.children.length,
      { host with
        children := host.children ++
          [⟨program, now, program.lifetime.map fun (age, status) => (now + age, status)⟩]
        files }) := by
  have launched : Host.spawn { host with files } process.command now =
      .ok (host.children.length,
        { host with
          children := host.children ++
            [⟨program, now, program.lifetime.map fun (age, status) => (now + age, status)⟩]
          files }) := by
    have same : Host.programOf { host with files } process.command = .ok program := program_eq
    simp only [Host.spawn, same]
  simp only [spawn, appended, launched]
  split
  · exact ⟨_, rfl⟩
  · exact ⟨_, rfl⟩

theorem spawn_nameless : ∃ host, nameless.process.spawn quietHost ⟨0⟩ = .ok (0, host) ∧
    host.children = [⟨{ reaction := Signal.plainReaction }, ⟨0⟩, none⟩] := by
  have joined : Path.join "/" ".log" = "/.log" := by decide +kernel
  have named : nameless.process.logName = ".log" := by decide +kernel
  have texts : (nameless.process.command.texts.any (·.toList.contains Host.textEnd)) = false := by
    decide +kernel
  have appended : quietHost.files.append nameless.process.logDir nameless.process.logName [] =
      .ok (quietHost.files.withFile [".log"] (.regular [] false)) := by
    rw [named]
    simp only [FileTree.append, nameless, makeDir_root, joined]
    change (do
      let names ← quietHost.files.place "/.log"
      _ : Except FileError FileTree) = _
    rw [place_log]
    rfl
  have program : quietHost.programOf nameless.process.command =
      .ok { reaction := Signal.plainReaction } := by
    simp only [Host.programOf, texts]
    rfl
  rcases @spawn_of_programOf _ _ ⟨0⟩ _ _ appended program with ⟨files, spawned⟩
  exact ⟨_, spawned, rfl⟩

def starting (host : Host) : Scene :=
  ⟨{ nameless.process with child := some 0, status := .starting }, host, ⟨0⟩, [0],
    some ⟨.start, ⟨0⟩, 1⟩⟩

/-- The process as it serves. -/
def serving (host : Host) : Scene :=
  ⟨{ nameless.process with child := some 0, status := .running }, host, ⟨0⟩, [0], none⟩

section

variable {host : Host} {program : Program}

theorem after_nameless (launched : nameless.process.spawn quietHost ⟨0⟩ = .ok (0, host))
    (children : host.children = [⟨program, ⟨0⟩, none⟩]) :
    nameless.after ⟨.start, ⟨0⟩, 0⟩ = starting host := by
  have looked : nameless.process.start quietHost ⟨⟨0⟩, ⟨0⟩, 0⟩ =
      (.pause .zero, (starting host).process, host) := by
    rw [start, if_neg (by decide), if_neg (by decide), launched]
    rfl
  have found : nameless.found ⟨.start, ⟨0⟩, 0⟩ = (.pause .zero, (starting host).process, host) :=
    congrArg (fun found => (replied .started found.1, found.2.1, found.2.2)) looked
  have one : nameless.host.newcomers host = [0] := Host.newcomers_of_one (by rw [children]; rfl)
  rw [Scene.after_of_found found, one]
  rfl

theorem after_starting (children : host.children = [⟨program, ⟨0⟩, none⟩]) :
    (starting host).after ⟨.start, ⟨0⟩, 1⟩ = serving host := by
  have going : (starting host).process.reap host ⟨0⟩ = (none, (starting host).process) := by
    simp [reap, starting, Host.endedAs?, children, Child.endedAs?]
  have looked : (starting host).process.start host ⟨⟨0⟩, ⟨0⟩, 1⟩ =
      (.done (.ok ()), (serving host).process, host) := by
    rw [start, if_pos (by decide), checkStart, going]
    rfl
  have found : (starting host).found ⟨.start, ⟨0⟩, 1⟩ =
      (.done (.started (.ok ())), (serving host).process, host) :=
    congrArg (fun found => (replied .started found.1, found.2.1, found.2.2)) looked
  have none : (starting host).host.newcomers host = [] := Host.newcomers_of_same rfl
  rw [Scene.after_of_found found, none]
  rfl

end

theorem reaches_serving : ∃ host, host.isAlive 0 ⟨0⟩ = true ∧
    Relation.ReflTransGen Step nameless (serving host) := by
  rcases spawn_nameless with ⟨host, launched, children⟩
  have first : Step nameless (starting host) :=
    after_nameless launched children ▸ .look (.inr ⟨rfl, rfl, rfl⟩)
  have second : Step (starting host) (serving host) := after_starting children ▸ .look (.inl rfl)
  refine ⟨host, ?_, .tail (.single first) second⟩
  simp [Host.isAlive, children, Child.endedAs?]

/-- It is started, serves, and cannot be started a second time. -/
theorem lifecycle_contract_of_nameless :
    ∃ host, Relation.ReflTransGen Step nameless (serving host) ∧
      (∀ pid, (serving host).Alive pid ↔ pid = 0) ∧
      (serving host).after ⟨.start, ⟨0⟩, 0⟩ = serving host := by
  rcases reaches_serving with ⟨host, alive, reaches⟩
  rcases lifecycle_contract ⟨rfl, rfl, rfl, rfl⟩ reaches with ⟨_, single, _, _, starts⟩
  have served : (serving host).Alive 0 := ⟨List.mem_singleton.mpr rfl, alive⟩
  have alone : ∀ pid, (serving host).Alive pid ↔ pid = 0 := by
    intro pid
    constructor
    · exact fun other => single pid 0 other served
    · rintro rfl
      exact served
  refine ⟨host, reaches, alone, ?_⟩
  exact (starts ⟨.start, ⟨0⟩, 0⟩ _ (.inr ⟨rfl, rfl, rfl⟩) rfl rfl).1 _ rfl

end NodeProcess

end GracefulStop
