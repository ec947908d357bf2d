import GracefulStop.Node.Process

/-!
# What a look at a process comes to

A look at a process ends in one of a few ways. What is shown of all processes is shown for each of these
ways, and does not depend on how a look finds out which of them it is.
-/

namespace GracefulStop

namespace NodeProcess

variable {process : NodeProcess} {host hostAfter : Host} {now : Instant} {pid : Pid}

/-! ## Taking note of an end -/

/-- A child that has ended is taken away and its exit code is kept, or no child has ended. -/
inductive Reaps (process : NodeProcess) (host : Host) (now : Instant) :
    Option Int × NodeProcess → Prop
  | ended {pid : Pid} {status : ExitStatus} (held : process.child = some pid)
      (ended : host.endedAs? pid now = some status) :
      Reaps process host now
        (some status.code, { process with child := none, status := .exited status.code })
  | going (going : ∀ pid, process.child = some pid → host.endedAs? pid now = none) :
      Reaps process host now (none, process)

theorem reap_reaps (process : NodeProcess) (host : Host) (now : Instant) :
    process.Reaps host now (process.reap host now) := by
  unfold reap
  cases found : process.child.bind fun pid => host.endedAs? pid now with
  | none => exact .going (Option.bind_eq_none_iff.mp found)
  | some status =>
      rcases Option.bind_eq_some_iff.mp found with ⟨pid, held, ended⟩
      exact .ended held ended

theorem reap_of_ended {status : ExitStatus} (held : process.child = some pid)
    (ended : host.endedAs? pid now = some status) : process.reap host now =
      (some status.code, { process with child := none, status := .exited status.code }) := by
  simp only [reap, held, Option.bind_some, ended]

theorem reap_of_going (going : ∀ pid, process.child = some pid → host.endedAs? pid now = none) :
    process.reap host now = (none, process) := by
  rw [reap, Option.bind_eq_none_iff.mpr going]

/-! ## Waiting -/

/-- What a look of a wait comes to: without a child, what is known of its end, and else this end, or the
time is over, or it is still to be waited for. -/
inductive Waits (process : NodeProcess) (host : Host) (timeout : Duration) (look : Look) :
    Progress (Except ClusterError (Option Int)) × NodeProcess → Prop
  | known {code : Int} (free : process.child = none) (exited : process.status = .exited code) :
      Waits process host timeout look (.done (.ok (some code)), process)
  | unknown (free : process.child = none) (going : ∀ code, process.status ≠ .exited code) :
      Waits process host timeout look (.done (.error (.nodeNotRunning process.name)), process)
  | ended {pid : Pid} {status : ExitStatus} (held : process.child = some pid)
      (ended : host.endedAs? pid look.now = some status) :
      Waits process host timeout look (.done (.ok (some status.code)),
        { process with child := none, status := .exited status.code })
  | late {pid : Pid} (held : process.child = some pid) (going : host.endedAs? pid look.now = none)
      (late : look.began + timeout ≤ look.now) :
      Waits process host timeout look (.done (.ok none), process)
  | waits {pid : Pid} (held : process.child = some pid) (going : host.endedAs? pid look.now = none)
      (early : ¬look.began + timeout ≤ look.now) :
      Waits process host timeout look
        (.pause (timeToEnd host pid look.now (look.began + timeout - look.now)), process)

theorem wait_waits (process : NodeProcess) (host : Host) (timeout : Duration) (look : Look) :
    process.Waits host timeout look (process.wait host timeout look) := by
  unfold wait
  split
  · rename_i free
    split
    · exact .known free ‹_›
    · exact .unknown free ‹_›
  · rename_i pid held
    cases ended : host.endedAs? pid look.now with
    | some status =>
        rw [reap_of_ended held ended]
        exact .ended held ended
    | none =>
        rw [reap_of_going (by simpa [held] using ended)]
        dsimp only
        split
        · exact .late held ended ‹_›
        · exact .waits held ended ‹_›

/-- A wait changes a process only by taking note of its end. -/
theorem Waits.reaps {timeout : Duration} {look : Look}
    {found : Progress (Except ClusterError (Option Int)) × NodeProcess}
    (waits : process.Waits host timeout look found) :
    ∃ code, process.Reaps host look.now (code, found.2) := by
  cases waits with
  | known free exited => exact ⟨_, .going (by simp [free])⟩
  | unknown free going => exact ⟨_, .going (by simp [free])⟩
  | ended held ended => exact ⟨_, .ended held ended⟩
  | late held going late => exact ⟨_, .going (by simpa [held] using going)⟩
  | waits held going early => exact ⟨_, .going (by simpa [held] using going)⟩

/-! ## Stopping -/

/-- What stopping a process comes to: without a child it is at most marked, and a child that has not
ended is killed. -/
inductive Stops (process : NodeProcess) (host : Host) (now : Instant) : NodeProcess × Host → Prop
  | rests (free : process.child = none)
      (settled : process.status = .crashed ∨ ∃ code, process.status = .exited code) :
      Stops process host now (process, host)
  | marked (free : process.child = none)
      (unsettled : process.status = .stopped ∨ process.isTaken = true) :
      Stops process host now ({ process with child := none, status := .stopped }, host)
  | ended {pid : Pid} {status : ExitStatus} (held : process.child = some pid)
      (ended : host.endedAs? pid now = some status) :
      Stops process host now ({ process with child := none, status := .exited status.code }, host)
  | killed {pid : Pid} (held : process.child = some pid) (going : host.endedAs? pid now = none) :
      Stops process host now
        ({ process with child := none, status := .stopped }, host.kill pid now)

/-- A stop takes note of an end or kills. -/
theorem stop_of_held (held : process.child = some pid) :
    (∀ status, host.endedAs? pid now = some status →
      process.stop host now = ({ process with child := none, status := .exited status.code }, host)) ∧
    (host.endedAs? pid now = none →
      process.stop host now =
        ({ process with child := none, status := .stopped }, host.kill pid now)) := by
  constructor
  · intro status ended
    simp only [NodeProcess.stop, held, reap_of_ended held ended]
  · intro going
    have unreaped : process.reap host now = (none, process) :=
      reap_of_going (by simpa [held] using going)
    simp only [NodeProcess.stop, held, unreaped]

theorem stop_stops (process : NodeProcess) (host : Host) (now : Instant) :
    process.Stops host now (process.stop host now) := by
  cases held : process.child with
  | none =>
      unfold stop
      rw [held]
      dsimp only
      cases status : process.status with
      | stopped => exact .marked held (.inl status)
      | starting => exact .marked held (.inr (by simp [isTaken, status]))
      | running => exact .marked held (.inr (by simp [isTaken, status]))
      | exited code => exact .rests held (.inr ⟨code, status⟩)
      | crashed => exact .rests held (.inl status)
  | some pid =>
      cases ended : host.endedAs? pid now with
      | some status =>
          rw [(stop_of_held held).1 status ended]
          exact .ended held ended
      | none =>
          rw [(stop_of_held held).2 ended]
          exact .killed held ended

/-! ## Starting -/

/-- What a look at a process that is starting comes to: the start has failed, the process serves, or
nothing can be said yet. -/
inductive Checks (process : NodeProcess) (host : Host) (look : Look) :
    Progress (Except ClusterError Unit) × NodeProcess × Host → Prop
  | ended {pid : Pid} {status : ExitStatus} (held : process.child = some pid)
      (ended : host.endedAs? pid look.now = some status) :
      Checks process host look
        (.done (.error (.nodeStartFailed process.name
          ("exited with code " ++ toString status.code ++ " during startup"))),
        { process with child := none, status := .crashed }, host)
  | serves (going : ∀ pid, process.child = some pid → host.endedAs? pid look.now = none)
      (serves : process.serves host look.now = true) :
      Checks process host look (.done (.ok ()), { process with status := .running }, host)
  | late (going : ∀ pid, process.child = some pid → host.endedAs? pid look.now = none)
      (unready : process.serves host look.now = false)
      (late : look.began + process.startTimeout ≤ look.now) :
      Checks process host look
        (.done (.error (.nodeStartFailed process.name
          ("not ready within " ++ process.startTimeout.text))),
        process.giveUp host look.now)
  | waits (going : ∀ pid, process.child = some pid → host.endedAs? pid look.now = none)
      (unready : process.serves host look.now = false)
      (early : ¬look.began + process.startTimeout ≤ look.now) :
      Checks process host look (.pause startPoll, process, host)

theorem checkStart_checks (process : NodeProcess) (host : Host) (look : Look) :
    process.Checks host look (process.checkStart host look) := by
  have reaps := process.reap_reaps host look.now
  unfold checkStart
  generalize process.reap host look.now = found at reaps
  cases reaps with
  | ended held ended => exact .ended held ended
  | going going =>
      dsimp only
      cases serves : process.serves host look.now with
      | true => exact .serves going serves
      | false =>
          rw [if_neg Bool.false_ne_true]
          split
          · exact .late going serves ‹_›
          · exact .waits going serves ‹_›

/-- A process that has just been given a child. -/
def started (process : NodeProcess) (pid : Pid) : NodeProcess :=
  { process with child := some pid, status := .starting }

/-- A program that is started is a new child of the host. -/
theorem spawn_eq_ok (spawned : process.spawn host now = .ok (pid, hostAfter)) :
    pid = host.children.length ∧ ∃ child, hostAfter.children = host.children ++ [child] := by
  simp only [spawn] at spawned
  split at spawned
  · cases spawned
  · rename_i files _
    split at spawned
    · cases spawned
    · rename_i started grown launched
      have fresh : started = host.children.length ∧
          ∃ child, grown.children = host.children ++ [child] := by
        simp only [Host.spawn] at launched
        split at launched
        · cases launched
        · cases launched
          exact ⟨rfl, _, rfl⟩
      split at spawned
      · cases spawned
        exact fresh
      · cases spawned
        exact fresh

/-- What a look of a start comes to: the first one is refused, cannot spawn a program, or gives the process
a new child, which it may look at; the others look at a process that is starting. -/
inductive Begins (process : NodeProcess) (host : Host) (look : Look) :
    Progress (Except ClusterError Unit) × NodeProcess × Host → Prop
  | again {found : Progress (Except ClusterError Unit) × NodeProcess × Host}
      (later : look.index ≠ 0) (checks : process.Checks host look found) :
      Begins process host look found
  | refused (first : look.index = 0) (taken : process.isTaken = true) :
      Begins process host look
        (.done (.error (.nodeAlreadyRunning process.name)), process, host)
  | failed {error : ClusterError} (first : look.index = 0) (untaken : process.isTaken = false)
      (spawned : process.spawn host look.now = .error error) :
      Begins process host look (.done (.error error), { process with status := .crashed }, host)
  | waits {grown : Host} {child : Child} {delay : Duration} (first : look.index = 0)
      (untaken : process.isTaken = false)
      (spawned : process.spawn host look.now = .ok (host.children.length, grown))
      (added : grown.children = host.children ++ [child])
      (readiness : process.readiness = .aliveAfter delay) :
      Begins process host look (.pause delay, process.started host.children.length, grown)
  | checked {grown : Host} {child : Child} {address : String} {port : Nat}
      {found : Progress (Except ClusterError Unit) × NodeProcess × Host} (first : look.index = 0)
      (untaken : process.isTaken = false)
      (spawned : process.spawn host look.now = .ok (host.children.length, grown))
      (added : grown.children = host.children ++ [child])
      (readiness : process.readiness = .listening address port)
      (checks : (process.started host.children.length).Checks grown look found) :
      Begins process host look found

theorem start_of_taken {look : Look} (first : look.index = 0) (taken : process.isTaken = true) :
    process.start host look = (.done (.error (.nodeAlreadyRunning process.name)), process, host) := by
  rw [start, if_neg (not_not_intro first), if_pos taken]

theorem start_begins (process : NodeProcess) (host : Host) (look : Look) :
    process.Begins host look (process.start host look) := by
  by_cases first : look.index = 0
  · cases taken : process.isTaken with
    | true =>
        rw [start_of_taken first taken]
        exact .refused first taken
    | false =>
        have untaken : ¬process.isTaken = true := by simp [taken]
        rw [start, if_neg (not_not_intro first), if_neg untaken]
        cases spawned : process.spawn host look.now with
        | error error => exact .failed first taken spawned
        | ok pair =>
            rcases pair with ⟨pid, grown⟩
            rcases spawn_eq_ok spawned with ⟨rfl, child, added⟩
            dsimp only
            split
            · exact .waits first taken spawned added ‹_›
            · exact .checked first taken spawned added ‹_›
                (checkStart_checks (process.started host.children.length) grown look)
  · rw [start, if_pos first]
    exact .again first (process.checkStart_checks host look)

end NodeProcess

end GracefulStop
