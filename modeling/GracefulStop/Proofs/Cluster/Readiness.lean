import GracefulStop.Proofs.Cluster.Leaving
import GracefulStop.Proofs.Node.Rest
import GracefulStop.Proofs.Run.Limits

/-!
# When a node is ready

A process that is starting is looked at every hundred milliseconds. The first look that finds it ended,
or its port open, or too much time gone by, decides. A process that only has to stay alive is looked at
once.
-/

namespace GracefulStop

/-! ## Time -/

/-- A sleep of whole milliseconds from a whole millisecond on lasts just as long. -/
theorem wakeTime_of_isWhole {now length : Duration} (whole : now.IsWhole) (wholeLength : length.IsWhole)
    (short : length ≤ longestSleep) : wakeTime now length = now + length := by
  rcases now with ⟨now⟩
  rcases length with ⟨length⟩
  unfold wakeTime
  split
  · rename_i zero
    cases zero
    rfl
  · change (⟨_⟩ : Duration) = ⟨now + length⟩
    simp only [Duration.IsWhole, Duration.le_def, Duration.nanos_add, Duration.nanos_min] at *
    rw [Duration.mk.injEq, Nat.min_eq_left short]
    omega

/-- The moment of a look at a process that began to start at some moment. -/
def lookTime (began : Instant) (index : Nat) : Instant := began + .ofMillis (100 * index)

theorem lookTime_zero (began : Instant) : lookTime began 0 = began := rfl

theorem isWhole_lookTime {began : Instant} (whole : began.IsWhole) (index : Nat) :
    (lookTime began index).IsWhole := by
  simp only [Duration.IsWhole, lookTime, Duration.nanos_add, Duration.ofMillis] at *
  omega

theorem wakeTime_lookTime {began : Instant} (whole : began.IsWhole) (index : Nat) :
    wakeTime (lookTime began index) NodeProcess.startPoll = lookTime began (index + 1) := by
  rw [wakeTime_of_isWhole (isWhole_lookTime whole index) (by rfl) (by decide)]
  change (⟨_⟩ : Duration) = ⟨_⟩
  rw [Duration.mk.injEq]
  simp only [lookTime, Duration.nanos_add, Duration.ofMillis, NodeProcess.startPoll]
  omega

/-! ## One look -/

theorem Host.isAlive_of_going {host : Host} {pid : Pid} {now : Instant}
    (inside : pid < host.children.length) (going : host.endedAs? pid now = none) :
    host.isAlive pid now = true := by
  have stands : host.children[pid]? = some host.children[pid] := List.getElem?_eq_getElem inside
  refine isAlive_iff.mpr ⟨_, stands, ?_⟩
  rw [endedAs?, stands] at going
  exact going

namespace NodeProcess

/-- What a look decides that finds how the process has ended, if it has, and whether it can be reached:
an exit counts first, then that it can be reached, and then the time that has gone by. -/
inductive Verdict (name : String) (timeout : Duration) (began now : Instant) :
    Option ExitStatus → Bool → Except ClusterError Unit → Prop
  | exited (status : ExitStatus) (reached : Bool) : Verdict name timeout began now (some status) reached
      (.error (.nodeStartFailed name ("exited with code " ++ toString status.code ++ " during startup")))
  | ready : Verdict name timeout began now none true (.ok ())
  | overdue (late : began + timeout ≤ now) : Verdict name timeout began now none false
      (.error (.nodeStartFailed name ("not ready within " ++ timeout.text)))

/-- How a process and its host are left by a start that is over. -/
inductive Decided (pid : Pid) (now : Instant) : Except ClusterError Unit → NodeProcess → Host → Prop
  | serves {process : NodeProcess} {host : Host} (running : process.status = .running)
      (held : process.child = some pid) (alive : host.isAlive pid now = true) :
      Decided pid now (.ok ()) process host
  | failed {error : ClusterError} {process : NodeProcess} {host : Host}
      (crashed : process.status = .crashed) (free : process.child = none)
      (gone : ¬host.isAlive pid now = true) : Decided pid now (.error error) process host

/-- What a look at a process on its host decides. -/
def Judged (process : NodeProcess) (host : Host) (pid : Pid) (began now : Instant) :
    Except ClusterError Unit → Prop :=
  Verdict process.name process.startTimeout began now (host.endedAs? pid now) (process.serves host now)

variable {process : NodeProcess} {host : Host} {pid : Pid} {look : Look}

theorem Verdict.exists_of_late {name : String} {timeout : Duration} {began now : Instant}
    (late : began + timeout ≤ now) (exit : Option ExitStatus) (reached : Bool) :
    ∃ result, Verdict name timeout began now exit reached result := by
  rcases exit with _ | status
  · cases reached with
    | true => exact ⟨_, .ready⟩
    | false => exact ⟨_, .overdue late⟩
  · exact ⟨_, .exited status reached⟩

theorem Verdict.ok_iff {name : String} {timeout : Duration} {began now : Instant}
    {exit : Option ExitStatus} {result : Except ClusterError Unit}
    (verdict : Verdict name timeout began now exit true result) : result = .ok () ↔ exit = none := by
  cases verdict with
  | exited status => simp
  | ready => simp

/-- A look decides and leaves the process to serve or dead, or there is nothing to decide and everything
stays as it is. -/
theorem checkStart_cases (held : process.child = some pid) (inside : pid < host.children.length)
    (look : Look) :
    (∃ result, process.Judged host pid look.began look.now result ∧
      (process.checkStart host look).1 = .done result ∧
      Decided pid look.now result (process.checkStart host look).2.1
        (process.checkStart host look).2.2) ∨
    (∀ result, ¬process.Judged host pid look.began look.now result) ∧
      process.checkStart host look = (.pause startPoll, process, host) := by
  have checks := process.checkStart_checks host look
  unfold Judged
  generalize process.checkStart host look = found at checks
  cases checks with
  | @ended other status heldToo ended =>
      cases held.symm.trans heldToo
      left
      rw [ended]
      exact ⟨_, .exited status _, rfl, .failed rfl rfl (Host.not_isAlive_of_ended ended)⟩
  | serves going serves =>
      left
      rw [going pid held, serves]
      exact ⟨_, .ready, rfl, .serves rfl held (Host.isAlive_of_going inside (going pid held))⟩
  | late going unready late =>
      left
      rw [going pid held, unready]
      refine ⟨_, .overdue late, rfl, .failed rfl rfl ?_⟩
      rw [giveUp, held]
      exact host.not_isAlive_kill pid look.now
  | waits going unready early =>
      right
      rw [going pid held, unready]
      refine ⟨?_, rfl⟩
      rintro _ ⟨⟩
      contradiction

theorem serves_of_listening {address : String} {port : Nat}
    (readiness : process.readiness = .listening address port) (moment : Instant) :
    (process.started pid).serves host moment = host.listens address port moment := by
  simp only [serves, started, readiness]

theorem serves_of_aliveAfter {delay : Duration} (readiness : process.readiness = .aliveAfter delay)
    (moment : Instant) : (process.started pid).serves host moment = true := by
  simp only [serves, started, readiness]

theorem start_of_spawn {grown : Host} {now : Instant} (began : Instant)
    (idle : process.isTaken = false) (spawned : process.spawn host now = .ok (pid, grown)) :
    process.start host ⟨began, now, 0⟩ =
      match process.readiness with
      | .aliveAfter delay => (.pause delay, process.started pid, grown)
      | .listening _ _ => (process.started pid).checkStart grown ⟨began, now, 0⟩ := by
  rw [start, if_neg (by simp), if_neg (by simp [idle])]
  dsimp only
  rw [spawned]
  rfl

/-- What has just been started is a child of the host. -/
theorem lt_of_spawn {grown : Host} {now : Instant} (spawned : process.spawn host now = .ok (pid, grown)) :
    pid < grown.children.length := by
  rcases spawn_eq_ok spawned with ⟨rfl, child, added⟩
  rw [added, List.length_append]
  exact Nat.lt_succ_self _

end NodeProcess

/-! ## All looks -/

namespace Launcher

/-- Whoever answers the statements leaves the host and the processes of the nodes alone. -/
def Alone {Rest : Type} (ask : Node → Request → Look → Premises Rest →
    Progress (Except QueryError Response) × Premises Rest) : Prop :=
  ∀ node request look premises, (ask node request look premises).2.host = premises.host ∧
    (ask node request look premises).2.processes = premises.processes

variable {Rest : Type} {launcher : Launcher}
  {ask : Node → Request → Look → Premises Rest →
    Progress (Except QueryError Response) × Premises Rest}
  {draw : Draw Rest} {node : Node} {run last : Run (Premises Rest)} {process : NodeProcess} {host : Host}
  {pid : Pid} {began : Instant} {index : Nat}

theorem same_of_rest (alone : Alone ask)
    (course : Run.Course (launcher.world ask draw) (fun _ => False) run last) :
    last.state.host = run.state.host ∧ last.state.processes = run.state.processes := by
  have same := course.view_eq (fun premises => (premises.host, premises.processes)) <| by
    rintro deed now before after (no | rfl) touch
    · exact no.elim
    · cases touch with
      | workerAsk node request look =>
          rcases alone node request look before with ⟨host, processes⟩
          exact Prod.ext host processes
      | workerDraw => rfl
  exact ⟨congrArg Prod.fst same, congrArg Prod.snd same⟩

/-- To start a node is to start its process on the host. -/
theorem start_of_process {premises : Premises Rest} {look : Look}
    {found : Progress (Except ClusterError Unit) × NodeProcess × Host}
    (looks : (premises.process launcher node).start premises.host look = found) :
    (launcher.world ask draw).start node look premises =
      (found.1, ({ premises with host := found.2.2 } : Premises Rest).setProcess node found.2.1) := by
  subst looks
  rfl

/-- A run in which a look of a number at a node that starts is a look at a process on its host. -/
def Tries (launcher : Launcher)
    (ask : Node → Request → Look → Premises Rest →
      Progress (Except QueryError Response) × Premises Rest)
    (draw : Draw Rest) (node : Node) (process : NodeProcess) (host : Host) (began : Instant)
    (run : Run (Premises Rest)) (index : Nat) : Prop :=
  (launcher.world ask draw).start node ⟨began, run.clock, index⟩ run.state =
    let found := process.checkStart host ⟨began, run.clock, index⟩
    (found.1, ({ run.state with host := found.2.2 } : Premises Rest).setProcess node found.2.1)

theorem tries_later (same : run.state.process launcher node = process) (sameHost : run.state.host = host)
    (index : Nat) : Tries launcher ask draw node process host began run (index + 1) := by
  have looks : process.start host ⟨began, run.clock, index + 1⟩ =
      process.checkStart host ⟨began, run.clock, index + 1⟩ := if_pos (Nat.succ_ne_zero index)
  subst same sameHost
  exact start_of_process looks

/-- A look that decides is the last one. -/
theorem poll_of_judged (tries : Tries launcher ask draw node process host began run index)
    (held : process.child = some pid) (inside : pid < host.children.length)
    {result : Except ClusterError Unit} (judged : process.Judged host pid began run.clock result)
    (left : Nat) :
    ∃ result last, Action.poll (launcher.world ask draw) ((launcher.world ask draw).start node) began
        index (left + 1) none run = (some result, last) ∧
      last.clock = run.clock ∧ process.Judged host pid began run.clock result ∧
      NodeProcess.Decided pid run.clock result (last.state.process launcher node) last.state.host := by
  rcases NodeProcess.checkStart_cases held inside ⟨began, run.clock, index⟩ with
    ⟨result, judges, ended, decided⟩ | ⟨unjudged, _⟩
  · rw [Action.poll_succ, tries]
    dsimp only
    rw [ended]
    refine ⟨result, _, rfl, rfl, judges, ?_⟩
    rw [Premises.process_setProcess]
    exact decided
  · exact absurd judged (unjudged _)

/-- A pause lasts as long as a sleep does, and leaves the host and the process of the node alone. -/
theorem sleep_of_alone (alone : Alone ask) (length : Duration)
    (stands : run.state.process launcher node = process) :
    ∃ after, Action.sleep (launcher.world ask draw) length none run = (some (), after) ∧
      after.clock = wakeTime run.clock length ∧ after.state.host = run.state.host ∧
      after.state.process launcher node = process := by
  rcases slept : Action.sleep (launcher.world ask draw) length none run with ⟨_ | ⟨⟩, after⟩
  · unfold Action.sleep at slept
    split at slept <;> cases slept
  · have rests : Run.Course (launcher.world ask draw) (fun _ => False) run after :=
      (Action.follows_sleep length).course slept
    rcases same_of_rest alone rests with ⟨host, processes⟩
    refine ⟨after, rfl, Action.clock_of_sleep slept, host, ?_⟩
    rw [Premises.process, processes]
    exact stands

theorem poll_of_unjudged (alone : Alone ask)
    (tries : Tries launcher ask draw node process host began run index)
    (held : process.child = some pid) (inside : pid < host.children.length)
    (unjudged : ∀ result, ¬process.Judged host pid began run.clock result) (left : Nat) :
    ∃ after, Tries launcher ask draw node process host began after (index + 1) ∧
      after.clock = wakeTime run.clock NodeProcess.startPoll ∧
      Action.poll (launcher.world ask draw) ((launcher.world ask draw).start node) began index (left + 1)
          none run =
        Action.poll (launcher.world ask draw) ((launcher.world ask draw).start node) began (index + 1)
          left none after := by
  rcases NodeProcess.checkStart_cases held inside ⟨began, run.clock, index⟩ with
    ⟨result, judged, _⟩ | ⟨_, pauses⟩
  · exact absurd judged (unjudged result)
  · let paused : Run (Premises Rest) :=
      { run with state := ({ run.state with host } : Premises Rest).setProcess node process }
    have stands : paused.state.process launcher node = process :=
      Premises.process_setProcess run.state host node process
    rcases sleep_of_alone alone NodeProcess.startPoll stands with ⟨after, slept, clock, sameHost, same⟩
    refine ⟨after, tries_later same sameHost index, clock, ?_⟩
    rw [Action.poll_succ, tries, pauses]
    exact Action.bind_of_eq_some slept

/-- The first look that decides something. -/
theorem poll_of_first (alone : Alone ask) (whole : began.IsWhole) (held : process.child = some pid)
    (inside : pid < host.children.length) {gap left : Nat}
    (tries : Tries launcher ask draw node process host began run index)
    (clock : run.clock = lookTime began index)
    (unjudged : ∀ earlier, index ≤ earlier → earlier < index + gap → ∀ result,
      ¬process.Judged host pid began (lookTime began earlier) result)
    {result : Except ClusterError Unit}
    (judged : process.Judged host pid began (lookTime began (index + gap)) result) :
    ∃ result last, Action.poll (launcher.world ask draw) ((launcher.world ask draw).start node) began
        index (gap + left + 1) none run = (some result, last) ∧
      last.clock = lookTime began (index + gap) ∧
      process.Judged host pid began (lookTime began (index + gap)) result ∧
      NodeProcess.Decided pid (lookTime began (index + gap)) result
        (last.state.process launcher node) last.state.host := by
  -- Looks that decide nothing leave the process and its host alone, so the induction moves the start on.
  induction gap generalizing index run with
  | zero =>
      rw [Nat.add_zero index, ← clock] at judged ⊢
      rw [Nat.zero_add]
      exact poll_of_judged tries held inside judged left
  | succ gap ih =>
      have undecided := unjudged index (Nat.le_refl _) (by omega)
      rw [← clock] at undecided
      rcases poll_of_unjudged alone tries held inside undecided (gap + left + 1) with
        ⟨after, triesAfter, clockAfter, polls⟩
      rw [clock, wakeTime_lookTime whole] at clockAfter
      rw [show gap + 1 + left + 1 = gap + left + 1 + 1 by omega, polls]
      rw [show index + (gap + 1) = index + 1 + gap by omega] at judged ⊢
      exact ih triesAfter clockAfter (fun earlier late soon => unjudged earlier (by omega) (by omega))
        judged

/-- Some look decides something, and the first one comes less than a hundred milliseconds late. -/
theorem exists_first_judged (process : NodeProcess) (host : Host) (pid : Pid) (began : Instant) :
    ∃ first, 100000000 * first < process.startTimeout.nanos + 100000000 ∧
      (∃ result, process.Judged host pid began (lookTime began first) result) ∧
      ∀ earlier < first, ∀ result, ¬process.Judged host pid began (lookTime began earlier) result := by
  classical
  -- The first look at or after the end of the time decides, whatever it finds.
  let last := (process.startTimeout.nanos + 99999999) / 100000000
  have late : began + process.startTimeout ≤ lookTime began last := by
    simp only [Duration.le_def, Duration.nanos_add, lookTime, Duration.ofMillis, last]
    omega
  have decides : ∃ index result, process.Judged host pid began (lookTime began index) result :=
    ⟨last, NodeProcess.Verdict.exists_of_late late _ _⟩
  refine ⟨Nat.find decides, ?_, Nat.find_spec decides, ?_⟩
  · have soon : Nat.find decides ≤ last := Nat.find_min' decides (NodeProcess.Verdict.exists_of_late late _ _)
    simp only [last] at soon
    omega
  · intro earlier before result judged
    exact Nat.find_min decides before ⟨result, judged⟩

variable {grown : Host} {tries : Nat}

/-- A start that has spawned a child and waits for its port looks at it at once. -/
theorem tries_first (idle : (run.state.process launcher node).isTaken = false)
    (spawned : (run.state.process launcher node).spawn run.state.host run.clock = .ok (pid, grown))
    {address : String} {port : Nat}
    (readiness : (run.state.process launcher node).readiness = .listening address port) :
    Tries launcher ask draw node ((run.state.process launcher node).started pid) grown run.clock run
      0 := by
  have looks := NodeProcess.start_of_spawn run.clock idle spawned
  rw [readiness] at looks
  exact start_of_process looks

/-- Where nothing is asked of the port, the first look comes when the time has gone by. -/
theorem start_of_aliveAfter (idle : (run.state.process launcher node).isTaken = false)
    (spawned : (run.state.process launcher node).spawn run.state.host run.clock = .ok (pid, grown))
    {delay : Duration} (readiness : (run.state.process launcher node).readiness = .aliveAfter delay) :
    (launcher.world ask draw).start node ⟨run.clock, run.clock, 0⟩ run.state =
      (.pause delay, ({ run.state with host := grown } : Premises Rest).setProcess node
        ((run.state.process launcher node).started pid)) := by
  have looks := NodeProcess.start_of_spawn run.clock idle spawned
  rw [readiness] at looks
  exact start_of_process looks

theorem poll_of_listening (alone : Alone ask) (whole : run.clock.IsWhole)
    (idle : (run.state.process launcher node).isTaken = false)
    (spawned : (run.state.process launcher node).spawn run.state.host run.clock = .ok (pid, grown))
    {address : String} {port : Nat}
    (readiness : (run.state.process launcher node).readiness = .listening address port)
    (enough : (run.state.process launcher node).startTimeout.nanos / 100000000 + 2 ≤ tries) :
    ∃ first result last,
      Action.poll (launcher.world ask draw) ((launcher.world ask draw).start node) run.clock 0 tries
        none run = (some result, last) ∧
      last.clock = lookTime run.clock first ∧
      last.clock < run.clock + (run.state.process launcher node).startTimeout + .ofMillis 100 ∧
      ((run.state.process launcher node).started pid).Judged grown pid run.clock last.clock result ∧
      NodeProcess.Decided pid last.clock result (last.state.process launcher node) last.state.host ∧
      ∀ earlier < first, ∀ other, ¬((run.state.process launcher node).started pid).Judged grown pid
        run.clock (lookTime run.clock earlier) other := by
  rcases exists_first_judged ((run.state.process launcher node).started pid) grown pid run.clock with
    ⟨first, soon, ⟨_, judged⟩, unjudged⟩
  have timeout : ((run.state.process launcher node).started pid).startTimeout =
    (run.state.process launcher node).startTimeout := rfl
  rw [timeout] at soon
  obtain ⟨left, rfl⟩ : ∃ left, tries = first + left + 1 := ⟨tries - first - 1, by omega⟩
  rw [← Nat.zero_add first] at judged
  rcases poll_of_first alone whole (by rfl) (NodeProcess.lt_of_spawn spawned)
    (tries_first idle spawned readiness) (lookTime_zero run.clock).symm
    (fun earlier _ before => unjudged earlier (by omega)) judged with
    ⟨result, last, polls, clock, judges, decided⟩
  rw [Nat.zero_add] at clock judges decided
  refine ⟨first, result, last, polls, clock, ?_, clock ▸ judges, clock ▸ decided, unjudged⟩
  simp only [clock, lookTime, Duration.lt_def, Duration.nanos_add, Duration.ofMillis]
  omega

theorem poll_of_aliveAfter (alone : Alone ask)
    (idle : (run.state.process launcher node).isTaken = false)
    (spawned : (run.state.process launcher node).spawn run.state.host run.clock = .ok (pid, grown))
    {delay : Duration} (readiness : (run.state.process launcher node).readiness = .aliveAfter delay)
    (enough : 2 ≤ tries) :
    ∃ result last,
      Action.poll (launcher.world ask draw) ((launcher.world ask draw).start node) run.clock 0 tries
        none run = (some result, last) ∧
      last.clock = wakeTime run.clock delay ∧
      ((run.state.process launcher node).started pid).Judged grown pid run.clock last.clock result ∧
      NodeProcess.Decided pid last.clock result (last.state.process launcher node) last.state.host := by
  obtain ⟨left, rfl⟩ : ∃ left, tries = left + 1 + 1 := ⟨tries - 2, by omega⟩
  let paused : Run (Premises Rest) :=
    { run with
      state := ({ run.state with host := grown } : Premises Rest).setProcess node
        ((run.state.process launcher node).started pid) }
  have stands : paused.state.process launcher node = (run.state.process launcher node).started pid :=
    Premises.process_setProcess run.state grown node _
  rcases sleep_of_alone alone delay stands with ⟨after, slept, clock, sameHost, same⟩
  have judged : ∃ result, ((run.state.process launcher node).started pid).Judged grown pid run.clock
      after.clock result := by
    rw [NodeProcess.Judged, NodeProcess.serves_of_aliveAfter readiness]
    cases grown.endedAs? pid after.clock with
    | none => exact ⟨_, .ready⟩
    | some status => exact ⟨_, .exited status true⟩
  rcases judged with ⟨_, judged⟩
  rcases poll_of_judged (tries_later same sameHost 0) (by rfl) (NodeProcess.lt_of_spawn spawned) judged
    left with ⟨result, last, polls, sameClock, judges, decided⟩
  refine ⟨result, last, ?_, sameClock.trans clock, sameClock ▸ judges, sameClock ▸ decided⟩
  rw [Action.poll_succ, start_of_aliveAfter idle spawned readiness]
  exact (Action.bind_of_eq_some slept).trans polls

/-- Whatever a process is that can be started, whenever and however it ends by itself, and whenever its
port is open: the first look, every hundred milliseconds, that finds it ended, or its port open, or its
time gone by, decides in this order, and no look comes a hundred milliseconds late. A process that only
has to stay alive is looked at once. A process that serves is alive, and one that does not is dead. -/
theorem readiness_contract (alone : Alone ask) (whole : run.clock.IsWhole)
    (idle : (run.state.process launcher node).isTaken = false)
    (spawned : (run.state.process launcher node).spawn run.state.host run.clock = .ok (pid, grown))
    (enough : (run.state.process launcher node).startTimeout.nanos / 100000000 + 2 ≤ tries) :
    ∃ result last,
      Action.poll (launcher.world ask draw) ((launcher.world ask draw).start node) run.clock 0 tries
        none run = (some result, last) ∧
      NodeProcess.Decided pid last.clock result (last.state.process launcher node) last.state.host ∧
      (∀ address port, (run.state.process launcher node).readiness = .listening address port →
        ∃ index, last.clock = lookTime run.clock index ∧
          last.clock < run.clock + (run.state.process launcher node).startTimeout + .ofMillis 100 ∧
          NodeProcess.Verdict (run.state.process launcher node).name
            (run.state.process launcher node).startTimeout run.clock last.clock
            (grown.endedAs? pid last.clock) (grown.listens address port last.clock) result ∧
          ∀ earlier < index, ∀ other, ¬NodeProcess.Verdict (run.state.process launcher node).name
            (run.state.process launcher node).startTimeout run.clock (lookTime run.clock earlier)
            (grown.endedAs? pid (lookTime run.clock earlier))
            (grown.listens address port (lookTime run.clock earlier)) other) ∧
      ∀ delay, (run.state.process launcher node).readiness = .aliveAfter delay →
        last.clock = wakeTime run.clock delay ∧
        (delay.IsWhole → delay ≤ longestSleep → last.clock = run.clock + delay) ∧
        NodeProcess.Verdict (run.state.process launcher node).name
          (run.state.process launcher node).startTimeout run.clock last.clock
          (grown.endedAs? pid last.clock) true result ∧
        (result = .ok () ↔ grown.endedAs? pid last.clock = none) := by
  cases readiness : (run.state.process launcher node).readiness with
  | listening address port =>
      rcases poll_of_listening alone whole idle spawned readiness enough with
        ⟨first, result, last, polls, clock, soon, judges, decided, unjudged⟩
      refine ⟨result, last, polls, decided, ?_, nofun⟩
      rintro _ _ ⟨⟩
      simp only [NodeProcess.Judged, NodeProcess.serves_of_listening readiness] at judges unjudged
      exact ⟨first, clock, soon, judges, unjudged⟩
  | aliveAfter delay =>
      have twice := Nat.le_trans (Nat.le_add_left 2 _) enough
      rcases poll_of_aliveAfter alone idle spawned readiness twice with
        ⟨result, last, polls, clock, judges, decided⟩
      refine ⟨result, last, polls, decided, nofun, ?_⟩
      rintro _ ⟨⟩
      rw [NodeProcess.Judged, NodeProcess.serves_of_aliveAfter readiness] at judges
      refine ⟨clock, fun wholeDelay short => ?_, judges, judges.ok_iff⟩
      rw [clock, wakeTime_of_isWhole whole wholeDelay short]

/-! ## A port that opens late -/

/-- A host whose programs go on, and whose ports open after 300 milliseconds. -/
def lateHost : Host where
  programs _ _ := .ok { reaction := Signal.plainReaction }
  listens _ _ now := decide (Duration.ofMillis 300 ≤ now)
  children := []
  files := { workingDir := "/" }

/-- Nodes that have 250 milliseconds to start. -/
def hurriedLauncher : Launcher := { Harness.briefLauncher with startTimeout := .ofMillis 250 }

/-- Surroundings in which statements are answered and change nothing. -/
def lateWorld : World (Premises Unit) :=
  hurriedLauncher.world (fun _ _ _ premises => (.done (.ok (.affected 0)), premises)) fun _ rest => (0, rest)

/-- Nothing has been done so far. -/
def lateStart : Run (Premises Unit) := .start ⟨lateHost, [], ()⟩ ⟨42000, 44000, false⟩

theorem spawn_late : ∃ files,
    (hurriedLauncher.process Harness.briefNode.spec).spawn lateHost ⟨0⟩ =
      .ok (0, { lateHost with
        children := [⟨{ reaction := Signal.plainReaction }, ⟨0⟩, none⟩], files }) := by
  have texts : ((hurriedLauncher.process Harness.briefNode.spec).command.texts.any
      (·.toList.contains Host.textEnd)) = false := by
    decide +kernel
  have program : lateHost.programOf (hurriedLauncher.process Harness.briefNode.spec).command =
      .ok { reaction := Signal.plainReaction } := by
    simp only [Host.programOf, texts]
    rfl
  rcases Harness.append_brief with ⟨_, appended⟩
  exact NodeProcess.spawn_of_programOf appended program

/-- The port opens after the time of the start has gone by, but before a look has noticed that. -/
theorem readiness_contract_of_late : ∃ last,
    Action.poll lateWorld (lateWorld.start Harness.briefNode) ⟨0⟩ 0 4 none lateStart =
      (some (.ok ()), last) ∧ last.clock = .ofMillis 300 := by
  rcases spawn_late with ⟨files, spawned⟩
  have alone : Alone (fun _ _ _ (premises : Premises Unit) =>
      (.done (.ok (.affected 0)), premises)) := fun _ _ _ _ => ⟨rfl, rfl⟩
  rcases @readiness_contract _ hurriedLauncher _ (fun _ rest => (0, rest)) Harness.briefNode lateStart 0 _ 4
    alone rfl (by decide) spawned (by decide) with ⟨result, last, polls, _, listening, _⟩
  rcases listening _ _ rfl with ⟨index, clock, _, verdict, unjudged⟩
  replace verdict : NodeProcess.Verdict _ (.ofMillis 250) ⟨0⟩ last.clock none
    (decide (Duration.ofMillis 300 ≤ last.clock)) result := verdict
  replace clock : last.clock = lookTime ⟨0⟩ index := clock
  rcases Nat.lt_trichotomy index 3 with early | rfl | late
  · have shut : ¬Duration.ofMillis 300 ≤ last.clock := by
      simp only [clock, lookTime, Duration.le_def, Duration.nanos_add, Duration.ofMillis]
      omega
    rw [decide_eq_false shut] at verdict
    cases verdict with
    | overdue late =>
        simp only [clock, lookTime, Duration.le_def, Duration.nanos_add, Duration.ofMillis] at late
        omega
  · rw [clock] at verdict
    cases verdict
    exact ⟨last, polls, clock⟩
  · exact (unjudged 3 late (.ok ()) .ready).elim

end Launcher

end GracefulStop
