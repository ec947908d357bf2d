import GracefulStop.Proofs.Cluster.Departure
import GracefulStop.Proofs.Files.Names
import GracefulStop.Proofs.Node.Standing

/-!
# How a node leaves

A node whose process has a child is sent a signal when it is asked to leave, and its exit code is how
this child ends. But if a look at the node has recorded before that its child had ended by itself, then
nobody is sent anything, the recorded code counts as that of a node that has left, and the node is
marked. Only of a node without child and record it is said that it does not run.
-/

namespace GracefulStop

namespace NodeProcess

variable {process after : NodeProcess} {host : Host} {now : Instant}

/-- A process whose exit is recorded has no child. -/
def Frees (process : NodeProcess) : Prop := ∀ code, process.status = .exited code → process.child = none

theorem frees_of_free (free : process.child = none) : process.Frees := fun _ _ => free

/-- What a process comes to: it sends the same signal, and frees its child if it did so before. -/
structure Lasts (process after : NodeProcess) : Prop where
  signal : after.signal = process.signal
  frees : process.Frees → after.Frees

theorem Lasts.refl (process : NodeProcess) : process.Lasts process := ⟨rfl, id⟩

theorem Lasts.of_free (signal : after.signal = process.signal) (free : after.child = none) :
    process.Lasts after := ⟨signal, fun _ => frees_of_free free⟩

theorem Lasts.of_going (signal : after.signal = process.signal)
    (going : ∀ code, after.status ≠ .exited code) : process.Lasts after :=
  ⟨signal, fun _ code exited => absurd exited (going code)⟩

theorem Reaps.lasts {found : Option Int × NodeProcess} (reaps : process.Reaps host now found) :
    process.Lasts found.2 := by
  cases reaps with
  | ended held ended => exact .of_free rfl rfl
  | going going => exact .refl process

theorem Stops.lasts {found : NodeProcess × Host} (stops : process.Stops host now found) :
    process.Lasts found.1 := by
  cases stops with
  | rests free settled => exact .refl process
  | marked free unsettled => exact .of_free rfl rfl
  | ended held ended => exact .of_free rfl rfl
  | killed held going => exact .of_free rfl rfl

theorem Checks.lasts {look : Look} {found : Progress (Except ClusterError Unit) × NodeProcess × Host}
    (checks : process.Checks host look found) : process.Lasts found.2.1 := by
  cases checks with
  | ended held ended => exact .of_free rfl rfl
  | serves going serves => exact .of_going rfl nofun
  | late going unready late => exact .of_free rfl rfl
  | waits going unready early => exact .refl process

theorem Begins.lasts {look : Look} {found : Progress (Except ClusterError Unit) × NodeProcess × Host}
    (begins : process.Begins host look found) : process.Lasts found.2.1 := by
  cases begins with
  | again later checks => exact checks.lasts
  | refused first taken => exact .refl process
  | failed first untaken launched => exact .of_going rfl nofun
  | waits first untaken launched added readiness => exact .of_going rfl nofun
  | checked first untaken launched added readiness checks =>
      have starts : process.Lasts (process.started host.children.length) := .of_going rfl nofun
      exact ⟨checks.lasts.signal.trans starts.signal, checks.lasts.frees ∘ starts.frees⟩

theorem Used.lasts {hostAfter : Host} (used : Used now process host after hostAfter) :
    process.Lasts after := by
  rcases used with ⟨look, _⟩ | (_ | _ | ⟨timeout, look, _⟩ | _)
  · exact (process.start_begins host look).lasts
  · exact (process.stop_stops host now).lasts
  · exact .refl process
  · rcases (process.wait_waits host timeout look).reaps with ⟨code, reaps⟩
    exact reaps.lasts
  · exact (process.reap_reaps host now).lasts

end NodeProcess

namespace Premises

variable {Rest : Type} {launcher : Launcher} {premises : Premises Rest} {node : Node}

/-- What holds from the start on: every child that a process has was started on the host, and a process
sends the signal of its launcher and has no child once its exit is recorded. -/
structure Settled (launcher : Launcher) (premises : Premises Rest) : Prop where
  inside : premises.Sound
  signal : ∀ serial process, premises.processes.lookup serial = some process →
    process.signal = launcher.signal
  frees : ∀ serial process, premises.processes.lookup serial = some process → process.Frees

theorem settled_of_empty (none : premises.processes = []) : premises.Settled launcher := by
  refine ⟨?_, ?_, ?_⟩
  · intro serial process pid held
    simp [none] at held
  · intro serial process held
    simp [none] at held
  · intro serial process held
    simp [none] at held

theorem Settled.process_signal (settled : premises.Settled launcher) (node : Node) :
    (premises.process launcher node).signal = launcher.signal := by
  unfold process
  cases found : premises.processes.lookup node.serial with
  | none => rfl
  | some process => exact settled.signal _ _ found

theorem Settled.process_frees (settled : premises.Settled launcher) (node : Node) :
    (premises.process launcher node).Frees := by
  unfold process
  cases found : premises.processes.lookup node.serial with
  | none => exact NodeProcess.frees_of_free rfl
  | some process => exact settled.frees _ _ found

/-- Another process may stand in the place of a node's if it keeps to the same. -/
theorem Settled.setProcess (settled : premises.Settled launcher) {host : Host} {process : NodeProcess}
    (inside : ({ premises with host }.setProcess node process).Sound)
    (signal : process.signal = launcher.signal) (frees : process.Frees) :
    ({ premises with host }.setProcess node process).Settled launcher where
  inside := inside
  signal := forall_setProcess settled.signal signal
  frees := forall_setProcess settled.frees frees

/-- The process of a node after something was done with the process of a node. -/
theorem process_setProcess (premises : Premises Rest) (host : Host) (node : Node)
    (process : NodeProcess) :
    (Premises.process launcher ({ premises with host }.setProcess node process) node) = process := by
  rw [Premises.process, lookup_setProcess, if_pos rfl, Option.getD_some]

end Premises

namespace Launcher

variable {Rest : Type} (launcher : Launcher)
  {ask : Node → Request → Look → Premises Rest →
    Progress (Except QueryError Response) × Premises Rest}
  {draw : Draw Rest} {deed : Deed} {now : Instant} {before after : Premises Rest}
  {may : Deed → Prop} {run last : Run (Premises Rest)}
variable (ages : ∀ node request look (premises : Premises Rest),
  premises.Ages (ask node request look premises).2)
include ages

theorem settled_touch (touched : (launcher.world ask draw).Touch deed now before after)
    (settled : before.Settled launcher) : after.Settled launcher := by
  have inside : after.Sound := (launcher.liveness ages).sound_touch touched settled.inside
  rcases launcher.touch_uses ages touched with
    aged | ⟨node, _, rfl⟩ | ⟨node, process, host, rfl, used, _⟩
  · exact ⟨inside, aged.processes ▸ settled.signal, aged.processes ▸ settled.frees⟩
  · exact settled.setProcess inside rfl (NodeProcess.frees_of_free rfl)
  · exact settled.setProcess inside (used.lasts.signal.trans (settled.process_signal node))
      (used.lasts.frees (settled.process_frees node))

theorem processes_of_work
    (touched : (launcher.world ask draw).Touches .work now before after) :
    after.processes = before.processes := by
  induction touched with
  | refl => rfl
  | tail _ touch ih =>
      refine Eq.trans ?_ ih
      cases touch with
      | workerAsk node request look => exact (ages node request look _).processes
      | workerDraw bound => rfl

theorem settled_course (course : Run.Course (launcher.world ask draw) may run last)
    (settled : run.state.Settled launcher) : last.state.Settled launcher :=
  course.kept (launcher.settled_touch ages) settled

/-- While nothing is done but by workers, all processes stay as they are. -/
theorem processes_of_rest
    (course : Run.Course (launcher.world ask draw) (fun _ => False) run last) :
    last.state.processes = run.state.processes := by
  induction course with
  | refl => rfl
  | tail _ stride ih =>
      rcases stride.touches with ⟨deed, now, no | rfl, touched⟩
      · exact no.elim
      · exact (launcher.processes_of_work ages touched).trans ih

end Launcher

/-! ## Asking a node to leave -/

namespace Harness

variable {Rest : Type} {launcher : Launcher}
  {ask : Node → Request → Look → Premises Rest →
    Progress (Except QueryError Response) × Premises Rest}
  {draw : Draw Rest} {node : Node} {timeout : Duration} {limit : Option Instant}
  {run last : Run (Premises Rest)}

/-- A node is sent the signal of its process, if this has a child. -/
theorem signalNode_eq (launcher : Launcher)
    (ask : Node → Request → Look → Premises Rest →
      Progress (Except QueryError Response) × Premises Rest)
    (draw : Draw Rest) (node : Node) (limit : Option Instant) (run : Run (Premises Rest)) :
    ∃ asked, Action.signalNode (launcher.world ask draw) node limit run = (some (.ok ()), asked) ∧
      asked.state.host =
        (run.state.process launcher node).askToLeave run.state.host run.clock ∧
      asked.state.process launcher node = run.state.process launcher node :=
  ⟨_, rfl, rfl, Premises.process_setProcess run.state _ node _⟩

/-- How a node without a child leaves: with its recorded exit code, or not at all. -/
def freeResult (process : NodeProcess) : Except ClusterError Int :=
  match process.status with
  | .exited code => .ok code
  | _ => .error (.nodeNotRunning process.name)

theorem freeResult_of_exited {process : NodeProcess} {code : Int}
    (exited : process.status = .exited code) : freeResult process = .ok code := by
  rw [freeResult, exited]

theorem freeResult_of_going {process : NodeProcess}
    (going : ∀ code, process.status ≠ .exited code) :
    freeResult process = .error (.nodeNotRunning process.name) := by
  unfold freeResult
  split
  · rename_i code exited
    exact absurd exited (going code)
  · rfl

theorem wait_of_free {process : NodeProcess} (free : process.child = none) (host : Host)
    (timeout : Duration) (look : Look) :
    process.wait host timeout look = (.done ((freeResult process).map some), process) := by
  unfold NodeProcess.wait freeResult
  rw [free]
  cases process.status <;> rfl

theorem waitForNode_of_free (free : (run.state.process launcher node).child = none) :
    ∃ last, last.state.host = run.state.host ∧
      Action.waitForNode (launcher.world ask draw) node timeout limit run =
        (some ((freeResult (run.state.process launcher node)).map some), last) := by
  let process := run.state.process launcher node
  have waits : (launcher.world ask draw).wait node timeout ⟨run.clock, run.clock, 0⟩ run.state =
      (.done ((freeResult process).map some), run.state.setProcess node process) := by
    have found := wait_of_free free run.state.host timeout ⟨run.clock, run.clock, 0⟩
    exact congrArg (fun found => (found.1, run.state.setProcess node found.2)) found
  refine ⟨{ run with state := run.state.setProcess node process }.note
    (.waited node timeout ((freeResult process).map some)), rfl, ?_⟩
  exact Action.bind_eq_some.mpr ⟨_, _, Action.await_of_done waits, rfl⟩

/-- Nobody is sent anything if the process of a node has no child, and the wait is over at once. -/
theorem leave_of_free (free : (run.state.process launcher node).child = none) :
    ∃ last, last.state.host = run.state.host ∧
      leave (launcher.world ask draw) node timeout limit run =
        (some (freeResult (run.state.process launcher node)), last) := by
  rcases signalNode_eq launcher ask draw node limit run with ⟨asked, asks, host, same⟩
  have unsent : asked.state.host = run.state.host := by
    rw [host, NodeProcess.askToLeave, free]
  have freeAsked : (asked.state.process launcher node).child = none := same ▸ free
  rcases @waitForNode_of_free _ _ ask draw node timeout limit asked freeAsked with ⟨last, kept, waits⟩
  rw [same] at waits
  refine ⟨last, kept.trans unsent, Action.bind_eq_some.mpr ⟨_, asked, asks, ?_⟩⟩
  refine Action.bind_eq_some.mpr ⟨_, last, waits, ?_⟩
  cases freeResult (run.state.process launcher node) <;> rfl

theorem ended_of_wait {process : NodeProcess} {host : Host} {look : Look} {pid : Pid} {code : Int}
    {found : Progress (Except ClusterError (Option Int)) × NodeProcess}
    (held : process.child = some pid) (waits : process.Waits host timeout look found)
    (exited : found.1 = .done (.ok (some code))) :
    ∃ status, host.endedAs? pid look.now = some status ∧ status.code = code := by
  cases waits with
  | known free _ => simp [free] at held
  | unknown free going => cases exited
  | ended heldToo ended =>
      cases held.symm.trans heldToo
      cases exited
      exact ⟨_, ended, rfl⟩
  | late heldToo going late => cases exited
  | waits heldToo going early => cases exited

theorem wait_of_pause {process : NodeProcess} {host : Host} {look : Look} {length : Duration}
    {found : Progress (Except ClusterError (Option Int)) × NodeProcess}
    (waits : process.Waits host timeout look found) (pauses : found.1 = .pause length) :
    found.2 = process := by
  cases waits with
  | known free exited => rfl
  | unknown free going => rfl
  | ended held ended => cases pauses
  | late held going late => rfl
  | waits held going early => rfl

/-- A run in which a node is still waited for that was asked to leave: its process is what it was. -/
structure Waiting (launcher : Launcher)
    (ask : Node → Request → Look → Premises Rest →
      Progress (Except QueryError Response) × Premises Rest)
    (draw : Draw Rest) (node : Node) (timeout : Duration) (asked : Run (Premises Rest))
    (process : NodeProcess) (run : Run (Premises Rest)) : Prop where
  course : Run.Course (launcher.world ask draw) (· = .wait node timeout) asked run
  process : run.state.process launcher node = process

theorem Waiting.goOn
    (ages : ∀ node request look (premises : Premises Rest),
      premises.Ages (ask node request look premises).2)
    {asked : Run (Premises Rest)} {process : NodeProcess}
    (waiting : Waiting launcher ask draw node timeout asked process run) {moment : Look}
    {length : Duration} (atOnce : moment.now = run.clock)
    (pauses : ((launcher.world ask draw).wait node timeout moment run.state).1 = .pause length) :
    Waiting launcher ask draw node timeout asked process
      (Action.sleep (launcher.world ask draw) length limit
        { run with state := ((launcher.world ask draw).wait node timeout moment run.state).2 }).2 where
  course := waiting.course.trans (Action.course_pause (.wait node timeout) atOnce length)
  process := by
    have rests : Run.Course (launcher.world ask draw) (fun _ => False) _ _ :=
      Action.follows_sleep length limit
        { run with state := ((launcher.world ask draw).wait node timeout moment run.state).2 }
    have same : ((launcher.world ask draw).wait node timeout moment run.state).2.process launcher
        node = run.state.process launcher node :=
      (Premises.process_setProcess run.state _ node _).trans (wait_of_pause (NodeProcess.wait_waits _ _ _ _) pauses)
    rw [Premises.process, launcher.processes_of_rest ages rests]
    exact same.trans waiting.process

/-- A node that has left was sent the signal, and its exit code is how its child has ended since. -/
theorem ended_of_leave
    (ages : ∀ node request look (premises : Premises Rest),
      premises.Ages (ask node request look premises).2)
    {pid : Pid} (held : (run.state.process launcher node).child = some pid) {code : Int}
    (ended : leave (launcher.world ask draw) node timeout limit run = (some (.ok code), last)) :
    ∃ asked, Action.signalNode (launcher.world ask draw) node limit run = (some (.ok ()), asked) ∧
      asked.state.host =
        run.state.host.signal pid run.clock (run.state.process launcher node).signal ∧
      ∃ found status, Run.Course (launcher.world ask draw) (· = .wait node timeout) asked found ∧
        found.state.host.endedAs? pid found.clock = some status ∧ status.code = code := by
  rcases signalNode_eq launcher ask draw node limit run with ⟨asked, asks, host, same⟩
  refine ⟨asked, asks, by rw [host, NodeProcess.askToLeave, held], ?_⟩
  rcases Action.bind_eq_some.mp ended with ⟨_, _, asksAgain, endedAll⟩
  cases asks.symm.trans asksAgain
  rcases Action.bind_eq_some.mp endedAll with ⟨waited, exited, endedWait, endedAll⟩
  rcases waited with error | (_ | exitCode)
  · cases endedAll
  · cases endedAll
  · cases endedAll
    rcases Action.noted_eq_some endedWait with ⟨answered, awaited, rfl⟩
    rcases Action.bind_eq_some.mp awaited with ⟨began, _, looked, polled⟩
    cases looked
    have waiting : Waiting launcher ask draw node timeout asked (run.state.process launcher node)
        asked := ⟨.refl, same⟩
    rcases Action.kept_of_poll (fun _ _ _ _ waiting atOnce => waiting.goOn ages atOnce) waiting polled with
      ⟨found, moment, ⟨course, process⟩, atOnce, came, rfl⟩
    have waits : ((run.state.process launcher node).wait found.state.host timeout moment).1 =
        .done (.ok (some code)) := process ▸ came
    rcases ended_of_wait held (NodeProcess.wait_waits _ _ _ _) waits with ⟨status, gone, coded⟩
    exact ⟨found, status, course, atOnce ▸ gone, coded⟩

theorem decommission_of_leave {State : Type} {world : World State} {harness : Harness} {index : Nat}
    {limit : Option Instant} {run last : Run State} {result : Except ClusterError Int}
    (found : harness.node? index = .ok node)
    (left : leave world node timeout limit run = (some result, last)) :
    harness.decommission world index timeout limit run =
      (some (result, if result.isOk then harness.markLeft index else harness), last) := by
  rw [decommission, found]
  refine Action.bind_eq_some.mpr ⟨result, last, left, ?_⟩
  cases result <;> rfl

theorem decommission_of_free {harness : Harness} {index : Nat} {result : Except ClusterError Int}
    (found : harness.node? index = .ok node)
    (free : (run.state.process launcher node).child = none)
    (known : freeResult (run.state.process launcher node) = result) :
    ∃ last, last.state.host = run.state.host ∧
      harness.decommission (launcher.world ask draw) index timeout limit run =
        (some (result, if result.isOk then harness.markLeft index else harness), last) := by
  rcases @leave_of_free _ _ ask draw node timeout limit run free with ⟨last, kept, left⟩
  rw [known] at left
  exact ⟨last, kept, decommission_of_leave found left⟩

/-- Whatever was asked of a cluster of processes before, and whenever their programs end: a node that
is marked as left although no exit of it had been recorded was sent the signal in the same call, and the
code is how its child has ended since. If an exit had been recorded, nobody is sent anything, the
recorded code is given, and the node is marked all the same. A node without child and record does not
run and is not marked. -/
theorem decommission_contract (launcher : Launcher)
    (ages : ∀ node request look (premises : Premises Rest),
      premises.Ages (ask node request look premises).2)
    {first harness : Harness} {base : Run (Premises Rest)} (settled : base.state.Settled launcher)
    (history : History (launcher.world ask draw) (fun _ _ => True) (fun _ => True) first base harness
      run)
    {index : Nat} (found : harness.node? index = .ok node) (timeout : Duration)
    (limit : Option Instant) :
    (∀ pid, (run.state.process launcher node).child = some pid →
      pid < run.state.host.children.length ∧
      (∀ code, (run.state.process launcher node).status ≠ .exited code) ∧
      ∀ code after last, harness.decommission (launcher.world ask draw) index timeout limit run =
          (some (.ok code, after), last) →
        after = harness.markLeft index ∧
        ∃ asked, Action.signalNode (launcher.world ask draw) node limit run =
            (some (.ok ()), asked) ∧
          asked.state.host = run.state.host.signal pid run.clock launcher.signal ∧
          ∃ gone status, Run.Course (launcher.world ask draw) (· = .wait node timeout) asked gone ∧
            gone.state.host.endedAs? pid gone.clock = some status ∧ status.code = code) ∧
    (∀ code, (run.state.process launcher node).status = .exited code →
      ∃ last, last.state.host = run.state.host ∧
        harness.decommission (launcher.world ask draw) index timeout limit run =
          (some (.ok code, harness.markLeft index), last)) ∧
    ((run.state.process launcher node).child = none →
      (∀ code, (run.state.process launcher node).status ≠ .exited code) →
        ∃ last, last.state.host = run.state.host ∧
          harness.decommission (launcher.world ask draw) index timeout limit run =
            (some (.error (.nodeNotRunning (run.state.process launcher node).name), harness), last)) ∧
    ∀ error after last, harness.decommission (launcher.world ask draw) index timeout limit run =
      (some (.error error, after), last) → after = harness := by
  have settledRun : run.state.Settled launcher :=
    launcher.settled_course ages history.course settled
  refine ⟨fun pid held => ?_, fun code exited => ?_, fun free going => ?_, ?_⟩
  · refine ⟨settledRun.inside _ _ pid (Premises.lookup_of_child held) held, fun code exited => ?_, ?_⟩
    · have free := settledRun.process_frees node code exited
      rw [held] at free
      cases free
    · intro code after last ended
      rcases decommission_eq_some ended with ⟨_, same, _⟩ | ⟨other, foundOther, left, rfl⟩
      · cases same
      · cases found.symm.trans foundOther
        have sent := ended_of_leave ages held left
        rw [settledRun.process_signal node] at sent
        exact ⟨rfl, sent⟩
  · have free := settledRun.process_frees node code exited
    exact decommission_of_free found free (freeResult_of_exited exited)
  · exact decommission_of_free found free (freeResult_of_going going)
  · intro error after last ended
    rcases decommission_eq_some ended with ⟨_, _, rfl, _⟩ | ⟨_, _, _, rfl⟩
    · rfl
    · rfl

/-! ## A node that ends by itself -/

/-- A program that ends by itself after five milliseconds, and at once when it is sent a signal. -/
def brief : Program where
  lifetime := some (.ofMillis 5, .exited 6)
  reaction _ _ := some (.zero, .exited 0)

/-- A host on which every command starts this program. -/
def briefHost : Host where
  programs _ _ := .ok brief
  listens _ _ _ := true
  children := []
  files := { workingDir := "/" }

def briefLauncher : Launcher := { home := "/crate", run := ⟨"/runs"⟩ }

def briefNode : Node where
  spec :=
    { name := "crate_one_0", host := "127.0.0.1", httpPort := 42000, transportRange := ⟨42001, 42001⟩
      clusterName := "one", peers := ["crate_one_0"], settings := [] }
  serial := 0

/-- A cluster of one node. -/
def single : Harness where
  name := "one"
  transportRange := ⟨42001, 42001⟩
  handles := [{ node := briefNode }]
  policy := .ofSettings {}
  startAttempts := 1
  quorumPoll := .ofMillis 500

/-- Surroundings in which statements are answered and change nothing. -/
def briefWorld : World (Premises Unit) :=
  briefLauncher.world (fun _ _ _ premises => (.done (.ok (.affected 0)), premises)) fun _ rest => (0, rest)

theorem ages_brief (premises : Premises Unit) : premises.Ages premises := ⟨.refl _, rfl⟩

/-- Nothing has been done so far. -/
def briefStart : Run (Premises Unit) := .start ⟨briefHost, [], ()⟩ ⟨42000, 44000, false⟩

/-- The child of the node. -/
def briefChild : Child := ⟨brief, ⟨0⟩, some (.ofMillis 5, .exited 6)⟩

/-- The process of the node as it serves. -/
def servingNode : NodeProcess :=
  { briefLauncher.process briefNode.spec with child := some 0, status := .running }

/-- The node serves, and its files are what they are. -/
def served (files : FileTree) : Run (Premises Unit) :=
  Run.note
    { briefStart with
      state := ⟨{ briefHost with children := [briefChild], files }, [(0, servingNode)], ()⟩ }
    (.started briefNode (.ok ()))

theorem append_brief : ∃ files, briefHost.files.append (briefLauncher.process briefNode.spec).logDir
    (briefLauncher.process briefNode.spec).logName [] = .ok files := by
  have dir : (briefLauncher.process briefNode.spec).logDir = "/runs/one/crate_one_0/logs" := by
    decide +kernel
  have name : (briefLauncher.process briefNode.spec).logName = "crate_one_0.log" := by decide +kernel
  have joined : Path.join "/runs/one/crate_one_0/logs" "crate_one_0.log" =
      "/runs/one/crate_one_0/logs/crate_one_0.log" := by decide +kernel
  have fineDir : Path.error? "/runs/one/crate_one_0/logs" = none := by decide +kernel
  have fine : Path.error? "/runs/one/crate_one_0/logs/crate_one_0.log" = none := by decide +kernel
  have absoluteDir : Path.isAbsolute "/runs/one/crate_one_0/logs" = true := by decide +kernel
  have absolute : Path.isAbsolute "/runs/one/crate_one_0/logs/crate_one_0.log" = true := by
    decide +kernel
  rw [dir, name]
  simp only [FileTree.append, FileTree.makeDir, FileTree.place, FileTree.resolve, joined, fineDir, fine,
    FileTree.names_fullPath _ absoluteDir, FileTree.names_fullPath _ absolute]
  exact ⟨_, rfl⟩

theorem spawn_brief : ∃ files,
    (briefLauncher.process briefNode.spec).spawn briefHost ⟨0⟩ =
      .ok (0, { briefHost with children := [briefChild], files }) := by
  have texts : ((briefLauncher.process briefNode.spec).command.texts.any
      (·.toList.contains Host.textEnd)) = false := by
    decide +kernel
  have program : briefHost.programOf (briefLauncher.process briefNode.spec).command = .ok brief := by
    simp only [Host.programOf, texts]
    rfl
  rcases append_brief with ⟨_, appended⟩
  exact NodeProcess.spawn_of_programOf appended program

theorem start_brief : ∃ files,
    Order.start.perform briefWorld single none briefStart = (some single, served files) := by
  rcases spawn_brief with ⟨files, spawned⟩
  have starts : (briefLauncher.process briefNode.spec).start briefHost ⟨⟨0⟩, ⟨0⟩, 0⟩ =
      (.done (.ok ()), servingNode, { briefHost with children := [briefChild], files }) := by
    rw [NodeProcess.start, if_neg (by decide), if_neg (by decide), spawned]
    rfl
  have looks : briefWorld.start briefNode ⟨⟨0⟩, ⟨0⟩, 0⟩ briefStart.state =
      (.done (.ok ()), (served files).state) :=
    congrArg (fun started => (started.1, ({ briefStart.state with host := started.2.2 } :
      Premises Unit).setProcess briefNode started.2.1)) starts
  have started : Action.startNode briefWorld briefNode none briefStart =
      (some (.ok ()), served files) :=
    Action.bind_eq_some.mpr ⟨_, _, Action.await_of_done looks, rfl⟩
  have attempted : ({ node := briefNode } : Handle).startWithRetry briefWorld 1 none briefStart =
      (some (.ok ()), served files) := (Action.bind_of_eq_some started).trans rfl
  have all : single.start briefWorld none briefStart = (some (.ok ()), served files) := by
    have first : startAll briefWorld 1 single.handles none briefStart =
        (some (.ok ()), served files) := (Action.bind_of_eq_some attempted).trans rfl
    exact (Action.bind_of_eq_some first).trans rfl
  exact ⟨files, (Action.bind_of_eq_some all).trans rfl⟩

theorem leave_brief (files : FileTree) : ∃ last,
    leave briefWorld briefNode (.ofSeconds 5) none (served files) = (some (.ok 0), last) := by
  let asked := (Action.signalNode briefWorld briefNode none (served files)).2
  have looks : briefWorld.wait briefNode (.ofSeconds 5) ⟨asked.clock, asked.clock, 0⟩ asked.state =
      (.done (.ok (some 0)),
        (briefWorld.wait briefNode (.ofSeconds 5) ⟨asked.clock, asked.clock, 0⟩ asked.state).2) := rfl
  have waited : ∃ last, Action.waitForNode briefWorld briefNode (.ofSeconds 5) none asked =
      (some (.ok (some 0)), last) :=
    ⟨_, Action.bind_eq_some.mpr ⟨_, _, Action.await_of_done looks, rfl⟩⟩
  rcases waited with ⟨last, waited⟩
  exact ⟨last, Action.bind_eq_some.mpr ⟨_, asked, rfl, Action.bind_eq_some.mpr ⟨_, _, waited, rfl⟩⟩⟩

/-- A node that was started has a child. Asked to leave at once, it is sent the signal and ends. -/
theorem decommission_contract_of_brief :
    ∃ run asked last,
      History briefWorld (fun _ _ => True) (fun _ => True) single briefStart single run ∧
      (run.state.process briefLauncher briefNode).child = some 0 ∧
      single.decommission briefWorld 0 (.ofSeconds 5) none run =
        (some (.ok 0, single.markLeft 0), last) ∧
      Action.signalNode briefWorld briefNode none run = (some (.ok ()), asked) ∧
      asked.state.host = run.state.host.signal 0 run.clock .usr2 := by
  rcases start_brief with ⟨files, started⟩
  have history : History briefWorld (fun _ _ => True) (fun _ => True) single briefStart single
      (served files) := History.begin.order .start trivial started
  rcases leave_brief files with ⟨last, left⟩
  have decommissioned := @decommission_of_leave _ _ _ _ single 0 _ _ _ _ rfl left
  have found : single.node? 0 = .ok briefNode := rfl
  rcases (decommission_contract briefLauncher (fun _ _ _ => ages_brief)
    (Premises.settled_of_empty rfl) history found (.ofSeconds 5) none).1 0 rfl with
    ⟨_, _, leaves⟩
  rcases leaves _ _ _ decommissioned with ⟨_, asked, asks, sent, _⟩
  exact ⟨served files, asked, last, history, rfl, decommissioned, asks, sent⟩

/-- A node has ended by itself, and a look at it has recorded that. It is said not to run, and yet it
counts as having left when it is asked to leave. -/
theorem ok_of_recorded :
    ∃ before run last,
      History briefWorld (fun _ _ => True) (fun _ => True) single briefStart single before ∧
      single.awaitQuorum briefWorld none none before =
        (some (.error (.nodeNotRunning briefNode.name)), run) ∧
      (run.state.process briefLauncher briefNode).status = .exited 6 ∧
      single.decommission briefWorld 0 (.ofSeconds 5) none run =
        (some (.ok 6, single.markLeft 0), last) ∧
      last.state.host = run.state.host := by
  rcases start_brief with ⟨files, started⟩
  have history : History briefWorld (fun _ _ => True) (fun _ => True) single briefStart single
      { served files with clock := .ofMillis 10 } :=
    (History.begin.order .start trivial started).aside (.single (.tick (Nat.zero_le _)))
  have looked : ∃ run, single.awaitQuorum briefWorld none none
      { served files with clock := .ofMillis 10 } =
        (some (.error (.nodeNotRunning briefNode.name)), run) ∧
      run.state.process briefLauncher briefNode =
        { servingNode with child := none, status := .exited 6 } :=
    ⟨_, rfl, rfl⟩
  rcases looked with ⟨run, looked, process⟩
  have exited : (run.state.process briefLauncher briefNode).status = .exited 6 := by rw [process]
  have free : (run.state.process briefLauncher briefNode).child = none := by rw [process]
  have known := freeResult_of_exited exited
  have found : single.node? 0 = .ok briefNode := rfl
  rcases decommission_of_free found free known with ⟨last, kept, left⟩
  exact ⟨_, run, last, history, looked, exited, left, kept⟩

end Harness

end GracefulStop
