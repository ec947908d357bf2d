import GracefulStop.Proofs.Cluster.Leaving
import GracefulStop.Proofs.Node.Rest

/-!
# Starting a node that runs

A process that has a child refuses to be started. Who starts a node with several attempts does not ask
why an attempt has failed, but stops the node after each: so the start of a node that runs kills it, and
only a second attempt starts another process. In the same way a cluster that is started once more loses
all its processes, whether or not it gets others.
-/

namespace GracefulStop

namespace NodeProcess

/-- A process that refuses to be started while it has a child. -/
def Guarded (process : NodeProcess) : Prop := process.child.isSome = true → process.isTaken = true

variable {process after : NodeProcess} {host hostAfter : Host} {now : Instant} {pid : Pid}

theorem guarded_of_free (free : process.child = none) : process.Guarded := by
  intro held
  rw [free] at held
  cases held

theorem Guarded.free (guarded : process.Guarded) (untaken : process.isTaken = false) :
    process.child = none := by
  rw [← Option.not_isSome_iff_eq_none]
  intro held
  rw [guarded held] at untaken
  cases untaken

theorem Checks.guarded {look : Look} {found : Progress (Except ClusterError Unit) × NodeProcess × Host}
    (checks : process.Checks host look found) (guarded : process.Guarded) : found.2.1.Guarded := by
  cases checks with
  | ended held ended => exact guarded_of_free rfl
  | serves going serves => exact fun _ => rfl
  | late going unready late => exact guarded_of_free rfl
  | waits going unready early => exact guarded

theorem Begins.guarded {look : Look} {found : Progress (Except ClusterError Unit) × NodeProcess × Host}
    (begins : process.Begins host look found) (guarded : process.Guarded) : found.2.1.Guarded := by
  cases begins with
  | again later checks => exact checks.guarded guarded
  | refused first taken => exact guarded
  | failed first untaken launched => exact guarded_of_free (guarded.free untaken)
  | waits first untaken launched added readiness => exact fun _ => rfl
  | checked first untaken launched added readiness checks => exact checks.guarded fun _ => rfl

theorem Reaps.guarded {found : Option Int × NodeProcess} (reaps : process.Reaps host now found)
    (guarded : process.Guarded) : found.2.Guarded := by
  cases reaps with
  | ended held ended => exact guarded_of_free rfl
  | going going => exact guarded

theorem Used.guarded (used : Used now process host after hostAfter) (guarded : process.Guarded) :
    after.Guarded := by
  rcases used with ⟨look, _⟩ | (_ | _ | ⟨timeout, look, _⟩ | _)
  · exact (process.start_begins host look).guarded guarded
  · exact guarded_of_free (process.ages_stop host now).1
  · exact guarded
  · rcases (process.wait_waits host timeout look).reaps with ⟨code, reaps⟩
    exact reaps.guarded guarded
  · exact (process.reap_reaps host now).guarded guarded

/-! ## What becomes of a child -/

theorem Reaps.held_or_gone {found : Option Int × NodeProcess} (reaps : process.Reaps host now found)
    (held : process.child = some pid) :
    found.2.child = some pid ∨ ¬host.isAlive pid now = true := by
  cases reaps with
  | ended heldToo ended =>
      cases held.symm.trans heldToo
      exact .inr (Host.not_isAlive_of_ended ended)
  | going going => exact .inl held

theorem Checks.held_or_gone {look : Look}
    {found : Progress (Except ClusterError Unit) × NodeProcess × Host}
    (checks : process.Checks host look found) (held : process.child = some pid) :
    found.2.1.child = some pid ∨ ¬found.2.2.isAlive pid look.now = true := by
  cases checks with
  | ended heldToo ended =>
      cases held.symm.trans heldToo
      exact .inr (Host.not_isAlive_of_ended ended)
  | serves going serves => exact .inl held
  | late going unready late =>
      rw [giveUp, held]
      exact .inr (host.not_isAlive_kill pid look.now)
  | waits going unready early => exact .inl held

theorem Stops.gone {found : NodeProcess × Host} (stops : process.Stops host now found)
    (held : process.child = some pid) : ¬found.2.isAlive pid now = true := by
  cases stops with
  | rests free settled => simp [free] at held
  | marked free unsettled => simp [free] at held
  | ended heldToo ended =>
      cases held.symm.trans heldToo
      exact Host.not_isAlive_of_ended ended
  | killed heldToo going =>
      cases held.symm.trans heldToo
      exact host.not_isAlive_kill pid now

/-- A process keeps its child, whatever is done with it, until this has ended. -/
theorem Used.held_or_gone (used : Used now process host after hostAfter) (guarded : process.Guarded)
    (held : process.child = some pid) :
    after.child = some pid ∨ ¬hostAfter.isAlive pid now = true := by
  rcases used with ⟨look, rfl⟩ | (_ | _ | ⟨timeout, look, rfl⟩ | _)
  · have begins := process.start_begins host look
    have taken : process.isTaken = true := guarded (by simp [held])
    generalize process.start host look = found at begins
    cases begins with
    | again later checks => exact checks.held_or_gone held
    | refused first _ => exact .inl held
    | failed first untaken => simp [taken] at untaken
    | waits first untaken => simp [taken] at untaken
    | checked first untaken => simp [taken] at untaken
  · exact .inr ((process.stop_stops host now).gone held)
  · exact .inl held
  · rcases (process.wait_waits host timeout look).reaps with ⟨code, reaps⟩
    exact reaps.held_or_gone held
  · exact (process.reap_reaps host now).held_or_gone held

/-- A process gets no child that the host has had before. -/
theorem Begins.child {look : Look} {found : Progress (Except ClusterError Unit) × NodeProcess × Host}
    (begins : process.Begins host look found) (held : found.2.1.child = some pid) :
    process.child = some pid ∨ host.children.length ≤ pid := by
  cases begins with
  | again later checks => exact .inl (checks.ages.child_eq held)
  | refused first taken => exact .inl held
  | failed first untaken launched => exact .inl held
  | waits first untaken launched added readiness =>
      cases held
      exact .inr (Nat.le_refl _)
  | checked first untaken launched added readiness checks =>
      cases checks.ages.child_eq held
      exact .inr (Nat.le_refl _)

theorem Used.child (used : Used now process host after hostAfter) (held : after.child = some pid) :
    process.child = some pid ∨ host.children.length ≤ pid := by
  cases used with
  | start look atOnce => exact (process.start_begins host look).child held
  | tend tended => exact .inl (tended.ages.child_eq held)

theorem Checks.child_of_going {look : Look}
    {found : Progress (Except ClusterError Unit) × NodeProcess × Host}
    (checks : process.Checks host look found) (held : process.child.isSome = true)
    (going : ∀ error, found.1 ≠ .done (.error error)) : found.2.1.child.isSome = true := by
  cases checks with
  | ended held ended => exact absurd rfl (going _)
  | serves _ serves => exact held
  | late _ unready late => exact absurd rfl (going _)
  | waits _ unready early => exact held

/-- A start that is not over or has succeeded leaves the process with a child. -/
theorem Begins.child_of_going {look : Look}
    {found : Progress (Except ClusterError Unit) × NodeProcess × Host}
    (begins : process.Begins host look found)
    (again : look.index ≠ 0 → process.child.isSome = true)
    (going : ∀ error, found.1 ≠ .done (.error error)) : found.2.1.child.isSome = true := by
  cases begins with
  | again later checks => exact checks.child_of_going (again later) going
  | refused first taken => exact absurd rfl (going _)
  | failed first untaken launched => exact absurd rfl (going _)
  | waits first untaken launched added readiness => rfl
  | checked first untaken launched added readiness checks => exact checks.child_of_going rfl going

end NodeProcess

namespace Premises

variable {Rest : Type} {launcher : Launcher} {premises : Premises Rest} {node : Node} {serial : Nat}
  {pid : Pid} {moment : Instant}

/-- The node of a number has this child. -/
def Holds (serial : Nat) (pid : Pid) (premises : Premises Rest) : Prop :=
  ∃ process, premises.processes.lookup serial = some process ∧ process.child = some pid

/-- Every process with a child refuses to be started. -/
def Guarded (premises : Premises Rest) : Prop :=
  ∀ serial process, premises.processes.lookup serial = some process → process.Guarded

/-- A child of the host is over, and the node of this number does not have it. -/
structure Bereft (serial : Nat) (pid : Pid) (moment : Instant) (premises : Premises Rest) : Prop where
  inside : pid < premises.host.children.length
  released : ¬premises.Holds serial pid
  ended : ¬premises.host.isAlive pid moment = true

/-- A child of the host is with the node of this number, or is over. -/
structure Traced (serial : Nat) (pid : Pid) (moment : Instant) (premises : Premises Rest) : Prop where
  guarded : premises.Guarded
  inside : pid < premises.host.children.length
  held : premises.Holds serial pid ∨ ¬premises.host.isAlive pid moment = true

theorem holds_iff (launcher : Launcher) :
    premises.Holds node.serial pid ↔ (premises.process launcher node).child = some pid := by
  constructor
  · rintro ⟨process, found, held⟩
    rw [Premises.process, found]
    exact held
  · intro held
    exact ⟨_, lookup_of_child held, held⟩

theorem Guarded.process (guarded : premises.Guarded) (launcher : Launcher) (node : Node) :
    (premises.process launcher node).Guarded := by
  unfold Premises.process
  cases found : premises.processes.lookup node.serial with
  | none => exact NodeProcess.guarded_of_free rfl
  | some process => exact guarded _ _ found

end Premises

namespace Launcher

variable {Rest : Type} {launcher : Launcher}
  {ask : Node → Request → Look → Premises Rest →
    Progress (Except QueryError Response) × Premises Rest}
  {draw : Draw Rest} {deed : Deed} {now : Instant} {before after : Premises Rest} {serial : Nat}
  {pid : Pid}
variable (ages : ∀ node request look (premises : Premises Rest),
  premises.Ages (ask node request look premises).2)
include ages

theorem guarded_touch
    (touched : (launcher.world ask draw).Touch deed now before after) (guarded : before.Guarded) :
    after.Guarded := by
  rcases launcher.touch_uses ages touched with
    aged | ⟨node, _, rfl⟩ | ⟨node, process, host, rfl, used, _⟩
  · intro serial found stands
    rw [aged.processes] at stands
    exact guarded serial found stands
  · exact Premises.forall_setProcess guarded (NodeProcess.guarded_of_free rfl)
  · exact Premises.forall_setProcess guarded (used.guarded (guarded.process launcher node))

/-- No touch takes a child of the host away or brings one back to life. -/
theorem lasting_touch (touched : (launcher.world ask draw).Touch deed now before after)
    (inside : pid < before.host.children.length) :
    pid < after.host.children.length ∧
      ∀ moment, after.host.isAlive pid moment = true → before.host.isAlive pid moment = true := by
  rcases launcher.touch_uses ages touched with
    aged | ⟨node, _, rfl⟩ | ⟨node, process, host, rfl, used, _⟩
  · exact ⟨by rwa [aged.host.count], aged.host.alive pid⟩
  · exact ⟨inside, fun _ => id⟩
  · exact ⟨Nat.lt_of_lt_of_le inside used.starts.count, fun moment => used.starts.alive pid moment inside⟩

/-- A node gets no child that the host has had before. -/
theorem released_touch (touched : (launcher.world ask draw).Touch deed now before after)
    (inside : pid < before.host.children.length) (released : ¬before.Holds serial pid) :
    ¬after.Holds serial pid := by
  rintro ⟨found, stands, held⟩
  rcases launcher.touch_uses ages touched with
    aged | ⟨node, _, rfl⟩ | ⟨node, process, host, rfl, used, _⟩
  · rw [aged.processes] at stands
    exact released ⟨found, stands, held⟩
  · rw [Premises.lookup_setProcess] at stands
    split at stands
    · cases stands
      cases held
    · exact released ⟨found, stands, held⟩
  · rw [Premises.lookup_setProcess] at stands
    split at stands
    · rename_i same
      cases stands
      rcases used.child held with before | fresh
      · exact released (same ▸ (Premises.holds_iff launcher).mpr before)
      · exact absurd inside (Nat.not_lt.mpr fresh)
    · exact released ⟨found, stands, held⟩

/-- A node keeps its child until this is over, unless it is prepared anew. -/
theorem held_touch (touched : (launcher.world ask draw).Touch deed now before after)
    (other : ∀ node, deed ≠ .launch node) (guarded : before.Guarded) (held : before.Holds serial pid) :
    after.Holds serial pid ∨ ¬after.host.isAlive pid now = true := by
  rcases launcher.touch_uses ages touched with
    aged | ⟨node, launched, _⟩ | ⟨node, process, host, rfl, used, _⟩
  · left
    rwa [Premises.Holds, aged.processes]
  · exact absurd launched (other node)
  · by_cases same : serial = node.serial
    · subst same
      have had := (Premises.holds_iff launcher).mp held
      rcases used.held_or_gone (guarded.process launcher node) had with kept | gone
      · exact .inl ⟨process, by rw [Premises.lookup_setProcess, if_pos rfl], kept⟩
      · exact .inr gone
    · left
      rcases held with ⟨found, stands, child⟩
      exact ⟨found, by rw [Premises.lookup_setProcess, if_neg same]; exact stands, child⟩

theorem bereft_touch {moment : Instant}
    (touched : (launcher.world ask draw).Touch deed now before after)
    (bereft : before.Bereft serial pid moment) : after.Bereft serial pid moment := by
  rcases lasting_touch ages touched bereft.inside with ⟨inside, alive⟩
  exact ⟨inside, released_touch ages touched bereft.inside bereft.released,
    bereft.ended ∘ alive moment⟩

theorem traced_touch (touched : (launcher.world ask draw).Touch deed now before after)
    (other : ∀ node, deed ≠ .launch node) (traced : before.Traced serial pid now) :
    after.Traced serial pid now := by
  rcases lasting_touch ages touched traced.inside with ⟨inside, alive⟩
  refine ⟨guarded_touch ages touched traced.guarded, inside, ?_⟩
  rcases traced.held with held | ended
  · exact held_touch ages touched other traced.guarded held
  · exact .inr (ended ∘ alive now)

/-! ## Courses -/

variable {may : Deed → Prop} {run last : Run (Premises Rest)}

theorem guarded_course (course : Run.Course (launcher.world ask draw) may run last)
    (guarded : run.state.Guarded) : last.state.Guarded :=
  course.kept (guarded_touch ages) guarded

/-- What a node has lost it does not get back, and nobody else gets it back to life. -/
theorem bereft_course
    (course : Run.Course (launcher.world ask draw) may run last)
    (bereft : run.state.Bereft serial pid run.clock) : last.state.Bereft serial pid last.clock := by
  induction course with
  | refl => exact bereft
  | tail _ stride ih =>
      rcases stride.touches with ⟨deed, now, _, touched⟩
      have after := World.kept_of_touches (fun _ _ => bereft_touch ages) touched ih
      exact ⟨after.inside, after.released, after.ended ∘ Host.isAlive_of_later stride.ahead.1⟩

/-- Where no node is prepared anew, a child stays with its node until it is over. -/
theorem traced_course
    (course : Run.Course (launcher.world ask draw) may run last) (other : ∀ node, ¬may (.launch node))
    (traced : run.state.Traced serial pid run.clock) : last.state.Traced serial pid last.clock := by
  induction course with
  | refl => exact traced
  | tail _ stride ih =>
      rcases stride.touches_at with ⟨deed, allowed, touched⟩
      have other : ∀ node, deed ≠ .launch node := by
        rintro node rfl
        rcases allowed with launches | work
        · exact other node launches
        · cases work
      have later : _ ∨ ¬_ := ih.held.imp_right (· ∘ Host.isAlive_of_later stride.ahead.1)
      exact World.kept_of_touches (fun _ _ touch => traced_touch ages touch other) touched
        ⟨ih.guarded, ih.inside, later⟩

end Launcher

/-! ## Attempts -/

namespace Handle

variable {Rest : Type} {launcher : Launcher}
  {ask : Node → Request → Look → Premises Rest →
    Progress (Except QueryError Response) × Premises Rest}
  {draw : Draw Rest} {node : Node} {limit : Option Instant} {run last : Run (Premises Rest)}
  {pid : Pid}

/-- The attempt to start a process that refuses it changes nothing. -/
theorem startNode_of_taken (taken : (run.state.process launcher node).isTaken = true) :
    ∃ refused, Action.startNode (launcher.world ask draw) node limit run =
        (some (.error (.nodeAlreadyRunning (run.state.process launcher node).name)), refused) ∧
      refused.clock = run.clock ∧ refused.state.host = run.state.host ∧
      refused.state.process launcher node = run.state.process launcher node := by
  let process := run.state.process launcher node
  have looks : (launcher.world ask draw).start node ⟨run.clock, run.clock, 0⟩ run.state =
      (.done (.error (.nodeAlreadyRunning process.name)), run.state.setProcess node process) := by
    have found : process.start run.state.host ⟨run.clock, run.clock, 0⟩ =
        (.done (.error (.nodeAlreadyRunning process.name)), process, run.state.host) :=
      NodeProcess.start_of_taken rfl taken
    exact congrArg (fun found => (found.1, ({ run.state with host := found.2.2 } :
      Premises Rest).setProcess node found.2.1)) found
  refine ⟨{ run with state := run.state.setProcess node process }.note
    (.started node (.error (.nodeAlreadyRunning process.name))), ?_, rfl, rfl, ?_⟩
  · exact Action.bind_eq_some.mpr ⟨_, _, Action.await_of_done looks, rfl⟩
  · exact Premises.process_setProcess run.state _ node process

/-- A node is stopped by stopping its process. -/
theorem stopNode_eq (launcher : Launcher)
    (ask : Node → Request → Look → Premises Rest →
      Progress (Except QueryError Response) × Premises Rest)
    (draw : Draw Rest) (node : Node) (limit : Option Instant) (run : Run (Premises Rest)) :
    ∃ stopped, Action.stopNode (launcher.world ask draw) node limit run = (some (.ok ()), stopped) ∧
      stopped.clock = run.clock ∧
      stopped.state.host =
        ((run.state.process launcher node).stop run.state.host run.clock).2 ∧
      stopped.state.process launcher node =
        ((run.state.process launcher node).stop run.state.host run.clock).1 :=
  ⟨_, rfl, rfl, rfl, Premises.process_setProcess run.state _ node _⟩

/-- After an attempt that has failed the node is stopped, and the next attempt follows. -/
theorem startAttempts_of_failed {State : Type} {world : World State} {run failed stopped : Run State}
    {error : ClusterError} {stop : Except ClusterError Unit}
    (starts : Action.startNode world node limit run = (some (.error error), failed))
    (stops : Action.stopNode world node limit failed = (some stop, stopped)) (total left : Nat)
    (text : String) :
    startAttempts world node total (left + 1) text limit run =
      startAttempts world node total left error.message limit stopped := by
  rw [startAttempts, Action.bind_of_eq_some starts]
  exact Action.bind_of_eq_some stops

/-- A look at the start of a node that does not say that it has failed leaves the node with a child. -/
theorem held_of_look {premises : Premises Rest} {moment : Look}
    (again : moment.index ≠ 0 → (premises.process launcher node).child.isSome = true)
    (going : ∀ error,
      ((launcher.world ask draw).start node moment premises).1 ≠ .done (.error error)) :
    (Premises.process launcher ((launcher.world ask draw).start node moment premises).2
      node).child.isSome = true := by
  have stands : Premises.process launcher
      ((launcher.world ask draw).start node moment premises).2 node =
        ((premises.process launcher node).start premises.host moment).2.1 :=
    Premises.process_setProcess premises _ node _
  rw [stands]
  exact (NodeProcess.start_begins _ _ _).child_of_going again going

section Aging

variable (ages : ∀ node request look (premises : Premises Rest),
  premises.Ages (ask node request look premises).2)
include ages

theorem held_of_poll
    {began : Instant} {index tries : Nat}
    (again : index ≠ 0 → (run.state.process launcher node).child.isSome = true)
    (ended : Action.poll (launcher.world ask draw) ((launcher.world ask draw).start node) began index
      tries limit run = (some (.ok ()), last)) :
    (last.state.process launcher node).child.isSome = true := by
  induction tries generalizing index run with
  | zero => exact absurd ended Action.stall_ne_some
  | succ tries ih =>
      rw [Action.poll_succ] at ended
      let moment : Look := ⟨began, run.clock, index⟩
      have looked := @held_of_look _ launcher ask draw node run.state moment again
      cases seen : ((launcher.world ask draw).start node moment run.state).1 with
      | done answer =>
          rw [seen] at ended
          cases ended
          exact looked (by simp [seen])
      | pause length =>
          rw [seen] at ended
          rcases Action.bind_eq_some.mp ended with ⟨_, slept, sleeps, polled⟩
          refine ih (fun _ => ?_) polled
          have rests : Run.Course (launcher.world ask draw) (fun _ => False) _ slept :=
            (Action.follows_sleep length).course sleeps
          rw [Premises.process, launcher.processes_of_rest ages rests]
          exact looked (by simp [seen])
      | stalled =>
          rw [seen] at ended
          exact absurd ended Action.stall_ne_some

/-- A node has a child after an attempt that has succeeded. -/
theorem held_of_startAttempts
    {total left : Nat} {text : String}
    (ended : startAttempts (launcher.world ask draw) node total left text limit run =
      (some (.ok ()), last)) :
    (last.state.process launcher node).child.isSome = true := by
  induction left generalizing run text with
  | zero => cases ended
  | succ left ih =>
      rcases Action.bind_eq_some.mp ended with ⟨result, between, starts, ended⟩
      cases result with
      | ok _ =>
          cases ended
          rcases Action.noted_eq_some starts with ⟨answered, awaited, rfl⟩
          rcases Action.bind_eq_some.mp awaited with ⟨began, _, looked, polled⟩
          cases looked
          have held := held_of_poll ages (fun later => absurd rfl later) polled
          exact held
      | error error =>
          rcases Action.bind_eq_some.mp ended with ⟨_, stopped, _, ended⟩
          exact ih ended

end Aging

/-! ## What becomes of a node that is started while it runs -/

/-- The first attempt on a node whose child is alive kills this child. -/
theorem startWithRetry_of_alive {handle : Handle} (guarded : run.state.Guarded)
    (held : (run.state.process launcher handle.node).child = some pid)
    (alive : run.state.host.isAlive pid run.clock = true) (attempts : Nat) :
    ∃ stopped, stopped.clock = run.clock ∧
      stopped.state.host = run.state.host.kill pid run.clock ∧
      stopped.state.process launcher handle.node =
        { run.state.process launcher handle.node with child := none, status := .stopped } ∧
      handle.startWithRetry (launcher.world ask draw) attempts limit run =
        startAttempts (launcher.world ask draw) handle.node (max attempts 1) (max attempts 1 - 1)
          (ClusterError.nodeAlreadyRunning (run.state.process launcher handle.node).name).message limit
          stopped := by
  have taken := guarded.process launcher handle.node (by simp [held])
  have going : run.state.host.endedAs? pid run.clock = none := by
    cases ended : run.state.host.endedAs? pid run.clock with
    | none => rfl
    | some status => exact absurd alive (Host.not_isAlive_of_ended ended)
  have several : max attempts 1 = max attempts 1 - 1 + 1 := by omega
  rcases @startNode_of_taken _ _ ask draw _ limit _ taken with ⟨refused, starts, clock, host, same⟩
  rcases stopNode_eq launcher ask draw handle.node limit refused with
    ⟨stopped, stops, clockStopped, hostStopped, processStopped⟩
  rw [same, host, clock, (NodeProcess.stop_of_held held).2 going] at hostStopped processStopped
  refine ⟨stopped, clockStopped.trans clock, hostStopped, processStopped, ?_⟩
  have attempted := startAttempts_of_failed starts stops (max attempts 1) (max attempts 1 - 1) ""
  rw [← several] at attempted
  exact attempted

variable (ages : ∀ node request look (premises : Premises Rest),
  premises.Ages (ask node request look premises).2)
include ages

/-- A node that is stopped loses its child, and this is over. -/
theorem bereft_of_stopNode
    (traced : run.state.Traced node.serial pid run.clock) {result : Option (Except ClusterError Unit)}
    (stops : Action.stopNode (launcher.world ask draw) node limit run = (result, last)) :
    last.state.Bereft node.serial pid last.clock := by
  have stopping : Run.Course (launcher.world ask draw) (Deed.Within (· = .stop node)) run last :=
    (Action.follows_stopNode (by rfl)).course stops
  have after := Launcher.traced_course ages stopping (by rintro other ⟨⟩) traced
  rcases stopNode_eq launcher ask draw node limit run with ⟨stopped, stopsSo, _, _, process⟩
  cases stops.symm.trans stopsSo
  have released : ¬last.state.Holds node.serial pid := by
    intro held
    rw [Premises.holds_iff launcher, process, (NodeProcess.ages_stop _ _ _).1] at held
    cases held
  exact ⟨after.inside, released, after.held.resolve_left released⟩

/-- Whatever comes of starting a node with several attempts: the child that it had is over. -/
theorem bereft_of_startWithRetry
    {handle : Handle} {attempts : Nat} {result : Option (Except ClusterError Unit)}
    (traced : run.state.Traced handle.node.serial pid run.clock)
    (ended : handle.startWithRetry (launcher.world ask draw) attempts limit run = (result, last)) :
    last.state.Bereft handle.node.serial pid last.clock := by
  by_cases held : run.state.Holds handle.node.serial pid
  · have child := (Premises.holds_iff launcher).mp held
    have taken := traced.guarded.process launcher handle.node (by simp [child])
    have several : max attempts 1 = max attempts 1 - 1 + 1 := by omega
    rcases @startNode_of_taken _ _ ask draw _ limit _ taken with ⟨refused, starts, _⟩
    rcases stopNode_eq launcher ask draw handle.node limit refused with ⟨stopped, stops, _⟩
    rw [startWithRetry, several, startAttempts_of_failed starts stops] at ended
    have starting : Run.Course (launcher.world ask draw) (Deed.Within (· = .start handle.node)) run
        refused := (Action.follows_startNode (by rfl)).course starts
    have bereft := bereft_of_stopNode ages
      (Launcher.traced_course ages starting (by rintro other ⟨⟩) traced) stops
    have trying : Run.Course (launcher.world ask draw) (Deed.Within fun _ => True) stopped last :=
      (follows_startAttempts trivial trivial _ _ _).course ended
    exact Launcher.bereft_course ages trying bereft
  · have trying : Run.Course (launcher.world ask draw) (Deed.Within fun _ => True) run last :=
      (handle.follows_startWithRetry trivial trivial attempts).course ended
    exact Launcher.bereft_course ages trying
      ⟨traced.inside, held, traced.held.resolve_left held⟩

end Handle

namespace Harness

variable {Rest : Type} {launcher : Launcher}
  {ask : Node → Request → Look → Premises Rest →
    Progress (Except QueryError Response) × Premises Rest}
  {draw : Draw Rest} {limit : Option Instant} {run last : Run (Premises Rest)}
  {handles : List Handle}

section Aging

variable (ages : ∀ node request look (premises : Premises Rest),
  premises.Ages (ask node request look premises).2)
include ages

/-- The children of nodes that were started one after another with success are over. -/
theorem bereft_of_startAll
    {attempts : Nat}
    (ended : startAll (launcher.world ask draw) attempts handles limit run = (some (.ok ()), last)) :
    ∀ handle ∈ handles, ∀ pid, run.state.Traced handle.node.serial pid run.clock →
      last.state.Bereft handle.node.serial pid last.clock := by
  induction handles generalizing run with
  | nil => simp
  | cons first rest ih =>
      rcases Action.bind_eq_some.mp ended with ⟨result, between, starts, ended⟩
      cases result with
      | error error => cases ended
      | ok _ =>
          have own : Run.Course (launcher.world ask draw)
              (Deed.Within fun deed => deed = .start first.node ∨ deed = .stop first.node) run between :=
            (first.follows_startWithRetry (Or.inl rfl) (Or.inr rfl) attempts).course starts
          have onward : Run.Course (launcher.world ask draw) (Deed.Within fun _ => True) between last :=
            (follows_startAll (fun _ _ => trivial) (fun _ _ => trivial) attempts).course ended
          intro handle member pid traced
          rcases List.mem_cons.mp member with rfl | later
          · exact Launcher.bereft_course ages onward (Handle.bereft_of_startWithRetry ages traced starts)
          · exact ih ended handle later pid
              (Launcher.traced_course ages own (by rintro other (⟨⟨⟩⟩ | ⟨⟨⟩⟩)) traced)

theorem bereft_of_stopAll
    {result : Unit}
    (ended : stopAll (launcher.world ask draw) handles limit run = (some result, last)) :
    ∀ handle ∈ handles, ∀ pid, run.state.Traced handle.node.serial pid run.clock →
      last.state.Bereft handle.node.serial pid last.clock := by
  induction handles generalizing run with
  | nil => simp
  | cons first rest ih =>
      rcases Action.bind_eq_some.mp ended with ⟨_, between, stops, ended⟩
      have own : Run.Course (launcher.world ask draw) (Deed.Within (· = .stop first.node)) run between :=
        (Action.follows_stopNode (by rfl)).course stops
      have onward : Run.Course (launcher.world ask draw) (Deed.Within fun _ => True) between last :=
        (follows_stopAll fun _ _ => trivial).course ended
      intro handle member pid traced
      rcases List.mem_cons.mp member with rfl | later
      · exact Launcher.bereft_course ages onward (Handle.bereft_of_stopNode ages traced stops)
      · exact ih ended handle later pid
          (Launcher.traced_course ages own (by rintro other ⟨⟩) traced)

/-- Whatever comes of starting a cluster: the children that its nodes had are over. -/
theorem bereft_of_start
    {harness : Harness} {result : Except ClusterError Unit}
    (ended : harness.start (launcher.world ask draw) limit run = (some result, last)) :
    ∀ handle ∈ harness.handles, ∀ pid, run.state.Traced handle.node.serial pid run.clock →
      last.state.Bereft handle.node.serial pid last.clock := by
  rcases Action.bind_eq_some.mp ended with ⟨brought, between, starts, ended⟩
  cases brought with
  | ok _ =>
      cases ended
      exact bereft_of_startAll ages starts
  | error error =>
      rcases Action.bind_eq_some.mp ended with ⟨_, stopped, stops, ended⟩
      cases ended
      intro handle member pid traced
      have starting : Run.Course (launcher.world ask draw)
          (Deed.Within fun deed => ∀ node, deed ≠ .launch node) run between :=
        (follows_startAll (fun _ _ => nofun) (fun _ _ => nofun) _).course starts
      exact bereft_of_stopAll ages stops handle member pid
        (Launcher.traced_course ages starting (fun node launches => launches node rfl) traced)

end Aging

/-- Whatever was done before with a cluster of processes, and whenever their programs end: who starts a
node whose child is alive kills this child with the first attempt. If there is no other attempt, the
start fails for the reason that the node runs. After a success the node has another child. And starting
a cluster, whatever comes of it, leaves none of the children that its nodes had. -/
theorem restart_contract (launcher : Launcher)
    (ages : ∀ node request look (premises : Premises Rest),
      premises.Ages (ask node request look premises).2)
    {base : Run (Premises Rest)} (none : base.state.processes = [])
    (course : Run.Course (launcher.world ask draw) (fun _ => True) base run)
    (limit : Option Instant) :
    (∀ (handle : Handle) (attempts : Nat) (pid : Pid),
      (run.state.process launcher handle.node).child = some pid →
      run.state.host.isAlive pid run.clock = true →
      let process := run.state.process launcher handle.node
      let refusal := (ClusterError.nodeAlreadyRunning process.name).message
      (∃ stopped, stopped.clock = run.clock ∧
        stopped.state.host = run.state.host.kill pid run.clock ∧
        stopped.state.process launcher handle.node =
          { process with child := .none, status := .stopped } ∧
        handle.startWithRetry (launcher.world ask draw) attempts limit run =
          Handle.startAttempts (launcher.world ask draw) handle.node (max attempts 1)
            (max attempts 1 - 1) refusal limit stopped) ∧
      ∀ result last,
        handle.startWithRetry (launcher.world ask draw) attempts limit run = (result, last) →
        ¬last.state.host.isAlive pid last.clock = true ∧
        (attempts ≤ 1 → result = some (.error (.startupFailed handle.name 1 refusal))) ∧
        (result = some (.ok ()) → ∃ other, other ≠ pid ∧
          (last.state.process launcher handle.node).child = some other)) ∧
    ∀ (harness : Harness) result last,
      harness.start (launcher.world ask draw) limit run = (some result, last) →
      ∀ handle ∈ harness.handles, ∀ pid,
        (run.state.process launcher handle.node).child = some pid →
        (last.state.process launcher handle.node).child ≠ some pid ∧
        ¬last.state.host.isAlive pid last.clock = true := by
  have guarded : run.state.Guarded :=
    Launcher.guarded_course ages course fun _ _ stands => by simp [none] at stands
  have settled : run.state.Settled launcher :=
    launcher.settled_course ages course (Premises.settled_of_empty none)
  have traced : ∀ {node pid}, (run.state.process launcher node).child = some pid →
      run.state.Traced node.serial pid run.clock := fun held =>
    ⟨guarded, settled.inside _ _ _ (Premises.lookup_of_child held) held,
      .inl ((Premises.holds_iff launcher).mpr held)⟩
  refine ⟨fun handle attempts pid held alive => ?_, fun harness result last ended => ?_⟩
  · intro process refusal
    have kills := @Handle.startWithRetry_of_alive _ _ ask draw limit _ _ _ guarded held alive attempts
    refine ⟨kills, fun result last ended => ?_⟩
    have bereft := Handle.bereft_of_startWithRetry ages (traced held) ended
    refine ⟨bereft.ended, fun few => ?_, fun succeeded => ?_⟩
    · rcases kills with ⟨stopped, _, _, _, attempted⟩
      have once : max attempts 1 = 1 := by omega
      rw [ended, once] at attempted
      cases attempted
      rfl
    · subst succeeded
      rcases Option.isSome_iff_exists.mp (Handle.held_of_startAttempts ages ended) with ⟨other, holds⟩
      refine ⟨other, ?_, holds⟩
      rintro rfl
      exact bereft.released ((Premises.holds_iff launcher).mpr holds)
  · intro handle member pid held
    have bereft := bereft_of_start ages ended handle member pid (traced held)
    exact ⟨fun holds => bereft.released ((Premises.holds_iff launcher).mpr holds), bereft.ended⟩

/-! ## A cluster of one node that is started twice -/

theorem alive_brief (files : FileTree) :
    (served files).state.host.isAlive 0 (served files).clock = true :=
  Host.isAlive_iff.mpr ⟨briefChild, rfl, rfl⟩

theorem course_brief {run : Run (Premises Unit)}
    (started : Order.start.perform briefWorld single none briefStart = (some single, run)) :
    Run.Course briefWorld (fun _ => True) briefStart run :=
  ((Order.follows_perform .start single).course started).any

/-- The node serves. A single attempt to start it fails because it runs, and it runs no longer. -/
theorem restart_contract_of_brief :
    ∃ run last, Order.start.perform briefWorld single none briefStart = (some single, run) ∧
      (run.state.process briefLauncher briefNode).child = some 0 ∧
      run.state.host.isAlive 0 run.clock = true ∧
      ({ node := briefNode } : Handle).startWithRetry briefWorld 1 none run =
        (some (.error (.startupFailed briefNode.name 1
          (ClusterError.nodeAlreadyRunning briefNode.name).message)), last) ∧
      ¬last.state.host.isAlive 0 last.clock = true := by
  rcases start_brief with ⟨files, started⟩
  rcases ended : ({ node := briefNode } : Handle).startWithRetry briefWorld 1 none (served files) with
    ⟨result, last⟩
  rcases ((restart_contract briefLauncher (fun _ _ _ => ages_brief) rfl (course_brief started) none).1
    { node := briefNode } 1 0 rfl (alive_brief files)).2 result last ended with ⟨dead, failed, _⟩
  exact ⟨served files, last, started, rfl, alive_brief files, by rw [ended, failed (Nat.le_refl 1)]; rfl,
    dead⟩

/-- The node serves, and the cluster is started once more: the process of the node is killed. -/
theorem killed_of_second_start :
    ∃ run last error, Order.start.perform briefWorld single none briefStart = (some single, run) ∧
      (run.state.process briefLauncher briefNode).child = some 0 ∧
      run.state.host.isAlive 0 run.clock = true ∧
      single.start briefWorld none run = (some (.error error), last) ∧
      ¬last.state.host.isAlive 0 last.clock = true := by
  rcases start_brief with ⟨files, started⟩
  have guarded : (served files).state.Guarded :=
    Launcher.guarded_course (fun _ _ _ => ages_brief) (course_brief started) nofun
  have held : ((served files).state.process briefLauncher briefNode).child = some 0 := rfl
  have traced : (served files).state.Traced 0 0 (served files).clock :=
    ⟨guarded, Nat.zero_lt_one, .inl ⟨servingNode, rfl, rfl⟩⟩
  have again : ∃ last error, single.start briefWorld none (served files) =
      (some (.error error), last) := by
    rcases @Handle.startWithRetry_of_alive _ briefLauncher (fun _ _ _ premises =>
      (.done (.ok (.affected 0)), premises)) (fun _ rest => (0, rest)) none _ _ { node := briefNode }
      guarded held (alive_brief files) 1 with ⟨stopped, _, _, _, attempted⟩
    have first : startAll briefWorld 1 single.handles none (served files) = (some (.error _), stopped) :=
      Action.bind_of_eq_some attempted
    exact ⟨_, _, (Action.bind_of_eq_some first).trans rfl⟩
  rcases again with ⟨last, error, ended⟩
  have bereft := bereft_of_start (fun _ _ _ => ages_brief) ended _ (List.mem_singleton.mpr rfl) 0 traced
  exact ⟨served files, last, error, started, held, alive_brief files, ended, bereft.ended⟩

end Harness

end GracefulStop
