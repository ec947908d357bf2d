import GracefulStop.Proofs.Node.Standing

/-!
# A process at rest

Once a process has no child and is not starting, nothing that is asked of it short of a start changes
anything: neither the process, nor its host, nor how it stands. A recorded exit code is given again and
again, and stopping the process a second time is the same as stopping it once.

A call may be dropped at any moment, also a start or a wait that is not over.
-/

namespace GracefulStop

theorem Host.not_isAlive_kill (host : Host) (pid : Pid) (now : Instant) :
    ¬(host.kill pid now).isAlive pid now = true := by
  intro alive
  have inside : pid < host.children.length := by
    rcases isAlive_iff.mp ((host.ages_kill pid now).alive pid now alive) with ⟨child, stands, _⟩
    exact (List.getElem?_eq_some_iff.mp stands).1
  rcases Host.ended_kill inside now with ⟨status, ended⟩
  exact Host.not_isAlive_of_ended ended alive

namespace NodeProcess

/-- Something is done with a process or passes it, or the call that is under way is dropped. -/
inductive Use : Scene → Scene → Prop
  | step {scene last : Scene} (step : Step scene last) : Use scene last
  | drop {scene : Scene} : Use scene { scene with pending := none }

/-- Something other than a start is asked of a process, or time passes, with whatever comes of its
host. -/
inductive Quiet : Scene → Scene → Prop
  | look {scene : Scene} {pending : Pending} (due : scene.Due pending) (other : pending.call ≠ .start) :
      Quiet scene (scene.after pending)
  | pass {scene : Scene} {host : Host} {later : Instant} : Quiet scene { scene with host, now := later }

/-- What a process at rest replies to everything but a start, where `known` is known of its end. -/
inductive Replies (known : Except ClusterError (Option Int)) : Call → Reply → Prop
  | stop : Replies known .stop .stopped
  | wait (timeout : Duration) : Replies known (.wait timeout) (.waited known)
  | leave : Replies known .leave .left
  | check : Replies known .check (.checked false)

/-- Whatever is asked of the process short of a start, its status stays, nothing happens to its host, and
its replies do not change. -/
def Scene.Settles (scene : Scene) (status : NodeStatus) (known : Except ClusterError (Option Int)) :
    Prop :=
  ∀ later, Relation.ReflTransGen Quiet scene later →
    later.process.status = status ∧ later.pending = none ∧
      ∀ pending, later.Due pending → pending.call ≠ .start → ∃ reply, Replies known pending.call reply ∧
        later.found pending = (.done reply, later.process, later.host)

variable {process : NodeProcess} {host : Host} {pid : Pid} {now : Instant}

/-! ## What holds of every process -/

/-- A process with a child is starting or running, and a call that is not over is one of a process with
a child. -/
structure Poised (process : NodeProcess) (pending : Option Pending) : Prop where
  taken : process.child.isSome = true → process.isTaken = true
  busy : pending ≠ none → process.child.isSome = true

theorem poised_of_free (free : process.child = none) : process.Poised none where
  taken held := by simp [free] at held
  busy under := absurd rfl under

theorem Poised.idle {pending : Option Pending} (poised : process.Poised pending) :
    process.Poised none := ⟨poised.taken, fun under => absurd rfl under⟩

theorem Poised.free {pending : Option Pending} (poised : process.Poised pending)
    (untaken : process.isTaken = false) : process.child = none ∧ pending = none := by
  have free : process.child = none := by
    rw [← Option.not_isSome_iff_eq_none]
    intro held
    rw [poised.taken held] at untaken
    cases untaken
  refine ⟨free, Decidable.byContradiction fun under => ?_⟩
  have held := poised.busy under
  rw [free] at held
  cases held

theorem Checks.poised {look : Look} {pending : Pending}
    {found : Progress (Except ClusterError Unit) × NodeProcess × Host}
    (checks : process.Checks host look found) (held : process.child.isSome = true)
    (taken : process.isTaken = true) :
    found.2.1.Poised (pending.next (replied .started found.1)) := by
  cases checks with
  | ended held ended => exact poised_of_free rfl
  | serves going serves => exact ⟨fun _ => rfl, fun under => absurd rfl under⟩
  | late going unready late => exact poised_of_free rfl
  | waits going unready early => exact ⟨fun _ => taken, fun _ => held⟩

theorem Begins.poised {look : Look} {pending : Pending}
    {found : Progress (Except ClusterError Unit) × NodeProcess × Host}
    (begins : process.Begins host look found) (poised : process.Poised none)
    (again : look.index ≠ 0 → process.child.isSome = true) :
    found.2.1.Poised (pending.next (replied .started found.1)) := by
  cases begins with
  | again later checks => exact checks.poised (again later) (poised.taken (again later))
  | refused first taken => exact poised
  | failed first untaken launched => exact poised_of_free (poised.free untaken).1
  | waits first untaken launched added readiness => exact ⟨fun _ => rfl, fun _ => rfl⟩
  | checked first untaken launched added readiness checks => exact checks.poised rfl rfl

theorem Waits.poised {timeout : Duration} {look : Look} {pending : Pending}
    {found : Progress (Except ClusterError (Option Int)) × NodeProcess}
    (waits : process.Waits host timeout look found) (poised : process.Poised none) :
    found.2.Poised (pending.next (replied .waited found.1)) := by
  cases waits with
  | known free exited => exact poised
  | unknown free going => exact poised
  | ended held ended => exact poised_of_free rfl
  | late held going late => exact poised
  | waits held going early => exact ⟨poised.taken, fun _ => by simp [held]⟩

theorem Reaps.poised {found : Option Int × NodeProcess} (reaps : process.Reaps host now found)
    (poised : process.Poised none) : found.2.Poised none := by
  cases reaps with
  | ended held ended => exact poised_of_free rfl
  | going going => exact poised

/-- A call that is not at its first look is under way, so that the process has a child. -/
theorem Poised.again {scene : Scene} {pending : Pending} (poised : scene.process.Poised scene.pending)
    (due : scene.Due pending) (later : pending.index ≠ 0) : scene.process.child.isSome = true := by
  rcases due with under | ⟨_, _, first⟩
  · exact poised.busy (by simp [under])
  · exact absurd first later

theorem poised_found {scene : Scene} {pending : Pending} (poised : scene.process.Poised scene.pending)
    (due : scene.Due pending) :
    (scene.found pending).2.1.Poised (pending.next (scene.found pending).1) := by
  have idle := poised.idle
  unfold Scene.found
  cases call : pending.call with
  | start => exact (scene.process.start_begins scene.host _).poised idle (poised.again due)
  | stop => exact poised_of_free (scene.process.ages_stop scene.host scene.now).1
  | wait timeout => exact (scene.process.wait_waits scene.host timeout _).poised idle
  | leave => exact idle
  | check => exact (scene.process.reap_reaps scene.host scene.now).poised idle

theorem Use.poised {scene last : Scene} (use : Use scene last)
    (poised : scene.process.Poised scene.pending) : last.process.Poised last.pending := by
  cases use with
  | step step =>
      cases step with
      | look due => exact poised_found poised due
      | pass ordered drifts => exact poised
  | drop => exact poised.idle

theorem poised_of_reaches {first last : Scene} (fresh : first.Fresh)
    (reaches : Relation.ReflTransGen Use first last) : last.process.Poised last.pending := by
  induction reaches with
  | refl =>
      rw [fresh.pending]
      exact poised_of_free fresh.child
  | tail _ use ih => exact use.poised ih

/-! ## Rest -/

namespace Scene

/-- A process without a child that is not starting, and of which nothing is asked. -/
structure Rests (scene : Scene) : Prop where
  free : scene.process.child = none
  untaken : scene.process.isTaken = false
  idle : scene.pending = none

/-- What is known of the end of a process without a child. -/
def known (scene : Scene) : Except ClusterError (Option Int) :=
  match scene.process.status with
  | .exited code => .ok (some code)
  | _ => .error (.nodeNotRunning scene.process.name)

variable {scene later : Scene} {pending : Pending} {status : NodeStatus} {code : Int}

theorem known_of_exited (exited : scene.process.status = .exited code) :
    scene.known = .ok (some code) := by
  rw [known, exited]

theorem Rests.stop (rests : scene.Rests) :
    scene.process.stop scene.host scene.now = (scene.process, scene.host) := by
  have stops := scene.process.stop_stops scene.host scene.now
  have free := rests.free
  generalize scene.process.stop scene.host scene.now = found at stops
  cases stops with
  | rests free settled => rfl
  | marked free unsettled =>
      rcases unsettled with stopped | taken
      · rw [← stopped, ← free]
      · rw [rests.untaken] at taken
        cases taken
  | ended held ended =>
      rw [free] at held
      cases held
  | killed held going =>
      rw [free] at held
      cases held

/-- A process at rest stays as it is, whatever is asked of it but a start. -/
theorem Rests.found (rests : scene.Rests) (other : pending.call ≠ .start) : ∃ reply,
    Replies scene.known pending.call reply ∧
      scene.found pending = (.done reply, scene.process, scene.host) := by
  have free := rests.free
  unfold Scene.found
  cases call : pending.call with
  | start => exact absurd call other
  | stop =>
      refine ⟨_, .stop, ?_⟩
      rw [Call.look, rests.stop]
  | wait timeout =>
      refine ⟨_, .wait timeout, ?_⟩
      simp only [Call.look, NodeProcess.wait, free, known]
      cases scene.process.status <;> rfl
  | leave =>
      refine ⟨_, .leave, ?_⟩
      rw [Call.look, askToLeave, free]
  | check =>
      refine ⟨_, .check, ?_⟩
      simp [Call.look, isRunning, reap, free]

theorem Rests.quiet {last : Scene} (rests : scene.Rests) (quiet : Quiet scene last) :
    last.Rests ∧ last.process = scene.process := by
  cases quiet with
  | look due other =>
      rcases rests.found other with ⟨reply, _, found⟩
      rw [after_of_found found]
      exact ⟨⟨rests.free, rests.untaken, rfl⟩, rfl⟩
  | pass => exact ⟨⟨rests.free, rests.untaken, rests.idle⟩, rfl⟩

theorem Rests.reaches (rests : scene.Rests) (reaches : Relation.ReflTransGen Quiet scene later) :
    later.Rests ∧ later.process = scene.process := by
  induction reaches with
  | refl => exact ⟨rests, rfl⟩
  | tail _ quiet ih =>
      rcases ih.1.quiet quiet with ⟨rests, same⟩
      exact ⟨rests, same.trans ih.2⟩

theorem Rests.settles (rests : scene.Rests) : scene.Settles scene.process.status scene.known := by
  intro later reaches
  rcases rests.reaches reaches with ⟨restsLater, same⟩
  refine ⟨by rw [same], restsLater.idle, fun pending _ other => ?_⟩
  have known : later.known = scene.known := by rw [Scene.known, Scene.known, same]
  exact known ▸ restsLater.found other

end Scene

/-! ## What brings a process to rest -/

theorem Checks.of_error {look : Look} {error : ClusterError}
    {found : Progress (Except ClusterError Unit) × NodeProcess × Host}
    (checks : process.Checks host look found) (failed : found.1 = .done (.error error)) :
    found.2.1 = { process with child := none, status := .crashed } := by
  cases checks with
  | ended held ended => rfl
  | serves going serves => cases failed
  | late going unready late => rfl
  | waits going unready early => cases failed

theorem Begins.of_error {look : Look} {error : ClusterError}
    {found : Progress (Except ClusterError Unit) × NodeProcess × Host}
    (begins : process.Begins host look found) (poised : process.Poised none)
    (failed : found.1 = .done (.error error)) (other : ∀ name, error ≠ .nodeAlreadyRunning name) :
    found.2.1 = { process with child := none, status := .crashed } := by
  cases begins with
  | again later checks => exact checks.of_error failed
  | refused first taken =>
      cases failed
      exact absurd rfl (other _)
  | failed first untaken launched => rw [← (poised.free untaken).1]
  | waits first untaken launched added readiness => cases failed
  | checked first untaken launched added readiness checks => exact checks.of_error failed

theorem replied_eq_done {Answer : Type} {reply : Answer → Reply} {progress : Progress Answer}
    {given : Reply} (ended : replied reply progress = .done given) :
    ∃ answer, progress = .done answer ∧ given = reply answer := by
  cases progress with
  | done answer =>
      cases ended
      exact ⟨answer, rfl, rfl⟩
  | pause length => cases ended
  | stalled => cases ended

theorem Scene.after_of_error {scene : Scene} {pending : Pending} {error : ClusterError}
    (poised : scene.process.Poised none) (call : pending.call = .start)
    (failed : (scene.found pending).1 = .done (.started (.error error)))
    (other : ∀ name, error ≠ .nodeAlreadyRunning name) :
    (scene.after pending).process = { scene.process with child := none, status := .crashed } ∧
      (scene.after pending).pending = none := by
  rw [Scene.after, failed]
  refine ⟨?_, rfl⟩
  simp only [Scene.found, call, Call.look] at failed ⊢
  rcases replied_eq_done failed with ⟨answer, came, same⟩
  cases same
  exact (start_begins _ _ _).of_error poised came other

/-- However a process is used from the beginning on, and even if calls are dropped: once a call has
recorded an exit code, everything but a start leaves it, and every wait gives it again. The same holds
after a stop and after a start that has failed. A stop kills a child that is alive; of one that has ended
it records the exit code. -/
theorem rest_contract {first last : Scene} (fresh : first.Fresh)
    (reaches : Relation.ReflTransGen Use first last) :
    (∀ code, last.process.status = .exited code → last.Settles (.exited code) (.ok (some code))) ∧
    (∀ pending pid, last.Due pending → pending.call = .stop → last.process.child = some pid →
      (last.host.endedAs? pid last.now = none →
        (last.after pending).host = last.host.kill pid last.now ∧
        ¬(last.after pending).host.isAlive pid last.now = true ∧
        (last.after pending).Settles .stopped (.error (.nodeNotRunning last.process.name))) ∧
      ∀ status, last.host.endedAs? pid last.now = some status →
        (last.after pending).host = last.host ∧
        (last.after pending).Settles (.exited status.code) (.ok (some status.code))) ∧
    ∀ pending error, last.Due pending → pending.call = .start →
      (last.found pending).1 = .done (.started (.error error)) →
      (∀ name, error ≠ .nodeAlreadyRunning name) →
      (last.after pending).Settles .crashed (.error (.nodeNotRunning last.process.name)) := by
  have poised := poised_of_reaches fresh reaches
  refine ⟨?_, ?_, ?_⟩
  · intro code exited
    have untaken : last.process.isTaken = false := by simp [isTaken, exited]
    rcases poised.free untaken with ⟨free, idle⟩
    have settles := Scene.Rests.settles ⟨free, untaken, idle⟩
    rwa [exited, Scene.known_of_exited exited] at settles
  · intro pending pid due call held
    have stops := @stop_of_held _ last.host last.now _ held
    constructor
    · intro going
      have found : last.found pending = (.done .stopped,
          { last.process with child := none, status := .stopped }, last.host.kill pid last.now) := by
        rw [Scene.found, call, Call.look, stops.2 going]
      rw [Scene.after_of_found found]
      refine ⟨rfl, last.host.not_isAlive_kill pid last.now, ?_⟩
      exact Scene.Rests.settles ⟨rfl, rfl, rfl⟩
    · intro status ended
      have found : last.found pending = (.done .stopped,
          { last.process with child := none, status := .exited status.code }, last.host) := by
        rw [Scene.found, call, Call.look, stops.1 status ended]
      rw [Scene.after_of_found found]
      refine ⟨rfl, ?_⟩
      exact Scene.Rests.settles ⟨rfl, rfl, rfl⟩
  · intro pending error due call failed other
    rcases Scene.after_of_error poised.idle call failed other with ⟨process, idle⟩
    have settles : (last.after pending).Settles _ _ :=
      Scene.Rests.settles ⟨by rw [process], by rw [process]; rfl, idle⟩
    rw [Scene.known, process] at settles
    exact settles

/-- The host after a child has ended by itself. -/
def ending (host : Host) : Host :=
  { host with children := host.children.modify 0 fun child => child.endNow ⟨0⟩ (.exited 6) }

theorem ended_ending (alive : host.isAlive 0 ⟨0⟩ = true) :
    (ending host).endedAs? 0 ⟨0⟩ = some (.exited 6) := by
  rcases Host.isAlive_iff.mp alive with ⟨child, stands, going⟩
  refine Host.endedAs?_eq_some.mpr ⟨child.endNow ⟨0⟩ (.exited 6), ?_, ?_⟩
  · simp [ending, stands]
  · have ends : child.endNow ⟨0⟩ (.exited 6) = { child with ending := some (⟨0⟩, .exited 6) } := by
      simp only [Child.endNow, going, Option.isSome_none, Bool.false_eq_true, if_false]
    rw [ends]
    rfl

/-- A process that serves ends by itself, and a look records that. Its exit code is not forgotten. -/
theorem rest_contract_of_nameless : ∃ scene, Relation.ReflTransGen Use nameless scene ∧
    scene.process.status = .exited 6 ∧ scene.Settles (.exited 6) (.ok (some 6)) := by
  rcases reaches_serving with ⟨host, alive, reaches⟩
  have ends : Step (serving host) { serving host with host := ending host } :=
    .pass (Nat.le_refl 0) (Host.drifts_modify (fun _ _ ended => Child.endNow_of_ended ended _) 0)
  let ended : Scene := { serving host with host := ending host }
  have checks : Step ended (ended.after ⟨.check, ⟨0⟩, 0⟩) := .look (.inr ⟨rfl, rfl, rfl⟩)
  have reaped : ended.process.reap ended.host ended.now =
      (some 6, { ended.process with child := none, status := .exited 6 }) :=
    reap_of_ended rfl (ended_ending alive)
  have found : ended.found ⟨.check, ⟨0⟩, 0⟩ = (.done (.checked false),
      { ended.process with child := none, status := .exited 6 }, ended.host) := by
    rw [Scene.found, Call.look, isRunning, reaped]
    rfl
  have exited : (ended.after ⟨.check, ⟨0⟩, 0⟩).process.status = .exited 6 := by
    rw [Scene.after_of_found found]
  have all : Relation.ReflTransGen Step nameless (ended.after ⟨.check, ⟨0⟩, 0⟩) :=
    (reaches.tail ends).tail checks
  have uses : Relation.ReflTransGen Use nameless (ended.after ⟨.check, ⟨0⟩, 0⟩) :=
    Relation.ReflTransGen.mono (fun _ _ step => Use.step step) _ _ all
  exact ⟨_, uses, exited, (rest_contract ⟨rfl, rfl, rfl, rfl⟩ uses).1 6 exited⟩

end NodeProcess

end GracefulStop
