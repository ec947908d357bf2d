import GracefulStop.Proofs.Node.Rest

/-!
# Starts that are refused

Whether a start is refused follows from the recorded status, and that is brought up to date only where
somebody looks at the child. So a process that is alive is never started a second time, but one that has
ended by itself is refused as well until its end is noticed.
-/

namespace GracefulStop

namespace NodeProcess

namespace Scene

variable (scene : Scene)

/-- The first look of a start that begins now. -/
def begun : Progress (Except ClusterError Unit) × NodeProcess × Host :=
  scene.process.start scene.host ⟨scene.now, scene.now, 0⟩

/-- A start is refused, and changes nothing. -/
def Refuses : Prop :=
  scene.begun =
    (.done (.error (.nodeAlreadyRunning scene.process.name)), scene.process, scene.host)

/-- A start spawns a new child, the only newcomer to the host, or tells why it cannot. -/
def Spawns : Prop :=
  match scene.process.spawn scene.host scene.now with
  | .ok (pid, _) => pid = scene.host.children.length ∧ scene.host.newcomers scene.begun.2.2 = [pid]
  | .error error => scene.begun.1 = .done (.error error)

/-- The child has ended, and nobody has looked at it since. -/
def Unnoticed : Prop :=
  ∃ pid status, scene.process.child = some pid ∧ scene.host.endedAs? pid scene.now = some status

end Scene

/-- What does not look at the child: time passes, the process is asked to leave, a call is dropped, or a
start begins that is refused. -/
inductive Blind : Scene → Scene → Prop
  | pass {scene : Scene} {host : Host} {later : Instant} (ordered : scene.now ≤ later)
      (drifts : scene.host.Drifts scene.now host later) : Blind scene { scene with host, now := later }
  | leave {scene : Scene} {pending : Pending} (due : scene.Due pending)
      (call : pending.call = .leave) : Blind scene (scene.after pending)
  | drop {scene : Scene} : Blind scene { scene with pending := none }
  | refused {scene : Scene} (idle : scene.pending = none) (refuses : scene.Refuses) :
      Blind scene (scene.after ⟨.start, scene.now, 0⟩)

/-- The calls that look at the child. -/
def Call.Looks : Call → Prop
  | .stop | .wait _ | .check => True
  | .start | .leave => False

variable {scene last : Scene} {pending : Pending}

/-! ## Whether a start is refused -/

namespace Scene

theorem refuses_of_taken (taken : scene.process.isTaken = true) : scene.Refuses :=
  start_of_taken rfl taken

theorem spawns_of_untaken (untaken : scene.process.isTaken = false) : scene.Spawns := by
  have begins := scene.process.start_begins scene.host ⟨scene.now, scene.now, 0⟩
  unfold Spawns begun
  generalize scene.process.start scene.host ⟨scene.now, scene.now, 0⟩ = found at begins
  cases begins with
  | again later checks => exact absurd rfl later
  | refused first taken => simp [untaken] at taken
  | failed first _ launched => rw [launched]
  | waits first _ launched added readiness =>
      rw [launched]
      exact ⟨rfl, Host.newcomers_of_one (by simp [added])⟩
  | checked first _ launched added readiness checks =>
      rw [launched]
      exact ⟨rfl, Host.newcomers_of_one (checks.ages.host.count.trans (by simp [added]))⟩

theorem Spawns.not_refuses (spawns : scene.Spawns) : ¬scene.Refuses := by
  intro refuses
  rw [Spawns, refuses] at spawns
  split at spawns
  · rw [Host.newcomers_of_same rfl] at spawns
    exact absurd spawns.2 nofun
  · rename_i error failed
    cases spawns
    exact spawn_eq_error failed _ rfl

theorem Unnoticed.refuses (unnoticed : scene.Unnoticed)
    (taken : scene.process.child.isSome = true → scene.process.isTaken = true) : scene.Refuses := by
  rcases unnoticed with ⟨pid, status, held, ended⟩
  exact refuses_of_taken (taken (by simp [held]))

/-- While an end is not noticed, nothing that was started is alive. -/
theorem Unnoticed.not_alive (unnoticed : scene.Unnoticed)
    (tracks : scene.process.Tracks scene.host scene.now scene.spawned) (pid : Pid) :
    ¬scene.Alive pid := by
  rintro ⟨member, alive⟩
  rcases unnoticed with ⟨other, status, held, ended⟩
  cases (tracks.held_of_isAlive member alive).symm.trans held
  exact Host.not_isAlive_of_ended ended alive

/-- Who looks at the child takes note of its end. -/
theorem Unnoticed.noticed (unnoticed : scene.Unnoticed) (looks : pending.call.Looks) :
    (scene.after pending).process.isTaken = false := by
  rcases unnoticed with ⟨pid, status, held, ended⟩
  unfold after found
  cases call : pending.call with
  | start => simp [call, Call.Looks] at looks
  | leave => simp [call, Call.Looks] at looks
  | stop =>
      simp only [Call.look, (stop_of_held held).1 status ended]
      rfl
  | wait timeout =>
      simp only [Call.look, NodeProcess.wait, held, reap_of_ended held ended]
      rfl
  | check =>
      simp only [Call.look, NodeProcess.isRunning, reap_of_ended held ended]
      rfl

end Scene

theorem Blind.use (blind : Blind scene last) : Use scene last := by
  cases blind with
  | pass ordered drifts => exact .step (.pass ordered drifts)
  | leave due call => exact .step (.look due)
  | drop => exact .drop
  | refused idle refuses => exact .step (.look (.inr ⟨idle, rfl, rfl⟩))

theorem Blind.unnoticed (blind : Blind scene last) (unnoticed : scene.Unnoticed) :
    last.Unnoticed := by
  rcases unnoticed with ⟨pid, status, held, ended⟩
  cases blind with
  | pass ordered drifts => exact ⟨pid, status, held, drifts.ended pid status ended⟩
  | @leave pending due call =>
      refine ⟨pid, status, ?_, ?_⟩ <;> simp only [Scene.after, Scene.found, call, Call.look]
      · exact held
      · rw [askToLeave, held]
        exact (scene.host.drifts_signal pid scene.now scene.process.signal).ended pid status ended
  | drop => exact ⟨pid, status, held, ended⟩
  | refused idle refuses =>
      have found : scene.found ⟨.start, scene.now, 0⟩ =
          (.done (.started (.error (.nodeAlreadyRunning scene.process.name))), scene.process,
            scene.host) :=
        congrArg (fun found => (replied .started found.1, found.2.1, found.2.2)) refuses
      rw [Scene.after_of_refused idle found]
      exact ⟨pid, status, held, ended⟩

/-! ## What holds of every process -/

variable {process : NodeProcess} {host : Host} {now : Instant}

/-- A process that is starting or running has a child. -/
def Backed (process : NodeProcess) : Prop := process.isTaken = true → process.child.isSome = true

theorem backed_of_untaken (untaken : process.isTaken = false) : process.Backed := by
  intro taken
  rw [untaken] at taken
  cases taken

theorem Checks.backed {look : Look} {found : Progress (Except ClusterError Unit) × NodeProcess × Host}
    (checks : process.Checks host look found) (held : process.child.isSome = true) :
    found.2.1.Backed := by
  cases checks with
  | ended held ended => exact backed_of_untaken rfl
  | serves going serves => exact fun _ => held
  | late going unready late => exact backed_of_untaken rfl
  | waits going unready early => exact fun _ => held

theorem Begins.backed {look : Look} {found : Progress (Except ClusterError Unit) × NodeProcess × Host}
    (begins : process.Begins host look found) (backed : process.Backed)
    (again : look.index ≠ 0 → process.child.isSome = true) : found.2.1.Backed := by
  cases begins with
  | again later checks => exact checks.backed (again later)
  | refused first taken => exact backed
  | failed first untaken launched => exact backed_of_untaken rfl
  | waits first untaken launched added readiness => exact fun _ => rfl
  | checked first untaken launched added readiness checks => exact checks.backed rfl

theorem Stops.backed {found : NodeProcess × Host} (stops : process.Stops host now found)
    (backed : process.Backed) : found.1.Backed := by
  cases stops with
  | rests free settled => exact backed
  | marked free unsettled => exact backed_of_untaken rfl
  | ended held ended => exact backed_of_untaken rfl
  | killed held going => exact backed_of_untaken rfl

theorem Reaps.backed {found : Option Int × NodeProcess} (reaps : process.Reaps host now found)
    (backed : process.Backed) : found.2.Backed := by
  cases reaps with
  | ended held ended => exact backed_of_untaken rfl
  | going going => exact backed

theorem Backed.after (backed : scene.process.Backed)
    (again : pending.call = .start → pending.index ≠ 0 → scene.process.child.isSome = true) :
    (scene.after pending).process.Backed := by
  unfold Scene.after Scene.found
  cases call : pending.call with
  | start => exact (scene.process.start_begins scene.host _).backed backed (again call)
  | stop => exact (scene.process.stop_stops scene.host scene.now).backed backed
  | wait timeout =>
      rcases (scene.process.wait_waits scene.host timeout
        ⟨pending.began, scene.now, pending.index⟩).reaps with ⟨code, reaps⟩
      exact reaps.backed backed
  | leave => exact backed
  | check => exact (scene.process.reap_reaps scene.host scene.now).backed backed

namespace Scene

/-- What holds of a scene however the process has been used, even if calls were dropped. -/
structure Steady (scene : Scene) : Prop where
  tracks : scene.process.Tracks scene.host scene.now scene.spawned
  poised : scene.process.Poised scene.pending
  backed : scene.process.Backed

theorem Fresh.steady (fresh : scene.Fresh) : scene.Steady where
  tracks := fresh.sound.tracks
  poised := by
    rw [fresh.pending]
    exact poised_of_free fresh.child
  backed := backed_of_untaken (by rw [isTaken, fresh.status]; rfl)

theorem Steady.use (steady : scene.Steady) (use : Use scene last) : last.Steady where
  poised := use.poised steady.poised
  tracks := by
    cases use with
    | step step =>
        cases step with
        | look due =>
            refine tracks_after steady.tracks (fun _ => steady.poised.again due) fun _ _ untaken => ?_
            exact (steady.poised.free untaken).1
        | pass ordered drifts => exact steady.tracks.drift drifts
    | drop => exact steady.tracks
  backed := by
    cases use with
    | step step =>
        cases step with
        | look due => exact steady.backed.after fun _ => steady.poised.again due
        | pass ordered drifts => exact steady.backed
    | drop => exact steady.backed

theorem steady_of_reaches {first : Scene} (fresh : first.Fresh)
    (reaches : Relation.ReflTransGen Use first last) : last.Steady := by
  induction reaches with
  | refl => exact fresh.steady
  | tail _ use ih => exact ih.use use

/-- A child that has not ended is alive, and any other end is one that nobody has noticed. -/
theorem Steady.alive_or_unnoticed (steady : scene.Steady) (held : scene.process.child.isSome = true) :
    (∃ pid, scene.Alive pid) ∨ scene.Unnoticed := by
  rcases Option.isSome_iff_exists.mp held with ⟨pid, holds⟩
  cases ended : scene.host.endedAs? pid scene.now with
  | some status => exact .inr ⟨pid, status, holds, ended⟩
  | none =>
      have member := steady.tracks.mem_of_held holds
      have stands := List.getElem?_eq_getElem (steady.tracks.inside pid member)
      refine .inl ⟨pid, member, Host.isAlive_iff.mpr ⟨_, stands, ?_⟩⟩
      simpa only [Host.endedAs?, stands, Option.bind_some] using ended

theorem Steady.refuses_iff (steady : scene.Steady) :
    scene.Refuses ↔ (∃ pid, scene.Alive pid) ∨ scene.Unnoticed := by
  constructor
  · intro refuses
    apply steady.alive_or_unnoticed
    cases taken : scene.process.isTaken with
    | true => exact steady.backed taken
    | false => exact absurd refuses (spawns_of_untaken taken).not_refuses
  · rintro (⟨pid, member, alive⟩ | unnoticed)
    · have held := steady.tracks.held_of_isAlive member alive
      exact refuses_of_taken (steady.poised.taken (by simp [held]))
    · exact unnoticed.refuses steady.poised.taken

theorem Steady.blind {later : Scene} (steady : scene.Steady) (unnoticed : scene.Unnoticed)
    (blind : Relation.ReflTransGen Blind scene later) : later.Steady ∧ later.Unnoticed := by
  induction blind with
  | refl => exact ⟨steady, unnoticed⟩
  | tail _ blind ih => exact ⟨ih.1.use blind.use, blind.unnoticed ih.2⟩

end Scene

/-- However a process is used from the beginning on, and even if calls are dropped: a start is refused if
and only if something that it has started is alive or has ended without being noticed; otherwise it
spawns a new child. An end that is not noticed has every start refused though nothing is alive, until
somebody looks at the child, after which a start spawns a new one. -/
theorem start_refusal_contract {first last : Scene} (fresh : first.Fresh)
    (reaches : Relation.ReflTransGen Use first last) :
    (last.Refuses ↔ (∃ pid, last.Alive pid) ∨ last.Unnoticed) ∧
    (¬last.Refuses → last.Spawns) ∧
    (last.Unnoticed → (∀ pid, ¬last.Alive pid) ∧
      (∀ later, Relation.ReflTransGen Blind last later →
        later.Refuses ∧ ∀ pid, ¬later.Alive pid) ∧
      ∀ pending, last.Due pending → pending.call.Looks → (last.after pending).Spawns) := by
  have steady := Scene.steady_of_reaches fresh reaches
  refine ⟨steady.refuses_iff, fun unrefused => ?_, fun unnoticed => ⟨?_, ?_, ?_⟩⟩
  · cases taken : last.process.isTaken with
    | true => exact absurd (Scene.refuses_of_taken taken) unrefused
    | false => exact Scene.spawns_of_untaken taken
  · exact unnoticed.not_alive steady.tracks
  · intro later blind
    rcases steady.blind unnoticed blind with ⟨steadyLater, still⟩
    exact ⟨still.refuses steadyLater.poised.taken, still.not_alive steadyLater.tracks⟩
  · exact fun pending _ looks => Scene.spawns_of_untaken (unnoticed.noticed looks)

/-- The process that serves has ended by itself, and nobody has looked. -/
def ended (host : Host) : Scene := { serving host with host := ending host }

theorem reaches_ended {host : Host} (reaches : Relation.ReflTransGen Step nameless (serving host)) :
    Relation.ReflTransGen Use nameless (ended host) := by
  have ends : Step (serving host) (ended host) :=
    .pass (Nat.le_refl 0) (Host.drifts_modify (fun _ _ gone => Child.endNow_of_ended gone _) 0)
  exact Relation.ReflTransGen.mono (fun _ _ step => Use.step step) _ _ (reaches.tail ends)

/-- A process of which nothing is alive is said to be running already. -/
theorem start_refused_of_ended : ∃ scene, Relation.ReflTransGen Use nameless scene ∧
    scene.pending = none ∧ scene.begun.1 = .done (.error (.nodeAlreadyRunning "")) ∧
    ∀ pid, ¬scene.Alive pid := by
  rcases reaches_serving with ⟨host, alive, reaches⟩
  refine ⟨ended host, reaches_ended reaches, rfl, rfl, ?_⟩
  rintro pid ⟨member, living⟩
  cases List.mem_singleton.mp member
  exact Host.not_isAlive_of_ended (ended_ending alive) living

/-- While it serves a start is refused, and also once it has ended by itself. After a look at it a start
spawns a new child. -/
theorem start_refusal_contract_of_nameless :
    ∃ host, Relation.ReflTransGen Use nameless (ended host) ∧ (serving host).Refuses ∧
      (serving host).Alive 0 ∧ (ended host).Refuses ∧ (∀ pid, ¬(ended host).Alive pid) ∧
      ((ended host).after ⟨.check, ⟨0⟩, 0⟩).Spawns := by
  rcases reaches_serving with ⟨host, alive, reaches⟩
  have serves : (serving host).Alive 0 := ⟨List.mem_singleton.mpr rfl, alive⟩
  have uses : Relation.ReflTransGen Use nameless (serving host) :=
    Relation.ReflTransGen.mono (fun _ _ step => Use.step step) _ _ reaches
  have unnoticed : (ended host).Unnoticed := ⟨0, .exited 6, rfl, ended_ending alive⟩
  rcases start_refusal_contract ⟨rfl, rfl, rfl, rfl⟩ (reaches_ended reaches) with ⟨refuses, _, dead⟩
  rcases dead unnoticed with ⟨notAlive, _, noticed⟩
  refine ⟨host, reaches_ended reaches, ?_, serves, refuses.mpr (.inr unnoticed), notAlive, ?_⟩
  · exact (start_refusal_contract ⟨rfl, rfl, rfl, rfl⟩ uses).1.mpr (.inl ⟨0, serves⟩)
  · exact noticed _ (.inr ⟨rfl, rfl, rfl⟩) trivial

end NodeProcess

end GracefulStop
