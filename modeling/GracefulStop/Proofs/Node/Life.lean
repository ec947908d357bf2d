import GracefulStop.Proofs.Node.Looks

/-!
# The life of a process

A child of a host that has ended stays so, and no signal prolongs its life. What is done with the
process of a node, other than starting it, starts no child: the process keeps the child that it has or
loses it.
-/

namespace GracefulStop

namespace Child

variable {child : Child} {now earlier later : Instant}

/-- A child that is alive was so before. -/
theorem endedAs?_eq_none_of_le (sooner : earlier ≤ later) (alive : child.endedAs? later = none) :
    child.endedAs? earlier = none := by
  unfold endedAs? at *
  cases ending : child.ending with
  | none => rfl
  | some last =>
      rw [ending] at alive
      simp only [Duration.le_def] at *
      split at alive
      · cases alive
      · rw [if_neg (by omega)]

/-- A child that is ended lives no longer than it would have. -/
theorem endedAs?_of_endNow {status : ExitStatus} {moment : Instant}
    (alive : (child.endNow now status).endedAs? moment = none) : child.endedAs? moment = none := by
  unfold endNow at alive
  split at alive
  · exact alive
  · rename_i going
    have alone : child.endedAs? now = none := by simpa using going
    have sooner : moment ≤ now := by
      simp only [endedAs?, Duration.le_def] at alive ⊢
      split at alive
      · cases alive
      · omega
    exact endedAs?_eq_none_of_le sooner alone

/-- The earlier of two ends is not after either. -/
theorem endedAs?_of_earlier {first second : Ending Instant} {moment : Instant}
    (alive : ({ child with ending := Child.earlier first second } : Child).endedAs? moment = none) :
    ({ child with ending := first } : Child).endedAs? moment = none := by
  rcases first with _ | ⟨firstMoment, firstStatus⟩
  · rfl
  · rcases second with _ | ⟨secondMoment, secondStatus⟩
    · exact alive
    · by_cases nearer : secondMoment < firstMoment
      · simp only [endedAs?, Child.earlier, if_pos nearer] at alive ⊢
        simp only [Duration.le_def, Duration.lt_def] at alive nearer ⊢
        split at alive
        · cases alive
        · rw [if_neg (by omega)]
      · simpa only [Child.earlier, if_neg nearer] using alive

/-- A child that is sent a signal lives no longer than it would have. -/
theorem endedAs?_of_take {signal : Signal} {moment : Instant}
    (alive : (child.take now signal).endedAs? moment = none) : child.endedAs? moment = none := by
  unfold take at alive
  split at alive
  · exact endedAs?_of_endNow alive
  · split at alive
    · exact alive
    · exact endedAs?_of_earlier alive

end Child

namespace Host

variable {host : Host} {pid : Pid} {now moment : Instant}

/-- A child of a host is alive if it was started and has not ended. -/
theorem isAlive_iff : host.isAlive pid now = true ↔
    ∃ child, host.children[pid]? = some child ∧ child.endedAs? now = none := by
  unfold isAlive
  cases host.children[pid]? <;> simp

/-- Time brings no child back. -/
theorem isAlive_of_later {earlier later : Instant} (sooner : earlier ≤ later)
    (alive : host.isAlive pid later = true) : host.isAlive pid earlier = true := by
  obtain ⟨child, stands, going⟩ := isAlive_iff.mp alive
  exact isAlive_iff.mpr ⟨child, stands, Child.endedAs?_eq_none_of_le sooner going⟩

/-- What a host may come to where no child is started: the same children, none of which lives longer. -/
structure Ages (host after : Host) : Prop where
  count : after.children.length = host.children.length
  alive : ∀ pid moment, after.isAlive pid moment = true → host.isAlive pid moment = true

theorem Ages.refl (host : Host) : host.Ages host := ⟨rfl, fun _ _ => id⟩

theorem Ages.trans {between last : Host} (first : host.Ages between) (second : between.Ages last) :
    host.Ages last :=
  ⟨second.count.trans first.count, fun pid moment alive =>
    first.alive pid moment (second.alive pid moment alive)⟩

/-- Changes of one child that do not prolong its life. -/
theorem ages_modify {change : Child → Child}
    (shorter : ∀ child moment, (change child).endedAs? moment = none →
      child.endedAs? moment = none) (pid : Pid) :
    host.Ages { host with children := host.children.modify pid change } where
  count := List.length_modify _ _ _
  alive := by
    intro other moment alive
    obtain ⟨child, stands, going⟩ := isAlive_iff.mp alive
    rw [List.getElem?_modify] at stands
    obtain ⟨before, stood, rfl⟩ := Option.map_eq_some_iff.mp stands
    refine isAlive_iff.mpr ⟨before, stood, ?_⟩
    split at going
    · exact shorter before moment going
    · exact going

theorem ages_kill (host : Host) (pid : Pid) (now : Instant) : host.Ages (host.kill pid now) :=
  ages_modify (fun _ _ => Child.endedAs?_of_endNow) pid

theorem ages_signal (host : Host) (pid : Pid) (now : Instant) (signal : Signal) :
    host.Ages (host.signal pid now signal) :=
  ages_modify (fun _ _ => Child.endedAs?_of_take) pid

end Host

namespace NodeProcess

variable {process : NodeProcess} {host : Host} {now : Instant}

/-- What may come of a process and its host where it is not started: no child lives longer, and the
process has the child that it had, or none. -/
structure Ages (process : NodeProcess) (host : Host) (after : NodeProcess) (hostAfter : Host) :
    Prop where
  host : host.Ages hostAfter
  child : after.child = none ∨ after.child = process.child

theorem Ages.refl (process : NodeProcess) (host : Host) : process.Ages host process host :=
  ⟨.refl host, .inr rfl⟩

/-- A process that is not started gets no other child. -/
theorem Ages.child_eq {after : NodeProcess} {hostAfter : Host} {pid : Pid}
    (ages : process.Ages host after hostAfter) (held : after.child = some pid) :
    process.child = some pid := by
  rcases ages.child with free | same
  · rw [free] at held
    cases held
  · exact same ▸ held

theorem Reaps.ages {found : Option Int × NodeProcess} (reaps : process.Reaps host now found) :
    process.Ages host found.2 host := by
  cases reaps with
  | ended held ended => exact ⟨.refl host, .inl rfl⟩
  | going going => exact .refl process host

/-- A process that has been stopped has no child, and its host only ages. -/
theorem ages_stop (process : NodeProcess) (host : Host) (now : Instant) :
    (process.stop host now).1.child = none ∧ host.Ages (process.stop host now).2 := by
  have stops := process.stop_stops host now
  generalize process.stop host now = found at stops
  cases stops with
  | rests free settled => exact ⟨free, .refl host⟩
  | marked free unsettled => exact ⟨rfl, .refl host⟩
  | ended held ended => exact ⟨rfl, .refl host⟩
  | @killed pid held going => exact ⟨rfl, host.ages_kill pid now⟩

theorem ages_askToLeave (process : NodeProcess) (host : Host) (now : Instant) :
    host.Ages (process.askToLeave host now) := by
  unfold askToLeave
  split
  · exact host.ages_signal _ now process.signal
  · exact .refl host

theorem ages_giveUp (process : NodeProcess) (host : Host) (now : Instant) :
    process.Ages host (process.giveUp host now).1 (process.giveUp host now).2 := by
  refine ⟨?_, .inl rfl⟩
  unfold giveUp
  cases process.child with
  | none => exact .refl host
  | some pid => exact host.ages_kill pid now

/-- A look at a process that is starting starts no other child. -/
theorem Checks.ages {look : Look} {found : Progress (Except ClusterError Unit) × NodeProcess × Host}
    (checks : process.Checks host look found) : process.Ages host found.2.1 found.2.2 := by
  cases checks with
  | ended held ended => exact ⟨.refl host, .inl rfl⟩
  | serves going serves => exact ⟨.refl host, .inr rfl⟩
  | late going unready late => exact ages_giveUp process host look.now
  | waits going unready early => exact .refl process host

/-- What may come of a process and its host where it is started: no child lives longer than before, and
the process has the child that it had, or none, or one that has come after all others. -/
structure Starts (process : NodeProcess) (host : Host) (after : NodeProcess) (hostAfter : Host) :
    Prop where
  count : host.children.length ≤ hostAfter.children.length
  alive : ∀ pid moment, pid < host.children.length → hostAfter.isAlive pid moment = true →
    host.isAlive pid moment = true
  child : ∀ pid, after.child = some pid → process.child = some pid ∨
    pid < hostAfter.children.length

theorem Ages.starts {process after : NodeProcess} {host hostAfter : Host}
    (ages : process.Ages host after hostAfter) : process.Starts host after hostAfter where
  count := Nat.le_of_eq ages.host.count.symm
  alive := fun pid moment _ => ages.host.alive pid moment
  child _ held := .inl (ages.child_eq held)

/-- A process is started as a new child, after which it is looked at or not. -/
theorem starts_of_ages {process after : NodeProcess} {host grown hostAfter : Host} {child : Child}
    (added : grown.children = host.children ++ [child])
    (ages : (process.started host.children.length).Ages grown after hostAfter) :
    process.Starts host after hostAfter where
  count := by
    rw [ages.host.count, added, List.length_append]
    omega
  alive := by
    intro pid moment inside alive
    obtain ⟨found, stands, going⟩ := Host.isAlive_iff.mp (ages.host.alive pid moment alive)
    rw [added, List.getElem?_append_left inside] at stands
    exact Host.isAlive_iff.mpr ⟨found, stands, going⟩
  child := by
    intro pid held
    right
    cases ages.child_eq held
    rw [ages.host.count, added, List.length_append]
    simp

/-- Starting a process starts at most one child, which then is the child of the process. -/
theorem Begins.starts {look : Look} {found : Progress (Except ClusterError Unit) × NodeProcess × Host}
    (begins : process.Begins host look found) : process.Starts host found.2.1 found.2.2 := by
  cases begins with
  | again later checks => exact checks.ages.starts
  | refused first taken => exact (Ages.refl process host).starts
  | failed first untaken spawned => exact Ages.starts ⟨.refl host, .inr rfl⟩
  | waits first untaken spawned added readiness => exact starts_of_ages added (Ages.refl _ _)
  | checked first untaken spawned added readiness checks => exact starts_of_ages added checks.ages

/-- What may be done with a process on its host at some moment, other than a look at its start. -/
inductive Tended (now : Instant) (process : NodeProcess) (host : Host) : NodeProcess → Host → Prop
  | stop : Tended now process host (process.stop host now).1 (process.stop host now).2
  | leave : Tended now process host process (process.askToLeave host now)
  | wait (timeout : Duration) (look : Look) (atOnce : look.now = now) :
      Tended now process host (process.wait host timeout look).2 host
  | check : Tended now process host (process.isRunning host now).2 host

/-- What may be done with a process on its host at some moment. -/
inductive Used (now : Instant) (process : NodeProcess) (host : Host) : NodeProcess → Host → Prop
  | start (look : Look) (atOnce : look.now = now) :
      Used now process host (process.start host look).2.1 (process.start host look).2.2
  | tend {after : NodeProcess} {hostAfter : Host} (tended : Tended now process host after hostAfter) :
      Used now process host after hostAfter

variable {after : NodeProcess} {hostAfter : Host}

theorem Tended.ages (tended : Tended now process host after hostAfter) :
    process.Ages host after hostAfter := by
  cases tended with
  | stop =>
      rcases process.ages_stop host now with ⟨free, aged⟩
      exact ⟨aged, .inl free⟩
  | leave => exact ⟨process.ages_askToLeave host now, .inr rfl⟩
  | wait timeout look atOnce =>
      rcases (process.wait_waits host timeout look).reaps with ⟨code, reaps⟩
      exact reaps.ages
  | check => exact (process.reap_reaps host now).ages

theorem Used.starts (used : Used now process host after hostAfter) :
    process.Starts host after hostAfter := by
  cases used with
  | start look atOnce => exact (process.start_begins host look).starts
  | tend tended => exact tended.ages.starts

end NodeProcess

end GracefulStop
