import GracefulStop.Cluster.Harness
import GracefulStop.Proofs.Run.Liveness
import GracefulStop.Proofs.Run.Prompt
import GracefulStop.Shard.Query

/-!
# Obliging surroundings

The simplest surroundings: every node starts at once, is alive until it is stopped or asked to leave,
and every statement succeeds. They show that what is asked of surroundings can be had.
-/

namespace GracefulStop

namespace World

/-- Surroundings in which everything succeeds at once. Their state is the nodes that are alive. -/
def obliging : World (List Nat) where
  launch node _ alive := (.ok (), alive.filter (· ≠ node.serial))
  connect _ _ alive := (.ok (), alive)
  record _ _ alive := (.ok (), alive)
  portInUse _ _ alive := (false, alive)
  start node _ alive := (.done (.ok ()), node.serial :: alive)
  stop node _ alive := (.ok (), alive.filter (· ≠ node.serial))
  signal _ _ alive := (.ok (), alive)
  wait node _ _ alive := (.done (.ok (some 0)), alive.filter (· ≠ node.serial))
  isRunning node _ alive := (alive.contains node.serial, alive)
  query _ request _ alive :=
    let rowCount :=
      if request.statement = Harness.membershipQuery then alive.length
      else if request.statement = ShardQuery.someUnassigned.statement then 1
      else 0
    (.done (.ok (.affected rowCount)), alive)
  draw _ alive := (0, alive)

/-- Obliging surroundings know which nodes are alive. -/
def obligingLiveness : obliging.Liveness where
  alive serial _ alive := serial ∈ alive
  sound _ := True
  sound_touch _ _ := trivial
  alive_of_later _ _ alive := alive
  alive_of_touch := by
    intro deed now before after serial moment touched _ other member
    cases touched with
    | launch node => exact List.mem_of_mem_filter member
    | start node => exact (List.mem_cons.mp member).resolve_left fun same => other node rfl same.symm
    | stop node => exact List.mem_of_mem_filter member
    | wait node => exact List.mem_of_mem_filter member
    | _ => exact member
  not_alive_launch node _ alive _ member := by simp [obliging] at member
  stop_eq_ok _ _ _ _ := rfl
  not_alive_stop node _ alive _ member := by simp [obliging] at member

/-- Obliging surroundings answer at once. -/
theorem prompt_obliging : obliging.Prompt (.ofSeconds 60) where
  short := by decide
  start _ := ⟨nofun, nofun, fun _ _ _ => ⟨_, rfl⟩⟩
  wait _ _ _ := ⟨nofun, nofun, fun _ _ _ => ⟨_, rfl⟩⟩
  query _ _ := ⟨nofun, nofun, fun _ _ _ => ⟨_, rfl⟩⟩

/-- A run in obliging surroundings that has done nothing yet. -/
def obligingStart : Run (List Nat) := .start [] ⟨42000, 44000, false⟩

end World

end GracefulStop
