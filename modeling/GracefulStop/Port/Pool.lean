import GracefulStop.Cluster.Error
import GracefulStop.Port.Range
import GracefulStop.Power

/-!
# Pools of ports

A pool hands out ranges of ports from its cursor up to its end, and never goes back. A probing pool
looks at each port before it hands it out, and starts again behind one that is in use.

The size of a range is taken modulo `2 ^ 32` where it is compared with the ports left, and modulo
`2 ^ 16` where the range is cut. The sum of the cursor and a size has no bound here; it is the sum in
32 bits as long as it stays below `2 ^ 32`.
-/

namespace GracefulStop

/-- The ports from `cursor` up to `stop`, the latter not among them. -/
structure PortPool where
  cursor : Nat
  stop : Nat
  /-- Whether ports are looked at before they are handed out. -/
  probing : Bool
  deriving DecidableEq, Repr, Inhabited

namespace PortPool

variable {State : Type}

/-- The first of so many ports from `first` on that the probe reports as in use, by its distance
from `first`. -/
def firstBusy (probe : Nat → State → Bool × State) (first : Nat) :
    (count : Nat) → (skipped : Nat) → State → Option Nat × State
  | 0, _, state => (none, state)
  | count + 1, skipped, state =>
    match probe (first + skipped) state with
    | (true, state) => (some skipped, state)
    | (false, state) => firstBusy probe first count (skipped + 1) state

/-- The size of a range in the arithmetic of the cursor. -/
def cursorSize (size : Nat) : Nat := size % 2 ^ 32

/-- The size of a range in the arithmetic of ports. -/
def rangeSize (size : Nat) : Nat := size % 2 ^ 16

/-- Reserves a range from the cursor on. -/
def reserveFrom (probe : Nat → State → Bool × State) (size : Nat) (pool : PortPool)
    (state : State) : Except ClusterError PortRange × PortPool × State :=
  if pool.cursor + cursorSize size > pool.stop then
    (.error (.portsExhausted size pool.cursor pool.stop), pool, state)
  else
    let range := PortRange.ofLength pool.cursor (rangeSize size)
    let (busy, state) :=
      if pool.probing then firstBusy probe pool.cursor range.ports.length 0 state
      else (none, state)
    match busy with
    | some skipped =>
      reserveFrom probe size { pool with cursor := pool.cursor + skipped + 1 } state
    | none => (.ok range, { pool with cursor := pool.cursor + cursorSize size }, state)
termination_by pool.stop + 1 - pool.cursor

/-- Reserves so many ports in a row, at least one. -/
def reserve (probe : Nat → State → Bool × State) (size : Nat) (pool : PortPool) (state : State) :
    Except ClusterError PortRange × PortPool × State :=
  if size = 0 then (.error (.invalidNodeCount 0), pool, state)
  else reserveFrom probe size pool state

/-- Reserves a single port. -/
def next (probe : Nat → State → Bool × State) (pool : PortPool) (state : State) :
    Except ClusterError Nat × PortPool × State :=
  match reserve probe 1 pool state with
  | (.ok range, rest) => (.ok range.first, rest)
  | (.error error, rest) => (.error error, rest)

end PortPool

end GracefulStop
