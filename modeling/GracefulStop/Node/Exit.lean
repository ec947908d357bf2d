import GracefulStop.Power

/-!
# Exit codes

A process ends by itself with a code, or dies from a signal, which counts as the code
`128 + signal`.
-/

namespace GracefulStop

/-- How a process ended. -/
inductive ExitStatus where
  | exited (code : Nat)
  | signalled (signal : Nat)
  /-- A status that reports neither. -/
  | unclear
  deriving DecidableEq, Repr, Inhabited

namespace ExitStatus

/-- Reads a wait status, a word of 32 bits: its low seven bits are zero after an exit, whose code is
in the next byte; all set for a process that has not ended; and otherwise the signal. -/
def ofWord (word : Int) : ExitStatus :=
  let bits := (word % 2 ^ 32).toNat
  if bits % 128 = 0 then .exited (bits / 256 % 256)
  else if bits % 128 = 127 then .unclear
  else .signalled (bits % 128)

/-- The exit code that stands for a status. -/
def code : ExitStatus → Int
  | exited code => code
  | signalled signal => 128 + signal
  | unclear => -1

end ExitStatus

end GracefulStop
