import GracefulStop.Cluster.Error
import GracefulStop.Text.Blank

/-!
# Signals

A signal is named with or without the letters `SIG`, in any case and between blanks.
-/

namespace GracefulStop

/-- The names of the signals that a process can be sent, without `SIG`, with their numbers. -/
def signalNumbers : List (String × Nat) :=
  [("HUP", 1), ("INT", 2), ("QUIT", 3), ("ILL", 4), ("TRAP", 5), ("ABRT", 6), ("BUS", 7),
    ("FPE", 8), ("KILL", 9), ("USR1", 10), ("SEGV", 11), ("USR2", 12), ("PIPE", 13), ("ALRM", 14),
    ("TERM", 15), ("STKFLT", 16), ("CHLD", 17), ("CONT", 18), ("STOP", 19), ("TSTP", 20),
    ("TTIN", 21), ("TTOU", 22), ("URG", 23), ("XCPU", 24), ("XFSZ", 25), ("VTALRM", 26),
    ("PROF", 27), ("WINCH", 28), ("IO", 29), ("PWR", 30), ("SYS", 31)]

/-- A signal that asks a node to leave. -/
structure Signal where
  /-- The full name, such as `SIGUSR2`. -/
  name : String
  number : Nat
  deriving DecidableEq, Repr, Inhabited

namespace Signal

/-- The signal that asks a node to leave its cluster. -/
def usr2 : Signal := ⟨"SIGUSR2", 12⟩

/-- The plain request to end. -/
def term : Signal := ⟨"SIGTERM", 15⟩

/-- The full name that a text stands for. -/
def fullName (text : String) : String :=
  let upper := Text.upperAscii (Text.trim text)
  if Text.beginsWith upper "SIG" then upper else "SIG" ++ upper

/-- Reads the name of a signal. -/
def parse (text : String) : Except ClusterError Signal :=
  let name := fullName text
  match signalNumbers.lookup (String.ofList (name.toList.drop 3)) with
  | some number => .ok ⟨name, number⟩
  | none => .error (.unsupportedSignal text)

end Signal

end GracefulStop
