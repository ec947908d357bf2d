import GracefulStop.FileTree
import GracefulStop.Node.Exit
import GracefulStop.Node.Signal
import GracefulStop.Node.Spec
import GracefulStop.Run.World

/-!
# Hosts

A host runs programs. A program ends by itself after some time or goes on for ever, and heeds a
signal as it likes, except for the one that always kills. Once a child of the host has ended it
stays as it ended.
-/

namespace GracefulStop

/-- The end of something: when, and how. -/
abbrev Ending (Time : Type) := Option (Time × ExitStatus)

/-- What a program does once it is started. -/
structure Program where
  /-- What it writes at its start. -/
  output : String := ""
  /-- When it ends by itself, counted from its start, and how. -/
  lifetime : Ending Duration := none
  /-- To what end a signal leads that it gets at some age, and after what time. -/
  reaction : Signal → Duration → Ending Duration

/-- The number of a child among all children of its host. -/
abbrev Pid := Nat

/-- A program that was started. -/
structure Child where
  program : Program
  began : Instant
  /-- Its end, as far as that is settled. -/
  ending : Ending Instant

/-- A host: what it would start, what listens on its ports, its children so far, and its files. -/
structure Host where
  /-- The program that a command starts, or the text of an error, where so many were started before.
  -/
  programs : Nat → LaunchCommand → Except String Program
  /-- Whether something listens at an address at some moment. -/
  listens : (address : String) → (port : Nat) → Instant → Bool
  children : List Child
  files : FileTree
  /-- Whether a port is held at some moment by something else, so that nothing can be bound to it. -/
  isTaken : (port : Nat) → Instant → Bool := fun _ _ => false

namespace Signal

/-- The number of the signal that always kills. -/
def killNumber : Nat := 9

/-- The signals that stop a process or go unheeded where nothing is arranged for them. -/
def harmless : List Nat := [17, 18, 19, 20, 21, 22, 23, 28]

/-- How a process ends from a signal for which nothing is arranged. -/
def effect? (signal : Signal) : Option ExitStatus :=
  if harmless.contains signal.number then none else some (.signalled signal.number)

/-- The end that a signal leads to at once where nothing is arranged for it. -/
def plainReaction (signal : Signal) (_ : Duration) : Ending Duration :=
  signal.effect?.map fun status => (.zero, status)

end Signal

namespace Child

/-- How a child has ended by some moment. -/
def endedAs? (child : Child) (now : Instant) : Option ExitStatus :=
  match child.ending with
  | some (moment, status) => if moment ≤ now then some status else none
  | none => none

/-- The earlier of two ends. -/
def earlier (first second : Ending Instant) : Ending Instant :=
  match first, second with
  | some first, some second => if second.1 < first.1 then some second else some first
  | some first, none => some first
  | none, second => second

/-- A child that ends at once with a status, unless it has ended. -/
def endNow (child : Child) (now : Instant) (status : ExitStatus) : Child :=
  if (child.endedAs? now).isSome then child else { child with ending := some (now, status) }

/-- A child that is sent a signal. -/
def take (child : Child) (now : Instant) (signal : Signal) : Child :=
  if signal.number = Signal.killNumber then child.endNow now (.signalled Signal.killNumber)
  else if (child.endedAs? now).isSome then child
  else
    let reaction := (child.program.reaction signal (now - child.began)).map fun (delay, status) =>
      (now + delay, status)
    { child with ending := earlier child.ending reaction }

end Child

namespace Host

/-- The character that no text of a command may hold, since it ends each of them. -/
def textEnd : Char := '\x00'

/-- The error of a command with a text that holds the end of texts. -/
def badText : String := "nul byte found in provided data"

/-- The program that a command starts. -/
def programOf (host : Host) (command : LaunchCommand) : Except String Program :=
  if command.texts.any (·.toList.contains textEnd) then .error badText
  else host.programs host.children.length command

/-- Starts a program. Gives the number of the new child. -/
def spawn (host : Host) (command : LaunchCommand) (now : Instant) : Except String (Pid × Host) :=
  match host.programOf command with
  | .error reason => .error reason
  | .ok program =>
    let child : Child :=
      { program, began := now
        ending := program.lifetime.map fun (age, status) => (now + age, status) }
    .ok (host.children.length, { host with children := host.children ++ [child] })

/-- The end of a child, as far as that is settled. -/
def ending? (host : Host) (pid : Pid) : Ending Instant :=
  host.children[pid]?.bind Child.ending

/-- How a child has ended by some moment. -/
def endedAs? (host : Host) (pid : Pid) (now : Instant) : Option ExitStatus :=
  host.children[pid]?.bind fun child => child.endedAs? now

/-- Whether a child is alive at some moment. -/
def isAlive (host : Host) (pid : Pid) (now : Instant) : Bool :=
  host.children[pid]?.any fun child => (child.endedAs? now).isNone

/-- Sends a signal to a child. -/
def signal (host : Host) (pid : Pid) (now : Instant) (signal : Signal) : Host :=
  { host with children := host.children.modify pid fun child => child.take now signal }

/-- Kills a child. -/
def kill (host : Host) (pid : Pid) (now : Instant) : Host :=
  { host with
    children := host.children.modify pid fun child =>
      child.endNow now (.signalled Signal.killNumber) }

end Host

end GracefulStop
