import GracefulStop.Shell.Run

/-!
# Simulated programs

Programs that sleep, end, die from a signal, or heed one, and the programs that commands start on a
simulated host. Whatever a program does at once takes it a moment.
-/

namespace GracefulStop.Simulation

/-- What a script does. -/
inductive Conduct where
  /-- Says that it is ready and sleeps. -/
  | sleep
  | exit (code : Nat)
  /-- Sends itself the signal of a number, and sleeps if that does not end it. -/
  | killSelf (number : Nat)
  /-- Writes to both of its streams and ends. -/
  | sayExit (code : Nat)
  /-- Says that it is ready and goes on until a signal comes, on which it ends with a code. -/
  | trap (signal : Signal) (code : Nat)
  /-- Says that it is ready and goes on, whether a signal comes or not. -/
  | ignore (signal : Signal)
  /-- Tells its environment and its arguments, says that it is ready and sleeps. -/
  | tell (words : List String)
  deriving Repr

namespace Conduct

/-- How long a script takes for what it does at once. -/
def moment : Duration := .ofMillis 10

/-- How long a script sleeps. -/
def nap : Duration := .ofSeconds 30

/-- What a script writes that is ready. -/
def ready : String := "ready\n"

/-- The status of a script that ends with a code, of which a host keeps the low octet. -/
def ended (code : Nat) : ExitStatus := .exited (code % 256)

/-- A program that ends by itself and heeds signals as any other. -/
def plain (output : String) (age : Duration) (status : ExitStatus) : Program where
  output := output
  lifetime := some (age, status)
  reaction := Signal.plainReaction

/-- A program that goes on for ever, and heeds one signal as told. -/
def heeding (output : String) (special : Signal) (ending : Ending Duration) : Program where
  output := output
  reaction signal age :=
    if signal.number = special.number then ending else signal.plainReaction age

/-- The number of the signal that stops a process. -/
def stopNumber : Nat := 19

/-- The greatest number of a signal. -/
def greatestSignal : Nat := 64

/-- How a script ends that sends itself the signal of a number, if that ends it. -/
def endOfSelf? (number : Nat) : Option ExitStatus :=
  if number = 0 || greatestSignal < number then none else (Signal.mk "" number).effect?

/-- A program that sends itself the signal of a number. Once it is stopped it heeds no signal. -/
def killing (number : Nat) : Program :=
  if number = stopNumber then { reaction := fun _ _ => none }
  else match endOfSelf? number with
    | some status => plain "" moment status
    | none => plain "" nap (ended 0)

/-- The program that does what a script says. -/
def program : Conduct → Program
  | sleep => plain ready nap (ended 0)
  | exit code => plain "" moment (ended code)
  | killSelf number => killing number
  | sayExit code => plain "out\nerr\n" moment (ended code)
  | trap signal code => heeding ready signal (some (moment, ended code))
  | ignore signal => heeding ready signal none
  | tell words => plain (String.intercalate " " words ++ "\n" ++ ready) nap (ended 0)

end Conduct

/-- What a command starts: an installed program, with its arguments. -/
def startedBy (files : FileTree) (command : LaunchCommand) :
    Except FileError (Shell.Native × List String) := do
  let path ← Shell.locate files command.program
  Shell.startOf files Shell.startDepth path command.args

/-- An installed program as it is called by a name and ends by itself. -/
def ofNative (files : FileTree) (name : String) (values : List (String × String))
    (native : Shell.Native) (arguments : List String) : Program where
  output := native.complaint name arguments
  lifetime :=
    (Shell.lifetimeOf files native arguments values).map fun (age, status) =>
      (⟨Conduct.moment.nanos + age.nanos⟩, status)
  reaction := Signal.plainReaction

/-- The program that a command starts, which knows more variables than those of the command. -/
def scriptOf (files : FileTree) (values : List (String × String)) (command : LaunchCommand) :
    Except String Program :=
  match startedBy files command with
  | .error error => .error error.message
  | .ok (native, arguments) =>
    .ok (ofNative files command.program (command.env ++ values) native arguments)

end GracefulStop.Simulation
