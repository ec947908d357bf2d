import GracefulStop.Node.Host
import GracefulStop.Shell.Basic
import GracefulStop.Shell.Pattern
import GracefulStop.Shell.Programs

/-!
# The state of a shell

What a shell keeps while it runs a script, and how words are split into fields.
-/

namespace GracefulStop.Shell

/-- Why a script does not go on with its next command. -/
inductive Halt where
  /-- The shell has ended. -/
  | ended (status : ExitStatus)
  /-- The shell was killed by a signal. -/
  | killed (status : ExitStatus)
  /-- A function is left. -/
  | returned
  /-- So many loops are left. -/
  | left (levels : Nat)
  /-- So many loops less one are left, and one goes on. -/
  | again (levels : Nat)
  /-- The script never ends. -/
  | endless
  deriving DecidableEq, Repr, Inhabited

/-- A command that runs on its own: its number, and when and how it ends. -/
structure Job where
  pid : Nat
  ending : Ending Duration
  deriving DecidableEq, Repr

/-- The state of a shell. -/
structure State where
  files : FileTree
  pid : Nat
  name : String
  arguments : List String
  values : List (String × String)
  /-- Whether the shell knows more than the plain language. -/
  extended : Bool := false
  /-- The variables that programs know. -/
  shared : List String := []
  /-- The variables that keep their values. -/
  fixed : List String := []
  /-- What is to be read. -/
  input : List Char := []
  /-- How many functions are being run, each in the one before. -/
  depth : Nat := 0
  /-- How many loops are being run, each in the one before. -/
  loops : Nat := 0
  functions : List (String × Command) := []
  /-- What is done on a signal, by its number; at the end of the shell for zero. -/
  traps : List (Nat × String) := []
  /-- The letters of the options that are on. -/
  options : List Char := []
  /-- The status of the last command. -/
  status : Nat := 0
  /-- The status of the last commands whose output was taken for a part of a word. -/
  taken : Nat := 0
  /-- What has been written. -/
  written : String := ""
  /-- The time since the script was started. -/
  elapsed : Duration := .zero
  /-- The commands that run on their own, the last one first. -/
  jobs : List Job := []
  /-- The number of the last command that was started to run on its own. -/
  lastJob : Option Nat := none
  /-- Whether it is a part of the shell that runs on its own, in a process of its own. -/
  isInner : Bool := false
  /-- The numbers of the signals that are sent to the shell's process, each with when it comes, the
  first one first. -/
  coming : List (Duration × Nat) := []

/-- Something that a shell does. -/
abbrev Eval := ExceptT Halt (StateM State)

/-- The status that stands for the end of a program. -/
def statusOf (ending : ExitStatus) : Nat := ending.code.toNat

/-- Ends the shell with a status. -/
def finish {α : Type} (status : Nat) : Eval α := throw (.ended (.exited (status % 256)))

/-- Notes the status of a command. -/
def setStatus (status : Nat) : Eval Unit := modify fun state => { state with status }

/-- Writes a text. -/
def write (text : String) : Eval Unit :=
  modify fun state => { state with written := state.written ++ text }

/-- The first process number that a script shows. -/
def firstPid : Nat := 4242

/-- The value of a parameter other than all arguments, if it has one. -/
def State.parameter? (state : State) (name : String) : Option String :=
  match name with
  | "?" => some (toString state.status)
  | "#" => some (toString state.arguments.length)
  | "$" => some (toString state.pid)
  | "!" => state.lastJob.map toString
  | "-" => some (String.ofList state.options)
  | "0" => some state.name
  | "PPID" => some (toString (firstPid - 1))
  | name =>
    match name.toNat? with
    | some number => state.arguments[number - 1]?
    | none => state.values.lookup name

/-- Whether a parameter is all arguments. -/
def isAll (name : String) : Bool := name = "@" || name = "*"

/-- The value of a parameter for what is made of it, if it has one. All arguments are one text, with
the character that ends texts between them, or the first border where they are quoted as one. -/
def State.whole? (state : State) (quoted : Bool) (name : String) : Option String :=
  if isAll name then
    let border :=
      if name = "*" && quoted then
        String.ofList (((state.values.lookup "IFS").getD " ").toList.take 1)
      else "\x00"
    if state.extended && state.arguments.isEmpty then none
    else some (String.intercalate border state.arguments)
  else state.parameter? name

/-- The length that is shown of a parameter's value. -/
def State.lengthOf (state : State) (name : String) : Nat :=
  if state.extended && isAll name then state.arguments.length
  else ((state.whole? false name).getD "").length

/-- The status of a shell that meets an error. -/
def errorStatus : Nat := 2

/-- Ends the shell at a parameter without a value, if that is wanted. -/
def checkUnset (name : String) : Eval Unit := do
  let state ← get
  if state.options.contains 'u' && (state.whole? false name).isNone then finish errorStatus

/-- How many octets the value of a variable may have, and how many fields words may have. A script
that goes beyond is one that never ends. -/
def sizeLimit : Nat := 20000

/-- Gives a value to a variable. -/
def assign (name value : String) : Eval Unit := do
  if (← get).fixed.contains name then finish errorStatus
  if sizeLimit < value.utf8ByteSize then throw .endless
  modify fun state =>
    { state with
      values := (name, value) :: state.values.filter (·.1 != name)
      shared := if state.options.contains 'a' then name :: state.shared else state.shared }

/-- The values of variables, where those of some names are as they were before. -/
def State.restored (state before : State) (names : List String) : List (String × String) :=
  (before.values.filter fun (name, _) => names.contains name) ++
    state.values.filter fun (name, _) => !names.contains name

/-- The characters at which fields are split. -/
def State.borders (state : State) : List Char :=
  ((state.values.lookup "IFS").getD " \t\n").toList

/-- The part of a word once it is replaced. -/
inductive Chunk where
  /-- What is taken as it is; as a pattern it stands for itself. -/
  | quoted (text : String)
  /-- What is taken as it is, and may be a pattern. -/
  | plain (text : String)
  /-- What is split at blanks. -/
  | split (text : String)
  /-- The end of a field. -/
  | border
  deriving Repr

/-- What was replaced, quoted or not. -/
def Chunk.replaced (quoted : Bool) (text : String) : Chunk :=
  if quoted then .quoted text else .split text

/-- What was replaced by a text that may hold several fields, with the character that ends texts
between them. -/
def Chunk.divided (quoted : Bool) (text : String) : List Chunk :=
  ((text.splitOn "\x00").map (Chunk.replaced quoted)).intersperse .border

/-- The text of chunks that are not split. -/
def textOfChunks (chunks : List Chunk) : String :=
  String.join (chunks.map fun
    | .quoted text => text
    | .plain text => text
    | .split text => text
    | .border => " ")

/-- The pattern of chunks. -/
def patternOfChunks (chunks : List Chunk) : List PatternPart :=
  let marked := chunks.flatMap fun
    | .quoted text => text.toList.map (·, true)
    | .plain text => text.toList.map (·, false)
    | .split text => text.toList.map (·, false)
    | .border => [(' ', true)]
  patternOf marked.length marked

/-- A character of a field, and whether it is quoted and stands for itself. -/
abbrev Mark := Char × Bool

/-- The text of characters. -/
def textOfMarks (marks : List Mark) : String := String.ofList (marks.map (·.1))

/-- Fields, the last of which may be open. -/
structure Fields where
  /-- The fields that are closed, the last one first. -/
  closed : List (List Mark) := []
  /-- The characters of the open field, the last one first. -/
  opened : Option (List Mark) := none
  /-- Whether a blank has closed the last field. -/
  afterBlank : Bool := false

namespace Fields

/-- Closes the open field. -/
def close (fields : Fields) : Fields :=
  ⟨(fields.opened.map List.reverse).toList ++ fields.closed, none, false⟩

/-- Adds to the open field. -/
def add (fields : Fields) (quoted : Bool) (text : List Char) : Fields :=
  ⟨fields.closed, some ((text.map (·, quoted)).reverse ++ fields.opened.getD []), false⟩

/-- Takes a character that is split at borders. A border that is no blank ends a field, be it empty;
blanks beside it add nothing. -/
def split (borders : List Char) (fields : Fields) (c : Char) : Fields :=
  if !borders.contains c then fields.add false [c]
  else if " \t\n".toList.contains c then
    if fields.opened.isSome then { fields.close with afterBlank := true } else fields
  else if fields.opened.isSome then fields.close
  else if fields.afterBlank then { fields with afterBlank := false }
  else (fields.add false []).close

/-- Takes one more chunk. -/
def take (borders : List Char) (fields : Fields) : Chunk → Fields
  | .quoted text => fields.add true text.toList
  | .plain text => fields.add false text.toList
  | .border => fields.close
  | .split text => text.toList.foldl (split borders) fields

/-- The fields of chunks. -/
def ofChunks (borders : List Char) (chunks : List Chunk) : List (List Mark) :=
  (chunks.foldl (take borders) {}).close.closed.reverse

end Fields

/-- The number of a signal that is named without `SIG` in any case, or by its number. Zero stands
for the end of the shell. -/
def signalNumber? (name : String) : Option Nat :=
  let upper := Text.upperAscii name
  if upper = "EXIT" then some 0
  else (signalNumbers.lookup upper).or (name.toNat?.filter (· ≤ 64))

/-- The numbers of the signals for which nothing can be arranged: one kills, and one stops for ever.
-/
def strictSignals : List Nat := [9, 19]

/-- What is arranged for a signal, if anything is. -/
def State.trap? (state : State) (number : Nat) : Option String :=
  if strictSignals.contains number then none else state.traps.lookup number

/-- What ends a shell that is sent a signal for which it has arranged nothing. -/
def haltOf? (number : Nat) : Option Halt :=
  if number = 0 then none
  else if number = 19 then some .endless
  else (Signal.mk "" number).effect?.map .killed

end GracefulStop.Shell
