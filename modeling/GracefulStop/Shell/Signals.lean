import GracefulStop.Shell.Builtin

/-!
# Signals and jobs

What a shell arranges for signals, to whom they are sent, and how it waits for the commands that run
on their own.
-/

namespace GracefulStop.Shell

/-- Arranges what is done on signals. -/
def setTraps (action : Option String) (names : List String) : Eval Unit :=
  match names.mapM signalNumber? with
  | none => setStatus 1
  | some numbers => do
    modify fun state =>
      let kept := state.traps.filter fun (number, _) => !numbers.contains number
      { state with
        traps := (action.map fun action => numbers.map (·, action)).getD [] ++ kept }
    setStatus 0

/-- A text between quotes, as a shell reads it. -/
def inQuotes (text : String) : String := "'" ++ text.replace "'" "'\"'\"'" ++ "'"

/-- What is arranged for signals, as commands of which each arranges one of them. -/
def State.trapLines (state : State) : List String :=
  (("EXIT", 0) :: signalNumbers).filterMap fun (name, number) =>
    (state.traps.lookup number).map fun action =>
      "trap -- " ++ inQuotes action ++ " " ++ name ++ "\n"

/-- The signal that the first words of a request to send one name, and what follows them. -/
def sentSignal? : List String → Option (Nat × List String)
  | "-s" :: name :: rest => (signalNumber? name).map (·, rest)
  | "--" :: rest => some (15, rest)
  | word :: rest =>
    match word.toList with
    | '-' :: name => (signalNumber? (String.ofList name)).map (·, rest)
    | _ => some (15, word :: rest)
  | [] => none

/-- Sends a signal to the shell's process. -/
def State.sending (state : State) (number : Nat) : State :=
  let coming := state.coming ++ [(state.elapsed, number)]
  { state with coming := coming.mergeSort fun first second => first.1 ≤ second.1 }

/-- The signal that has come to the shell, if one has. -/
def State.arrived? (state : State) : Option (Duration × Nat) :=
  if state.isInner then none else state.coming.head?.filter (·.1 ≤ state.elapsed)

/-- When and how the shell is killed by a signal that comes to it, if it is. -/
def State.fate? (state : State) : Ending Duration :=
  state.coming.findSome? fun (moment, number) =>
    if (state.trap? number).isSome then none
    else (Signal.mk "" number).effect?.map fun status => (moment, status)

/-- The signal on which the shell stops waiting for something that ends, or that never ends. -/
def State.interruption? (state : State) (ending : Option Duration) : Option (Duration × Nat) :=
  if state.isInner then none
  else state.coming.find? fun (moment, number) =>
    (state.trap? number).any (· != "") && ending.all (moment < ·)

/-- Waits for a command that runs on its own, and gives the status of its end. A signal for which
something is arranged ends the waiting. -/
def waitFor (job : Job) : Eval Nat := do
  match (← get).interruption? (job.ending.map (·.1)), job.ending with
  | some (moment, number), _ =>
    modify fun state => { state with elapsed := max state.elapsed moment }
    return 128 + number
  | none, none => throw .endless
  | none, some (moment, ending) =>
    modify fun state => { state with elapsed := max state.elapsed moment }
    return statusOf ending

/-- Waits for commands that run on their own, until a signal comes. -/
def waitForEach : List Job → Eval Unit
  | [] => pure ()
  | job :: rest => do
    let status ← waitFor job
    let arrived := ((← get).interruption? none).filter (·.1 ≤ (← get).elapsed)
    if arrived.isSome then setStatus status else waitForEach rest

/-- The command that a word names: by its process, by its place among all, or as the last one. -/
def jobNamed? (jobs : List Job) (word : String) : Option Job :=
  match word.toList with
  | '%' :: name =>
    match (String.ofList name).toNat? with
    | some number => jobs.reverse[number - 1]?
    | none => jobs.head?
  | _ => jobs.find? fun job => toString job.pid = word

/-- Waits for the commands that words name, or for all that run on their own. -/
def waitForAll (words : List String) : Eval Unit := do
  let jobs := (← get).jobs
  setStatus 0
  if words.isEmpty then waitForEach jobs
  else
    words.forM fun word => do
      match jobNamed? jobs word with
      | some job => setStatus (← waitFor job)
      | none => setStatus (if word.toInt?.isSome then 127 else errorStatus)

/-- A command that runs on its own, once it is sent a signal. -/
def Job.take (now : Duration) (number : Nat) (job : Job) : Job :=
  match if number = 0 then none else (Signal.mk "" number).effect? with
  | none => job
  | some status =>
    if job.ending.any fun (moment, _) => moment ≤ now then job
    else { job with ending := some (now, status) }

/-- Sends a signal to the shell itself, or to what runs on its own. Nothing else can be reached. -/
def sendSignal (arguments : List String) : Eval Unit := do
  if arguments.head? = some "-l" then setStatus 0
  else match sentSignal? arguments with
    | none => setStatus errorStatus
    | some (_, []) => setStatus errorStatus
    | some (number, targets) =>
      let state ← get
      let isOwn (target : String) := target = toString state.pid
      let isJob (target : String) := state.jobs.any fun job => target = toString job.pid
      let isNumber (target : String) := target.toInt?.isSome || Text.beginsWith target "%"
      let status :=
        if !targets.all isNumber then errorStatus
        else statusIf (targets.all fun target => isOwn target || isJob target)
      let jobs := state.jobs.map fun (job : Job) =>
        if targets.contains (toString job.pid) then job.take state.elapsed number else job
      let state := { state with status, jobs }
      set (if targets.any isOwn && number ≠ 0 then state.sending number else state)

end GracefulStop.Shell
