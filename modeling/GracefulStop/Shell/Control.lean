import GracefulStop.Shell.State

/-!
# Control

How what a shell does is left and gone on with: apart from the shell, in loops, in functions, and
where a command has failed.
-/

namespace GracefulStop.Shell

/-- The file tree of a shell, once something apart from the shell has left another one. -/
def seenFrom (files : FileTree) (before : FileTree) : FileTree :=
  { files with workingDir := before.workingDir }

/-- Does something apart from the shell, which keeps of it the time, the files, the output and the
status only. An exit there does not end the shell. -/
def apart (action : Eval Unit) : Eval Unit := do
  let before ← get
  let (result, after) := (action.run).run before
  set
    { before with
      elapsed := after.elapsed, written := after.written, status := after.status
      files := seenFrom after.files before.files, coming := after.coming }
  match result with
  | .ok _ => pure ()
  | .error (.ended status) => setStatus (statusOf status)
  | .error (.killed status) => throw (.killed status)
  | .error .endless => throw .endless
  | .error _ => pure ()

/-- Does something in a loop, and tells whether the loop goes on. -/
def inLoop (action : Eval Unit) : Eval Bool := do
  let loops := (← get).loops
  modify fun state => { state with loops := loops + 1 }
  let goesOn ← tryCatch (do action; return true) fun halt => do
    modify fun state => { state with loops }
    match halt with
    | .left levels => if levels ≤ 1 then return false else throw (.left (levels - 1))
    | .again levels => if levels ≤ 1 then return true else throw (.again (levels - 1))
    | halt => throw halt
  modify fun state => { state with loops }
  return goesOn

/-- Leaves loops, as many as there are at most. Outside of all loops nothing is left. -/
def leaveLoops (halt : Nat → Halt) (levels : Nat) : Eval Unit := do
  let loops := (← get).loops
  setStatus 0
  if loops ≠ 0 && levels ≠ 0 then throw (halt (min levels loops))

/-- How many functions can be run, each in the one before. -/
def deepest : Nat := 1000

/-- Does something that may be left as a function is. -/
def leavable (action : Eval Unit) : Eval Unit :=
  tryCatch action fun
    | .returned => pure ()
    | halt => throw halt

/-- Does something in a function, with arguments of its own. -/
def inFunction (arguments : List String) (action : Eval Unit) : Eval Unit := do
  let before ← get
  if deepest ≤ before.depth then finish errorStatus
  let restore : Eval Unit := modify fun state =>
    { state with arguments := before.arguments, depth := before.depth, loops := before.loops }
  set { before with arguments, depth := before.depth + 1, loops := 0 }
  tryCatch (leavable action) fun halt => do
    restore
    throw halt
  restore

/-- Ends the shell where a command has failed, if that is wanted. -/
def checkError (tested : Bool) : Eval Unit := do
  let state ← get
  if !tested && state.status ≠ 0 && state.options.contains 'e' then finish state.status

/-- Does something to its end, and gives the status of that. -/
def endingOf (action : Eval Unit) : Eval ExitStatus :=
  tryCatch
    (do
      action
      return ExitStatus.exited ((← get).status % 256))
    fun
      | .endless => throw .endless
      | .killed status => throw (.killed status)
      | .ended status => return status
      | _ => return .exited ((← get).status % 256)

end GracefulStop.Shell
