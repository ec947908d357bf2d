import GracefulStop.Command.Perform

/-!
# The program

Reads the arguments, the variables and the files that a request looks at, performs the request, and
writes what comes of it. No process can be started from here: a run reports that of each scenario.
-/

namespace GracefulStop.Command

/-- The text of the error of a start. -/
def cannotStart : String := "Operation not supported (os error 95)"

/-- A host that starts nothing. -/
def idleHost (files : FileTree) : Host where
  programs _ _ := .error cannotStart
  listens _ _ _ := false
  children := []
  files := files

/-- The outcomes of a plan on a host that starts nothing. -/
def playIdle (files : FileTree) (plan : RunPlan) : List Outcome :=
  plan.play (fun _ _ _ premises => (.done (.error (.transport cannotStart)), premises))
    (fun _ rest => (0, rest)) (idleHost files) ()

/-- Reads what a path leads to, if it leads to anything. What cannot be read as a file counts as a
directory. -/
def readFile? (path : Path) : IO (Option File) := do
  try
    let octets ← IO.FS.readBinFile path
    return some (.regular octets.toList false)
  catch
    | .noFileOrDirectory .. => return none
    | _ => return some (.directory [])

/-- Adds to a file tree what a path leads to. -/
def withFile (files : FileTree) (path : Path) : IO FileTree := do
  match ← readFile? path with
  | some file =>
    let names := (Path.join files.workingDir path).names.foldl FileTree.goTo []
    return if file.isDirectory then files.withDir names else files.withFile names file
  | none => return files

/-- Finds the files that a request looks at: first those that are known from the start, then those
that the first ones tell of. -/
def findFiles (environment : Environment) (arguments : List String) (workingDir : Path) :
    IO FileTree := do
  let files := FileTree.ofFiles workingDir [(workingDir.names.filter (· != ""), .directory [])]
  let files ← (lookups files environment arguments).foldlM withFile files
  (lookups files environment arguments).foldlM withFile files

/-- The values of the variables that may tell something. -/
def findVariables : IO Environment :=
  variableNames.filterMapM fun name => do
    return (← IO.getEnv name).map fun value => (name, value)

end GracefulStop.Command

open GracefulStop.Command in
/-- Performs what the arguments ask for, and gives the exit code. -/
def main (arguments : List String) : IO UInt32 := do
  let environment ← findVariables
  let files ← findFiles environment arguments (← IO.currentDir).toString
  let setting : Setting := ⟨"x86_64", "linux", playIdle files⟩
  let performance := perform setting files environment arguments
  (← IO.getStdout).putStr performance.written.out
  (← IO.getStderr).putStr performance.written.err
  return performance.code.toUInt32
