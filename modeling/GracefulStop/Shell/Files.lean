import GracefulStop.Shell.Builtin

/-!
# Files

What a shell and the programs that it runs do with files: where output goes, what is shown, made and
removed.
-/

namespace GracefulStop.Shell

/-- Where the output of a command goes. -/
inductive Outlet where
  /-- Where the output of the shell goes. -/
  | kept
  /-- To where nobody sees it. -/
  | dropped
  /-- To the file at the end of names. -/
  | file (names : List String)
  deriving DecidableEq, Repr

/-- Does something with an input of its own, and gives its output to an outlet. The shell keeps the
input if so told. -/
def directing (keeps : Bool) (input : List Char) (outlet : Outlet) (action : Eval Unit) :
    Eval Unit := do
  let before ← get
  set { before with input, written := if outlet == Outlet.kept then before.written else "" }
  let restore : Eval Unit := modify fun state =>
    let input := if keeps then state.input else before.input
    match outlet with
    | .kept => { state with input }
    | .dropped => { state with input, written := before.written }
    | .file names =>
      let (octets, executable) := match state.files.at? names with
        | some (.regular octets executable) => (octets, executable)
        | _ => ([], false)
      let file : File := .regular (octets ++ state.written.toUTF8.toList) executable
      { state with input, written := before.written, files := state.files.withFile names file }
  tryCatch action fun halt => do
    restore
    throw halt
  restore

/-- The names of devices, which keep nothing of what is written. -/
def isDevice (names : List String) : Bool := names.head? = some "dev"

/-- Opens a file that is written. Gives nothing if that fails. -/
def openTarget (writing : Writing) (path : Path) : Eval (Option Outlet) := do
  let state ← get
  match state.files.place path with
  | .error _ => return none
  | .ok names =>
    if isDevice names then return if state.files.exists? path then some .dropped else none
    else match state.files.at? names with
      | some (.directory _) => return none
      | some (.regular octets executable) =>
        if writing = .anew && state.options.contains 'C' then return none
        let kept := if writing = .onwards then octets else []
        set { state with files := state.files.withFile names (.regular kept executable) }
        return some (.file names)
      | none =>
        set { state with files := state.files.withFile names (.regular [] false) }
        return some (.file names)

/-- Writes what is in files, or what is to be read. -/
def showFiles (paths : List Path) : Eval Unit := do
  let state ← get
  let text (path : String) :=
    if path = "-" then String.ofList state.input
    else Text.ofUtf8 ((state.files.octets? path).getD [])
  write (if paths.isEmpty then String.ofList state.input else String.join (paths.map text))
  modify fun state => { state with input := [] }

/-- A file tree after a change at a path, if the change can be made. -/
def FileChange.apply? (letters : List Char) (files : FileTree) (path : Path) :
    FileChange → Option FileTree
  | .makeDir =>
    if letters.contains 'p' then (files.makeDir path).toOption
    else
      match files.place path with
      | .ok names => if (files.at? names).isSome then none else some (files.withDir names)
      | .error _ => none
  | .touch =>
    match files.place path with
    | .ok names =>
      some (if (files.at? names).isSome || letters.contains 'c' then files
        else files.withFile names (.regular [] false))
    | .error _ => none
  | .allow =>
    match files.resolve path with
    | .ok names =>
      match files.at? names with
      | some (.regular octets _) =>
        some (files.withFile names (.regular octets (letters.any "x1357".toList.contains)))
      | other => other.map fun _ => files
    | .error _ => none
  | .remove =>
    match files.resolve path with
    | .ok names =>
      match files.at? names with
      | some (.directory _) =>
        if letters.contains 'r' || letters.contains 'R' then some (files.without names) else none
      | some (.regular ..) => some (files.without names)
      | none => if letters.contains 'f' then some files else none
    | .error _ => if letters.contains 'f' then some files else none

/-- Changes files, and gives the status of that. -/
def changeFiles (change : FileChange) (words : List String) : Eval Nat := do
  let letters := (words.filter isOption).flatMap fun word => word.toList.drop 1
  let paths := words.filter fun word => !isOption word
  if paths.isEmpty then return statusIf (change = .remove && letters.contains 'f')
  let (letters, paths) :=
    if change = .allow then ((paths.headD "").toList, paths.drop 1) else (letters, paths)
  paths.foldlM
    (fun status path => do
      let state ← get
      match change.apply? letters state.files path with
      | some files =>
        set { state with files }
        return status
      | none => return 1)
    0

/-- The status of a program that takes options of some letters. -/
def toolStatus (files : FileTree) (letters : String) (bad : Nat) (reads : Bool)
    (words : List String) : Nat :=
  if words.any fun word => isOption word && (word.toList.drop 1).any (!letters.toList.contains ·)
  then bad
  else
    let isText (word : String) := word = "-" || (files.octets? word).isSome
    let isThere (word : String) := if bad = 1 then isText word else files.exists? word
    let isMissing (word : String) := !isOption word && !isThere word
    if reads && words.any isMissing then bad else 0

end GracefulStop.Shell
