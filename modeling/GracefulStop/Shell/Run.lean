import GracefulStop.Shell.Control
import GracefulStop.Shell.Files
import GracefulStop.Shell.Format
import GracefulStop.Shell.Options
import GracefulStop.Shell.Paths
import GracefulStop.Shell.Signals
import GracefulStop.Shell.Variables

/-!
# Running shell scripts

A script is read and run line by line. It ends by itself, by an error or by a signal that it sends
itself, after the time for which it waited; or it never ends. A script that has used up its fuel is
one that never ends.
-/

namespace GracefulStop.Shell

/-- The status of a program that is not found, and of one that cannot be started. -/
def startFailure : FileError → Nat
  | .notFound => 127
  | .notDirectory => 127
  | _ => 126

/-- The greatest number that is taken as a status, or as a count. -/
def greatestNumber : Nat := 2147483647

/-- The number that a word writes as a status, or as a count. Blanks around it do not matter. -/
def number? (word : String) : Option Nat :=
  let isBlank (c : Char) := " \t\n\x0b\x0c\r".toList.contains c
  let text := ((word.toList.dropWhile isBlank).reverse.dropWhile isBlank).reverse
  let digits := match text with
    | '+' :: digits => digits
    | ['-', '0'] => ['0']
    | digits => digits
  if digits.isEmpty || !digits.all Char.isDigit then none
  else (String.ofList digits).toNat?.filter (· ≤ greatestNumber)

/-- Leaves the script where a status or a count is no number. -/
def numberOr (default : Nat) : List String → Eval Nat
  | [] => return default
  | word :: _ => do
    match number? word with
    | some number => return number
    | none =>
      match word.toInt? with
      | some number =>
        if (← get).extended then return (number % 256).toNat else finish errorStatus
      | none => finish errorStatus

/-- The text of a script, in which the character that ends texts counts for nothing. -/
def scriptText (octets : List UInt8) : List Char :=
  (Text.ofUtf8 octets).toList.filter (· != '\x00')

/-- The arguments of a program of which the first may hold several words. -/
def splitOption : List String → List String
  | [] => []
  | word :: rest =>
    match word.toList with
    | '-' :: 'S' :: words =>
      ((String.ofList words).splitOn " ").filter (· != "") ++
        (if words.isEmpty then (rest.headD "").splitOn " " |>.filter (· != "") else []) ++
        (if words.isEmpty then rest.drop 1 else rest)
    | _ => word :: rest

/-- The commands of a shell that are no programs. -/
def ownNames : List String :=
  Text.special ++
    ["alias", "bg", "cd", "command", "echo", "false", "fg", "getopts", "hash", "jobs", "kill",
      "local", "printf", "pwd", "read", "test", "true", "type", "ulimit", "umask", "unalias",
      "wait", "["]

/-- What a name stands for, if it stands for something that can be run: a description, and how it is
called. -/
def State.meaning? (state : State) (name : String) : Option (String × String) :=
  if Text.keywords.contains name then some ("a shell keyword", name)
  else if (state.functions.lookup name).isSome then some ("a shell function", name)
  else if Text.special.contains name then some ("a special shell builtin", name)
  else if ownNames.contains name then some ("a shell builtin", name)
  else (locate state.files name).toOption.map fun path => (path, path)

/-- Whether a name stands for something that can be run. -/
def State.knows (state : State) (name : String) : Bool := (state.meaning? name).isSome

/-- The line that tells what a name stands for. -/
def State.explained? (state : State) (name : String) : Option String :=
  (state.meaning? name).map fun (description, _) => name ++ " is " ++ description ++ "\n"

mutual

/-- What a word is replaced by. -/
def chunksOf : (fuel : Nat) → Word → Eval (List Chunk)
  | 0, _ => throw .endless
  | _, [] => return []
  | fuel + 1, piece :: rest => do
    let chunks ← chunksOfPiece fuel piece
    return chunks ++ (← chunksOf fuel rest)

/-- What a part of a word is replaced by. -/
def chunksOfPiece : (fuel : Nat) → Piece → Eval (List Chunk)
  | 0, _ => throw .endless
  | fuel + 1, piece => do
    let state ← get
    match piece with
    | .text quoted text => return [if quoted then .quoted text else .plain text]
    | .parameter quoted name =>
      if name = "@" || (name = "*" && !quoted) then
        return (state.arguments.map (Chunk.replaced quoted)).intersperse .border
      else if name = "*" then
        let border := String.ofList (state.borders.take 1)
        return [.quoted (String.intercalate border state.arguments)]
      else match state.parameter? name with
        | some value => return [.replaced quoted value]
        | none =>
          checkUnset name
          return [.replaced quoted ""]
    | .count name =>
      checkUnset name
      return [.quoted (toString (state.lengthOf name))]
    | .adjusted quoted name emptyIsNone adjustment word =>
      let value? := (state.whole? quoted name).filter fun value => !(emptyIsNone && value.isEmpty)
      let value := value?.getD ""
      match adjustment with
      | .default => if value?.isSome then return Chunk.divided quoted value else chunksOf fuel word
      | .replace => if value?.isSome then chunksOf fuel word else return [.replaced quoted ""]
      | .refuse => finish errorStatus
      | .demand => if value?.isSome then return Chunk.divided quoted value else finish errorStatus
      | .assign =>
        if value?.isSome then return Chunk.divided quoted value
        else
          let text ← textOf fuel word
          assign name text
          return [.replaced quoted text]
      | .withoutStart longest =>
        checkUnset name
        let pattern := patternOfChunks (← chunksOf fuel word)
        return Chunk.divided quoted (String.ofList (withoutStart longest pattern value.toList))
      | .withoutStop longest =>
        checkUnset name
        let pattern := patternOfChunks (← chunksOf fuel word)
        return Chunk.divided quoted (String.ofList (withoutStop longest pattern value.toList))
    | .arithmetic quoted expression =>
      let text ← textOf fuel expression
      match evaluate? (fun name => (state.parameter? name).getD "") text with
      | some (value, name?) =>
        if let some name := name? then assign name (toString value)
        return [.replaced quoted (toString value)]
      | none => finish errorStatus
    | .output quoted body =>
      let before := state.written
      modify fun state => { state with written := "" }
      apart (runInner fuel (runItems fuel false body))
      let text := (← get).written
      modify fun after =>
        { after with
          written := before, taken := after.status
          status := if state.extended then after.status else state.status }
      let lines := (text.toList.reverse.dropWhile (· == '\n')).reverse
      return [.replaced quoted (String.ofList (lines.filter (· != '\x00')))]

/-- The text of a word that is not split. -/
def textOf : (fuel : Nat) → Word → Eval String
  | 0, _ => throw .endless
  | fuel + 1, word => return textOfChunks (← chunksOf fuel word)

/-- The fields of words. -/
def fieldsOf : (fuel : Nat) → List Word → Eval (List String)
  | 0, _ => throw .endless
  | _, [] => return []
  | fuel + 1, word :: rest => do
    let chunks ← chunksOf fuel word
    let state ← get
    let first := (Fields.ofChunks state.borders chunks).flatMap state.pathsOf
    let fields := first ++ (← fieldsOf fuel rest)
    if sizeLimit < fields.length then throw .endless else return fields

/-- The fields of a simple command, for which no output has been taken so far. -/
def commandFieldsOf : (fuel : Nat) → List Word → Eval (List String)
  | 0, _ => throw .endless
  | fuel + 1, words => do
    modify fun state => { state with taken := 0 }
    fieldsOf fuel words

/-- Runs commands one after another. Where their failure is tested, it does not end the shell. -/
def runItems : (fuel : Nat) → (tested : Bool) → List Item → Eval Unit
  | 0, _, _ => throw .endless
  | _, _, [] => pure ()
  | fuel + 1, tested, item :: rest => do
    runItem fuel tested item
    runItems fuel tested rest

/-- Runs pipes that are joined by conditions. -/
def runItem : (fuel : Nat) → (tested : Bool) → Item → Eval Unit
  | 0, _, _ => throw .endless
  | fuel + 1, tested, .mk background first rest => do
    if background then
      let before ← get
      let ran := runInner fuel do
        runPipeline fuel tested first
        runJoined fuel tested rest
      let (result, after) := (ran.run).run { before with input := [] }
      let ending : Ending Duration := match result with
        | .ok _ => some (after.elapsed, .exited after.status)
        | .error (.ended status) => some (after.elapsed, status)
        | .error _ => none
      let pid := before.pid + 1 + before.jobs.length
      set
        { before with
          status := 0, written := after.written, coming := after.coming, lastJob := some pid
          files := seenFrom after.files before.files
          jobs := ⟨pid, ending⟩ :: before.jobs }
    else
      runPipeline fuel (tested || !rest.isEmpty) first
      runJoined fuel tested rest

/-- Runs the pipes behind a first one. -/
def runJoined : (fuel : Nat) → (tested : Bool) → List (Bool × Pipeline) → Eval Unit
  | 0, _, _ => throw .endless
  | _, _, [] => pure ()
  | fuel + 1, tested, (wanted, pipeline) :: rest => do
    if ((← get).status = 0) = wanted then runPipeline fuel (tested || !rest.isEmpty) pipeline
    runJoined fuel tested rest

/-- Runs commands that are joined by pipes. They run side by side. -/
def runPipeline : (fuel : Nat) → (tested : Bool) → Pipeline → Eval Unit
  | 0, _, _ => throw .endless
  | fuel + 1, tested, .mk negated commands => do
    match commands with
    | [command] => runCommand fuel (tested || negated) command
    | commands =>
      let before ← get
      set { before with written := "" }
      runPiped fuel tested before commands
      modify fun state =>
        { state with input := before.input, written := before.written ++ state.written }
      checkError (tested || negated)
    if negated then setStatus (statusIf ((← get).status ≠ 0))
    heed fuel

/-- Heeds the signals that have come. What is arranged for them leaves the status as it is. -/
def heed : (fuel : Nat) → Eval Unit
  | 0 => throw .endless
  | fuel + 1 => do
    let state ← get
    if let some (moment, number) := state.arrived? then
      set { state with coming := state.coming.drop 1 }
      match state.trap? number, haltOf? number with
      | some action, _ =>
        runText fuel true action.toList
        setStatus state.status
      | none, some halt =>
        modify fun state => { state with elapsed := moment }
        throw halt
      | none, none => pure ()
      heed fuel

/-- Runs the commands of a pipe, each as from the state before all of them. -/
def runPiped : (fuel : Nat) → (tested : Bool) → (start : State) → List Command → Eval Unit
  | 0, _, _, _ => throw .endless
  | _, _, _, [] => pure ()
  | fuel + 1, tested, start, command :: rest => do
    let before ← get
    set { before with elapsed := start.elapsed, status := start.status }
    apart (runInner fuel (runCommand fuel tested command))
    modify fun state =>
      { state with
        elapsed := max before.elapsed state.elapsed
        input := state.written.toList
        written := if rest.isEmpty then state.written else "" }
    runPiped fuel tested start rest

/-- Runs a command. -/
def runCommand : (fuel : Nat) → (tested : Bool) → Command → Eval Unit
  | 0, _, _ => throw .endless
  | fuel + 1, tested, command => do
    match command with
    | .simple assignments words =>
      let fields ← commandFieldsOf fuel words
      runFields fuel tested assignments fields
    | .group body => runItems fuel tested body
    | .subshell body =>
      apart (runInner fuel (runItems fuel tested body))
      checkError tested
    | .branch condition body otherwise =>
      runItems fuel true condition
      if (← get).status = 0 then runItems fuel tested body
      else if otherwise.isEmpty then setStatus 0
      else runItems fuel tested otherwise
    | .repeated wanted condition body =>
      runLoop fuel tested wanted condition body 0
    | .each name words body =>
      let values ← match words with
        | some words => fieldsOf fuel words
        | none => pure (← get).arguments
      if values.isEmpty then setStatus 0 else runEach fuel tested name values body
    | .select word arms =>
      let text ← textOf fuel word
      runArms fuel tested text.toList arms
    | .define name body =>
      modify fun state => { state with functions := (name, body) :: state.functions }
      setStatus 0
    | .directed directions (.simple assignments words) =>
      let fields ← commandFieldsOf fuel words
      match ← outletOf fuel (← get).input .kept directions with
      | some (input, outlet) =>
        directing (fields.head? = some "exec") input outlet
          (runFields fuel tested assignments fields)
      | none =>
        if fields.head?.any Text.special.contains then finish errorStatus
        setStatus errorStatus
        checkError tested
    | .directed directions body =>
      match ← outletOf fuel (← get).input .kept directions with
      | some (input, outlet) => directing false input outlet (runCommand fuel tested body)
      | none =>
        setStatus errorStatus
        checkError tested

/-- Runs a simple command by its fields, with values for variables. Without fields its status is
that of the last commands whose output was taken for it. -/
def runFields : (fuel : Nat) → (tested : Bool) → List (String × Word) → List String → Eval Unit
  | 0, _, _, _ => throw .endless
  | fuel + 1, tested, assignments, fields => do
    match fields with
    | [] =>
      assignAll fuel assignments
      setStatus (← get).taken
      checkError tested
    | name :: arguments =>
      let outer ← get
      assignAll fuel assignments
      let names := assignments.map (·.1)
      share names
      runNamed fuel tested name arguments
      modify fun state =>
        { state with
          shared := if names.isEmpty then state.shared else outer.shared
          values :=
            if Text.special.contains name then state.values else state.restored outer names }
      checkError tested

/-- What a command reads, and where its output goes; nothing if a file cannot be opened. -/
def outletOf : (fuel : Nat) → List Char → Outlet → List Direction →
    Eval (Option (List Char × Outlet))
  | 0, _, _, _ => throw .endless
  | _, input, outlet, [] => return some (input, outlet)
  | fuel + 1, input, outlet, direction :: rest => do
    match direction with
    | .document text => outletOf fuel (← textOf fuel text).toList outlet rest
    | .source file =>
      let path ← textOf fuel file
      let files := (← get).files
      if files.exists? path then
        let text := Text.ofUtf8 ((files.octets? path).getD [])
        outletOf fuel text.toList outlet rest
      else return none
    | .target number writing file =>
      match ← openTarget writing (← textOf fuel file) with
      | none => return none
      | some opened => outletOf fuel input (if number = 1 then opened else outlet) rest
    | .copy number name =>
      let name ← textOf fuel name
      outletOf fuel input (if number = 1 && name ≠ "1" then .dropped else outlet) rest

/-- Gives values to variables. -/
def assignAll : (fuel : Nat) → List (String × Word) → Eval Unit
  | 0, _ => throw .endless
  | _, [] => pure ()
  | fuel + 1, (name, word) :: rest => do
    assign name (← textOf fuel word)
    assignAll fuel rest

/-- Runs a loop with a condition. Its status is that of its body, as far as that was run. -/
def runLoop : (fuel : Nat) → (tested wanted : Bool) → List Item → List Item → (status : Nat) →
    Eval Unit
  | 0, _, _, _, _, _ => throw .endless
  | fuel + 1, tested, wanted, condition, body, status => do
    let goesOn ← inLoop (runItems fuel true condition)
    if goesOn && ((← get).status = 0) = wanted then
      if ← inLoop (runItems fuel tested body) then
        runLoop fuel tested wanted condition body (← get).status
      else setStatus 0
    else setStatus status

/-- Runs a loop over words. -/
def runEach : (fuel : Nat) → (tested : Bool) → String → List String → List Item → Eval Unit
  | 0, _, _, _, _ => throw .endless
  | _, _, _, [], _ => pure ()
  | fuel + 1, tested, name, value :: rest, body => do
    assign name value
    if ← inLoop (runItems fuel tested body) then runEach fuel tested name rest body

/-- Runs the first arm of a choice with a pattern that a text fits. -/
def runArms : (fuel : Nat) → (tested : Bool) → List Char → List (List Word × List Item) → Eval Unit
  | 0, _, _, _ => throw .endless
  | _, _, _, [] => setStatus 0
  | fuel + 1, tested, text, (patterns, body) :: rest => do
    if ← fitsOne fuel text patterns then
      if body.isEmpty then setStatus 0 else runItems fuel tested body
    else runArms fuel tested text rest

/-- Whether a text fits one of the patterns. -/
def fitsOne : (fuel : Nat) → List Char → List Word → Eval Bool
  | 0, _, _ => throw .endless
  | _, _, [] => return false
  | fuel + 1, text, pattern :: rest => do
    if fits (patternOfChunks (← chunksOf fuel pattern)) text then return true
    else fitsOne fuel text rest

/-- Runs what a name stands for: a function, a command of the shell, or a program. -/
def runNamed : (fuel : Nat) → (tested : Bool) → String → List String → Eval Unit
  | 0, _, _, _ => throw .endless
  | fuel + 1, tested, name, arguments => do
    match (← get).functions.lookup name with
    | some body =>
      inFunction arguments (runCommand fuel tested body)
    | none =>
      if ← runBuiltin fuel tested name arguments then pure ()
      else setStatus (statusOf (← runProgram fuel name arguments))

/-- Runs a command of the shell, if the name is that of one. -/
def runBuiltin : (fuel : Nat) → (tested : Bool) → String → List String → Eval Bool
  | 0, _, _, _ => throw .endless
  | fuel + 1, tested, name, arguments => do
    let state ← get
    match name with
    | ":" => setStatus 0
    | "true" => setStatus 0
    | "false" => setStatus 1
    | "exit" => finish (← numberOr state.status arguments)
    | "return" =>
      setStatus (← numberOr state.status arguments)
      throw .returned
    | "break" => leaveLoops .left (← numberOr 1 arguments)
    | "continue" => leaveLoops .again (← numberOr 1 arguments)
    | "shift" =>
      let count ← numberOr 1 arguments
      if count ≤ state.arguments.length then
        set { state with arguments := state.arguments.drop count, status := 0 }
      else finish errorStatus
    | "set" =>
      setOptions arguments
      setStatus 0
    | "export" => share (← declare arguments)
    | "readonly" =>
      let names ← declare arguments
      modify fun state => { state with fixed := names ++ state.fixed }
    | "local" =>
      if state.depth ≠ 0 then
        let _ ← declare arguments
      else if state.extended then setStatus 1
      else finish errorStatus
    | "unset" =>
      let names := arguments.filter fun word => !Text.beginsWith word "-"
      if !names.all isName then finish errorStatus
      set
        { state with
          values := state.values.filter fun (name, _) => !arguments.contains name
          functions := state.functions.filter fun (name, _) => !arguments.contains name
          status := 0 }
    | "trap" =>
      match arguments with
      | [] =>
        write (String.join state.trapLines)
        setStatus 0
      | [name] => setTraps none [name]
      | action :: names => setTraps (if action = "-" then none else some action) names
    | "kill" => sendSignal arguments
    | "echo" =>
      write (if state.extended then echoedPlain arguments else echoed arguments)
      setStatus 0
    | "printf" =>
      match if arguments.head? = some "--" then arguments.drop 1 else arguments with
      | [] => setStatus errorStatus
      | format :: arguments =>
        let (text, status) := formatted format arguments
        write text
        setStatus status
    | "test" => setStatus (test state.files state.extended arguments)
    | "[" =>
      if arguments.getLast? = some "]" then
        setStatus (test state.files state.extended arguments.dropLast)
      else setStatus errorStatus
    | "pwd" =>
      write (state.files.workingDirText ++ "\n")
      setStatus 0
    | "cd" =>
      let value (name : String) := (state.values.lookup name).getD "/"
      let target := match arguments with
        | [] => value "HOME"
        | "-" :: _ => value "OLDPWD"
        | target :: _ => target
      if (state.files.find? target).any File.isDirectory then
        let files := { state.files with workingDir := state.files.fullPath target }
        set { state with files, status := 0 }
        assign "OLDPWD" state.files.workingDirText
        assign "PWD" files.workingDirText
      else setStatus errorStatus
    | "eval" => runTextOrNone fuel tested (String.intercalate " " arguments).toList
    | "." =>
      match arguments with
      | [] => setStatus errorStatus
      | path :: _ =>
        match state.files.octets? path with
        | some octets => leavable (runTextOrNone fuel tested (scriptText octets))
        | none => finish errorStatus
    | "exec" =>
      match arguments with
      | [] => setStatus 0
      | name :: arguments => throw (.ended (← runProgram fuel name arguments))
    | "type" =>
      write (String.join (arguments.filterMap state.explained?))
      setStatus (if arguments.all (state.knows ·) then 0 else if state.extended then 1 else 127)
    | "command" =>
      match arguments with
      | "-v" :: name :: _ =>
        write (((state.meaning? name).map (·.2 ++ "\n")).getD "")
        setStatus (if state.knows name then 0 else if state.extended then 1 else 127)
      | name :: arguments =>
        if ← runBuiltin fuel tested name arguments then pure ()
        else setStatus (statusOf (← runProgram fuel name arguments))
      | [] => setStatus 0
    | "read" => readLine arguments
    | "wait" => waitForAll arguments
    | "fg" => setStatus errorStatus
    | "bg" => setStatus errorStatus
    | "umask" => setStatus 0
    | "ulimit" => setStatus 0
    | "hash" => setStatus (statusIf (arguments.all (state.knows ·)))
    | "alias" => setStatus 0
    | "unalias" => setStatus 1
    | "expr" =>
      let (text, status) := calculated arguments
      write text
      setStatus status
    | "times" => setStatus 0
    | "jobs" => setStatus 0
    | _ => return false
    return true

/-- Runs a program, and gives how it ended. -/
def runProgram : (fuel : Nat) → String → List String → Eval ExitStatus
  | 0, _, _ => throw .endless
  | fuel + 1, name, arguments => do
    let files := (← get).files
    let start := do
      let path ← locate files name
      startOf files startDepth path arguments
    match start with
    | .ok (native, arguments) => runNative fuel native arguments
    | .error .noProgram => runShell fuel false (name :: arguments)
    | .error error => return .exited (startFailure error)

/-- Runs what words tell without some of the variables. -/
def runWithout : (fuel : Nat) → (unwanted : String → Bool) → List String → Eval ExitStatus
  | 0, _, _ => throw .endless
  | fuel + 1, unwanted, words => do
    let before ← get
    set { before with values := before.values.filter fun (name, _) => !unwanted name }
    let status ← runNative fuel .env words
    modify fun state => { state with values := before.values }
    return status

/-- Runs an installed program. -/
def runNative : (fuel : Nat) → Native → List String → Eval ExitStatus
  | 0, _, _ => throw .endless
  | fuel + 1, native, arguments => do
    let files := (← get).files
    match native with
    | .shell extended => runShell fuel extended arguments
    | .env =>
      let isSetting (word : String) := word.toList.contains '='
      match (splitOption arguments).dropWhile isSetting with
      | [] => return .exited 0
      | "-i" :: rest => runWithout fuel (fun _ => true) rest
      | "-" :: rest => runWithout fuel (fun _ => true) rest
      | "-u" :: name :: rest => runWithout fuel (· == name) rest
      | name :: rest =>
        if Text.beginsWith name "-" then return .exited 125
        else
          let before ← get
          share (← declare ((splitOption arguments).takeWhile isSetting))
          let status ← runProgram fuel name rest
          modify fun state => { state with values := before.values, shared := before.shared }
          return status
    | .sleep =>
      if arguments = ["infinity"] then throw .endless
      else match arguments.mapM duration? with
        | some [] => return .exited 1
        | some lengths =>
          let length : Duration := ⟨(lengths.map Duration.nanos).sum⟩
          modify fun state => { state with elapsed := ⟨state.elapsed.nanos + length.nanos⟩ }
          return .exited 0
        | none => return .exited 1
    | .constant status => return .exited status
    | .builtin name =>
      let before ← get
      set { before with extended := true }
      let _ ← runBuiltin fuel true name arguments
      let status := (← get).status
      modify fun state => { state with extended := before.extended, status := before.status }
      return .exited status
    | .tool letters bad reads =>
      let status := toolStatus files letters bad reads arguments
      if reads && status = 0 then showFiles (arguments.filter fun word => !isOption word)
      return .exited status
    | .tail =>
      if arguments.head? = some "-f" || arguments.head? = some "-F" then throw .endless
      else return .exited (toolStatus files "nqvz" 1 true arguments)
    | .refusing status => return .exited (if arguments.any isOption then status else 0)
    | .change change letters =>
      if toolStatus files letters 1 false arguments ≠ 0 then return .exited 1
      else return .exited (← changeFiles change arguments)

/-- Runs another shell, and gives how it ended. -/
def runShell : (fuel : Nat) → (extended : Bool) → List String → Eval ExitStatus
  | 0, _, _ => throw .endless
  | fuel + 1, extended, arguments => do
    let before ← get
    match invocationOf [] arguments with
    | .error status => return .exited status
    | .ok invocation =>
      let text := match invocation.source with
        | .input => some (before.input.filter (· != '\x00'))
        | .words text => some text.toList
        | .file path => (before.files.octets? path).map scriptText
      match text with
      | none => return .exited errorStatus
      | some text =>
        if invocation.options.contains 'n' then return .exited 0
        else
          let inner : State :=
            { before with
              pid := before.pid + 2, name := invocation.name, arguments := invocation.arguments
              values :=
                (before.values.filter fun (name, _) => before.shared.contains name) ++
                  commonVariables before.files
              functions := [], traps := before.traps.filter (·.2.isEmpty)
              options := shownOptions invocation.options.contains
              status := 0, isInner := false, coming := []
              input := if invocation.source = .input then [] else before.input
              lastJob := none, extended, fixed := [], depth := 0, loops := 0, jobs := [] }
          let (result, after) := ((runWhole fuel text).run).run inner
          let ending? : Ending Duration := match result with
            | .ok _ => some (after.elapsed, .exited (after.status % 256))
            | .error (.ended status) => some (after.elapsed, status)
            | .error (.killed status) => some (after.elapsed, status)
            | .error _ => none
          let fate? := after.fate?.filter fun (moment, _) => ending?.all (moment ≤ ·.1)
          match fate?.or ending? with
          | none => throw .endless
          | some (elapsed, status) =>
            set
              { before with
                elapsed, written := after.written, input := after.input
                files := seenFrom after.files before.files }
            return status

/-- Does something in a shell of its own, which has arranged nothing but not to heed signals. -/
def runInner : (fuel : Nat) → Eval Unit → Eval Unit
  | 0, _ => throw .endless
  | fuel + 1, action => do
    modify fun state =>
      { state with
        loops := 0, jobs := [], isInner := true
        traps := state.traps.filter fun (number, action) => number ≠ 0 && action.isEmpty }
    runEnding fuel (← endingOf action)

/-- Runs a whole script. -/
def runWhole : (fuel : Nat) → List Char → Eval Unit
  | 0, _ => throw .endless
  | fuel + 1, text => do runEnding fuel (← endingOf (runText fuel false text))

/-- Ends a shell, once that is run that is arranged for its end. -/
def runEnding : (fuel : Nat) → ExitStatus → Eval Unit
  | 0, _ => throw .endless
  | fuel + 1, ending => do
    match ending, (← get).traps.lookup 0 with
    | .exited status, some action =>
      setStatus status
      runText fuel true action.toList
    | _, _ => pure ()
    throw (.ended ending)

/-- Runs the commands of a text. Without commands the status is that of success. -/
def runTextOrNone : (fuel : Nat) → (tested : Bool) → List Char → Eval Unit
  | 0, _, _ => throw .endless
  | fuel + 1, tested, text => do
    if let some ([], _) := Text.line? text then setStatus 0 else runText fuel tested text

/-- Runs the commands of a text line by line. An error in a line ends the shell. -/
def runText : (fuel : Nat) → (tested : Bool) → List Char → Eval Unit
  | 0, _, _ => throw .endless
  | fuel + 1, tested, text => do
    match Text.line? text with
    | none => finish errorStatus
    | some ([], _) => pure ()
    | some (items, rest) =>
      runItems fuel tested items
      runText fuel tested rest

end

/-- The fuel of a script. -/
def fuelLimit : Nat := 20000

/-- How an installed program ends that is started with some arguments and variables: after what
time, and how; nothing if it never ends. -/
def lifetimeOf (files : FileTree) (native : Native) (arguments : List String)
    (values : List (String × String)) : Ending Duration :=
  let state : State :=
    { files, pid := firstPid - 2, name := "", arguments := []
      values := values ++ commonVariables files
      shared := "PATH" :: values.map (·.1) }
  let (result, after) := ((runNative fuelLimit native arguments).run).run state
  match result with
  | .ok status => some (after.elapsed, status)
  | .error (.ended status) => some (after.elapsed, status)
  | .error (.killed status) => some (after.elapsed, status)
  | .error _ => none

end GracefulStop.Shell
