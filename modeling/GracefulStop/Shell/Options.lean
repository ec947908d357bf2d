import GracefulStop.Shell.State

/-!
# Options

The options of a shell, those that are turned on and off by a script and those with which a shell is
started.
-/

namespace GracefulStop.Shell

/-- The names of the options that a shell has, each with its letter if it has one. -/
def optionNames : List (String × Option Char) :=
  [("allexport", some 'a'), ("debug", none), ("emacs", some 'E'), ("errexit", some 'e'),
    ("ignoreeof", some 'I'), ("interactive", some 'i'), ("monitor", some 'm'),
    ("noclobber", some 'C'), ("noexec", some 'n'), ("noglob", some 'f'), ("nolog", none),
    ("notify", some 'b'), ("nounset", some 'u'), ("stdin", some 's'), ("verbose", some 'v'),
    ("vi", some 'V'), ("xtrace", some 'x')]

/-- The letters that can be turned on or off. -/
def optionLetters : List Char := "aCefhiIlmnosuvxbEV".toList

/-- The letters of the options that are on, in the order in which they are shown. -/
def shownOptions (isOn : Char → Bool) : List Char := "ubaCEVvxsnmiIfe".toList.filter isOn

/-- The letters that an option named so stands for. A name that is not known ends the shell. -/
def lettersOf (name : String) : Eval (List Char) := do
  match optionNames.lookup name with
  | some letter? => return letter?.toList
  | none => if (← get).extended then return [] else finish errorStatus

/-- Turns options on or off by their letters. A letter that is not known ends the shell. -/
def turn (isOn : Bool) (letters : List Char) : Eval Unit := do
  if !letters.all optionLetters.contains && !(← get).extended then finish errorStatus
  modify fun state =>
    { state with
      options := shownOptions fun letter =>
        if letters.contains letter then isOn else state.options.contains letter }

/-- The letters of options that a word turns on or off. -/
def optionLetters? (word : String) : Option (Bool × List Char) :=
  match word.toList with
  | '-' :: letters => if word = "--" then none else some (true, letters)
  | '+' :: letters => some (false, letters)
  | _ => none

/-- Turns options on or off. The words from the first on that is no option are arguments. -/
def setOptions : List String → Eval Unit
  | [] => pure ()
  | word :: rest => do
    match optionLetters? word with
    | none =>
      modify fun state => { state with arguments := if word = "--" then rest else word :: rest }
    | some (isOn, letters) =>
      turn isOn letters
      if letters.contains 'o' then
        match rest with
        | [] => pure ()
        | name :: rest => do
          turn isOn (← lettersOf name)
          setOptions rest
      else setOptions rest

/-- Where the commands of a shell are. -/
inductive Source where
  | input
  | words (text : String)
  | file (path : Path)
  deriving DecidableEq, Repr

/-- The options, the commands and the arguments with which a shell is started. -/
structure Invocation where
  options : List Char
  source : Source
  name : String
  arguments : List String

/-- The letters of the options with which a shell can be started. -/
def shellLetters : List Char := "aCefhiIlmnsuvxbE".toList

/-- How a shell is started by its arguments, or with what status it fails. -/
def invocationOf (options : List Char) : List String → Except Nat Invocation
  | [] => .ok ⟨options, .input, "sh", []⟩
  | word :: rest =>
    match word.toList with
    | '+' :: letters =>
      if letters.all shellLetters.contains then
        invocationOf (options.filter fun letter => !letters.contains letter) rest
      else .error errorStatus
    | '-' :: letters =>
      if letters.isEmpty || word = "--" then
        match rest with
        | path :: arguments => .ok ⟨options, .file path, path, arguments⟩
        | [] => .ok ⟨options, .input, "sh", []⟩
      else if !letters.all fun letter => letter == 'c' || shellLetters.contains letter then
        .error errorStatus
      else if letters.contains 'c' then
        match rest with
        | [] => .error errorStatus
        | [text] => .ok ⟨options ++ letters.erase 'c', .words text, "sh", []⟩
        | text :: name :: arguments =>
          .ok ⟨options ++ letters.erase 'c', .words text, name, arguments⟩
      else if letters.contains 's' then .ok ⟨options ++ letters, .input, "sh", rest⟩
      else invocationOf (options ++ letters) rest
    | _ => .ok ⟨options, .file word, word, rest⟩

end GracefulStop.Shell
