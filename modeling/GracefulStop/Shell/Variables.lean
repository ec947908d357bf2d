import GracefulStop.Shell.Builtin
import GracefulStop.Shell.Parser

/-!
# Variables

How a script declares variables, shares them with programs and reads into them, and which of them
every shell knows.
-/

namespace GracefulStop.Shell

/-- Whether a text can be the name of a variable. -/
def isName (text : String) : Bool :=
  match text.toList with
  | [] => false
  | c :: rest => Text.startsName c && rest.all Text.inName

/-- The name in front of a value. -/
def nameOf (word : String) : String := String.ofList (word.toList.takeWhile (· != '='))

/-- Gives values to variables as words tell, and gives their names. A name that is none ends the
shell. -/
def declare (words : List String) : Eval (List String) := do
  let words := words.filter fun word => !Text.beginsWith word "-"
  if !words.all fun word => isName (nameOf word) then finish errorStatus
  words.forM fun word =>
    match word.splitOn "=" with
    | name :: value :: more => assign name (String.intercalate "=" (value :: more))
    | _ => pure ()
  setStatus 0
  return words.map nameOf

/-- Makes variables known to programs. -/
def share (names : List String) : Eval Unit :=
  modify fun state => { state with shared := names ++ state.shared }

/-- Whether a border is a blank. -/
def isBlankBorder (borders : List Char) (c : Char) : Bool :=
  borders.contains c && " \t\n".toList.contains c

/-- A text without the blanks around it at which fields are split. -/
def trimmed (borders : List Char) (text : List Mark) : List Mark :=
  let isBlank (mark : Mark) := !mark.2 && isBlankBorder borders mark.1
  ((text.dropWhile isBlank).reverse.dropWhile isBlank).reverse

/-- The first field of a text, and what follows it. -/
def firstField (borders : List Char) (text : List Mark) : List Mark × List Mark :=
  let isBorder (mark : Mark) := !mark.2 && borders.contains mark.1
  let isBlank (mark : Mark) := !mark.2 && isBlankBorder borders mark.1
  let field := text.takeWhile (!isBorder ·)
  let rest := (text.drop field.length).dropWhile isBlank
  match rest with
  | mark :: more => (field, if isBorder mark then more.dropWhile isBlank else rest)
  | [] => (field, [])

/-- The values that variables get from a text. The last one gets all that is left, without a border
that only ends it. -/
def readFields (borders : List Char) : List String → List Mark → List (String × String)
  | [], _ => []
  | [name], text =>
    let (field, rest) := firstField borders text
    [(name, textOfMarks (if rest.isEmpty then field else trimmed borders text))]
  | name :: names, text =>
    let (field, rest) := firstField borders text
    (name, textOfMarks field) :: readFields borders names rest

/-- A line at the start of a text, what follows it, and whether it ends. A character behind a
backslash stands for itself, unless all characters do; a line that ends so goes on. -/
def lineOf (isRaw : Bool) : List Char → List Mark × List Char × Bool
  | [] => ([], [], false)
  | '\n' :: rest => ([], rest, true)
  | ['\\'] => if isRaw then ([('\\', false)], [], false) else ([], [], false)
  | '\\' :: c :: rest =>
    if isRaw then
      let (line, rest, ends) := lineOf isRaw (c :: rest)
      (('\\', false) :: line, rest, ends)
    else
      let (line, rest, ends) := lineOf isRaw rest
      (if c == '\n' then line else (c, true) :: line, rest, ends)
  | c :: rest =>
    let (line, rest, ends) := lineOf isRaw rest
    ((c, false) :: line, rest, ends)

/-- Reads a line, and gives its fields to variables. -/
def readLine (words : List String) : Eval Unit := do
  let (options, names) := words.partition fun word => Text.beginsWith word "-"
  let state ← get
  let (line, rest, ends) := lineOf (options.contains "-r") state.input
  set { state with input := rest, status := statusIf ends }
  let fields := readFields state.borders names (trimmed state.borders line)
  fields.forM fun (name, value) => assign name value

/-- The variables that every shell knows. -/
def commonVariables (files : FileTree) : List (String × String) :=
  [("PATH", String.intercalate ":" searchPath), ("PWD", files.workingDirText), ("IFS", " \t\n"),
    ("OPTIND", "1")]

end GracefulStop.Shell
