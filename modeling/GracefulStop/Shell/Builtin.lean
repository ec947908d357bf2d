import GracefulStop.Shell.Arithmetic
import GracefulStop.Shell.State

/-!
# Tests

Commands that need nothing but their arguments: they compare texts, numbers and files, and calculate.
-/

namespace GracefulStop.Shell

/-- The status of a condition. -/
def statusIf (holds : Bool) : Nat := if holds then 0 else 1

/-- A condition on one text. -/
def unary? (files : FileTree) (operator text : String) : Option Bool :=
  match operator with
  | "-n" => some (text != "")
  | "-z" => some (text == "")
  | "-e" => some (files.exists? text)
  | "-f" => some ((files.octets? text).isSome)
  | "-r" => some (files.exists? text)
  | "-w" => some (files.exists? text)
  | "-d" => some ((files.find? text).any File.isDirectory)
  | "-s" => some ((files.octets? text).any (!·.isEmpty))
  | "-x" =>
    some ((files.find? text).any fun
      | .regular _ executable => executable
      | .directory _ => true)
  | "-t" => some false
  | "-c" => some (files.exists? text && Text.beginsWith text "/dev/")
  | "-O" => some (files.exists? text)
  | "-G" => some (files.exists? text)
  | "-p" => some false
  | "-S" => some false
  | "-b" => some false
  | "-k" => some false
  | "-u" => some false
  | "-g" => some false
  | "-h" => some false
  | "-L" => some false
  | _ => none

/-- A condition on two numbers. -/
def compare? (operator : String) (left right : Int) : Option Bool :=
  match operator with
  | "-eq" => some (left = right)
  | "-ne" => some (left ≠ right)
  | "-lt" => some (left < right)
  | "-le" => some (left ≤ right)
  | "-gt" => some (left > right)
  | "-ge" => some (left ≥ right)
  | _ => none

/-- Whether a word is an operator between two texts. -/
def isBinary (word : String) : Bool :=
  ["=", "!=", "<", ">", "-eq", "-ne", "-lt", "-le", "-gt", "-ge", "-nt", "-ot", "-ef"].contains word

/-- Whether a word is an operator before a text. -/
def isUnary (word : String) : Bool :=
  match word.toList with
  | ['-', letter] => "bcdefghknoprstuwxzGLOS".toList.contains letter && letter != 'o'
  | _ => false

/-- A condition on two texts, if it makes sense. All files are of one age. -/
def binary? (files : FileTree) (left operator right : String) : Option Bool :=
  match operator with
  | "=" => some (left == right)
  | "!=" => some (left != right)
  | "<" => some (left < right)
  | ">" => some (right < left)
  | "-nt" => some (files.exists? left && !files.exists? right)
  | "-ot" => some (!files.exists? left && files.exists? right)
  | "-ef" =>
    some (files.exists? left && (files.resolve left).toOption = (files.resolve right).toOption)
  | operator =>
    match (Text.trim left).toInt?, (Text.trim right).toInt? with
    | some left, some right => compare? operator left right
    | _, _ => none

mutual

/-- The value of conditions of which one has to hold, and the words after them. -/
def anyOf? (files : FileTree) : (fuel : Nat) → List String → Option (Bool × List String)
  | 0, _ => none
  | fuel + 1, words => do
    let (first, rest) ← allOf? files fuel words
    match rest with
    | "-o" :: rest =>
      let (second, rest) ← anyOf? files fuel rest
      return (first || second, rest)
    | rest => return (first, rest)

/-- The value of conditions that all have to hold, and the words after them. -/
def allOf? (files : FileTree) : (fuel : Nat) → List String → Option (Bool × List String)
  | 0, _ => none
  | fuel + 1, words => do
    let (first, rest) ← single? files fuel words
    match rest with
    | "-a" :: rest =>
      let (second, rest) ← allOf? files fuel rest
      return (first && second, rest)
    | rest => return (first, rest)

/-- The value of one condition, and the words after it. No words are a condition that fails. An
operator before a text is none if nothing follows it, or if an operator between texts does. -/
def single? (files : FileTree) : (fuel : Nat) → List String → Option (Bool × List String)
  | 0, _ => none
  | _, [] => some (false, [])
  | _, [word] => some (word != "" && word != "!", [])
  | fuel + 1, word :: next :: rest =>
    if word = "!" then (single? files fuel (next :: rest)).map fun (value, rest) => (!value, rest)
    else if word = "(" then
      if next = ")" then some (false, rest)
      else do
        match ← anyOf? files fuel (next :: rest) with
        | (value, ")" :: rest) => return (value, rest)
        | _ => none
    else if isUnary word && !(isBinary next && !rest.isEmpty) then
      (unary? files word next).map (·, rest)
    else if isBinary next then
      match rest with
      | right :: rest => (binary? files word next right).map (·, rest)
      | [] => none
    else some (word != "", next :: rest)

end

/-- The value of a condition, if it makes sense. An operator between two texts comes first, and
brackets around one word or two. -/
def condition? (files : FileTree) (words : List String) : Option Bool :=
  let whole (words : List String) : Option Bool :=
    (anyOf? files (4 * words.length + 4) words).bind fun (value, rest) =>
      if rest.isEmpty then some value else none
  match words with
  | [left, operator, right] =>
    if isBinary operator then binary? files left operator right
    else if left = "(" && right = ")" then whole [operator]
    else whole words
  | ["(", first, second, ")"] => whole [first, second]
  | words => whole words

/-- The status of a condition. A shell that knows more also takes another sign for the same text. -/
def test (files : FileTree) (extended : Bool) (words : List String) : Nat :=
  let words := if extended then words.map fun word => if word = "==" then "=" else word else words
  match condition? files words with
  | some holds => statusIf holds
  | none => 2

/-- What a calculation with two numbers writes, and its status. -/
def calculated : List String → String × Nat
  | [left, operator, right] =>
    match left.toInt?, right.toInt? with
    | some left, some right =>
      match (combine? (if operator = "=" then "==" else operator) left right) with
      | some value => (toString value ++ "\n", if value = 0 then 1 else 0)
      | none => ("", 2)
    | _, _ => ("", 2)
  | [text] => (text ++ "\n", if text = "0" || text = "" then 1 else 0)
  | _ => ("", 2)

/-- The duration that a word writes: a number of seconds, or of what its last letter says. -/
def duration? (word : String) : Option Duration :=
  let unit := match word.toList.getLast? with
    | some 's' => some 1
    | some 'm' => some 60
    | some 'h' => some 3600
    | some 'd' => some 86400
    | _ => none
  let digits := if unit.isSome then word.toList.dropLast else word.toList
  let whole := digits.takeWhile Char.isDigit
  let fraction := match digits.dropWhile Char.isDigit with
    | '.' :: fraction => some fraction
    | [] => some []
    | _ => none
  match fraction with
  | some fraction =>
    if (whole.isEmpty && fraction.isEmpty) || !fraction.all Char.isDigit then none
    else
      let number (digits : List Char) := (String.ofList digits).toNat?.getD 0
      let nanos := number whole * 10 ^ 9 + number ((fraction ++ List.replicate 9 '0').take 9)
      some ⟨nanos * unit.getD 1⟩
  | none => none

end GracefulStop.Shell
