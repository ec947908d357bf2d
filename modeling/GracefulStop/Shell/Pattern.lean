/-!
# Patterns

A pattern of characters stands for texts: a star for any text, a question mark for any character, a
set in brackets for one of its characters.
-/

namespace GracefulStop.Shell

/-- A part of a pattern. -/
inductive PatternPart where
  | char (c : Char)
  | any
  | one
  /-- A character in one of the ranges, or in none of them. -/
  | set (inside : Bool) (ranges : List (Char × Char))
  deriving DecidableEq, Repr, Inhabited

/-- The rest of a text at each of its places. -/
def tails : List Char → List (List Char)
  | [] => [[]]
  | c :: rest => (c :: rest) :: tails rest

/-- Whether a text fits a pattern. -/
def fits : List PatternPart → List Char → Bool
  | [], text => text.isEmpty
  | .any :: rest, text => (tails text).any (fits rest)
  | .char p :: rest, c :: text => p == c && fits rest text
  | .one :: rest, _ :: text => fits rest text
  | .set inside ranges :: rest, c :: text =>
    ranges.any (fun (low, high) => low ≤ c && c ≤ high) == inside && fits rest text
  | _ :: _, [] => false

/-- The ranges of the classes of characters that have names. -/
def classes : List (String × List (Char × Char)) :=
  let letters := [('A', 'Z'), ('a', 'z')]
  let signs := [('!', '/'), (':', '@'), ('[', '\x60'), ('\x7b', '~')]
  [("alpha", letters), ("digit", [('0', '9')]), ("alnum", ('0', '9') :: letters),
    ("upper", [('A', 'Z')]), ("lower", [('a', 'z')]), ("space", [('\t', '\r'), (' ', ' ')]),
    ("blank", [('\t', '\t'), (' ', ' ')]), ("punct", signs), ("print", [(' ', '~')]),
    ("graph", [('!', '~')]), ("cntrl", [('\x00', '\x1f'), ('\x7f', '\x7f')]),
    ("xdigit", [('0', '9'), ('A', 'F'), ('a', 'f')])]

/-- The ranges of a class that is named in the way of sets, and what follows it. -/
def class? (marks : List (Char × Bool)) : Option (List (Char × Char) × List (Char × Bool)) :=
  let name := marks.takeWhile (·.1.isAlpha)
  match marks.drop name.length with
  | (':', _) :: (']', _) :: rest =>
    (classes.lookup (String.ofList (name.map (·.1)))).map fun ranges => (ranges, rest)
  | _ => none

/-- The ranges of a set up to its closing bracket, and what follows it. A bracket that comes first
belongs to the set. Each character takes one unit of fuel at most. -/
def setOf? : (fuel : Nat) → (isFirst : Bool) → List (Char × Bool) →
    Option (List (Char × Char) × List (Char × Bool))
  | 0, _, _ => none
  | _, _, [] => none
  | fuel + 1, isFirst, (c, quoted) :: rest =>
    let named? := match c, rest with
      | '[', (':', _) :: rest => if quoted then none else class? rest
      | _, _ => none
    match named?, c, rest with
    | some (named, rest), _, _ =>
      (setOf? fuel false rest).map fun (ranges, rest) => (named ++ ranges, rest)
    | none, c, rest =>
      if c == ']' && !quoted && !isFirst then some ([], rest)
      else match rest with
        | ('-', false) :: (high, highQuoted) :: rest =>
          if high == ']' && !highQuoted then some ([(c, c), ('-', '-')], rest)
          else (setOf? fuel false rest).map fun (ranges, rest) => ((c, high) :: ranges, rest)
        | rest => (setOf? fuel false rest).map fun (ranges, rest) => ((c, c) :: ranges, rest)

/-- The pattern that characters write, each with whether it is quoted and stands for itself. Each
character takes one unit of fuel at most. -/
def patternOf : (fuel : Nat) → List (Char × Bool) → List PatternPart
  | 0, _ => []
  | _, [] => []
  | fuel + 1, (c, quoted) :: rest =>
    if quoted then .char c :: patternOf fuel rest
    else match c with
      | '*' => .any :: patternOf fuel rest
      | '?' => .one :: patternOf fuel rest
      | '[' =>
        let (inside, members) := match rest with
          | ('!', false) :: members => (false, members)
          | members => (true, members)
        match setOf? (members.length + 1) true members with
        | some (ranges, rest) => .set inside ranges :: patternOf fuel rest
        | none => .char c :: patternOf fuel rest
      | _ => .char c :: patternOf fuel rest

/-- The text without its shortest or longest start that fits a pattern. -/
def withoutStart (longest : Bool) (pattern : List PatternPart) (text : List Char) : List Char :=
  let lengths := (List.range (text.length + 1)).filter fun length => fits pattern (text.take length)
  match if longest then lengths.getLast? else lengths.head? with
  | some length => text.drop length
  | none => text

/-- The text without its shortest or longest end that fits a pattern. -/
def withoutStop (longest : Bool) (pattern : List PatternPart) (text : List Char) : List Char :=
  let lengths := (List.range (text.length + 1)).filter fun length => fits pattern (text.drop length)
  match if longest then lengths.head? else lengths.getLast? with
  | some length => text.take length
  | none => text

end GracefulStop.Shell
