import GracefulStop.Toml.Chars
import GracefulStop.Toml.Document
import GracefulStop.Toml.Scalar

/-!
# Reading TOML

`Toml.lines?` reads a text into its lines, and refuses whatever the grammar does not derive. Each
reader takes its part from the front of a text and gives back what follows it.
-/

namespace GracefulStop.Toml.Text

/-- The text from its first character that is no blank. -/
def skipBlanks (text : List Char) : List Char := text.dropWhile isBlank

/-- What follows the end of a line, which may be the end of the text. -/
def newline? : List Char → Option (List Char)
  | [] => some []
  | '\n' :: rest => some rest
  | '\r' :: '\n' :: rest => some rest
  | _ => none

/-- What follows a line of which only blanks and a comment are left. -/
def lineEnd? (text : List Char) : Option (List Char) :=
  match skipBlanks text with
  | '#' :: rest => newline? (rest.dropWhile isInline)
  | rest => newline? rest

/-- The text from its first line that says something. Each line takes one unit of fuel at most. -/
def skipLines : (fuel : Nat) → List Char → Option (List Char)
  | 0, text => some text
  | fuel + 1, text =>
    match skipBlanks text with
    | [] => some []
    | c :: rest =>
      if c == '#' || c == '\n' || c == '\r' then
        (lineEnd? (c :: rest)).bind (skipLines fuel)
      else some (c :: rest)

/-- The value of a hexadecimal digit. -/
def hexDigit? (c : Char) : Option Nat := if isDigitIn 16 c then some (digitValue c) else none

/-- The character whose code so many hexadecimal digits write, and what follows them. -/
def coded? (count : Nat) (text : List Char) : Option (Char × List Char) := do
  let digits := text.take count
  let values ← digits.mapM hexDigit?
  let code := values.foldl (fun code value => code * 16 + value) 0
  if digits.length = count && code.isValidChar then some (Char.ofNat code, text.drop count)
  else none

/-- The character of an escape of one letter. -/
def shortEscape? : Char → Option Char
  | 'b' => some '\x08'
  | 'e' => some '\x1b'
  | 't' => some '\t'
  | 'n' => some '\n'
  | 'f' => some '\x0c'
  | 'r' => some '\r'
  | '"' => some '"'
  | '\\' => some '\\'
  | _ => none

/-- The character of an escape after its backslash, and how many characters the escape has after it.
-/
def escape? : List Char → Option (Char × Nat)
  | 'x' :: rest => (coded? 2 rest).map fun (c, _) => (c, 3)
  | 'u' :: rest => (coded? 4 rest).map fun (c, _) => (c, 5)
  | 'U' :: rest => (coded? 8 rest).map fun (c, _) => (c, 9)
  | letter :: _ => (shortEscape? letter).map fun c => (c, 1)
  | [] => none

/-- The string between double quotes on one line, after its first quote. The characters of an escape
are left out when they come, `skip` of them. -/
def basic? : (skip : Nat) → List Char → Option (List Char × List Char)
  | _, [] => none
  | skip + 1, _ :: rest => basic? skip rest
  | 0, c :: rest =>
    if c == '"' then some ([], rest)
    else if c == '\\' then do
      let (value, length) ← escape? rest
      let (tail, rest) ← basic? length rest
      some (value :: tail, rest)
    else if isInline c then (basic? 0 rest).map fun (tail, rest) => (c :: tail, rest)
    else none

/-- The string between single quotes on one line, after its first quote. -/
def literal? : List Char → Option (List Char × List Char)
  | [] => none
  | c :: rest =>
    if c == '\'' then some ([], rest)
    else if isInline c then (literal? rest).map fun (tail, rest) => (c :: tail, rest)
    else none

/-- The quotes of a string at its end, where three quotes end it and up to two more belong to it:
these two at most, and what follows the end. -/
def closing (quote : Char) (text : List Char) : List Char × List Char :=
  match text with
  | a :: b :: rest =>
    if a == quote then (if b == quote then ([a, b], rest) else ([a], b :: rest)) else ([], text)
  | [a] => if a == quote then ([a], []) else ([], text)
  | [] => ([], [])

/-- Whether a line breaks off after blanks. -/
def breaksOff (text : List Char) : Bool :=
  match skipBlanks text with
  | '\n' :: _ => true
  | '\r' :: '\n' :: _ => true
  | _ => false

/-- Whether a text begins with two of a character. -/
def startsWithTwo (c : Char) : List Char → Bool
  | a :: b :: _ => a == c && b == c
  | _ => false

/-- Whether a character with what follows it may stand in a string of several lines. -/
def isInLines (c : Char) (rest : List Char) : Bool :=
  isInline c || c == '\n' || (c == '\r' && rest.head? == some '\n')

/-- What is left out next in a string of several lines. -/
inductive Skip where
  /-- So many characters, which belong to an escape. -/
  | count (left : Nat)
  /-- White space, after a backslash at the end of a line. -/
  | white

/-- The string between three double quotes, after its first quotes. -/
def basicLines? : Skip → List Char → Option (List Char × List Char)
  | _, [] => none
  | .count (left + 1), _ :: rest => basicLines? (.count left) rest
  | skip, c :: rest =>
    let skips := match skip with
      | .white => isBlank c || c == '\n' || (c == '\r' && rest.head? == some '\n')
      | .count _ => false
    if skips then basicLines? .white rest
    else if c == '"' && startsWithTwo '"' rest then some (closing '"' (rest.drop 2))
    else if c == '\\' then
      if breaksOff rest then basicLines? .white rest
      else do
        let (value, length) ← escape? rest
        let (tail, rest) ← basicLines? (.count length) rest
        some (value :: tail, rest)
    else if isInLines c rest then
      (basicLines? (.count 0) rest).map fun (tail, rest) => (c :: tail, rest)
    else none

/-- The string between three single quotes, after its first quotes. -/
def literalLines? : List Char → Option (List Char × List Char)
  | [] => none
  | c :: rest =>
    if c == '\'' && startsWithTwo '\'' rest then some (closing '\'' (rest.drop 2))
    else if isInLines c rest then (literalLines? rest).map fun (tail, rest) => (c :: tail, rest)
    else none

/-- A text without a line's end at its front. -/
def skipNewline : List Char → List Char
  | '\n' :: rest => rest
  | '\r' :: '\n' :: rest => rest
  | text => text

/-- A string on one line, of either form. -/
def lineString? : List Char → Option (List Char × List Char)
  | '"' :: rest => basic? 0 rest
  | '\'' :: rest => literal? rest
  | _ => none

/-- A string of any form. -/
def string? : List Char → Option (List Char × List Char)
  | '"' :: '"' :: '"' :: rest => basicLines? (.count 0) (skipNewline rest)
  | '\'' :: '\'' :: '\'' :: rest => literalLines? (skipNewline rest)
  | text => lineString? text

/-- A name of a key. -/
def name? (text : List Char) : Option (String × List Char) :=
  match text.takeWhile isBare with
  | [] => (lineString? text).map fun (name, rest) => (String.ofList name, rest)
  | name => some (String.ofList name, text.dropWhile isBare)

/-- A path of names, between blanks. Each name takes one unit of fuel. -/
def path? : (fuel : Nat) → List Char → Option (List String × List Char)
  | 0, _ => none
  | fuel + 1, text => do
    let (name, rest) ← name? (skipBlanks text)
    match skipBlanks rest with
    | '.' :: rest => (path? fuel rest).map fun (names, rest) => (name :: names, rest)
    | rest => some ([name], rest)

/-- The greatest number of arrays and inline tables inside one another, and of names in a path. -/
def deepest : Nat := 80

/-- A path of names, not too many of them. -/
def key? (fuel : Nat) (text : List Char) : Option (List String × List Char) := do
  let (path, rest) ← path? fuel text
  if path.length ≤ deepest then some (path, rest) else none

/-- A character of a value of one word. -/
def isWordChar (c : Char) : Bool :=
  c.isAlphanum || c == '_' || c == '-' || c == '+' || c == '.' || c == ':'

/-- Whether a word is a day, and a blank and a digit follow it: then a time follows the day. -/
def timeFollows (word rest : List Char) : Bool :=
  match day? word, rest with
  | some (_, []), ' ' :: c :: _ => c.isDigit
  | _, _ => false

/-- A value of one word, or of a day and a time. -/
def word? (text : List Char) : Option (Toml × List Char) :=
  let word := text.takeWhile isWordChar
  let rest := text.dropWhile isWordChar
  if timeFollows word rest then
    let clock := (rest.drop 1).takeWhile isWordChar
    (ofWord? (word ++ ' ' :: clock)).map fun value => (value, (rest.drop 1).dropWhile isWordChar)
  else (ofWord? word).map fun value => (value, rest)

mutual

/-- A value, with so many arrays and tables inside one another. -/
def value? : (fuel depth : Nat) → List Char → Option (Toml × List Char)
  | 0, _, _ => none
  | fuel + 1, depth, text =>
    match text, depth with
    | '[' :: _, 0 => none
    | '{' :: _, 0 => none
    | '[' :: rest, depth + 1 =>
      (items? fuel depth rest).map fun (items, rest) => (.array items, rest)
    | '{' :: rest, depth + 1 => do
      let (entries, rest) ← inline? fuel depth rest
      let table ← ofInline? entries
      some (table, rest)
    | text, _ =>
      if text.head? = some '"' || text.head? = some '\'' then
        (string? text).map fun (value, rest) => (.string (String.ofList value), rest)
      else word? text

/-- The items of an array up to its closing bracket. Lines may end between them, and a comma may
follow the last. -/
def items? : (fuel depth : Nat) → List Char → Option (List Toml × List Char)
  | 0, _, _ => none
  | fuel + 1, depth, text =>
    match skipLines fuel text with
    | none => none
    | some (']' :: rest) => some ([], rest)
    | some text =>
      match value? fuel depth text with
      | none => none
      | some (item, rest) =>
        match skipLines fuel rest with
        | some (',' :: rest) =>
          (items? fuel depth rest).map fun (items, rest) => (item :: items, rest)
        | some (']' :: rest) => some ([item], rest)
        | _ => none

/-- The entries of a table in braces up to its closing brace. Lines may end around them, around
their signs of equality and around their values, and a comma may follow the last. -/
def inline? : (fuel depth : Nat) → List Char → Option (List (List String × Toml) × List Char)
  | 0, _, _ => none
  | fuel + 1, depth, text =>
    match skipLines fuel text with
    | none => none
    | some ('}' :: rest) => some ([], rest)
    | some text => do
      let (path, rest) ← key? fuel text
      match ← skipLines fuel rest with
      | '=' :: rest =>
        let (value, rest) ← value? fuel depth (← skipLines fuel rest)
        match ← skipLines fuel rest with
        | ',' :: rest =>
          let (entries, rest) ← inline? fuel depth rest
          some ((path, value) :: entries, rest)
        | '}' :: rest => some ([(path, value)], rest)
        | _ => none
      | _ => none

end

/-- A line that says something, with its end. -/
def line? (fuel : Nat) : List Char → Option (Line × List Char)
  | '[' :: '[' :: rest => do
    match ← key? fuel rest with
    | (path, ']' :: ']' :: rest) => some (.element path, ← lineEnd? rest)
    | _ => none
  | '[' :: rest => do
    match ← key? fuel rest with
    | (path, ']' :: rest) => some (.header path, ← lineEnd? rest)
    | _ => none
  | text => do
    match ← key? fuel text with
    | (path, '=' :: rest) =>
      let (value, rest) ← value? fuel deepest (skipBlanks rest)
      some (.entry path value, ← lineEnd? rest)
    | _ => none

/-- The lines of a text. Each takes one unit of fuel. -/
def lines? : (fuel : Nat) → List Char → Option (List Line)
  | 0, _ => none
  | fuel + 1, text =>
    match skipLines fuel text with
    | none => none
    | some [] => some []
    | some text => do
      let (line, rest) ← line? fuel text
      let lines ← lines? fuel rest
      some (line :: lines)

/-- A text without the mark of its encoding at its front. -/
def skipMark : List Char → List Char
  | '\uFEFF' :: rest => rest
  | text => text

end GracefulStop.Toml.Text

namespace GracefulStop.Toml

/-- The lines that a text writes. -/
def lines? (text : String) : Option (List Line) :=
  let chars := Text.skipMark text.toList
  Text.lines? (2 * chars.length + 2) chars

/-- The entries of the table that a text writes. -/
def read? (text : String) : Option (List (String × Toml)) := (lines? text).bind ofLines?

end GracefulStop.Toml
