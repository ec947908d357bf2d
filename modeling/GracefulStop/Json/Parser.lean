import GracefulStop.Json.Number

/-!
# Reading JSON

`Json.parse?` reads a text into a tree and refuses whatever the grammar does not derive.
A tree becomes a value only where it is nested at most so deep.
-/

namespace GracefulStop.Json.Text

/-- Blanks between tokens. -/
def isBlank (c : Char) : Bool := c == ' ' || c == '\n' || c == '\t' || c == '\r'

/-- The text from its first character that is not blank. -/
def skipBlanks (text : List Char) : List Char := text.dropWhile isBlank

/-- The value of a hexadecimal digit. -/
def hexDigit? (c : Char) : Option Nat :=
  if '0' ≤ c && c ≤ '9' then some (c.toNat - '0'.toNat)
  else if 'a' ≤ c && c ≤ 'f' then some (c.toNat - 'a'.toNat + 10)
  else if 'A' ≤ c && c ≤ 'F' then some (c.toNat - 'A'.toNat + 10)
  else none

/-- The number that four hexadecimal digits write. -/
def hexUnit? (a b c d : Char) : Option Nat := do
  let a ← hexDigit? a
  let b ← hexDigit? b
  let c ← hexDigit? c
  let d ← hexDigit? d
  some (a * 4096 + b * 256 + c * 16 + d)

/-- The character of a one-letter escape. -/
def shortEscape? : Char → Option Char
  | '"' => some '"'
  | '\\' => some '\\'
  | '/' => some '/'
  | 'b' => some '\x08'
  | 'f' => some '\x0c'
  | 'n' => some '\n'
  | 'r' => some '\r'
  | 't' => some '\t'
  | _ => none

/-- A UTF-16 code unit, or the characters that ordinary text and escapes stand for. -/
inductive Piece where
  | char (c : Char)
  | unit (value : Nat)

/-- The pieces of a string up to its closing quote, and the text after it. -/
def pieces : List Char → Option (List Piece × List Char)
  | [] => none
  | '"' :: rest => some ([], rest)
  | '\\' :: 'u' :: a :: b :: c :: d :: rest => do
    let value ← hexUnit? a b c d
    let (tail, rest) ← pieces rest
    some (.unit value :: tail, rest)
  | '\\' :: letter :: rest => do
    let c ← shortEscape? letter
    let (tail, rest) ← pieces rest
    some (.char c :: tail, rest)
  | c :: rest =>
    if c.toNat < 0x20 || c == '\\' then none
    else do
      let (tail, rest) ← pieces rest
      some (.char c :: tail, rest)

/-- The characters of pieces; `none` if half of a surrogate pair stands alone. -/
def joinPieces : List Piece → Option (List Char)
  | [] => some []
  | .char c :: rest => (joinPieces rest).map (c :: ·)
  | .unit high :: .unit low :: rest =>
    if 0xD800 ≤ high && high < 0xDC00 then
      if 0xDC00 ≤ low && low < 0xE000 then
        (joinPieces rest).map (Char.ofNat (0x10000 + (high - 0xD800) * 0x400 + (low - 0xDC00)) :: ·)
      else none
    else if 0xDC00 ≤ high && high < 0xE000 then none
    else (joinPieces (.unit low :: rest)).map (Char.ofNat high :: ·)
  | .unit value :: rest =>
    if 0xD800 ≤ value && value < 0xE000 then none
    else (joinPieces rest).map (Char.ofNat value :: ·)

/-- The string after its opening quote. -/
def string? (text : List Char) : Option (Option String × List Char) :=
  (pieces text).map fun (parts, rest) =>
    ((joinPieces parts).map String.ofList, rest)

/-- A run of digits, at least one. -/
def digits? (text : List Char) : Option (List Char × List Char) :=
  match text.takeWhile Char.isDigit with
  | [] => none
  | digits => some (digits, text.dropWhile Char.isDigit)

/-- The part of a literal before point and exponent: a zero, or digits that start with no zero. -/
def wholePart? : List Char → Option (List Char × List Char)
  | '0' :: rest =>
    match rest with
    | c :: _ => if c.isDigit then none else some (['0'], rest)
    | [] => some (['0'], rest)
  | text => digits? text

/-- The point and the digits after it, if there is a point. -/
def fractionPart? : List Char → Option (List Char × List Char)
  | '.' :: rest => (digits? rest).map fun (digits, rest) => ('.' :: digits, rest)
  | text => some ([], text)

/-- The exponent, if there is one. -/
def exponentPart? : List Char → Option (List Char × List Char)
  | mark :: rest =>
    if mark == 'e' || mark == 'E' then
      match rest with
      | '+' :: rest => (digits? rest).map fun (digits, rest) => (mark :: '+' :: digits, rest)
      | '-' :: rest => (digits? rest).map fun (digits, rest) => (mark :: '-' :: digits, rest)
      | rest => (digits? rest).map fun (digits, rest) => (mark :: digits, rest)
    else some ([], mark :: rest)
  | [] => some ([], [])

/-- A number literal. -/
def number? (text : List Char) : Option (List Char × List Char) := do
  let (sign, unsigned) := match text with
    | '-' :: rest => (['-'], rest)
    | _ => ([], text)
  let (whole, rest) ← wholePart? unsigned
  let (fraction, rest) ← fractionPart? rest
  let (exponent, rest) ← exponentPart? rest
  some (sign ++ whole ++ fraction ++ exponent, rest)

mutual

/-- A value at the front of a text, after blanks. -/
def tree? : (fuel : Nat) → List Char → Option (Tree × List Char)
  | 0, _ => none
  | fuel + 1, text =>
    match skipBlanks text with
    | 'n' :: 'u' :: 'l' :: 'l' :: rest => some (.null, rest)
    | 't' :: 'r' :: 'u' :: 'e' :: rest => some (.bool true, rest)
    | 'f' :: 'a' :: 'l' :: 's' :: 'e' :: rest => some (.bool false, rest)
    | '"' :: rest => (string? rest).map fun (value, rest) => (.string value, rest)
    | '[' :: rest =>
      match skipBlanks rest with
      | ']' :: rest => some (.array [], rest)
      | rest => (items? fuel rest).map fun (items, rest) => (.array items, rest)
    | '{' :: rest =>
      match skipBlanks rest with
      | '}' :: rest => some (.object [], rest)
      | rest => (members? fuel rest).map fun (members, rest) => (.object members, rest)
    | rest => (number? rest).map fun (literal, rest) => (.number literal, rest)

/-- The items of an array, at least one, and its closing bracket. -/
def items? : (fuel : Nat) → List Char → Option (List Tree × List Char)
  | 0, _ => none
  | fuel + 1, text =>
    match tree? fuel text with
    | none => none
    | some (item, rest) =>
      match skipBlanks rest with
      | ',' :: rest => (items? fuel rest).map fun (items, rest) => (item :: items, rest)
      | ']' :: rest => some ([item], rest)
      | _ => none

/-- The members of an object, at least one, and its closing brace. -/
def members? : (fuel : Nat) → List Char → Option (List (Option String × Tree) × List Char)
  | 0, _ => none
  | fuel + 1, text =>
    match skipBlanks text with
    | '"' :: rest =>
      match string? rest with
      | none => none
      | some (name, rest) =>
        match skipBlanks rest with
        | ':' :: rest =>
          match tree? fuel rest with
          | none => none
          | some (value, rest) =>
            match skipBlanks rest with
            | ',' :: rest =>
              (members? fuel rest).map fun (members, rest) => ((name, value) :: members, rest)
            | '}' :: rest => some ([(name, value)], rest)
            | _ => none
        | _ => none
    | _ => none

end

end GracefulStop.Json.Text

namespace GracefulStop.Json

open Text in
/-- The tree of a whole text; only blanks may follow it. -/
def parse? (text : String) : Option Tree :=
  let chars := text.toList
  match tree? (2 * chars.length + 2) chars with
  | some (tree, rest) => if (skipBlanks rest).isEmpty then some tree else none
  | none => none

mutual

/-- The value of a tree, `none` if it is nested deeper than `depth` arrays and objects, holds a
number too large for a double, or a string that is no text. -/
def Tree.value? (depth : Nat) : Tree → Option Json
  | .null => some .null
  | .bool value => some (.bool value)
  | .number literal => (Literal.ofChars literal).value?
  | .string value => value.map .string
  | .array items =>
    match depth with
    | 0 => none
    | depth + 1 => (Tree.values? depth items).map .array
  | .object members =>
    match depth with
    | 0 => none
    | depth + 1 => (Tree.memberValues? depth members).map Json.ofMembers

/-- The values of trees. -/
def Tree.values? (depth : Nat) : List Tree → Option (List Json)
  | [] => some []
  | tree :: rest => do
    let value ← tree.value? depth
    let values ← Tree.values? depth rest
    some (value :: values)

/-- The values of members. -/
def Tree.memberValues? (depth : Nat) :
    List (Option String × Tree) → Option (List (String × Json))
  | [] => some []
  | (name, tree) :: rest => do
    let name ← name
    let value ← tree.value? depth
    let members ← Tree.memberValues? depth rest
    some ((name, value) :: members)

end

/-- The deepest nesting of arrays and objects that is read. -/
def deepest : Nat := 127

/-- The value that a text writes. -/
def read? (text : String) : Option Json := (parse? text).bind (Tree.value? deepest)

end GracefulStop.Json
