import GracefulStop.Decimal.Notation
import GracefulStop.Toml.Basic
import GracefulStop.Toml.Chars

/-!
# Writing TOML

A table is written as its entries, then its tables and arrays of tables under headers of their own.
A key stands bare where it can. A string is written in the first of five forms that can hold it:
between double or single quotes on one line, between three of them, or with escapes.
-/

namespace GracefulStop.Toml

/-- A hexadecimal digit, in upper case. -/
def hexDigit (value : Nat) : Char := (Nat.digitChar value).toUpper

/-- A character with an escape where it needs one, except quotes. -/
def escapeControl (c : Char) : List Char :=
  if c == '\x08' then ['\\', 'b']
  else if c == '\t' then ['\\', 't']
  else if c == '\n' then ['\\', 'n']
  else if c == '\x0c' then ['\\', 'f']
  else if c == '\r' then ['\\', 'r']
  else if c == '\\' then ['\\', '\\']
  else if isControl c then
    ['\\', 'u', '0', '0', hexDigit (c.toNat / 16), hexDigit (c.toNat % 16)]
  else [c]

/-- The characters of a string between double quotes on one line. -/
def escapeLine (text : List Char) : List Char :=
  text.flatMap fun c => if c == '"' then ['\\', '"'] else escapeControl c

/-- The characters of a string between three double quotes. Of three quotes in a row the third is
escaped. -/
def escapeLines : (quotes : Nat) → List Char → List Char
  | _, [] => []
  | quotes, c :: rest =>
    if c == '"' then
      if quotes = 2 then '\\' :: '"' :: escapeLines 0 rest else '"' :: escapeLines (quotes + 1) rest
    else if c == '\n' then '\n' :: escapeLines 0 rest
    else escapeControl c ++ escapeLines 0 rest

/-- The forms of a string. -/
inductive StringForm where
  /-- Between double quotes on one line. -/
  | basic
  /-- Between single quotes, without escapes. -/
  | literal
  /-- Between three double quotes. -/
  | basicLines
  /-- Between three single quotes, without escapes. -/
  | literalLines
  deriving DecidableEq, Repr

/-- The form in which a string is written. -/
def formOf (text : List Char) : StringForm :=
  let controls := text.any isForbidden
  let lines := text.contains '\n'
  let slashes := text.contains '\\'
  if !controls && !slashes && !text.contains '"' && !lines then .basic
  else if !controls && !text.contains '\'' && !lines then .literal
  else if !controls && !slashes && longestRun '"' 0 text ≤ 2 then .basicLines
  else if !controls && longestRun '\'' 0 text ≤ 2 then .literalLines
  else if lines then .basicLines
  else .basic

/-- The line's end that follows the opening quotes of a form with lines, where there are several. -/
def opening (text : List Char) : List Char := if text.contains '\n' then ['\n'] else []

/-- The written form of a string. -/
def stringChars (text : List Char) : List Char :=
  match formOf text with
  | .basic => '"' :: (escapeLine text ++ ['"'])
  | .literal => '\'' :: (text ++ ['\''])
  | .basicLines => ['"', '"', '"'] ++ opening text ++ escapeLines 0 text ++ ['"', '"', '"']
  | .literalLines => ['\'', '\'', '\''] ++ opening text ++ text ++ ['\'', '\'', '\'']

/-- The written form of a key. -/
def keyChars (name : List Char) : List Char :=
  let controls := name.any fun c => isControl c && c != '\t'
  if !name.isEmpty && name.all isBare then name
  else if !controls && !name.contains '"' && !name.contains '\\' then
    '"' :: (escapeLine name ++ ['"'])
  else if !controls && !name.contains '\'' then '\'' :: (name ++ ['\''])
  else '"' :: (escapeLine name ++ ['"'])

/-- The written form of a path of names. -/
def pathChars (path : List String) : List Char :=
  List.intercalate ['.'] (path.map fun name => keyChars name.toList)

mutual

/-- The written form of a value, whose items stand on lines of their own if there are several. -/
def valueChars : Toml → List Char
  | .string value => stringChars value.toList
  | .int value => (toString value).toList
  | .float value => (Decimal.Style.toml.write value).toList
  | .bool value => (toString value).toList
  | .date text => text.toList
  | .array [] => ['[', ']']
  | .array [item] => '[' :: (valueChars item ++ [']'])
  | .array items => '[' :: '\n' :: (itemLines items ++ [']'])
  | .table [] => ['\x7b', '\x7d']
  | .table entries => '\x7b' :: ' ' :: (inlineEntries entries ++ [' ', '\x7d'])

/-- The items of an array on lines of their own. -/
def itemLines : List Toml → List Char
  | [] => []
  | item :: rest => [' ', ' ', ' ', ' '] ++ valueChars item ++ [',', '\n'] ++ itemLines rest

/-- The entries of a table on one line. -/
def inlineEntries : List (String × Toml) → List Char
  | [] => []
  | [(name, value)] => keyChars name.toList ++ [' ', '=', ' '] ++ valueChars value
  | (name, value) :: rest =>
    keyChars name.toList ++ [' ', '=', ' '] ++ valueChars value ++ [',', ' '] ++ inlineEntries rest

end

/-- The written form of a line, with its end. -/
def Line.chars : Line → List Char
  | .header path => '[' :: (pathChars path ++ [']', '\n'])
  | .element path => ['[', '['] ++ pathChars path ++ [']', ']', '\n']
  | .entry path value => pathChars path ++ [' ', '=', ' '] ++ valueChars value ++ ['\n']

/-- Whether a line is a header. -/
def Line.isHeader : Line → Bool
  | .entry .. => false
  | _ => true

/-- Whether a value is an array of tables, which has headers of its own. -/
def isTableArray : Toml → Bool
  | .array (item :: rest) => (item :: rest).all isTable
  | _ => false

/-- Whether the value of an entry stands in the entry's line. -/
def isPlain (value : Toml) : Bool := !isTable value && !isTableArray value

/-- The entries of a table that have lines of their own. -/
def plainLines (entries : List (String × Toml)) : List Line :=
  (entries.filter fun entry => isPlain entry.2).map fun entry => .entry [entry.1] entry.2

mutual

/-- The lines of the tables and arrays of tables among entries, under a path. -/
def headedLines (path : List String) : List (String × Toml) → List Line
  | [] => []
  | (name, value) :: rest => valueLines (path ++ [name]) value ++ headedLines path rest

/-- The lines of a table or of an array of tables that stands at a path. -/
def valueLines (path : List String) : Toml → List Line
  | .table entries => .header path :: (plainLines entries ++ headedLines path entries)
  | .array items => if isTableArray (.array items) then elementLines path items else []
  | _ => []

/-- The lines of the elements of an array of tables. -/
def elementLines (path : List String) : List Toml → List Line
  | [] => []
  | .table entries :: rest =>
    .element path :: (plainLines entries ++ headedLines path entries ++ elementLines path rest)
  | _ :: rest => elementLines path rest

end

/-- The lines of a document. -/
def documentLines (entries : List (String × Toml)) : List Line :=
  plainLines entries ++ headedLines [] entries

/-- The text of lines: a blank line stands before each header but on the first line. -/
def linesChars : (first : Bool) → List Line → List Char
  | _, [] => []
  | first, line :: rest =>
    (if line.isHeader && !first then ['\n'] else []) ++ line.chars ++ linesChars false rest

/-- The text of a document. -/
def document (entries : List (String × Toml)) : String :=
  String.ofList (linesChars true (documentLines entries))

end GracefulStop.Toml
