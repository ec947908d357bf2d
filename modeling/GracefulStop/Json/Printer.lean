import GracefulStop.Json.Basic
import GracefulStop.Decimal.Notation

/-!
# Writing JSON

`Json.compact` writes a value on one line without blanks. `Json.pretty` puts each item and
member on a line of its own, two blanks deeper than its container.
-/

namespace GracefulStop.Json

/-- A lower-case hexadecimal digit. -/
def hexChar (value : Nat) : Char := Nat.digitChar value

/-- A character inside a quoted string. Quote, backslash and control characters are escaped. -/
def escapeChar (c : Char) : List Char :=
  if c == '"' then ['\\', '"']
  else if c == '\\' then ['\\', '\\']
  else if c == '\x08' then ['\\', 'b']
  else if c == '\x0c' then ['\\', 'f']
  else if c == '\n' then ['\\', 'n']
  else if c == '\r' then ['\\', 'r']
  else if c == '\t' then ['\\', 't']
  else if c.toNat < 0x20 then
    ['\\', 'u', '0', '0', hexChar (c.toNat / 16), hexChar (c.toNat % 16)]
  else [c]

/-- A string between quotes. -/
def quote (text : String) : String :=
  String.ofList ('"' :: (text.toList.flatMap escapeChar ++ ['"']))

/-- The text of a value that is no array and no object. -/
def scalarText : Json → String
  | .null => "null"
  | .bool true => "true"
  | .bool false => "false"
  | .int value => toString value
  | .float value => Decimal.Style.json.write value
  | .string value => quote value
  | .array _ => "[]"
  | .object _ => "\x7b\x7d"

mutual

/-- The value on one line without blanks. -/
def compact : Json → String
  | .array items => "[" ++ String.intercalate "," (compactItems items) ++ "]"
  | .object members => "\x7b" ++ String.intercalate "," (compactMembers members) ++ "\x7d"
  | value => scalarText value

/-- The items of an array, each on one line. -/
def compactItems : List Json → List String
  | [] => []
  | item :: rest => compact item :: compactItems rest

/-- The members of an object, each on one line. -/
def compactMembers : List (String × Json) → List String
  | [] => []
  | (name, value) :: rest => (quote name ++ ":" ++ compact value) :: compactMembers rest

end

/-- The blanks before a line that is nested so deep. -/
def indent (depth : Nat) : String := String.ofList (List.replicate (2 * depth) ' ')

mutual

/-- The value over several lines, the first of them nested `depth` deep. -/
def prettyAt (depth : Nat) : Json → String
  | .array [] => "[]"
  | .array items =>
    "[\n" ++ String.intercalate ",\n" (prettyItems (depth + 1) items) ++ "\n" ++ indent depth ++ "]"
  | .object [] => "\x7b\x7d"
  | .object members =>
    "\x7b\n" ++ String.intercalate ",\n" (prettyMembers (depth + 1) members) ++ "\n" ++
      indent depth ++ "\x7d"
  | value => scalarText value

/-- The lines of an array's items. -/
def prettyItems (depth : Nat) : List Json → List String
  | [] => []
  | item :: rest => (indent depth ++ prettyAt depth item) :: prettyItems depth rest

/-- The lines of an object's members. -/
def prettyMembers (depth : Nat) : List (String × Json) → List String
  | [] => []
  | (name, value) :: rest =>
    (indent depth ++ quote name ++ ": " ++ prettyAt depth value) :: prettyMembers depth rest

end

/-- The value over several lines. -/
def pretty (value : Json) : String := prettyAt 0 value

end GracefulStop.Json
