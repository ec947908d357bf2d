/-!
# Characters of TOML

The classes of characters that decide how keys and strings are written, and what may stand in a
text.
-/

namespace GracefulStop.Toml

/-- A character of a key that stands without quotes. -/
def isBare (c : Char) : Bool := c.isAlphanum || c == '_' || c == '-'

/-- A blank inside a line. -/
def isBlank (c : Char) : Bool := c == ' ' || c == '\t'

/-- A control character. -/
def isControl (c : Char) : Bool := c.toNat < 0x20 || c.toNat == 0x7F

/-- A control character that no text may hold: neither a tab nor a line's end. -/
def isForbidden (c : Char) : Bool := isControl c && c != '\t' && c != '\n'

/-- A character that may stand in a comment or in a string on one line. -/
def isInline (c : Char) : Bool := !isControl c || c == '\t'

/-- The greatest number of times in a row that a mark stands in a text, given how often it stood
just before. -/
def longestRun (mark : Char) : (before : Nat) → List Char → Nat
  | before, [] => before
  | before, c :: rest =>
    if c == mark then longestRun mark (before + 1) rest else max before (longestRun mark 0 rest)

end GracefulStop.Toml
