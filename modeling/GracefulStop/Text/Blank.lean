/-!
# White space

The characters with the Unicode property `White_Space`.
-/

namespace GracefulStop.Text

/-- The code points of white space outside ASCII. -/
def wideBlanks : List Nat :=
  [0x85, 0xA0, 0x1680, 0x2000, 0x2001, 0x2002, 0x2003, 0x2004, 0x2005, 0x2006, 0x2007, 0x2008,
    0x2009, 0x200A, 0x2028, 0x2029, 0x202F, 0x205F, 0x3000]

/-- Whether a character is white space. -/
def isWhite (c : Char) : Bool :=
  (0x09 ≤ c.toNat && c.toNat ≤ 0x0D) || c == ' ' || wideBlanks.contains c.toNat

/-- A list of characters without the white space at both ends. -/
def trimChars (text : List Char) : List Char :=
  ((text.dropWhile isWhite).reverse.dropWhile isWhite).reverse

/-- A text without the white space at both ends. -/
def trim (text : String) : String := String.ofList (trimChars text.toList)

end GracefulStop.Text
