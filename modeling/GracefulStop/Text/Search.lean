/-!
# Searching and joining text
-/

namespace GracefulStop.Text

/-- Whether one list of characters starts with another. -/
def startsWith (pattern : List Char) (text : List Char) : Bool := pattern.isPrefixOf text

/-- Whether a pattern occurs somewhere in a text. -/
def occursIn (pattern : List Char) : List Char → Bool
  | [] => pattern.isEmpty
  | c :: rest => startsWith pattern (c :: rest) || occursIn pattern rest

/-- Whether a text contains a pattern. -/
def contains (text pattern : String) : Bool := occursIn pattern.toList text.toList

/-- Whether a text begins with a pattern. -/
def beginsWith (text pattern : String) : Bool := startsWith pattern.toList text.toList

/-- The rest of a text after a pattern that it begins with. -/
def after? (text pattern : String) : Option String :=
  if beginsWith text pattern then some (String.ofList (text.toList.drop pattern.length)) else none

/-- A text with each occurrence of a pattern replaced, from the front on. The characters of an
occurrence are left out when they come, `skip` of them. -/
def replaceChars (pattern replacement : List Char) : (skip : Nat) → List Char → List Char
  | _, [] => []
  | skip + 1, _ :: rest => replaceChars pattern replacement skip rest
  | 0, c :: rest =>
    if startsWith pattern (c :: rest) then
      replacement ++ replaceChars pattern replacement (pattern.length - 1) rest
    else c :: replaceChars pattern replacement 0 rest

/-- A text with each occurrence of a pattern replaced. -/
def replaceAll (pattern replacement text : String) : String :=
  String.ofList (replaceChars pattern.toList replacement.toList 0 text.toList)

/-- The ASCII letters of a text in lower case. -/
def lowerAscii (text : String) : String := String.ofList (text.toList.map Char.toLower)

/-- The ASCII letters of a text in upper case. -/
def upperAscii (text : String) : String := String.ofList (text.toList.map Char.toUpper)

end GracefulStop.Text
