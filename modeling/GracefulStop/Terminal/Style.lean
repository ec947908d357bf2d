/-!
# Styles

A text can be painted by what it means, by the sequences that terminals understand. Without colours
it stays as it is.
-/

namespace GracefulStop.Terminal

/-- What a piece of text means. -/
inductive Style where
  | success
  | error
  /-- Of less importance. -/
  | muted
  | header
  /-- A path or a command. -/
  | code
  deriving DecidableEq, Repr, Inhabited

namespace Style

/-- The attributes of a style. -/
def attributes : Style → String
  | success => "32;1"
  | error => "31;1"
  | muted => "2"
  | header => "1"
  | code => "34"

/-- The sequence that sets attributes. -/
def escape (attributes : String) : String := "\x1b[" ++ attributes ++ "m"

/-- A text in a style, if colours are wanted. -/
def paint (style : Style) (colours : Bool) (text : String) : String :=
  if colours then escape style.attributes ++ text ++ escape "0" else text

end Style

/-- The line that reports a success. -/
def successLine (colours : Bool) (text : String) : String :=
  Style.success.paint colours "✓" ++ " " ++ text ++ "\n"

/-- The line that reports an error. -/
def errorLine (colours : Bool) (text : String) : String :=
  Style.error.paint colours "✗" ++ " " ++ text ++ "\n"

/-- The line that gives a hint. -/
def hintLine (colours : Bool) (text : String) : String :=
  Style.muted.paint colours "→" ++ " " ++ Style.muted.paint colours text ++ "\n"

end GracefulStop.Terminal
