import GracefulStop.Decimal.Reading
import GracefulStop.KeyMap
import GracefulStop.Layer.Value
import GracefulStop.Text.Lower

/-!
# The layer of the environment

Variables whose names begin with a stem and an underscore give values, in letters of any case. In
what follows, two underscores stand for a point. A text that writes a truth value or a number counts
as one.
-/

namespace GracefulStop

/-- The names and values of variables. -/
abbrev Environment := List (String × String)

namespace Environment

/-- The value that the text of a variable stands for. -/
def valueOf (text : String) : Layer.Value :=
  let chars := text.toList
  let word := Text.lowerAscii text
  if word = "true" then .bool true
  else if word = "false" then .bool false
  else match Decimal.int? (-2 ^ 63) (2 ^ 63 - 1) chars with
    | some value => .int value
    | none =>
      match Decimal.double? chars with
      | some value => .float value
      | none => .text text

/-- The key that the name of a variable stands for, if it begins with the stem. -/
def keyOf? (stem name : String) : Option String :=
  (Text.after? (Text.lower name) (Text.lower (stem ++ "_"))).map (Text.replaceAll "__" ".")

/-- The values that variables give, of equal keys the last. -/
def layer (stem : String) (environment : Environment) : List (String × Layer.Value) :=
  KeyMap.ofList (environment.filterMap fun (name, text) =>
    (keyOf? stem name).map fun key => (key, valueOf text))

end Environment

end GracefulStop
