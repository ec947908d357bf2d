import GracefulStop.Decimal.Notation
import GracefulStop.Decimal.Reading
import GracefulStop.Power
import GracefulStop.Text.Search
import GracefulStop.Toml.Basic

/-!
# Values of layers

A configuration is put together from layers of values. A value is of the type in which its layer has
it, and is turned into the type that is wanted only in the end: numbers, truth values and texts
stand for one another as far as they can.
-/

namespace GracefulStop.Layer

/-- A value of a layer. -/
inductive Value where
  /-- No value. -/
  | absent
  | bool (value : Bool)
  | int (value : Int)
  | float (value : Float)
  | text (value : String)
  | list (items : List Value)
  | table (entries : List (String × Value))
  deriving Inhabited

namespace Value

mutual

/-- A TOML value; a date counts as its text. -/
def ofToml : Toml → Value
  | .string value => .text value
  | .int value => .int value
  | .float value => .float value
  | .bool value => .bool value
  | .date written => .text written
  | .array items => .list (itemsOfToml items)
  | .table entries => .table (entriesOfToml entries)

/-- The values of items. -/
def itemsOfToml : List Toml → List Value
  | [] => []
  | item :: rest => ofToml item :: itemsOfToml rest

/-- The values of entries. -/
def entriesOfToml : List (String × Toml) → List (String × Value)
  | [] => []
  | (name, value) :: rest => (name, ofToml value) :: entriesOfToml rest

end

/-- The truth value that a word stands for, in letters of any case. -/
def truth? (word : String) : Option Bool :=
  let word := Text.lowerAscii word
  if ["true", "on", "yes"].contains word then some true
  else if ["false", "off", "no"].contains word then some false
  else none

/-- The greatest whole number that any field takes. -/
def greatestNat : Nat := 2 ^ 64 - 1

/-- The whole number from zero up to `greatestNat` that a value stands for. A double is rounded, a
half away from zero, and one out of bounds counts as the bound. -/
def nat? : Value → Option Nat
  | .bool value => some value.toNat
  | .int value => if 0 ≤ value then some value.toNat else none
  | .float value => some value.round.toUInt64.toNat
  | .text value =>
    match truth? value with
    | some truth => some truth.toNat
    | none => Decimal.natUpTo? greatestNat value.toList
  | _ => none

/-- The whole number from zero up to a bound that a value stands for. -/
def natUpTo? (greatest : Nat) (value : Value) : Option Nat := do
  let number ← value.nat?
  if number ≤ greatest then some number else none

/-- The double that a value stands for. -/
def float? : Value → Option Float
  | .bool value => some (if value then 1.0 else 0.0)
  | .int value => some (Decimal.ofInt value)
  | .float value => some value
  | .text value =>
    match truth? value with
    | some truth => some (if truth then 1.0 else 0.0)
    | none => Decimal.double? value.toList
  | _ => none

/-- The text that a value stands for. -/
def text? : Value → Option String
  | .bool value => some (toString value)
  | .int value => some (toString value)
  | .float value => some (Decimal.Style.plain.write value)
  | .text value => some value
  | _ => none

/-- A value or nothing. -/
def optional? {Wanted : Type} (read : Value → Option Wanted) : Value → Option (Option Wanted)
  | .absent => some none
  | value => (read value).map some

/-- The items of a list, each read in the same way. -/
def list? {Wanted : Type} (read : Value → Option Wanted) : Value → Option (List Wanted)
  | .list items => items.mapM read
  | _ => none

/-- The declared fields of a record, in their order. A list gives them by their places, and what it
has beyond them is left out. -/
def fields? (names : List String) : Value → Option (List (Option Value))
  | .table entries => some (names.map fun name => entries.lookup name)
  | .list items => some ((List.range names.length).map fun place => items[place]?)
  | _ => none

end Value

end GracefulStop.Layer
