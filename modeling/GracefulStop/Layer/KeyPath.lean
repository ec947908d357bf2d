import GracefulStop.Decimal.Reading
import GracefulStop.Layer.Value

/-!
# Key paths

The key of a value at the top of a layer is a path: names with points between them, and places in
lists in brackets. A value is set at the end of its path, and whatever stands in the way of the path
gives way. Over a table, a table is laid entry by entry; any other value takes the place of what was
there.
-/

namespace GracefulStop.Layer

/-- A step of a key path. -/
inductive Step where
  | name (name : String)
  /-- A place in a list; one below zero counts from the end. -/
  | place (index : Int)
  deriving DecidableEq, Repr

namespace KeyPath

/-- A character of a name in a path. -/
def isNameChar (c : Char) : Bool := c.isAlphanum || c == '_' || c == '-'

/-- A name at the front of a text, and what follows it. -/
def name? (text : List Char) : Option (String × List Char) :=
  match text.takeWhile isNameChar with
  | [] => none
  | name => some (String.ofList name, text.dropWhile isNameChar)

/-- A blank inside brackets. -/
def isBlank (c : Char) : Bool := c == ' ' || c == '\t'

/-- The place that stands in brackets, after the first of them, and what follows the last. -/
def place? (text : List Char) : Option (Int × List Char) := do
  let text := text.dropWhile isBlank
  let (negative, digits) := match text with
    | '-' :: rest => (true, rest)
    | _ => (false, text)
  let magnitude ← Decimal.nat? (digits.takeWhile Char.isDigit)
  let index : Int := if negative then -magnitude else magnitude
  match (digits.dropWhile Char.isDigit).dropWhile isBlank with
  | ']' :: rest => if -2 ^ 63 ≤ index && index < 2 ^ 63 then some (index, rest) else none
  | _ => none

/-- The steps of a path after its first name. Each takes one unit of fuel. -/
def steps? : (fuel : Nat) → List Char → Option (List Step)
  | _, [] => some []
  | 0, _ => none
  | fuel + 1, '.' :: text => do
    let (name, rest) ← name? text
    let steps ← steps? fuel rest
    some (.name name :: steps)
  | fuel + 1, '[' :: text => do
    let (index, rest) ← place? text
    let steps ← steps? fuel rest
    some (.place index :: steps)
  | _, _ => none

/-- The path that a text writes. -/
def read? (text : String) : Option (List Step) := do
  let (name, rest) ← name? text.toList
  let steps ← steps? rest.length rest
  some (.name name :: steps)

/-- The path of a key, which is its only name if it writes no path. -/
def ofKey (key : String) : List Step := (read? key).getD [.name key]

end KeyPath

namespace Value

/-- The entries of a table; anything else gives way to a table. -/
def entries : Value → List (String × Value)
  | .table entries => entries
  | _ => []

/-- The items of a list; anything else gives way to a list. -/
def items : Value → List Value
  | .list items => items
  | _ => []

/-- Entries with a change to a name's value, which is absent if there is none. -/
def changeEntry (name : String) (edit : Value → Value) :
    List (String × Value) → List (String × Value)
  | [] => [(name, edit .absent)]
  | (other, value) :: rest =>
    if other = name then (name, edit value) :: rest
    else (other, value) :: changeEntry name edit rest

/-- Items with a change at a place. Places that are missing before it are filled with absent values.
-/
def changeItem (index : Int) (edit : Value → Value) (items : List Value) : List Value :=
  let distance := index.natAbs
  if 0 ≤ index then
    (items ++ List.replicate (distance + 1 - items.length) Value.absent).modify distance edit
  else if distance ≤ items.length then items.modify (items.length - distance) edit
  else (List.replicate (distance - items.length) Value.absent ++ items).modify 0 edit

/-- A value with a change one step further. -/
def changeStep (step : Step) (edit : Value → Value) (value : Value) : Value :=
  match step with
  | .name name => .table (changeEntry name edit value.entries)
  | .place index => .list (changeItem index edit value.items)

/-- A value with a change at the end of a path. -/
def changeAt (path : List Step) (edit : Value → Value) : Value → Value :=
  path.foldr changeStep edit

/-- The table that takes entries where a value is, empty unless the value is a table. -/
def asTable (value : Value) : Value := .table value.entries

mutual

/-- A value with another laid over it. -/
def overlay (value : Value) : Value → Value
  | .table entries => overlayAll value.asTable entries
  | other => other

/-- A value with entries laid over it, one after another. -/
def overlayAll (value : Value) : List (String × Value) → Value
  | [] => value
  | (name, other) :: rest =>
    overlayAll (changeStep (.name name) (fun old => overlay old other) value) rest

end

/-- A value with the values of a layer laid over it, each at the path of its key. -/
def withLayer (value : Value) (layer : List (String × Value)) : Value :=
  layer.foldl (fun value entry =>
    value.changeAt (KeyPath.ofKey entry.1) fun old => overlay old entry.2) value

end Value

end GracefulStop.Layer
