import GracefulStop.Decimal.Reading
import GracefulStop.Json.Parser

/-!
# Records in JSON

A record with declared fields may be written as an object or as the array of its fields in
order. In an object every unknown member is skipped, and a declared one may stand there
once. An array may stop early but not hold more than the fields. No type is turned into
another: a whole number is no string, `1.0` is no whole number.
-/

namespace GracefulStop.Json.Tree

/-- What a record's text says about one declared field. -/
inductive Field where
  | present (tree : Tree)
  /-- An object without the member. -/
  | absent
  /-- An array that stops before the field. -/
  | beyond

/-- The members of a name. A name that is no text is refused. -/
private def membersNamed (name : String) (members : List (Option String × Tree)) : List Tree :=
  members.filterMap fun (other, tree) => if other = some name then some tree else none

/-- What an object says about a declared field; `none` if it stands there twice. -/
private def fieldOf (members : List (Option String × Tree)) (name : String) : Option Field :=
  match membersNamed name members with
  | [] => some .absent
  | [tree] => some (.present tree)
  | _ => none

/-- What the items of an array say about so many fields. -/
private def fieldsOfItems : Nat → List Tree → List Field
  | 0, _ => []
  | count + 1, [] => .beyond :: fieldsOfItems count []
  | count + 1, tree :: rest => .present tree :: fieldsOfItems count rest

/-- The declared fields of a record, in their order. -/
def fields? (names : List String) : Tree → Option (List Field)
  | .object members =>
    if members.any (·.1.isNone) then none else names.mapM (fieldOf members)
  | .array items =>
    if names.length < items.length then none else some (fieldsOfItems names.length items)
  | _ => none

/-- The value of a field that has to be there. -/
def Field.required {Value : Type} (read : Tree → Option Value) : Field → Option Value
  | .present tree => read tree
  | .absent => none
  | .beyond => none

/-- The value of a field that has a default. -/
def Field.orElse {Value : Type} (fallback : Value) (read : Tree → Option Value) :
    Field → Option Value
  | .present tree => read tree
  | .absent => some fallback
  | .beyond => some fallback

/-- The text of a string. -/
def string? : Tree → Option String
  | .string value => value
  | _ => none

/-- A whole number between two bounds. -/
def int? (least greatest : Int) : Tree → Option Int
  | .number literal =>
    match (Literal.ofChars literal).value? with
    | some (.int value) => if least ≤ value && value ≤ greatest then some value else none
    | _ => none
  | _ => none

/-- A whole number from zero up to a bound. -/
def nat? (greatest : Nat) (tree : Tree) : Option Nat := (tree.int? 0 greatest).map Int.toNat

/-- A number as a double. -/
def float? : Tree → Option Float
  | .number literal =>
    match (Literal.ofChars literal).value? with
    | some (.int value) => some (Decimal.ofInt value)
    | some (.float value) => some value
    | _ => none
  | _ => none

/-- A value or nothing, which is written `null`. -/
def optional? {Value : Type} (read : Tree → Option Value) : Tree → Option (Option Value)
  | .null => some none
  | tree => (read tree).map some

/-- The items of an array, each read in the same way. -/
def list? {Value : Type} (read : Tree → Option Value) : Tree → Option (List Value)
  | .array items => items.mapM read
  | _ => none

/-- The members of an object with texts as values, sorted, of equal names the last. -/
def map? {Value : Type} (read : Tree → Option Value) : Tree → Option (KeyMap Value)
  | .object members =>
    (members.mapM fun (member : Option String × Tree) => do
      let name ← member.1
      let value ← read member.2
      some (name, value)).map KeyMap.ofList
  | _ => none

end GracefulStop.Json.Tree
