import GracefulStop.Decimal.Reading
import GracefulStop.Json.Basic

/-!
# Looking into JSON

Members of an object, each as the type that is wanted. A member that is missing or of another type
counts as nothing: the empty text, zero, no items.
-/

namespace GracefulStop.Json

/-- The member of a name, or `null`. -/
def get (value : Json) (name : String) : Json := (value.member? name).getD .null

/-- Whether there is a member of a name. -/
def has (value : Json) (name : String) : Bool := (value.member? name).isSome

/-- A text, if there is one. -/
def textAt? (value : Json) (name : String) : Option String := (value.get name).text?

/-- A text. -/
def textAt (value : Json) (name : String) : String := (value.textAt? name).getD ""

/-- A whole number, if there is one. -/
def intAt? (value : Json) (name : String) : Option Int := (value.get name).int?

/-- A whole number. -/
def intAt (value : Json) (name : String) : Int := (value.intAt? name).getD 0

/-- A whole number that is not negative, if there is one. -/
def natAt? (value : Json) (name : String) : Option Nat := (value.intAt? name).map Int.toNat

/-- A whole number that is not negative. -/
def natAt (value : Json) (name : String) : Nat := (value.intAt name).toNat

/-- A truth value. -/
def boolAt (value : Json) (name : String) : Bool :=
  match value.get name with
  | .bool flag => flag
  | _ => false

/-- The members of an object. -/
def members : Json → List (String × Json)
  | .object members => members
  | _ => []

/-- The items of an array. -/
def itemsAt (value : Json) (name : String) : List Json := ((value.get name).items?).getD []

/-- The texts of an array. -/
def textsAt (value : Json) (name : String) : List String := (value.itemsAt name).filterMap text?

/-- The whole numbers of an array. -/
def intsAt (value : Json) (name : String) : List Int := (value.itemsAt name).filterMap int?

/-- The whole numbers of an array that is to hold none below zero. -/
def natsAt (value : Json) (name : String) : List Nat := (value.intsAt name).map Int.toNat

/-- The arrays in an array. -/
def rowsAt (value : Json) (name : String) : List (List Json) :=
  (value.itemsAt name).filterMap items?

/-- A number as a double; the values that are not finite stand as texts. -/
def double : Json → Float
  | .float value => value
  | .int value => Decimal.ofInt value
  | .string "NaN" => 0.0 / 0.0
  | .string "inf" => 1.0 / 0.0
  | .string "-inf" => -1.0 / 0.0
  | _ => 0.0

end GracefulStop.Json
