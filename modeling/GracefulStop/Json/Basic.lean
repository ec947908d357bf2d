import GracefulStop.KeyMap
import GracefulStop.Power

/-!
# JSON values and JSON texts

`Json` is a value. `Json.Tree` is a text as it was written: numbers are still their
literals, and the members of an object stand in order with their repetitions. A tree
becomes a value by `Json.Tree.value?`, where of two members of one name the later counts.
-/

namespace GracefulStop

/-- A JSON value. The members of an object are in the order in which they are printed. -/
inductive Json where
  | null
  | bool (value : Bool)
  /-- A whole number between `-2 ^ 63` and `2 ^ 64 - 1`. -/
  | int (value : Int)
  | float (value : Float)
  | string (value : String)
  | array (items : List Json)
  | object (members : List (String × Json))
  deriving Inhabited

namespace Json

/-- A JSON text as it was written. The text of a string is `none` where an escape names half of a
surrogate pair. -/
inductive Tree where
  | null
  | bool (value : Bool)
  | number (literal : List Char)
  | string (value : Option String)
  | array (items : List Tree)
  | object (members : List (Option String × Tree))
  deriving Inhabited

/-- The object with these members sorted by name, of equal names the last. -/
def ofMembers (members : List (String × Json)) : Json := .object (KeyMap.ofList members)

/-- The member of a name, if the value is an object that has it. -/
def member? (name : String) : Json → Option Json
  | .object members => members.lookup name
  | _ => none

/-- The text of a string value. -/
def text? : Json → Option String
  | .string value => some value
  | _ => none

/-- The whole number of an integer value. -/
def int? : Json → Option Int
  | .int value => some value
  | _ => none

/-- The items of an array. -/
def items? : Json → Option (List Json)
  | .array items => some items
  | _ => none

namespace Tree

/-- The last member of a name, if the tree is an object that has one. -/
def member? (name : String) : Tree → Option Tree
  | .object members => members.reverse.lookup (some name)
  | _ => none

/-- Members with the tree of a name replaced, or with a new member at their end. -/
def setMember (name : Option String) (tree : Tree) :
    List (Option String × Tree) → List (Option String × Tree)
  | [] => [(name, tree)]
  | (other, old) :: rest =>
    if other = name then (name, tree) :: rest else (other, old) :: setMember name tree rest

mutual

/-- A tree with another laid over it: objects are joined member by member, and anything else gives
way. -/
def overlay : Tree → Tree → Tree
  | .object members, .object others => .object (overlayAll members others)
  | _, other => other

/-- Members with others laid over them, one after another. -/
def overlayAll (members : List (Option String × Tree)) :
    List (Option String × Tree) → List (Option String × Tree)
  | [] => members
  | (name, other) :: rest =>
    let tree := match members.lookup name with
      | some old => overlay old other
      | none => other
    overlayAll (setMember name tree members) rest

end

end Tree

end Json

end GracefulStop
