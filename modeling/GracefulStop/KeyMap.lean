/-!
# Maps sorted by key

A map with text keys is the list of its entries in ascending order of the keys, character by
character. Entering a key again replaces its value.
-/

namespace GracefulStop

/-- Entries in ascending order of their keys. -/
abbrev KeyMap (Value : Type) := List (String × Value)

namespace KeyMap

variable {Value : Type}

/-- Enters a value, over an earlier one of its key. -/
def insert (key : String) (value : Value) : KeyMap Value → KeyMap Value
  | [] => [(key, value)]
  | (other, old) :: rest =>
    if key < other then (key, value) :: (other, old) :: rest
    else if key = other then (key, value) :: rest
    else (other, old) :: insert key value rest

/-- The map of these entries, of equal keys the last. -/
def ofList (entries : List (String × Value)) : KeyMap Value :=
  entries.foldl (fun map entry => insert entry.1 entry.2 map) []

/-- The entries of both maps, of equal keys those of the second. -/
def override (map overrides : KeyMap Value) : KeyMap Value :=
  overrides.foldl (fun map entry => insert entry.1 entry.2 map) map

/-- Changes the value of a key, where `absent` stands for none. -/
def alter (key : String) (absent : Value) (change : Value → Value) (map : KeyMap Value) :
    KeyMap Value :=
  insert key (change ((map.lookup key).getD absent)) map

/-- The map without a key. -/
def erase (key : String) (map : KeyMap Value) : KeyMap Value := map.filter (·.1 != key)

/-- Whether a key has a value. -/
def contains (key : String) (map : KeyMap Value) : Bool := map.any (·.1 == key)

/-- The keys in ascending order. -/
def keys (map : KeyMap Value) : List String := map.map (·.1)

end KeyMap

end GracefulStop
