/-!
# Port ranges
-/

namespace GracefulStop

/-- The ports from `first` to `last`, both among them. -/
structure PortRange where
  first : Nat
  last : Nat
  deriving DecidableEq, Repr, Inhabited

namespace PortRange

/-- The range of so many ports from `first` on; there is at least one. -/
def ofLength (first length : Nat) : PortRange := ⟨first, first + (length - 1)⟩

/-- How many ports a range has. -/
def length (range : PortRange) : Nat := range.last - range.first + 1

/-- Whether a port belongs to a range. -/
def contains (range : PortRange) (port : Nat) : Bool := range.first ≤ port && port ≤ range.last

/-- Whether two ranges share a port. -/
def overlaps (range other : PortRange) : Bool :=
  range.first ≤ other.last && other.first ≤ range.last

/-- The ports of a range in ascending order, none if it ends before it starts. -/
def ports (range : PortRange) : List Nat :=
  (List.range (range.last + 1 - range.first)).map (range.first + ·)

/-- The text of a range: its port, or its first and last port. -/
def text (range : PortRange) : String :=
  if range.first = range.last then toString range.first
  else toString range.first ++ "-" ++ toString range.last

/-- How a range is described in messages. -/
def described (range : PortRange) : String :=
  "PortRange \x7b first: " ++ toString range.first ++ ", last: " ++ toString range.last ++ " \x7d"

end PortRange

end GracefulStop
