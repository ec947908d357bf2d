import GracefulStop.Power

/-!
# TOML values and lines

A TOML text is a list of lines. A header opens a table, or one more element of an array of tables;
an entry gives a value to a key of the table that is open. Keys are paths of names.
-/

namespace GracefulStop

/-- A TOML value. The entries of a table are in the order in which they were made. -/
inductive Toml where
  | string (value : String)
  | int (value : Int)
  | float (value : Float)
  | bool (value : Bool)
  /-- A date, a time, or both, in its written form. -/
  | date (text : String)
  | array (items : List Toml)
  | table (entries : List (String × Toml))
  deriving Inhabited

namespace Toml

/-- A line that says something. -/
inductive Line where
  /-- Opens a table. -/
  | header (path : List String)
  /-- Opens one more element of an array of tables. -/
  | element (path : List String)
  /-- Gives a value to a key. -/
  | entry (path : List String) (value : Toml)
  deriving Inhabited

/-- Whether a value is a table. -/
def isTable : Toml → Bool
  | .table _ => true
  | _ => false

/-- The entry of a name, if the value is a table that has it. -/
def member? (name : String) : Toml → Option Toml
  | .table entries => entries.lookup name
  | _ => none

end Toml

end GracefulStop
