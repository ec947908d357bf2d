import GracefulStop.Toml.Basic

/-!
# From TOML lines to a table

A table may be opened once. A path through a table that no line has opened makes it: on the way to a
header it may still be opened later, and in the key of an entry it belongs to the table of the
entry. The key of an entry adds to no table that a header has opened, and the table that it adds to
cannot be opened any more. A value that is written whole cannot be added to, and no name is given
twice.
-/

namespace GracefulStop.Toml

/-- How a table came to be. -/
inductive Opened where
  /-- On the way to the table of a header. -/
  | implied
  /-- On the way to the value of an entry. -/
  | dotted
  /-- By a header of its own. -/
  | defined
  deriving DecidableEq, Repr

/-- How a table came to be once a path has led through it, to its end if the rest of the path is
empty. -/
def Opened.along (made : Opened) (rest : List String) (opened : Opened) : Opened :=
  if made = .dotted ∧ rest.isEmpty then .dotted else opened

/-- What stands at a name while a text is read. -/
inductive Node where
  /-- A value that is written whole. -/
  | leaf (value : Toml)
  | table (opened : Opened) (entries : List (String × Node))
  /-- An array of tables, of which the last is open. -/
  | tables (earlier : List (List (String × Node))) (last : List (String × Node))
  deriving Inhabited

/-- The entries of a table while a text is read. -/
abbrev Entries := List (String × Node)

namespace Entries

/-- Entries with a change at a name, where a new name stands at the end. -/
def change (name : String) (edit : Option Node → Option Node) : Entries → Option Entries
  | [] => (edit none).map fun node => [(name, node)]
  | (other, node) :: rest =>
    if other = name then (edit (some node)).map fun node => (name, node) :: rest
    else (change name edit rest).map ((other, node) :: ·)

/-- Entries with a change to the table at the end of a path, where missing tables are made. Of an
array of tables the last is meant. -/
def changeAt (made : Opened) (edit : Opened → Entries → Option Entries) :
    (path : List String) → (opened : Opened) → Entries → Option Entries
  | [], opened, entries => edit opened entries
  | name :: path, _, entries =>
    entries.change name fun
      | none => (changeAt made edit path made []).map (.table made)
      | some (.leaf _) => none
      | some (.table opened inner) =>
        if made = .dotted ∧ opened = .defined then none
        else (changeAt made edit path opened inner).map (.table (made.along path opened))
      | some (.tables earlier last) =>
        (changeAt made edit path .defined last).map (.tables earlier)

/-- The path before its last name, and that name. -/
def splitLast : List String → Option (List String × String)
  | [] => none
  | [name] => some ([], name)
  | name :: path => (splitLast path).map fun (path, last) => (name :: path, last)

/-- Opens the table of a header. -/
def define (path : List String) (entries : Entries) : Option Entries := do
  let (path, name) ← splitLast path
  entries.changeAt .implied (fun _ inner => inner.change name fun
    | none => some (.table .defined [])
    | some (.table .implied inner) => some (.table .defined inner)
    | some _ => none) path .defined

/-- Opens one more table of an array of tables. -/
def append (path : List String) (entries : Entries) : Option Entries := do
  let (path, name) ← splitLast path
  entries.changeAt .implied (fun _ inner => inner.change name fun
    | none => some (.tables [] [])
    | some (.tables earlier last) => some (.tables (earlier ++ [last]) [])
    | some _ => none) path .defined

/-- Gives a value to the key of an entry. -/
def assign (path : List String) (value : Toml) (entries : Entries) : Option Entries := do
  let (path, name) ← splitLast path
  entries.changeAt .dotted (fun opened inner =>
    if path ≠ [] ∧ opened = .defined then none
    else inner.change name fun
      | none => some (.leaf value)
      | some _ => none) path .defined

/-- Entries after one more line, and the path of the table that is open then. -/
def addLine (entries : Entries) (current : List String) : Line → Option (Entries × List String)
  | .header path => (entries.define path).map (·, path)
  | .element path => (entries.append path).map (·, path)
  | .entry path value =>
    (entries.changeAt .implied (fun _ inner => inner.assign path value) current .defined).map
      (·, current)

/-- Entries after more lines. -/
def addLines (entries : Entries) (current : List String) : List Line → Option Entries
  | [] => some entries
  | line :: rest => do
    let (entries, current) ← entries.addLine current line
    addLines entries current rest

end Entries

mutual

/-- The value that stands at a name in the end. -/
def Node.value : Node → Toml
  | .leaf value => value
  | .table _ entries => .table (entryValues entries)
  | .tables earlier last => .array (tableValues earlier ++ [.table (entryValues last)])

/-- The entries of a table in the end. -/
def entryValues : List (String × Node) → List (String × Toml)
  | [] => []
  | (name, node) :: rest => (name, node.value) :: entryValues rest

/-- Tables of an array in the end. -/
def tableValues : List (List (String × Node)) → List Toml
  | [] => []
  | entries :: rest => .table (entryValues entries) :: tableValues rest

end

/-- The entries of the table that lines write. -/
def ofLines? (lines : List Line) : Option (List (String × Toml)) :=
  (Entries.addLines [] [] lines).map entryValues

/-- The table that entries in one line write. -/
def ofInline? (entries : List (List String × Toml)) : Option Toml :=
  (ofLines? (entries.map fun entry => .entry entry.1 entry.2)).map .table

end GracefulStop.Toml
