import GracefulStop.Json.Basic
import GracefulStop.KeyMap
import GracefulStop.Query.Response
import GracefulStop.Text.Blank
import Std.Data.TreeMap

/-!
# A small database

The tables of a simulated cluster: where the copies of their shards lie, and their rows. It
understands the statements that scenarios and workloads send, and no others.
-/

namespace GracefulStop.Simulation

/-- A table. A shard is the list of its copies, the primary first; a copy lies on a node or is
unassigned. -/
structure Table where
  shards : List (List (Option String))
  /-- The names of the rows by their numbers. -/
  rows : Std.TreeMap Int String := {}
  /-- How many rows have each name. -/
  names : Std.TreeMap String Nat := {}
  deriving Inhabited

namespace Table

/-- A new table of so many shards, whose copies go round the nodes; copies for which there is no
node are unassigned. -/
def create (shards replicas : Nat) (nodes : List String) : Table where
  shards := (List.range shards).map fun shard =>
    (List.range (replicas + 1)).map fun copy =>
      if copy < nodes.length then nodes[(shard + copy) % nodes.length]? else none

/-- Takes a row out. -/
def remove (table : Table) (id : Int) : Table :=
  match table.rows.get? id with
  | none => table
  | some name =>
    let others := (table.names.getD name 0) - 1
    { table with
      rows := table.rows.erase id
      names := if others = 0 then table.names.erase name else table.names.insert name others }

/-- Enters a row, over an earlier one of its number. -/
def enter (table : Table) (id : Int) (name : String) : Table :=
  let table := table.remove id
  { table with
    rows := table.rows.insert id name
    names := table.names.insert name (table.names.getD name 0 + 1) }

/-- Takes out the rows whose names begin with a pattern, and counts them. -/
def removeNamed (table : Table) (pattern : String) : Table × Nat :=
  let ids := table.rows.foldr
    (fun id name ids => if name.startsWith pattern then id :: ids else ids) []
  (ids.foldl remove table, ids.length)

/-- The shards with copies that are unassigned, each as often as it has such copies. -/
def unassigned (table : Table) : List Nat :=
  table.shards.zipIdx.flatMap fun (copies, shard) =>
    (copies.filter Option.isNone).map fun _ => shard

/-- How often each name stands in the rows, sorted by name. -/
def countNames (table : Table) : List (String × Nat) := table.names.toList

end Table

/-- The first word of a text, up to white space or an opening bracket. -/
def tableName (text : String) : String :=
  String.ofList (text.toList.takeWhile fun c => !(Text.isWhite c || c == '('))

/-- The first word of a text, after white space. -/
def firstWord (text : String) : String :=
  String.ofList ((text.toList.dropWhile Text.isWhite).takeWhile fun c => !Text.isWhite c)

/-- The text after the first place where a pattern stands. -/
def afterFirst (pattern : List Char) : List Char → Option (List Char)
  | [] => if pattern.isEmpty then some [] else none
  | c :: rest =>
    if Text.startsWith pattern (c :: rest) then some ((c :: rest).drop pattern.length)
    else afterFirst pattern rest

/-- The number that follows a marker, after blanks and equals signs. -/
def numberAfter (text marker : String) : Option Nat := do
  let rest ← afterFirst marker.toList text.toList
  let digits := (rest.dropWhile fun c => c == ' ' || c == '=').takeWhile Char.isDigit
  let number := digits.foldl (fun value digit => value * 10 + (digit.toNat - '0'.toNat)) 0
  if digits.isEmpty || 2 ^ 32 ≤ number then none else some number

/-- A statement as far as the database understands it. -/
inductive Statement where
  | members
  | unassignedShards
  | setting (key : String)
  | create (table : String) (shards replicas : Nat)
  | drop (table : String) (ifExists : Bool)
  | refresh (table : String)
  | insert (table : String)
  | delete (table : String)
  | countNames (table : String)
  | unknown
  deriving DecidableEq, Repr

/-- The question for the members. -/
def Statement.membersText : String := "select name from sys.nodes"

/-- Reads a statement, in any case. -/
def Statement.parse (text : String) : Statement :=
  let lower := Text.lowerAscii (Text.trim text)
  if lower = membersText then .members
  else if Text.contains lower "from sys.shards" then .unassignedShards
  else if let some rest := Text.after? lower "set global transient " then .setting (firstWord rest)
  else if let some rest := Text.after? lower "create table " then
    .create (tableName rest) ((numberAfter lower "clustered into").getD 4)
      ((numberAfter lower "number_of_replicas").getD 1)
  else if let some rest := Text.after? lower "drop table " then
    match Text.after? rest "if exists " with
    | some rest => .drop (tableName rest) true
    | none => .drop (tableName rest) false
  else if let some rest := Text.after? lower "refresh table " then .refresh (tableName rest)
  else if let some rest := Text.after? lower "insert into " then .insert (tableName rest)
  else if let some rest := Text.after? lower "delete from " then .delete (tableName rest)
  else if let some rest := Text.after? lower "select name, count(*) from " then
    .countNames (tableName rest)
  else .unknown

/-- The error of a table that is not there. -/
def unknownTable (table : String) : QueryError :=
  .sql (some QueryError.tableUnknownCode) ("RelationUnknown[Relation '" ++ table ++ "' unknown]")

/-- The rows that parameters enter: a number and a name by turns. -/
def pairs : List Json → List (Int × String)
  | id :: name :: rest =>
    let number := match id with
      | .int value => if value < 2 ^ 63 then value else 0
      | _ => 0
    (number, name.text?.getD "") :: pairs rest
  | _ => []

/-- The text before the percent signs at the end of a pattern. -/
def stem (pattern : String) : String :=
  String.ofList ((pattern.toList.reverse.dropWhile (· == '%')).reverse)

end GracefulStop.Simulation
