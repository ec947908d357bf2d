import GracefulStop.Json.Decode
import GracefulStop.Query.Error

/-!
# Answers to queries

A response holds the columns, the rows and the row count of a statement; the row count is
`-1` where the endpoint gives none. A bulk request is answered by one row count for each of
its parameter rows, and fails as a whole if one of them failed.
-/

namespace GracefulStop

/-- The answer to a statement. -/
structure Response where
  columns : List String
  rows : List (List Json)
  /-- Rows returned or affected; `-1` when unknown. -/
  rowCount : Int
  deriving Inhabited

namespace Response

/-- The row count of an answer that gives none. -/
def unknownRowCount : Int := -1

/-- The answer of no columns, no rows and no row. -/
def empty : Response := ⟨[], [], 0⟩

/-- The answer that holds these rows. -/
def ofRows (columns : List String) (rows : List (List Json)) : Response :=
  ⟨columns, rows, rows.length⟩

/-- The answer of a statement that changed so many rows. -/
def affected (rowCount : Int) : Response := ⟨[], [], rowCount⟩

/-- The position of the first column of a name. -/
def columnIndex? (response : Response) (name : String) : Option Nat :=
  response.columns.findIdx? (· = name)

/-- The cells of a column, of the rows that have it. -/
def column (response : Response) (name : String) : List Json :=
  match response.columnIndex? name with
  | some index => response.rows.filterMap (·[index]?)
  | none => []

/-- Whether a response is the empty one. -/
def isEmpty (response : Response) : Bool :=
  response.columns.isEmpty && response.rows.isEmpty && response.rowCount == 0

open Json (Tree)
open Json.Tree

/-- The least and the greatest row count. -/
def leastCount : Int := -2 ^ 63
def greatestCount : Int := 2 ^ 63 - 1

/-- The response that a JSON text writes, every field with a default. -/
def ofTree? (tree : Tree) : Option Response := do
  match ← tree.fields? ["cols", "rows", "rowcount"] with
  | [columns, rows, rowCount] =>
    let columns ← columns.orElse [] (list? string?)
    -- A cell stands in the response, in its list of rows and in a row.
    let rows ← rows.orElse [] (list? (list? (Tree.value? (Json.deepest - 3))))
    let rowCount ← rowCount.orElse unknownRowCount (int? leastCount greatestCount)
    some ⟨columns, rows, rowCount⟩
  | _ => none

/-- The row count that a bulk request gets for a parameter row that failed. -/
def bulkRowFailed : Int := -2

/-- The row counts of a bulk answer. -/
def bulkCounts? (tree : Tree) : Option (List Int) := do
  match ← tree.fields? ["results"] with
  | [results] =>
    results.orElse [] (list? fun entry => do
      match ← entry.fields? ["rowcount"] with
      | [rowCount] => rowCount.orElse unknownRowCount (int? leastCount greatestCount)
      | _ => none)
  | _ => none

/-- The text of a bulk request of which some parameter rows failed. -/
def bulkFailure (failed total first : Nat) : String :=
  "bulk request failed for " ++ toString failed ++ " of " ++ toString total ++
    " parameter sets (first at index " ++ toString first ++ ")"

/-- The answer that row counts amount to: the sum of the known ones, or a failure if one of the
parameter rows failed. -/
def ofBulkCounts (counts : List Int) : Except QueryError Response :=
  match counts.findIdx? (· = bulkRowFailed) with
  | some first =>
    .error (.sql none
      (bulkFailure (counts.filter (· = bulkRowFailed)).length counts.length first))
  | none => .ok (affected ((counts.map (max 0 ·)).foldr (· + ·) 0))

end Response

end GracefulStop
