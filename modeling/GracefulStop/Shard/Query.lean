import GracefulStop.Duration
import GracefulStop.Query.Error

/-!
# Questions about shards

A shard query asks for the copies of shards in some state, and says how many rows the answer
has to have.
-/

namespace GracefulStop

/-- What is expected of a row count. -/
inductive RowCountPredicate where
  | exactly (count : Int)
  | greaterThan (count : Int)
  | atLeast (count : Int)
  deriving DecidableEq, Repr, Inhabited

namespace RowCountPredicate

/-- Whether a row count is as expected. -/
def holds : RowCountPredicate → Int → Bool
  | exactly count, rowCount => rowCount == count
  | greaterThan count, rowCount => count < rowCount
  | atLeast count, rowCount => count ≤ rowCount

/-- The text of an expectation. -/
def text : RowCountPredicate → String
  | exactly count => "exactly " ++ toString count
  | greaterThan count => "more than " ++ toString count
  | atLeast count => "at least " ++ toString count

end RowCountPredicate

/-- A statement about shards, and the row count that it has to reach. -/
structure ShardQuery where
  statement : String
  predicate : RowCountPredicate
  deriving DecidableEq, Repr, Inhabited

namespace ShardQuery

/-- Every copy of a shard lies on a node. -/
def noneUnassigned : ShardQuery :=
  ⟨"select table_name, id from sys.shards where state = 'UNASSIGNED'", .exactly 0⟩

/-- Some copy of a shard has lost its node. -/
def someUnassigned : ShardQuery :=
  ⟨"select node['id'] as node_id, id, state from sys.shards where state = 'UNASSIGNED'",
    .greaterThan 0⟩

end ShardQuery

/-- Why a state of the shards was not found. -/
inductive VerifyError where
  /-- The row count was never as expected. The last one is missing where no answer came. -/
  | timeout (statement expected : String) (lastRowCount : Option Int) (deadline : Duration)
  | query (error : QueryError)
  deriving DecidableEq, Repr, Inhabited

/-- The text of an error. -/
def VerifyError.message : VerifyError → String
  | timeout statement expected lastRowCount deadline =>
    "`" ++ statement ++ "` did not return " ++ expected ++ " rows within " ++ deadline.text ++
      " (last row count: " ++ (lastRowCount.map toString).getD "none" ++ ")"
  | query error => error.message

end GracefulStop
