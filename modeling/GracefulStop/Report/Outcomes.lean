import GracefulStop.Json.Printer
import GracefulStop.Scenario.Builtin
import GracefulStop.Terminal.Style
import GracefulStop.Terminal.Table

/-!
# Reports of outcomes

What came of scenarios, as a table with a line that sums it up, or as JSON.
-/

namespace GracefulStop

open Terminal (Table)

/-- What a command writes to its two streams. -/
structure Written where
  out : String := ""
  err : String := ""
  deriving DecidableEq, Repr, Inhabited

/-- A table of keys and values. -/
def infoTable (entries : List (String × String)) : Table where
  rows := entries.map fun (key, value) => [key, value]

namespace Outcome

/-- The row of an outcome. -/
def row (outcome : Outcome) : List String :=
  [if outcome.passed then "PASS" else "FAIL", outcome.name,
    toString outcome.durationMillis ++ " ms", outcome.detail]

/-- The table of outcomes. -/
def table (outcomes : List Outcome) : Table where
  header := some ["Result", "Scenario", "Duration", "Detail"]
  rows := outcomes.map row

/-- How many scenarios failed. -/
def failures (outcomes : List Outcome) : Nat := (outcomes.filter (!·.passed)).length

/-- How many of so many scenarios failed, in words. -/
def failureText (failed total : Nat) : String :=
  toString failed ++ " of " ++ toString total ++ " scenario(s) failed"

/-- The table of outcomes and the line that sums it up. -/
def report (colours : Bool) (outcomes : List Outcome) : Written :=
  let table := (table outcomes).text ++ "\n"
  let total := outcomes.length
  if failures outcomes = 0 then
    { out := table ++ Terminal.successLine colours (toString total ++ " scenario(s) passed") }
  else
    { out := table
      err := Terminal.errorLine colours (failureText (failures outcomes) total) }

end Outcome

end GracefulStop
