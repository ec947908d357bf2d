import GracefulStop.Config.Json
import GracefulStop.Json.Access
import GracefulStop.Retry.Policy
import GracefulStop.Shard.Query
import GracefulStop.Simulation.Cluster
import GracefulStop.Simulation.Script
import GracefulStop.Workload.Workers

/-!
# Setting up simulations

What a simulated run is told, in JSON: its configuration and policies, what goes wrong in its
cluster, and the scripts of its endpoints.
-/

namespace GracefulStop

open Json (Tree)

/-- Reads a length of time: milliseconds, or an object that counts nanoseconds or seconds. -/
def Duration.ofJson? (value : Json) : Option Duration :=
  match value.int?, value.natAt? "ns", value.natAt? "secs" with
  | some millis, _, _ => some (.ofMillis millis.toNat)
  | _, some nanos, _ => some ⟨nanos⟩
  | _, _, some seconds => some (.ofSeconds seconds)
  | _, _, _ => none

/-- Reads a length of time that is a member of an object, none where there is no such member. -/
def Duration.ofMember (value : Json) (name : String) : Duration :=
  (Duration.ofJson? (value.get name)).getD .zero

/-- Reads an error of a query. -/
def QueryError.ofJson (value : Json) : QueryError :=
  let message := value.textAt "message"
  match value.textAt "kind" with
  | "sql" => .sql (value.intAt? "code") message
  | "transport" => .transport message
  | "decode" => .decode message
  | _ => .invalidEndpoint message

/-- Reads an expectation of a row count: an object whose only member names its kind. -/
def RowCountPredicate.ofJson (value : Json) : RowCountPredicate :=
  match value.intAt? "exactly", value.intAt? "greater_than" with
  | some count, _ => .exactly count
  | _, some count => .greaterThan count
  | _, _ => .atLeast (value.intAt "at_least")

/-- Reads a question about shards: the name of a built-in one, or a statement with its expectation.
-/
def ShardQuery.ofJson : Json → ShardQuery
  | .string "no_unassigned" => .noneUnassigned
  | .string "some_unassigned" => .someUnassigned
  | value => ⟨value.textAt "statement", .ofJson (value.get "predicate")⟩

/-- Reads how statements are repeated: by settings, or by a backoff, a factor and a deadline. -/
def RetryPolicy.ofJson (value : Json) : RetryPolicy :=
  match value.text?, value.member? "settings" with
  | some "no_retry", _ => .never
  | some _, _ => .ofSettings {}
  | _, some settings =>
    let default : RetrySettings := {}
    .ofSettings
      { initialBackoffMillis :=
          (settings.natAt? "initial_backoff_ms").getD default.initialBackoffMillis
        multiplier := ((settings.member? "multiplier").map Json.double).getD default.multiplier
        deadlineMillis := (settings.natAt? "deadline_ms").getD default.deadlineMillis }
  | _, none =>
    .forTransient (.ofMember value "initial") (value.get "multiplier").double
      (.ofMember value "deadline")

/-- The policy with another choice of errors that are worth another attempt, if one is named. -/
def RetryPolicy.choosing (policy : RetryPolicy) : Option String → RetryPolicy
  | some "all" => { policy with retryable := fun _ => true }
  | some "none" => { policy with retryable := fun _ => false }
  | some "table_unknown" => { policy with retryable := QueryError.isTableUnknown }
  | _ => policy

/-- Reads a configuration: the name of a base and what is laid over it. -/
def Config.ofSetup? (tree : Tree) : Option Config :=
  let base := if (tree.member? "base").bind Tree.string? = some "fast" then Config.fast else {}
  match tree.member? "set" with
  | none => some base
  | some .null => some base
  | some set => (Json.parse? base.json.compact).bind fun base => Config.ofTree? (base.overlay set)

/-- Reads how a call of an endpoint ends. -/
def Response.resultOfJson (value : Json) : Except QueryError Response :=
  match value.member? "err" with
  | some error => .error (.ofJson error)
  | none => .ok ⟨value.textsAt "cols", value.rowsAt "rows", value.intAt "ok"⟩

/-- Reads how the call of a worker ends, which may break off with a text or with none. -/
def CallOutcome.ofJson (value : Json) : CallOutcome :=
  match value.textAt? "panic" with
  | some message => .brokenOff (if value.textAt "payload" = "other" then none else some message)
  | none => .returned (Response.resultOfJson value)

namespace Simulation

/-- Reads a line of a script. -/
def ScriptLine.ofJson (value : Json) : ScriptLine :=
  ⟨Response.resultOfJson value, .ofMillis (value.natAt "delay_ms")⟩

/-- Reads a script. -/
def Script.ofJson (value : Json) : Script :=
  { lines := (value.itemsAt "script").map .ofJson, fallback := .ofJson (value.get "fallback") }

/-- Reads a rule. -/
def Rule.ofJson (value : Json) : Rule :=
  ⟨value.textAt "prefix", value.natAt? "times", .ofJson (value.get "error")⟩

/-- Reads a number for each of some nodes. -/
def countsAt (value : Json) (name : String) : KeyMap Nat :=
  (value.get name).members.map fun (node, count) => (node, (count.int?.getD 0).toNat)

/-- The faults with those replaced that an object names. Starts that fail are added to those that
there are. -/
def Faults.change (faults : Faults) (value : Json) : Faults :=
  let nodes (name : String) (before : List String) : List String :=
    if value.has name then value.textsAt name else before
  { rules := if value.has "rules" then (value.itemsAt "rules").map .ofJson else faults.rules
    latency :=
      if value.has "latency_ms" then .ofMillis (value.natAt "latency_ms") else faults.latency
    hidden := nodes "hidden" faults.hidden
    joinAfter := if value.has "join_after" then countsAt value "join_after" else faults.joinAfter
    failStarts := KeyMap.override faults.failStarts (countsAt value "fail_starts")
    stubborn := nodes "stubborn" faults.stubborn
    signalError := nodes "signal_error" faults.signalError
    waitError := nodes "wait_error" faults.waitError
    stopError := nodes "stop_error" faults.stopError
    exitCodes :=
      if value.has "exit_codes" then
        (value.get "exit_codes").members.map fun (node, code) => (node, code.int?.getD 0)
      else faults.exitCodes
    launchError := nodes "launch_error" faults.launchError
    recordError :=
      if value.has "record_error" then value.boolAt "record_error" else faults.recordError }

end Simulation

end GracefulStop
