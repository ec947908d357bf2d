import GracefulStop.Json.Printer
import GracefulStop.Query.Request
import GracefulStop.Query.Response
import GracefulStop.Text.Utf8

/-!
# Queries over HTTP

Every node takes statements at its endpoint as JSON over HTTP. A status from 200 to 299 is
a success, whose body is the answer. Any other status is a rejection: its body is an error
object, or else is itself the text of the error.
-/

namespace GracefulStop

/-- The address of a node's endpoint. -/
structure Endpoint where
  host : String
  port : Nat
  deriving DecidableEq, Repr

namespace Endpoint

/-- The endpoint at an address, which has to name a host and a port. -/
def make (host : String) (port : Nat) : Except QueryError Endpoint :=
  if host.isEmpty || port == 0 then .error (.invalidEndpoint (host ++ ":" ++ toString port))
  else .ok ⟨host, port⟩

/-- The location that statements are sent to. -/
def url (endpoint : Endpoint) : String :=
  "http://" ++ endpoint.host ++ ":" ++ toString endpoint.port ++ "/_sql"

/-- The first line of every request. -/
def requestLine : String := "POST /_sql HTTP/1.1"

/-- The kind of content that a request carries. -/
def contentType : String := "application/json"

/-- How long a request may take. -/
def requestSeconds : Nat := 30

end Endpoint

/-- What comes back from an endpoint. -/
structure HttpAnswer where
  status : Nat
  body : List UInt8
  deriving DecidableEq, Repr

namespace HttpAnswer

/-- Whether an answer of this status has a body at all. -/
def hasBody (status : Nat) : Bool := status != 204 && status != 304 && status != 101

/-- Whether a status reports a success. -/
def isSuccess (status : Nat) : Bool := 200 ≤ status && status ≤ 299

/-- The text of an answer. -/
def text (answer : HttpAnswer) : String :=
  if hasBody answer.status then Text.ofUtf8 answer.body else ""

open Json.Tree in
/-- The message and the code of an error object. -/
def envelope? (text : String) : Option (String × Option Int) := do
  match ← (← Json.parse? text).fields? ["error"] with
  | [error] =>
    error.required fun error => do
      match ← error.fields? ["message", "code"] with
      | [message, code] =>
        let message ← message.required string?
        let code ← code.orElse none (optional? (int? Response.leastCount Response.greatestCount))
        some (message, code)
      | _ => none
  | _ => none

/-- The rejection that a status and a body report. -/
def rejection (status : Nat) (text : String) : QueryError :=
  match envelope? text with
  | some (message, code) => .sql code message
  | none => .sql none ("HTTP " ++ toString status ++ ": " ++ text)

/-- The body of a success. -/
def successText (answer : HttpAnswer) : Except QueryError String :=
  if isSuccess answer.status then .ok answer.text
  else .error (rejection answer.status answer.text)

/-- The response to a request, as its answer tells. -/
def response (answer : HttpAnswer) : Request → Except QueryError Response
  | .single _ _ => do
    match (Json.parse? (← answer.successText)).bind Response.ofTree? with
    | some response => .ok response
    | none => .error (.decode "not a response")
  | .bulk _ _ => do
    match (Json.parse? (← answer.successText)).bind Response.bulkCounts? with
    | some counts => Response.ofBulkCounts counts
    | none => .error (.decode "not a bulk response")

end HttpAnswer

/-- What a request meets. -/
inductive HttpOutcome where
  /-- A whole answer. -/
  | answered (answer : HttpAnswer)
  /-- No answer, or a broken one. -/
  | failed (reason : String)

/-- The response to a request, as its outcome tells. An answer of a preliminary status is none. -/
def HttpOutcome.response (outcome : HttpOutcome) (request : Request) : Except QueryError Response :=
  match outcome with
  | .answered answer =>
    if (100 ≤ answer.status && answer.status ≤ 999) &&
        (answer.status = 101 || 200 ≤ answer.status) then answer.response request
    else .error (.transport "no final answer")
  | .failed reason => .error (.transport reason)

end GracefulStop
