import GracefulStop.Json.Basic

/-!
# Requests

A statement is sent with its parameters, or once for each row of parameters.
-/

namespace GracefulStop

/-- A statement on its way to an endpoint. -/
inductive Request where
  /-- A statement with positional parameters. -/
  | single (statement : String) (params : List Json)
  /-- A statement that runs once for each row of parameters. -/
  | bulk (statement : String) (rows : List (List Json))
  deriving Inhabited

namespace Request

/-- The statement of a request. -/
def statement : Request → String
  | single statement _ => statement
  | bulk statement _ => statement

/-- The members of the JSON object that carries a request. Parameters are left out where there are
none, rows of parameters never are. -/
def members : Request → List (String × Json)
  | single statement [] => [("stmt", .string statement)]
  | single statement params => [("stmt", .string statement), ("args", .array params)]
  | bulk statement rows =>
    [("stmt", .string statement), ("bulk_args", .array (rows.map .array))]

/-- The JSON object that carries a request. -/
def body (request : Request) : Json := .object request.members

end Request

end GracefulStop
