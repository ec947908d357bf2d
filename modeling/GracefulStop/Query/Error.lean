import GracefulStop.Text.Search

/-!
# Errors of a query

A query fails because the endpoint rejected the statement, because no answer came, because
the answer made no sense, or because there is no usable endpoint. Only a rejection says
something about the cluster: that its state still names a node that has left, or that the
table is unknown. The error code counts before the text of the rejection.
-/

namespace GracefulStop

/-- Why a query failed. -/
inductive QueryError where
  /-- The endpoint rejected the statement, with an error code if it gave one. -/
  | sql (code : Option Int) (message : String)
  /-- The request brought no answer. -/
  | transport (message : String)
  /-- The answer could not be decoded. -/
  | decode (message : String)
  /-- No endpoint has this address. -/
  | invalidEndpoint (address : String)
  deriving DecidableEq, Repr, Inhabited

namespace QueryError

/-- The error code of an unknown table. -/
def tableUnknownCode : Int := 4041

/-- Texts that tell that the cluster state names a node that has left or is leaving. -/
def transientPatterns : List String := ["not found in cluster state", "Node not connected"]

/-- Texts that tell that the table is unknown. -/
def tableUnknownPatterns : List String := ["TableUnknownException", "RelationUnknown"]

/-- What an error says about the cluster. -/
inductive Kind where
  /-- The cluster state names a node that has left or is leaving. -/
  | transientClusterState
  /-- The table does not exist. -/
  | tableUnknown
  /-- Anything else. -/
  | other
  deriving DecidableEq, Repr

/-- Whether a text contains one of the patterns. -/
def containsAny (message : String) (patterns : List String) : Bool :=
  patterns.any (Text.contains message ·)

/-- What an error says about the cluster. -/
def kind : QueryError → Kind
  | sql code message =>
    if code = some tableUnknownCode then .tableUnknown
    else if containsAny message transientPatterns then .transientClusterState
    else if containsAny message tableUnknownPatterns then .tableUnknown
    else .other
  | _ => .other

/-- Whether a retry may help, because the cluster state will soon be up to date. -/
def isTransient (error : QueryError) : Bool := error.kind = .transientClusterState

/-- Whether the table is missing. -/
def isTableUnknown (error : QueryError) : Bool := error.kind = .tableUnknown

/-- The text of an error. -/
def message : QueryError → String
  | sql none message => "SQL error: " ++ message
  | sql (some code) message => "SQL error [" ++ toString code ++ "]: " ++ message
  | transport message => "transport error: " ++ message
  | decode message => "malformed response: " ++ message
  | invalidEndpoint address => "invalid endpoint " ++ address

end QueryError

end GracefulStop
