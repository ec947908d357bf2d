import GracefulStop.Draw
import GracefulStop.Json.Basic
import GracefulStop.Query.Error

/-!
# Operations of a workload

A workload sends statements of three kinds. A kind fixes the statement, the parameters that are
drawn for it, and the errors that do not count: a delete may find the table gone.
-/

namespace GracefulStop

/-- A kind of statement that a workload sends. -/
inductive OperationKind where
  | select
  | insert
  | delete
  deriving DecidableEq, Repr, Inhabited

/-- The letters of the names that are drawn. -/
def nameAlphabet : List Char := "abcdefghijklmn".toList

/-- A name: the letters in an order that was drawn. -/
def shuffledName {State : Type} (draw : Draw State) (state : State) : String × State :=
  let (letters, state) := draw.shuffle nameAlphabet state
  (String.ofList letters, state)

namespace OperationKind

/-- All kinds. -/
def all : List OperationKind := [.select, .insert, .delete]

/-- The name of a kind. -/
def name : OperationKind → String
  | select => "select"
  | insert => "insert"
  | delete => "delete"

/-- Reads the name of a kind, in any case. -/
def parse (text : String) : Except String OperationKind :=
  match all.find? (·.name = Text.lowerAscii text) with
  | some kind => .ok kind
  | none => .error ("unknown operation kind: " ++ Text.lowerAscii text)

/-- The statement of a kind on a table. -/
def statement (kind : OperationKind) (table : String) : String :=
  match kind with
  | select => "select name, count(*) from " ++ table ++ " group by name"
  | insert =>
    "insert into " ++ table ++
      " (id, name) values ($1, $2) on duplicate key update name = $2"
  | delete => "delete from " ++ table ++ " where name like ?"

/-- The parameters of one statement of a kind. -/
def params {State : Type} (kind : OperationKind) (draw : Draw State) (state : State) :
    List Json × State :=
  match kind with
  | select => ([], state)
  | insert =>
    let (id, state) := draw.below (2 ^ 31) state
    let (name, state) := shuffledName draw state
    ([.int id, .string name], state)
  | delete =>
    let (name, state) := shuffledName draw state
    ([.string (String.ofList (name.toList.take 3) ++ "%")], state)

/-- Whether a text is made of all the letters of a name, each as often as it stands there. -/
def isName (text : String) : Bool := text.toList.isPerm nameAlphabet

/-- Whether a text is a pattern that a delete may have: three different letters of a name, and a
percent sign. -/
def isNamePattern (text : String) : Bool :=
  match text.toList with
  | [a, b, c, '%'] => [a, b, c].all nameAlphabet.contains && a != b && b != c && a != c
  | _ => false

/-- Whether parameters are as a statement of this kind has them. -/
def takes : OperationKind → List Json → Bool
  | select, [] => true
  | insert, [.int id, .string name] => decide (0 ≤ id) && decide (id < 2 ^ 31) && isName name
  | delete, [.string pattern] => isNamePattern pattern
  | _, _ => false

/-- Whether an error of a statement of this kind does not count. -/
def isBenign (kind : OperationKind) (error : QueryError) : Bool :=
  kind = .delete && error.isTableUnknown

end OperationKind

/-- What a workload records. -/
inductive WorkloadError where
  /-- A statement failed. -/
  | query (kind : OperationKind) (error : QueryError)
  /-- A worker broke off. -/
  | panicked (kind : OperationKind) (message : String)
  deriving DecidableEq, Repr, Inhabited

namespace WorkloadError

/-- The kind of statement that a record is about. -/
def kind : WorkloadError → OperationKind
  | query kind _ => kind
  | panicked kind _ => kind

/-- The text of a record. -/
def message : WorkloadError → String
  | query kind error => kind.name ++ " failed: " ++ error.message
  | panicked kind message => kind.name ++ " worker panicked: " ++ message

/-- The text of the error behind a record. -/
def cause? : WorkloadError → Option String
  | query _ error => some error.message
  | panicked _ _ => none

end WorkloadError

end GracefulStop
