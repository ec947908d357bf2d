import GracefulStop.Command.Run
import GracefulStop.Json.Access
import GracefulStop.Simulation.Conduct

/-!
# Stand-ins for nodes

A simulated host on which a plan of scenarios is run. Its programs are scripts, and it may have a
stand-in for the program of a node, which goes on until the signal comes on which it leaves. Each
stand-in answers statements for the whole cluster: by the first rule that fits, and else as an empty
cluster would, whose members are the stand-ins that have not left.
-/

namespace GracefulStop.Simulation

/-- The answer to all statements that begin with a text. -/
structure AnswerRule where
  beginning : String
  answer : HttpAnswer
  deriving DecidableEq, Repr

/-- A stand-in for the program of a node. -/
structure StandIn where
  /-- The signal on which it leaves. -/
  signal : Signal := .usr2
  /-- The code with which it leaves; without one it ignores the signal. -/
  exitCode : Option Nat := none
  rules : List AnswerRule := []
  deriving DecidableEq, Repr

namespace StandIn

/-- Where the program lies. -/
def place : Path := "dist/bin/crate"

/-- The names on the way to the program. -/
def names (files : FileTree) : List String :=
  (Path.join files.workingDir place).names.filter (· != "")

/-- Files with the program among them. -/
def install (files : FileTree) : FileTree :=
  files.withFile (names files) (.regular [] true)

/-- The program. -/
def program (standIn : StandIn) : Program :=
  Conduct.heeding "" standIn.signal
    (standIn.exitCode.map fun code => (Conduct.moment, Conduct.ended code))

/-- How many stand-ins have not left. One that was killed has not. -/
def members (host : Host) (now : Instant) : Nat :=
  host.children.countP fun child =>
    match child.endedAs? now with
    | some (.exited _) => false
    | _ => true

/-- The answer of so many members. -/
def membership (count : Nat) : Json :=
  .object
    [("cols", .array [.string "name"]),
      ("rows", .array (List.replicate count (.array [.string "n"]))),
      ("rowcount", .int count)]

/-- An answer that reports a success. -/
def success (body : Json) : HttpAnswer := ⟨200, body.compact.toUTF8.toList⟩

/-- The answer to a request where no rule fits. -/
def plainAnswer (members : Nat) (request : Request) : HttpAnswer :=
  if request.statement = Harness.membershipQuery then success (membership members)
  else match request with
    | .bulk .. => success (.object [("results", .array [])])
    | .single .. => success (.object [("rowcount", .int 0)])

/-- The answer to a request. -/
def answer (standIn : StandIn) (members : Nat) (request : Request) : HttpAnswer :=
  match standIn.rules.find? fun rule => Text.beginsWith request.statement rule.beginning with
  | some rule => rule.answer
  | none => plainAnswer members request

/-- What a request meets on a host, which may have no stand-in. -/
def outcome (standIn? : Option StandIn) (host : Host) (now : Instant) (request : Request) :
    HttpOutcome :=
  match standIn? with
  | some standIn => .answered (standIn.answer (members host now) request)
  | none => .failed "connection refused"

/-- The program that a command starts. -/
def programFor (standIn? : Option StandIn) (files : FileTree) (values : List (String × String))
    (command : LaunchCommand) : Except String Program :=
  match standIn?, files.resolve command.program with
  | some standIn, .ok names =>
    if names = StandIn.names files then .ok standIn.program else scriptOf files values command
  | _, _ => scriptOf files values command

/-- Whether an address is written in numbers: up to four, of which the last may stand for several
octets. -/
def isNumeric (address : String) : Bool :=
  let parts := (address.splitOn ".").map fun part => Shell.constant? part.toList
  let fits (limit : Nat) (part : Option Int) := part.any (· < (limit : Int))
  parts.length ≤ 4 && parts.dropLast.all (fits 256) &&
    parts.getLast?.any (fits (256 ^ (5 - parts.length)))

/-- Whether the stand-ins answer at an address. -/
def isReached (address : String) : Bool :=
  Text.lowerAscii address = "localhost" || isNumeric address

/-- A host that has started nothing yet, where programs know some variables. -/
def host (standIn? : Option StandIn) (files : FileTree) (values : List (String × String)) :
    Host where
  programs _ command := programFor standIn? (Shell.withHostFiles files) values command
  listens address _ _ := standIn?.isSome && isReached address
  children := []
  files := files

/-- Answers a request to a node. -/
def ask (standIn? : Option StandIn) (_ : Node) (request : Request) (look : Look)
    (premises : Premises UInt64) : Progress (Except QueryError Response) × Premises UInt64 :=
  (.done ((outcome standIn? premises.host look.now request).response request), premises)

/-- The outcomes of a plan. -/
def play (standIn? : Option StandIn) (files : FileTree) (values : List (String × String))
    (plan : Command.RunPlan) : List Outcome :=
  plan.play (ask standIn?) Draw.congruential (host standIn? files values) 1

end StandIn

end GracefulStop.Simulation
