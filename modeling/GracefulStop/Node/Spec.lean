import GracefulStop.Json.Decode
import GracefulStop.Json.Printer
import GracefulStop.Path
import GracefulStop.Port.Range
import GracefulStop.Query.Http

/-!
# Node specs

A spec says who a node is and how it is launched. Its own settings win over the built-in ones,
and every setting becomes one argument of the launch command.
-/

namespace GracefulStop

/-- Identity and launch settings of one node. -/
structure NodeSpec where
  name : String
  /-- The address that the node binds to. -/
  host : String
  httpPort : Nat
  /-- The ports between nodes, shared by all nodes of the cluster. -/
  transportRange : PortRange
  clusterName : String
  /-- The names of all nodes of the cluster. -/
  peers : List String
  /-- Settings that win over the built-in ones. -/
  settings : KeyMap String
  deriving DecidableEq, Repr, Inhabited

namespace NodeSpec

/-- The name of the node at an index of a cluster. -/
def nodeName (clusterName : String) (index : Nat) : String :=
  "crate_" ++ clusterName ++ "_" ++ toString index

/-- The settings that follow from the spec's other fields. -/
def builtinSettings (spec : NodeSpec) : KeyMap String :=
  KeyMap.ofList
    [("node.name", spec.name),
      ("cluster.name", spec.clusterName),
      ("network.host", spec.host),
      ("http.port", toString spec.httpPort),
      ("transport.tcp.port", spec.transportRange.text),
      ("discovery.seed_hosts",
        String.intercalate "," (spec.transportRange.ports.map (spec.host ++ ":" ++ toString ·))),
      ("cluster.initial_master_nodes", String.intercalate "," spec.peers)]

/-- All settings that a node is launched with. -/
def launchSettings (spec : NodeSpec) : KeyMap String :=
  spec.builtinSettings.override spec.settings

/-- The argument that carries a setting. -/
def settingArg (key value : String) : String := "-C" ++ key ++ "=" ++ value

/-- The arguments that carry the settings. -/
def launchArgs (spec : NodeSpec) : List String :=
  spec.launchSettings.map fun (key, value) => settingArg key value

/-- The endpoint of a node. -/
def endpoint (spec : NodeSpec) : Except QueryError Endpoint := Endpoint.make spec.host spec.httpPort

open Json.Tree

/-- Reads a range of ports. -/
def rangeOfTree? (tree : Json.Tree) : Option PortRange := do
  match ← tree.fields? ["first", "last"] with
  | [first, last] =>
    some ⟨← first.required (nat? 65535), ← last.required (nat? 65535)⟩
  | _ => none

/-- Reads a spec, every field of which has to be there. -/
def ofTree? (tree : Json.Tree) : Option NodeSpec := do
  let fields ← tree.fields?
    ["name", "host", "http_port", "transport_range", "cluster_name", "peers", "settings"]
  match fields with
  | [name, host, httpPort, transportRange, clusterName, peers, settings] =>
    some
      { name := ← name.required string?
        host := ← host.required string?
        httpPort := ← httpPort.required (nat? 65535)
        transportRange := ← transportRange.required rangeOfTree?
        clusterName := ← clusterName.required string?
        peers := ← peers.required (list? string?)
        settings := ← settings.required (map? string?) }
  | _ => none

/-- A range of ports as JSON. -/
def rangeJson (range : PortRange) : Json :=
  .object [("first", .int range.first), ("last", .int range.last)]

/-- A spec as JSON. -/
def json (spec : NodeSpec) : Json :=
  .object
    [("name", .string spec.name),
      ("host", .string spec.host),
      ("http_port", .int spec.httpPort),
      ("transport_range", rangeJson spec.transportRange),
      ("cluster_name", .string spec.clusterName),
      ("peers", .array (spec.peers.map .string)),
      ("settings", .object (spec.settings.map fun (key, value) => (key, .string value)))]

end NodeSpec

/-- A program with its arguments and environment. -/
structure LaunchCommand where
  program : Path
  args : List String
  env : List (String × String)
  deriving DecidableEq, Repr, Inhabited

namespace LaunchCommand

/-- Where the node program lies in an installation of the database. -/
def programOf (home : Path) : Path := Path.join (Path.join home "bin") "crate"

/-- Launches a node from an installation, with its data and logs in a directory. -/
def forNode (home : Path) (spec : NodeSpec) (nodeDir : Path) : LaunchCommand where
  program := programOf home
  args := spec.launchArgs ++
    [NodeSpec.settingArg "path.data" (Path.join nodeDir "data"),
      NodeSpec.settingArg "path.logs" (Path.join nodeDir "logs")]
  env := [("CRATE_HEAP_SIZE", "256m")]

/-- All texts of a command: the program, the arguments, the names and values of the environment. -/
def texts (command : LaunchCommand) : List String :=
  command.program :: command.args ++ command.env.flatMap fun (name, value) => [name, value]

end LaunchCommand

/-- Where the clusters of a run keep their files. -/
structure RunDir where
  path : Path
  deriving DecidableEq, Repr

namespace RunDir

/-- The directory of a cluster. -/
def clusterDir (run : RunDir) (clusterName : String) : Path := Path.join run.path clusterName

/-- The directory of a node. -/
def nodeDir (run : RunDir) (spec : NodeSpec) : Path :=
  Path.join (run.clusterDir spec.clusterName) spec.name

end RunDir

end GracefulStop
