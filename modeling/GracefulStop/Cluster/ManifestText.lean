import GracefulStop.Cluster.Error
import GracefulStop.Cluster.Manifest
import GracefulStop.FileTree
import GracefulStop.Toml.Parser
import GracefulStop.Toml.Printer

/-!
# Manifests as TOML

The text of a manifest, which `Manifest.read?` reads back, and the file of a cluster's directory
that holds it.
-/

namespace GracefulStop

namespace Toml

/-- The text of a string. -/
def text? : Toml → Option String
  | .string value => some value
  | _ => none

/-- A whole number from zero up to a bound. -/
def natUpTo? (greatest : Nat) : Toml → Option Nat
  | .int value => if 0 ≤ value && value ≤ greatest then some value.toNat else none
  | _ => none

/-- The items of an array, each read in the same way. -/
def list? {Value : Type} (read : Toml → Option Value) : Toml → Option (List Value)
  | .array items => items.mapM read
  | _ => none

/-- The entries of a table with texts as values, sorted. -/
def textMap? : Toml → Option (KeyMap String)
  | .table entries =>
    (entries.mapM fun (entry : String × Toml) =>
        entry.2.text?.map fun value => (entry.1, value)).map
      KeyMap.ofList
  | _ => none

end Toml

/-- The greatest port. -/
def greatestPort : Nat := 65535

/-- A range of ports as a table. -/
def PortRange.toml (range : PortRange) : Toml :=
  .table [("first", .int range.first), ("last", .int range.last)]

/-- Reads a range of ports. -/
def PortRange.ofToml? (value : Toml) : Option PortRange := do
  some
    { first := ← (← value.member? "first").natUpTo? greatestPort
      last := ← (← value.member? "last").natUpTo? greatestPort }

/-- A spec as a table. -/
def NodeSpec.toml (spec : NodeSpec) : Toml :=
  .table
    [("name", .string spec.name),
      ("host", .string spec.host),
      ("http_port", .int spec.httpPort),
      ("transport_range", spec.transportRange.toml),
      ("cluster_name", .string spec.clusterName),
      ("peers", .array (spec.peers.map .string)),
      ("settings", .table (spec.settings.map fun (key, value) => (key, .string value)))]

/-- Reads a spec. -/
def NodeSpec.ofToml? (value : Toml) : Option NodeSpec := do
  some
    { name := ← (← value.member? "name").text?
      host := ← (← value.member? "host").text?
      httpPort := ← (← value.member? "http_port").natUpTo? greatestPort
      transportRange := ← PortRange.ofToml? (← value.member? "transport_range")
      clusterName := ← (← value.member? "cluster_name").text?
      peers := ← (← value.member? "peers").list? Toml.text?
      settings := ← (← value.member? "settings").textMap? }

namespace Manifest

/-- The entries of a manifest's document. -/
def entries (manifest : Manifest) : List (String × Toml) :=
  [("cluster_name", .string manifest.clusterName),
    ("transport_range", manifest.transportRange.toml),
    ("nodes", .array (manifest.nodes.map NodeSpec.toml))]

/-- The text of a manifest. -/
def text (manifest : Manifest) : String := Toml.document manifest.entries

/-- Reads the table of a manifest. -/
def ofToml? (value : Toml) : Option Manifest := do
  some
    { clusterName := ← (← value.member? "cluster_name").text?
      transportRange := ← PortRange.ofToml? (← value.member? "transport_range")
      nodes := ← (← value.member? "nodes").list? NodeSpec.ofToml? }

/-- Reads the text of a manifest. -/
def read? (text : String) : Option Manifest :=
  (Toml.read? text).bind fun entries => ofToml? (.table entries)

end Manifest

namespace RunDir

/-- The file that holds the manifest of a cluster. -/
def manifestPath (run : RunDir) (manifest : Manifest) : Path :=
  Path.join (run.clusterDir manifest.clusterName) Manifest.fileName

/-- The files with the manifest of a cluster among them, in a directory that is made for it. -/
def record (run : RunDir) (manifest : Manifest) (files : FileTree) : Except ClusterError FileTree :=
  match files.write (run.clusterDir manifest.clusterName) Manifest.fileName
      manifest.text.toUTF8.toList with
  | .ok files => .ok files
  | .error error => .error (.io error.message)

end RunDir

end GracefulStop
