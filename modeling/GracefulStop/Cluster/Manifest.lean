import GracefulStop.Node.Spec

/-!
# Manifests

The layout of a cluster: its name, the ports between its nodes, and the specs of the nodes.
-/

namespace GracefulStop

/-- The layout of a cluster. -/
structure Manifest where
  clusterName : String
  transportRange : PortRange
  nodes : List NodeSpec
  deriving DecidableEq, Repr, Inhabited

namespace Manifest

/-- The file of a cluster's directory that holds its manifest. -/
def fileName : String := "cluster.toml"

open Json.Tree in
/-- Reads a manifest from JSON. -/
def ofTree? (tree : Json.Tree) : Option Manifest := do
  match ← tree.fields? ["cluster_name", "transport_range", "nodes"] with
  | [clusterName, transportRange, nodes] =>
    some
      { clusterName := ← clusterName.required string?
        transportRange := ← transportRange.required NodeSpec.rangeOfTree?
        nodes := ← nodes.required (list? NodeSpec.ofTree?) }
  | _ => none

end Manifest

end GracefulStop
