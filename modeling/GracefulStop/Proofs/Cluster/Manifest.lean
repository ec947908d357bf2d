import GracefulStop.Cluster.ManifestText
import GracefulStop.Proofs.KeyMap
import GracefulStop.Proofs.Toml.Tables
import Mathlib

/-!
# Manifests

The text of a manifest is read back as the manifest, whatever its names and settings hold. Its nodes
are tables that hold further tables, so that their entries change their order in the text; the order is
of no matter, since each field is looked up by its name.
-/

namespace GracefulStop

namespace Toml

theorem natUpTo?_natCast {n greatest : Nat} (bounded : n ≤ greatest) :
    natUpTo? greatest (.int n) = some n := by
  simp [natUpTo?, bounded]

end Toml

open Toml

theorem isScalar_port {port : Nat} (bounded : port ≤ greatestPort) : IsScalar (.int port) := by
  refine .int ?_ ?_ <;> simp only [leastInt, greatestInt, greatestPort] at * <;> omega

/-! ## Ranges and specs -/

/-- A range of which both ends are ports. -/
def PortRange.IsProper (range : PortRange) : Prop :=
  range.first ≤ greatestPort ∧ range.last ≤ greatestPort

/-- A spec with ports for its numbers, of which the settings are a map. -/
structure NodeSpec.IsProper (spec : NodeSpec) : Prop where
  port : spec.httpPort ≤ greatestPort
  range : spec.transportRange.IsProper
  settings : KeyMap.IsSorted spec.settings

/-- A manifest with ports for its numbers, of which the settings of each node are a map. -/
structure Manifest.IsProper (manifest : Manifest) : Prop where
  range : manifest.transportRange.IsProper
  nodes : ∀ spec ∈ manifest.nodes, spec.IsProper

namespace PortRange

variable {range : PortRange}

theorem sound_toml (proper : range.IsProper) (depth : Nat) : IsSound (depth + 1) range.toml := by
  refine .table (by simp) ?_
  simp only [List.mem_cons, List.not_mem_nil, or_false]
  rintro entry (rfl | rfl)
  · exact .inline (.scalar (isScalar_port proper.1))
  · exact .inline (.scalar (isScalar_port proper.2))

theorem ofToml?_settle (proper : range.IsProper) : ofToml? (settle range.toml) = some range := by
  have entry := member?_settle (sound_toml proper 0)
  simp only [PortRange.toml, ofToml?, entry]
  simp [List.lookup, settle, natUpTo?_natCast proper.1, natUpTo?_natCast proper.2]

end PortRange

namespace NodeSpec

variable {spec : NodeSpec}

theorem inline_peers (peers : List String) : IsInline (.array (peers.map .string)) := by
  refine .array ?_
  simp only [List.mem_map]
  rintro _ ⟨peer, _, rfl⟩
  exact .string peer

theorem sound_settings {settings : KeyMap String} (sorted : KeyMap.IsSorted settings) (depth : Nat) :
    IsSound (depth + 1) (.table (settings.map fun (key, value) => (key, .string value))) := by
  refine .table ?_ ?_
  · simpa [Function.comp_def] using sorted.nodup
  · simp only [List.mem_map]
    rintro _ ⟨⟨key, value⟩, _, rfl⟩
    exact .inline (.scalar (.string value))

theorem textMap?_settle {settings : KeyMap String} (sorted : KeyMap.IsSorted settings) :
    (settle (.table (settings.map fun (key, value) => (key, .string value)))).textMap? =
      some settings := by
  have plain : ∀ entry ∈ settings.map fun (key, value) => (key, Toml.string value),
      isPlain entry.2 = true := by
    simp only [List.mem_map]
    rintro _ ⟨⟨key, value⟩, _, rfl⟩
    rfl
  rw [settle_table, settleEntries_plain plain, textMap?, mapM_map (by simp [text?]),
    Option.map_some, KeyMap.ofList_sorted sorted]

theorem sound_toml (proper : spec.IsProper) (depth : Nat) : IsSound (depth + 2) spec.toml := by
  refine .table (by simp) ?_
  simp only [List.mem_cons, List.not_mem_nil, or_false]
  rintro entry (rfl | rfl | rfl | rfl | rfl | rfl | rfl)
  · exact .inline (.scalar (.string _))
  · exact .inline (.scalar (.string _))
  · exact .inline (.scalar (isScalar_port proper.port))
  · exact PortRange.sound_toml proper.range depth
  · exact .inline (.scalar (.string _))
  · exact .inline (inline_peers spec.peers)
  · exact sound_settings proper.settings depth

theorem ofToml?_settle (proper : spec.IsProper) : ofToml? (settle spec.toml) = some spec := by
  have entry := member?_settle (sound_toml proper 0)
  have peers : (settle (.array (spec.peers.map .string))).list? Toml.text? = some spec.peers := by
    rw [settle_inline (inline_peers spec.peers), list?, mapM_map (by simp [text?])]
  simp only [NodeSpec.toml, ofToml?, entry]
  simp [List.lookup, settle_scalar (.string _), settle_scalar (isScalar_port proper.port), text?, peers,
    natUpTo?_natCast proper.port, PortRange.ofToml?_settle proper.range,
    textMap?_settle proper.settings]

end NodeSpec

namespace Manifest

variable {manifest : Manifest}

theorem sound_nodes (proper : manifest.IsProper) (depth : Nat) :
    IsSound (depth + 2) (.array (manifest.nodes.map NodeSpec.toml)) := by
  by_cases empty : manifest.nodes = []
  · rw [empty]
    exact .inline (.array (by simp))
  · refine .tables (by simpa using empty) ?_ ?_ <;> simp only [List.mem_map]
    · rintro _ ⟨spec, _, rfl⟩
      rfl
    · rintro _ ⟨spec, member, rfl⟩
      exact NodeSpec.sound_toml (proper.nodes spec member) depth

theorem sound_entries (proper : manifest.IsProper) : IsSound 3 (.table manifest.entries) := by
  refine .table (by simp [entries]) ?_
  simp only [entries, List.mem_cons, List.not_mem_nil, or_false]
  rintro entry (rfl | rfl | rfl)
  · exact .inline (.scalar (.string _))
  · exact PortRange.sound_toml proper.range 1
  · exact sound_nodes proper 0

/-- The text of a manifest is read back as the manifest: the same name and ports, the same nodes in
their order, each with the same peers in their order and the same settings. -/
theorem text_reads_back (proper : manifest.IsProper) : read? manifest.text = some manifest := by
  have entry := member?_settle (sound_entries proper)
  have nodes : (settle (.array (manifest.nodes.map NodeSpec.toml))).list? NodeSpec.ofToml? =
      some manifest.nodes := by
    rw [settle, settleItems_eq_map, List.map_map, list?]
    exact mapM_map fun spec member => NodeSpec.ofToml?_settle (proper.nodes spec member)
  rw [read?, text, read?_document (sound_entries proper) (by decide), Option.bind_some,
    ← settle_table]
  simp only [ofToml?, entry]
  simp [entries, List.lookup, settle_scalar (.string _), text?, nodes,
    PortRange.ofToml?_settle proper.range]

/-- A manifest of two nodes, with characters that have to be written with care. -/
def knotty : Manifest where
  clusterName := "a \"quoted\" name\nand 'another'\\"
  transportRange := ⟨0, 65535⟩
  nodes :=
    [{ name := "'''\"\"\"'''"
       host := ""
       httpPort := 4200
       transportRange := ⟨4300, 4301⟩
       clusterName := "tab\tnul\x00del\x7f"
       peers := ["\r\n", "\uFEFF[[nodes]]", "naïve ☃"]
       settings := [("", "none"), ("a.\"b\"", "''"), ("a\\b\nc", "# = ]")] },
      { name := "plain", host := "::1", httpPort := 0, transportRange := ⟨1, 1⟩,
        clusterName := "", peers := [], settings := [] }]

theorem text_reads_back_of_knotty : knotty.IsProper ∧ read? knotty.text = some knotty := by
  have proper : knotty.IsProper := by
    refine ⟨⟨by decide, by decide⟩, ?_⟩
    simp only [knotty, List.mem_cons, List.not_mem_nil, or_false]
    rintro spec (rfl | rfl)
    · exact ⟨by decide, ⟨by decide, by decide⟩, by unfold KeyMap.IsSorted; decide⟩
    · exact ⟨by decide, ⟨by decide, by decide⟩, .nil⟩
  exact ⟨proper, text_reads_back proper⟩

end Manifest

end GracefulStop
