import GracefulStop.Proofs.Cluster.Ports
import GracefulStop.Proofs.KeyMap
import GracefulStop.Proofs.Scenario.Provision
import GracefulStop.Proofs.Text.Utf8

/-!
# What nodes are launched with

A node is launched with the settings that are configured, of those with one key with the last, and with
the built-in ones that none of them replaces. Its arguments carry these settings in the order of their
keys. The built-in settings are the same for all nodes of a cluster, except for the name of a node and
its port for statements.
-/

namespace GracefulStop

/-- The value of the last of some settings with a key. -/
def NodeSetting.last? (settings : List NodeSetting) (key : String) : Option String :=
  (settings.findRev? (·.key = key)).map NodeSetting.value

theorem NodeSetting.last?_eq_none {settings : List NodeSetting} {key : String}
    (absent : key ∉ settings.map NodeSetting.key) : last? settings key = none := by
  rw [last?, List.findRev?_eq_find?_reverse, Option.map_eq_none_iff, List.find?_eq_none]
  intro setting member
  rw [decide_eq_true_eq]
  rintro rfl
  exact absent (List.mem_map_of_mem (List.mem_reverse.mp member))

theorem ClusterSettings.lookup_nodeSettingsMap (settings : ClusterSettings) (key : String) :
    settings.nodeSettingsMap.lookup key = NodeSetting.last? settings.nodeSettings key := by
  rw [nodeSettingsMap, KeyMap.lookup_ofList, ← List.map_reverse, NodeSetting.last?,
    List.findRev?_eq_find?_reverse]
  induction settings.nodeSettings.reverse with
  | nil => rfl
  | cons setting rest ih =>
      rw [List.map_cons, KeyMap.lookup_cons, List.find?_cons, ih]
      by_cases same : key = setting.key
      · simp [same]
      · simp [same, Ne.symm same]

theorem ClusterSettings.isSorted_nodeSettingsMap (settings : ClusterSettings) :
    KeyMap.IsSorted settings.nodeSettingsMap := KeyMap.isSorted_ofList _

namespace NodeSpec

variable (spec : NodeSpec)

/-- The value of a built-in setting; there are seven of them. -/
def builtin? : (key : String) → Option String
  | "node.name" => some spec.name
  | "cluster.name" => some spec.clusterName
  | "network.host" => some spec.host
  | "http.port" => some (toString spec.httpPort)
  | "transport.tcp.port" => some spec.transportRange.text
  | "discovery.seed_hosts" =>
    some (String.intercalate ","
      (spec.transportRange.ports.map fun port => spec.host ++ ":" ++ toString port))
  | "cluster.initial_master_nodes" => some (String.intercalate "," spec.peers)
  | _ => none

theorem lookup_builtinSettings (key : String) :
    spec.builtinSettings.lookup key = spec.builtin? key := by
  rw [builtinSettings, KeyMap.lookup_ofList]
  simp only [List.reverse_cons, List.reverse_nil, List.nil_append, List.cons_append,
    KeyMap.lookup_cons, List.lookup_nil]
  fun_cases builtin? spec key <;> simp_all

/-- The name and the port of statements of a node are told in one setting each. -/
theorem builtin?_of_ne {key : String} (noName : key ≠ "node.name") (noPort : key ≠ "http.port")
    (name : String) (httpPort : Nat) :
    builtin? { spec with name, httpPort } key = spec.builtin? key := by
  unfold builtin?
  split
  · exact absurd rfl noName
  · rfl
  · rfl
  · exact absurd rfl noPort
  all_goals rfl

theorem isSorted_launchSettings : KeyMap.IsSorted spec.launchSettings :=
  (KeyMap.isSorted_ofList _).override spec.settings

theorem lookup_launchSettings (sorted : KeyMap.IsSorted spec.settings) (key : String) :
    spec.launchSettings.lookup key = (spec.settings.lookup key).or (spec.builtin? key) := by
  rw [launchSettings, KeyMap.lookup_override sorted, lookup_builtinSettings]

/-- The arguments of a node carry what it is launched with, each setting once and in the order of the
octets of the keys. -/
theorem launchArgs_eq_map : ∃ pairs : List (String × String),
    spec.launchArgs = pairs.map (fun pair => "-C" ++ pair.1 ++ "=" ++ pair.2) ∧
      (pairs.map (·.1)).Pairwise (fun key other => key.toUTF8.toList < other.toUTF8.toList) ∧
      ∀ key value, (key, value) ∈ pairs ↔ spec.launchSettings.lookup key = some value := by
  refine ⟨spec.launchSettings, rfl, ?_, fun _ _ => spec.isSorted_launchSettings.mem_iff⟩
  rw [List.pairwise_map]
  exact spec.isSorted_launchSettings.imp Text.lt_iff_toUTF8_lt.mp

end NodeSpec

variable {State : Type} {world : World State} {limit : Option Instant} {run last : Run State}

namespace Scenario

/-- Every node of a cluster that a scenario has provided is launched with the last configured value of
each key, else with the built-in one, and with nothing else. Its arguments carry exactly these settings,
in the order of the octets of their keys. Among the nodes only names and ports of statements differ, and
unless configured otherwise each node is told the addresses and the names of all. -/
theorem launch_settings_contract {scenario after : Scenario} {count : Nat}
    (ended : provision world count scenario limit run = (some (.ok (), after), last)) :
    ∃ harness, after.harness = some harness ∧
      harness.nodeNames = Harness.namesFor scenario.name count ∧
      (∀ handle ∈ harness.handles, handle.node.spec =
        { name := handle.name
          host := scenario.config.cluster.host
          httpPort := handle.node.spec.httpPort
          transportRange := harness.transportRange
          clusterName := scenario.name
          peers := harness.nodeNames
          settings := scenario.config.cluster.nodeSettingsMap }) ∧
      (∀ handle ∈ harness.handles, ∀ key, handle.node.spec.launchSettings.lookup key =
        (NodeSetting.last? scenario.config.cluster.nodeSettings key).or
          (handle.node.spec.builtin? key)) ∧
      (∀ handle ∈ harness.handles, ∃ pairs : List (String × String),
        handle.node.spec.launchArgs = pairs.map (fun pair => "-C" ++ pair.1 ++ "=" ++ pair.2) ∧
          (pairs.map (·.1)).Pairwise (fun key other => key.toUTF8.toList < other.toUTF8.toList) ∧
          ∀ key value, (key, value) ∈ pairs ↔
            handle.node.spec.launchSettings.lookup key = some value) ∧
      (∀ handle ∈ harness.handles, ∀ other ∈ harness.handles, ∀ key, key ≠ "node.name" →
        key ≠ "http.port" → handle.node.spec.launchSettings.lookup key =
          other.node.spec.launchSettings.lookup key) ∧
      ∀ handle ∈ harness.handles,
        ("discovery.seed_hosts" ∉ scenario.config.cluster.nodeSettings.map NodeSetting.key →
          handle.node.spec.launchSettings.lookup "discovery.seed_hosts" =
            some (String.intercalate "," (harness.transportRange.ports.map fun port =>
              scenario.config.cluster.host ++ ":" ++ toString port))) ∧
        ("cluster.initial_master_nodes" ∉ scenario.config.cluster.nodeSettings.map NodeSetting.key →
          handle.node.spec.launchSettings.lookup "cluster.initial_master_nodes" =
            some (String.intercalate "," harness.nodeNames)) := by
  obtain ⟨torn, _, _, stages⟩ := provision_eq_some ended
  generalize held : after.harness = kept at stages
  cases stages with
  | @complete harness provided started _ provides starts quorum =>
  have named : harness.nodeNames = Harness.namesFor scenario.name count :=
    (Harness.provided_of_provision provides).laid.named
  have specs := Harness.shared_of_provision provides
  have values : ∀ handle ∈ harness.handles, ∀ key, handle.node.spec.launchSettings.lookup key =
      (NodeSetting.last? scenario.config.cluster.nodeSettings key).or
        (handle.node.spec.builtin? key) := by
    intro handle member key
    have settings : handle.node.spec.settings = scenario.config.cluster.nodeSettingsMap := by
      rw [specs handle member]
      rfl
    rw [NodeSpec.lookup_launchSettings _ (settings ▸ ClusterSettings.isSorted_nodeSettingsMap _),
      settings, ClusterSettings.lookup_nodeSettingsMap]
  refine ⟨harness, rfl, named, fun handle member => ?_, values, fun handle _ => ?_, ?_, ?_⟩
  · rw [named]
    exact specs handle member
  · exact handle.node.spec.launchArgs_eq_map
  · intro handle member other memberOther key noName noPort
    have alike : ∀ handle ∈ harness.handles, handle.node.spec.builtin? key =
        (Harness.sharedSpec scenario.name count scenario.config.cluster.nodeSettingsMap
          scenario.config harness.transportRange).builtin? key := by
      intro handle member
      rw [specs handle member]
      exact NodeSpec.builtin?_of_ne _ noName noPort _ _
    rw [values handle member, values other memberOther, alike handle member, alike other memberOther]
  · intro handle member
    constructor <;> intro absent
    · rw [values handle member, NodeSetting.last?_eq_none absent, specs handle member]
      rfl
    · rw [values handle member, NodeSetting.last?_eq_none absent, specs handle member, named]
      rfl

/-- A scenario with two values each for a setting of its own and for a built-in one. -/
def clashing : Scenario where
  name := "pair"
  config :=
    { cluster :=
        { nodeSettings :=
            [⟨"node.attr.zone", "a"⟩, ⟨"network.host", "::1"⟩, ⟨"node.attr.zone", "b"⟩,
              ⟨"network.host", "0.0.0.0"⟩] } }

theorem launch_settings_contract_of_clashing :
    ∃ after harness last,
      provision World.obliging 2 clashing none World.obligingStart = (some (.ok (), after), last) ∧
        after.harness = some harness ∧ harness.nodeNames = ["crate_pair_0", "crate_pair_1"] ∧
        ∀ handle ∈ harness.handles,
          handle.node.spec.launchSettings.lookup "node.attr.zone" = some "b" ∧
          handle.node.spec.launchSettings.lookup "network.host" = some "0.0.0.0" ∧
          handle.node.spec.launchSettings.lookup "cluster.name" = some "pair" ∧
          handle.node.spec.launchSettings.lookup "cluster.initial_master_nodes" =
            some "crate_pair_0,crate_pair_1" ∧
          handle.node.spec.launchSettings.lookup "path.data" = none := by
  have ready : (provision World.obliging 2 clashing none World.obligingStart).1.map (·.1.isOk) =
      some true := by decide +kernel
  rcases ended : provision World.obliging 2 clashing none World.obligingStart with
    ⟨_ | ⟨_ | _, after⟩, last⟩ <;> rw [ended] at ready
  · cases ready
  · cases ready
  obtain ⟨harness, held, named, specs, values, _, _, told⟩ := launch_settings_contract ended
  have names : harness.nodeNames = ["crate_pair_0", "crate_pair_1"] := named.trans (by decide)
  refine ⟨after, harness, last, rfl, held, names, fun handle member => ?_⟩
  refine ⟨?_, ?_, ?_, ?_, ?_⟩
  · exact values handle member _
  · exact values handle member _
  · rw [values handle member, specs handle member]
    rfl
  · rw [(told handle member).2 (by decide), names]
    decide
  · exact values handle member _

end Scenario

end GracefulStop
