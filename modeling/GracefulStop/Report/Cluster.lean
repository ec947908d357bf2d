import GracefulStop.Report.Errors
import GracefulStop.RunLength
import GracefulStop.Scenario.Basic

/-!
# Clusters in reports

How responses, layouts and the course of a run are told in a report.
-/

namespace GracefulStop

/-- Texts as an array. -/
def Json.texts (texts : List String) : Json := .array (texts.map .string)

/-- A count. -/
def Json.nat (value : Nat) : Json := .int value

/-- The members of a response in a report. -/
def Response.members (response : Response) : List (String × Json) :=
  [("cols", .texts response.columns), ("rows", .array (response.rows.map .array)),
    ("rowcount", .int response.rowCount)]

/-- A response in a report. -/
def Response.json (response : Response) : Json := .object response.members

/-- A manifest in a report. -/
def Manifest.json (manifest : Manifest) : Json :=
  .object
    [("cluster_name", .string manifest.clusterName),
      ("transport_range", NodeSpec.rangeJson manifest.transportRange),
      ("nodes", .array (manifest.nodes.map NodeSpec.json))]

/-- The layout of a cluster in a report. -/
def Harness.json (harness : Harness) : Json :=
  .object
    [("name", .string harness.name),
      ("len", .nat harness.handles.length),
      ("is_empty", .bool harness.handles.isEmpty),
      ("transport", .string harness.transportRange.text),
      ("names", .texts harness.nodeNames),
      ("manifest", harness.manifest.json),
      ("executor", .string harness.policy.describedExecutor)]

/-- The nodes of a snapshot in a report, with their endpoints. -/
def Snapshot.members (snapshot : Snapshot) (endpoint : Node → String) : List (String × Json) :=
  [("cluster", .string snapshot.clusterName),
    ("debug", .string snapshot.described),
    ("names", .texts snapshot.nodeNames),
    ("nodes", .array (snapshot.nodes.map fun view => .array
      [.string view.node.name, .bool view.live, .bool view.decommissioned,
        .string (endpoint view.node)])),
    ("live", .texts (snapshot.live.map endpoint))]

/-- A node in a report, with its endpoint. -/
def Handle.json (handle : Handle) (live : Bool) (endpoint : Node → String) : Json :=
  .object
    [("name", .string handle.name),
      ("http_port", .nat handle.node.spec.httpPort),
      ("live", .bool live),
      ("decommissioned", .bool handle.decommissioned),
      ("endpoint", .string (endpoint handle.node)),
      ("debug", .string (handle.described none))]

/-- A scenario in a report. -/
def Scenario.json (scenario : Scenario) : Json :=
  .object
    [("name", .string scenario.name),
      ("table", .string scenario.table),
      ("nodes", match scenario.harness with
        | some harness => .texts harness.nodeNames
        | none => ScenarioError.notProvisioned.json),
      ("harness_mut", .bool scenario.harness.isSome),
      ("debug", .string (scenario.described fun _ => none)),
      ("decommission_timeout", .string scenario.config.decommission.timeout.text)]

/-- Texts in ascending order. -/
def Json.sorted (texts : List String) : List String := texts.mergeSort fun a b => decide (a ≤ b)

/-- Texts in ascending order, each once. -/
def Json.distinct (texts : List String) : List String := (sorted texts).eraseDups

/-- What a workload recorded, in ascending order of kinds and texts. -/
def WorkloadError.listJson (errors : List WorkloadError) : Json :=
  let pairs := errors.map fun error => (error.kind.name, error.message)
  .array ((pairs.mergeSort fun a b => decide (a.1 < b.1 ∨ (a.1 = b.1 ∧ a.2 ≤ b.2))).map
    fun (kind, message) => .texts [kind, message])

/-- How often each name stands in a list. -/
def Json.tally (names : List String) : Json :=
  .object ((names.foldl (fun map name => KeyMap.alter name 0 (· + 1) map) ([] : KeyMap Nat)).map
    fun (name, count) => (name, .nat count))

/-- How often the nodes of a run were started and stopped, and how many layouts were kept. -/
def Run.callsJson {State : Type} (run : Run State) : Json :=
  let events := run.events
  .object
    [("starts", .tally (events.filterMap fun event =>
        match event with
        | .started node _ => some node.name
        | _ => none)),
      ("stops", .tally (events.filterMap fun event =>
        match event with
        | .stopped node _ => some node.name
        | _ => none)),
      ("manifests", .nat (events.filter fun event =>
        match event with
        | .recorded _ (.ok ()) => true
        | _ => false).length)]

/-- The moments at which statements were sent. -/
def Run.callTimes {State : Type} (run : Run State) : List Instant :=
  run.log.reverse.filterMap fun entry =>
    match entry.event with
    | .asked .. => some entry.time
    | _ => none

end GracefulStop
