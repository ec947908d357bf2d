import GracefulStop.Proofs.Cluster.Ports
import GracefulStop.Proofs.Files.Joining

/-!
# Directories of nodes

The name of a node tells its cluster and its index, whatever the cluster is called: digits have no
underscore, so the last one of the name stands before the index. The directory of a node is called as
the node. Unless a name of a cluster has strokes in it, no other node has the same directory, however
its path is written and wherever it leads.
-/

namespace GracefulStop

/-- A mark that what follows it lacks parts a text in one way only. -/
theorem Text.append_mark_inj {mark : Char} {front rest other later : List Char}
    (plain : mark ∉ rest) (plainLater : mark ∉ later) :
    front ++ mark :: rest = other ++ mark :: later ↔ front = other ∧ rest = later := by
  constructor
  · intro same
    rcases List.append_eq_append_iff.mp same with ⟨between, rfl, cut⟩ | ⟨between, rfl, cut⟩
    · cases between with
      | nil => simpa using cut
      | cons first more =>
          obtain ⟨rfl, rfl⟩ := List.cons.inj cut
          exact absurd (by simp) plain
    · cases between with
      | nil => simpa [eq_comm] using cut
      | cons first more =>
          obtain ⟨rfl, rfl⟩ := List.cons.inj cut
          exact absurd (by simp) plainLater
  · rintro ⟨rfl, rfl⟩
    rfl

namespace NodeSpec

theorem toList_nodeName (cluster : String) (index : Nat) :
    (nodeName cluster index).toList =
      ("crate_".toList ++ cluster.toList) ++ '_' :: Nat.toDigits 10 index := by
  simp [nodeName]

theorem not_mem_digits {mark : Char} (alien : mark.isDigit = false) (index : Nat) :
    mark ∉ Nat.toDigits 10 index := by
  intro member
  rw [Nat.isDigit_of_mem_toDigits (by decide) (by decide) member] at alien
  cases alien

theorem nodeName_inj {first second : String} {i j : Nat} :
    nodeName first i = nodeName second j ↔ first = second ∧ i = j := by
  constructor
  · intro same
    have chars := congrArg String.toList same
    rw [toList_nodeName, toList_nodeName, Text.append_mark_inj (not_mem_digits (by decide) i)
      (not_mem_digits (by decide) j), List.append_cancel_left_eq] at chars
    obtain ⟨clusters, digits⟩ := chars
    refine ⟨String.toList_injective clusters, ?_⟩
    rw [← @Nat.ofDigitChars_ten_toDigits i, digits, Nat.ofDigitChars_ten_toDigits]
  · rintro ⟨rfl, rfl⟩
    rfl

/-- Without strokes in the name of its cluster a node has a name that a directory can have. -/
theorem isName_nodeName {cluster : String} (plain : '/' ∉ cluster.toList) (index : Nat) :
    Path.IsName (nodeName cluster index) := by
  constructor
  · rw [toList_nodeName]
    simp [plain, not_mem_digits]
  · intro member
    have starts : (nodeName cluster index).toList.head? = some 'c' := by
      rw [toList_nodeName]
      rfl
    have others : ∀ name ∈ ["", ".", ".."], name.toList.head? ≠ some 'c' := by decide
    exact others _ member starts

/-- A spec that a node got in a cluster of a name, at an index. -/
def Assigned (spec : NodeSpec) (cluster : String) (index : Nat) : Prop :=
  ∃ (State : Type) (world : World State) (count : Nat) (settings : KeyMap String) (config : Config)
    (limit : Option Instant) (run last : Run State) (harness : Harness) (handle : Handle),
    Harness.provision world cluster count settings config limit run = (some (.ok harness), last) ∧
      harness.handles[index]? = some handle ∧ handle.node.spec = spec

variable {spec other : NodeSpec} {first second : String} {i j : Nat}

theorem Assigned.clusterName (assigned : spec.Assigned first i) : spec.clusterName = first := by
  obtain ⟨_, world, count, settings, config, limit, run, last, harness, handle, provides, placed,
    rfl⟩ := assigned
  rw [Harness.shared_of_provision provides handle (List.mem_of_getElem? placed)]
  rfl

theorem Assigned.name (assigned : spec.Assigned first i) : spec.name = nodeName first i := by
  obtain ⟨_, world, count, settings, config, limit, run, last, harness, handle, provides, placed,
    rfl⟩ := assigned
  have named := congrArg (·[i]?) (Harness.provided_of_provision provides).laid.named
  simp only [List.getElem?_map, placed, Option.map_some, Harness.namesFor] at named
  obtain ⟨index, found, same⟩ := Option.map_eq_some_iff.mp named.symm
  obtain ⟨_, rfl⟩ := List.getElem?_eq_some_iff.mp found
  rw [List.getElem_range] at same
  exact same.symm

/-- The nodes of a cluster of any name get specs, as far as there are ports. -/
theorem exists_assigned (cluster : String) {index : Nat} (few : index < 1000) :
    ∃ spec : NodeSpec, spec.Assigned cluster index := by
  have willing : World.obliging.Willing := ⟨fun _ _ _ => rfl, fun _ _ _ => rfl, fun _ _ _ => rfl⟩
  have unprobed : World.obligingStart.ports.probing = false := rfl
  have pool : World.obligingStart.ports = ⟨42000, 44000, false⟩ := rfl
  obtain ⟨result, last, provides, enough⟩ := Harness.provision_of_willing willing unprobed
    (by omega : 1 ≤ index + 1) (by omega) cluster [] {} none
  rw [pool] at enough
  cases result with
  | error error =>
      have fits : 2 * (index + 1) ≤ 44000 - 42000 := by omega
      exact absurd (enough.mpr fits) Bool.false_ne_true
  | ok harness =>
      have length := (Harness.provided_of_provision provides).length
      exact ⟨_, _, _, _, _, _, _, _, _, _, _, provides, List.getElem?_eq_getElem (by omega), rfl⟩

end NodeSpec

namespace RunDir

open NodeSpec (nodeName)

variable {spec other : NodeSpec} {first second : String} {i j : Nat}

theorem nodeDir_of_assigned (run : RunDir) (assigned : spec.Assigned first i) :
    run.nodeDir spec = Path.join (run.clusterDir first) (nodeName first i) := by
  rw [nodeDir, assigned.clusterName, assigned.name]

/-- The names of two nodes are the same only if their clusters have the same name and they the same index.
So have their directories, of all clusters whose names have no strokes, whether they are told apart as
texts or step by step; and no two of them ever lead to one place. -/
theorem directories_apart :
    (∀ first second i j, nodeName first i = nodeName second j ↔ first = second ∧ i = j) ∧
      ∀ (run : RunDir) (spec other : NodeSpec) (first second : String) (i j : Nat),
        spec.Assigned first i → other.Assigned second j →
        '/' ∉ first.toList → '/' ∉ second.toList →
        (run.nodeDir spec = run.nodeDir other ↔ first = second ∧ i = j) ∧
          ((run.nodeDir spec).steps = (run.nodeDir other).steps ↔ first = second ∧ i = j) ∧
          ∀ (files later : FileTree) (place : List String),
            files.resolve (run.nodeDir spec) = .ok place →
            later.resolve (run.nodeDir other) = .ok place → first = second ∧ i = j := by
  refine ⟨fun _ _ _ _ => NodeSpec.nodeName_inj, ?_⟩
  intro run spec other first second i j assigned assignedOther plain plainOther
  have proper := NodeSpec.isName_nodeName plain i
  have properOther := NodeSpec.isName_nodeName plainOther j
  rw [run.nodeDir_of_assigned assigned, run.nodeDir_of_assigned assignedOther]
  have stepwise (same : (Path.join (run.clusterDir first) (nodeName first i)).steps =
      (Path.join (run.clusterDir second) (nodeName second j)).steps) : first = second ∧ i = j := by
    have last := congrArg List.getLast? same
    rw [proper.getLast?_steps_join, properOther.getLast?_steps_join] at last
    exact NodeSpec.nodeName_inj.mp (Option.some.inj last)
  refine ⟨⟨fun same => stepwise (congrArg Path.steps same), ?_⟩, ⟨stepwise, ?_⟩, ?_⟩
  · rintro ⟨rfl, rfl⟩
    rfl
  · rintro ⟨rfl, rfl⟩
    rfl
  · intro files later place found foundOther
    have last := FileTree.getLast?_of_resolve proper found
    rw [FileTree.getLast?_of_resolve properOther foundOther] at last
    exact (NodeSpec.nodeName_inj.mp (Option.some.inj last)).imp Eq.symm Eq.symm

/-- With strokes in their names, the nodes of clusters `x/../a` and `y/../a` can have one directory.
-/
example : ["x", "..", "a", "crate_x", "..", "a_0"].foldl FileTree.goTo [] =
    ["y", "..", "a", "crate_y", "..", "a_0"].foldl FileTree.goTo [] := by decide

/-- The directories of two clusters. -/
def alikeFiles : FileTree where
  root := .directory [("runs", .directory [("c", .directory []), ("c_1", .directory [])])]
  workingDir := "/"

theorem directories_apart_of_alike :
    ∃ spec other : NodeSpec, spec.Assigned "c" 1 ∧ other.Assigned "c_1" 0 ∧
      nodeDir ⟨"/runs"⟩ spec = "/runs/c/crate_c_1" ∧
      nodeDir ⟨"/runs"⟩ spec ≠ nodeDir ⟨"/runs"⟩ other ∧
      (nodeDir ⟨"/runs"⟩ spec).steps ≠ (nodeDir ⟨"/runs"⟩ other).steps ∧
      alikeFiles.resolve (nodeDir ⟨"/runs"⟩ spec) = .ok ["runs", "c", "crate_c_1"] ∧
      alikeFiles.resolve (nodeDir ⟨"/runs"⟩ other) ≠ .ok ["runs", "c", "crate_c_1"] := by
  obtain ⟨spec, assigned⟩ := NodeSpec.exists_assigned "c" (by decide : 1 < 1000)
  obtain ⟨other, assignedOther⟩ := NodeSpec.exists_assigned "c_1" (by decide : 0 < 1000)
  obtain ⟨texts, paths, places⟩ := directories_apart.2 ⟨"/runs"⟩ spec other "c" "c_1" 1 0 assigned
    assignedOther (by decide) (by decide)
  have unlike : ¬("c" = "c_1" ∧ 1 = 0) := by decide
  have here : nodeDir ⟨"/runs"⟩ spec = "/runs/c/crate_c_1" := by
    rw [nodeDir_of_assigned _ assigned]
    decide
  have found : alikeFiles.resolve (nodeDir ⟨"/runs"⟩ spec) = .ok ["runs", "c", "crate_c_1"] := by
    rw [here, FileTree.resolve_eq _ (by decide), FileTree.names_fullPath _ (by decide)]
    rfl
  exact ⟨spec, other, assigned, assignedOther, here, mt texts.mp unlike, mt paths.mp unlike, found,
    fun foundOther => unlike (places _ _ _ found foundOther)⟩

end RunDir

end GracefulStop
