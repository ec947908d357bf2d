import GracefulStop.Proofs.Scenario.LaunchSettings

/-!
# What the arguments of a node say

The arguments of a launch command are read back as settings: the key of a setting ends at the first sign
of equality. A setting of the spec's own then has the value that the spec gives it, and a built-in one has
its value unless the spec has another. The directories of data and logs are told last, whatever the spec
has for them, so that a spec with a setting of its own for one of them has it told twice.
-/

namespace GracefulStop

namespace NodeSpec

/-- The setting that an argument carries. -/
def settingOf? (arg : String) : Option (String × String) :=
  match arg.toList with
  | '-' :: 'C' :: text =>
    match text.dropWhile (· ≠ '=') with
    | _ :: value => some (String.ofList (text.takeWhile (· ≠ '=')), String.ofList value)
    | [] => none
  | _ => none

/-- A text that can be the key of an argument. -/
def IsKey (key : String) : Prop := '=' ∉ key.toList

instance : DecidablePred IsKey := fun key => inferInstanceAs (Decidable ('=' ∉ key.toList))

variable {spec : NodeSpec} {key value : String}

theorem settingOf?_settingArg (plain : IsKey key) (value : String) :
    settingOf? (settingArg key value) = some (key, value) := by
  have before : ∀ c ∈ key.toList, (!decide (c = '=')) = true := by
    intro c member
    rw [Bool.not_eq_true', decide_eq_false_iff_not]
    rintro rfl
    exact plain member
  have written : (settingArg key value).toList =
      '-' :: 'C' :: (key.toList ++ '=' :: value.toList) := by
    simp [settingArg]
  rw [settingOf?, written]
  simp [List.dropWhile_append_of_pos before, List.takeWhile_append_of_pos before]

theorem isKey_of_builtin? (given : spec.builtin? key = some value) : IsKey key := by
  unfold builtin? at given
  split at given
  · decide
  · decide
  · decide
  · decide
  · decide
  · decide
  · decide
  · cases given

theorem isKey_of_launchSettings (sorted : KeyMap.IsSorted spec.settings)
    (plain : ∀ key ∈ spec.settings.map (·.1), IsKey key)
    (launched : (key, value) ∈ spec.launchSettings) : IsKey key := by
  rw [spec.isSorted_launchSettings.mem_iff, spec.lookup_launchSettings sorted] at launched
  rcases Option.or_eq_some_iff.mp launched with own | ⟨_, builtin⟩
  · exact plain key (List.mem_map_of_mem (sorted.mem_iff.mpr own))
  · exact isKey_of_builtin? builtin

end NodeSpec

open NodeSpec (IsKey settingArg settingOf?)

/-! ## Values of a key -/

namespace KeyMap

variable {Value : Type} {key : String}

/-- The values that entries give a key, in their order. -/
def valuesOf (key : String) (entries : List (String × Value)) : List Value :=
  entries.filterMap fun entry => if entry.1 = key then some entry.2 else none

theorem valuesOf_cons {entry : String × Value} {entries : List (String × Value)} :
    valuesOf key (entry :: entries) =
      if key = entry.1 then entry.2 :: valuesOf key entries else valuesOf key entries := by
  by_cases same : key = entry.1
  · simp [valuesOf, same]
  · simp [valuesOf, same, Ne.symm same]

theorem valuesOf_append (front back : List (String × Value)) :
    valuesOf key (front ++ back) = valuesOf key front ++ valuesOf key back :=
  List.filterMap_append

theorem valuesOf_eq_nil {entries : List (String × Value)} (absent : key ∉ entries.map (·.1)) :
    valuesOf key entries = [] := by
  rw [valuesOf, List.filterMap_eq_nil_iff]
  intro entry member
  refine if_neg ?_
  rintro rfl
  exact absent (List.mem_map_of_mem member)

/-- A map gives a key at most one value. -/
theorem IsSorted.valuesOf {map : KeyMap Value} (sorted : IsSorted map) :
    valuesOf key map = (map.lookup key).toList := by
  induction map with
  | nil => rfl
  | cons entry map ih =>
      obtain ⟨above, rest⟩ := List.pairwise_cons.mp sorted
      rw [lookup_cons, valuesOf_cons]
      by_cases same : key = entry.1
      · have absent : key ∉ map.map (·.1) := by
          intro member
          obtain ⟨other, listed, again⟩ := List.mem_map.mp member
          exact String.lt_irrefl key (by simpa [same, again] using above other listed)
        rw [if_pos same, if_pos same, valuesOf_eq_nil absent]
        rfl
      · rw [if_neg same, if_neg same, ih rest]

end KeyMap

namespace LaunchCommand

/-- The settings that the arguments of a command carry. -/
def carried (command : LaunchCommand) : List (String × String) := command.args.filterMap settingOf?

/-- What a command tells about the directory of a node. -/
def directory? (nodeDir : Path) : (key : String) → Option String
  | "path.data" => some (Path.join nodeDir "data")
  | "path.logs" => some (Path.join nodeDir "logs")
  | _ => none

variable {spec : NodeSpec} {home nodeDir : Path} {key : String}

theorem filterMap_settingOf? {pairs : List (String × String)}
    (plain : ∀ pair ∈ pairs, IsKey pair.1) :
    (pairs.map fun pair => settingArg pair.1 pair.2).filterMap settingOf? = pairs := by
  rw [List.filterMap_map]
  conv_rhs => rw [← List.filterMap_some (l := pairs)]
  exact List.filterMap_congr fun pair member => NodeSpec.settingOf?_settingArg (plain pair member) _

theorem carried_forNode (sorted : KeyMap.IsSorted spec.settings)
    (plain : ∀ key ∈ spec.settings.map (·.1), IsKey key) :
    (forNode home spec nodeDir).carried = spec.launchSettings ++
      [("path.data", Path.join nodeDir "data"), ("path.logs", Path.join nodeDir "logs")] := by
  have written : (forNode home spec nodeDir).args = (spec.launchSettings ++
      [("path.data", Path.join nodeDir "data"), ("path.logs", Path.join nodeDir "logs")]).map
      fun pair => settingArg pair.1 pair.2 := by
    rw [List.map_append]
    rfl
  rw [carried, written, filterMap_settingOf?]
  intro pair member
  rcases List.mem_append.mp member with launched | told
  · exact NodeSpec.isKey_of_launchSettings sorted plain launched
  · simp only [List.mem_cons, List.not_mem_nil, or_false] at told
    rcases told with rfl | rfl
    · exact (by decide : IsKey "path.data")
    · exact (by decide : IsKey "path.logs")

theorem valuesOf_directory :
    KeyMap.valuesOf key
        [("path.data", Path.join nodeDir "data"), ("path.logs", Path.join nodeDir "logs")] =
      (directory? nodeDir key).toList := by
  unfold directory?
  split
  · rfl
  · rfl
  · rename_i noData noLogs
    refine KeyMap.valuesOf_eq_nil ?_
    simp only [List.map_cons, List.map_nil, List.mem_cons, List.not_mem_nil, or_false, not_or]
    exact ⟨noData, noLogs⟩

theorem directory?_eq_none (noData : key ≠ "path.data") (noLogs : key ≠ "path.logs") :
    directory? nodeDir key = none := by
  unfold directory?
  split
  · exact absurd rfl noData
  · exact absurd rfl noLogs
  · rfl

/-- The values that a command gives a key. -/
theorem valuesOf_forNode (sorted : KeyMap.IsSorted spec.settings)
    (plain : ∀ key ∈ spec.settings.map (·.1), IsKey key) (key : String) :
    KeyMap.valuesOf key (forNode home spec nodeDir).carried =
      ((spec.settings.lookup key).or (spec.builtin? key)).toList ++
        (directory? nodeDir key).toList := by
  rw [carried_forNode sorted plain, KeyMap.valuesOf_append, spec.isSorted_launchSettings.valuesOf,
    spec.lookup_launchSettings sorted, valuesOf_directory]

/-- The directories are told apart from the built-in settings. -/
theorem mem_keys_launchSettings (told : (directory? nodeDir key).isSome = true) :
    key ∈ spec.launchSettings.map (·.1) ↔ key ∈ spec.settings.map (·.1) := by
  have noBuiltin : key ∉ spec.builtinSettings.map (·.1) := by
    unfold directory? at told
    rw [NodeSpec.builtinSettings, KeyMap.mem_keys_ofList]
    split at told
    · simp
    · simp
    · cases told
  rw [NodeSpec.launchSettings, KeyMap.override, KeyMap.mem_keys_enter, or_iff_right noBuiltin]

theorem nodup_forNode (sorted : KeyMap.IsSorted spec.settings)
    (plain : ∀ key ∈ spec.settings.map (·.1), IsKey key) :
    ((forNode home spec nodeDir).carried.map (·.1)).Nodup ↔
      "path.data" ∉ spec.settings.map (·.1) ∧ "path.logs" ∉ spec.settings.map (·.1) := by
  have data := @mem_keys_launchSettings spec nodeDir "path.data" rfl
  have logs := @mem_keys_launchSettings spec nodeDir "path.logs" rfl
  rw [carried_forNode sorted plain, List.map_append, List.nodup_append]
  constructor
  · rintro ⟨_, _, apart⟩
    refine ⟨fun member => ?_, fun member => ?_⟩
    · exact apart _ (data.mpr member) "path.data" (by simp) rfl
    · exact apart _ (logs.mpr member) "path.logs" (by simp) rfl
  · rintro ⟨noData, noLogs⟩
    refine ⟨spec.isSorted_launchSettings.nodup, by simp, ?_⟩
    simp only [List.map_cons, List.map_nil, List.mem_cons, List.not_mem_nil, or_false]
    rintro key launched other (rfl | rfl) rfl
    · exact noData (data.mp launched)
    · exact noLogs (logs.mp launched)

/-- A command has no arguments but settings. Every setting of the spec stands among them with its value,
and nothing else has its key, unless it is the directory of data or of logs, which is told after it. So
all keys are different exactly if the spec has no setting for either of these. -/
theorem forNode_contract (home : Path) (spec : NodeSpec) (nodeDir : Path)
    (sorted : KeyMap.IsSorted spec.settings)
    (plain : ∀ key ∈ spec.settings.map (·.1), '=' ∉ key.toList) :
    (forNode home spec nodeDir).args =
        (forNode home spec nodeDir).carried.map (fun pair => "-C" ++ pair.1 ++ "=" ++ pair.2) ∧
      (∀ key value, (key, value) ∈ spec.settings →
        (key, value) ∈ (forNode home spec nodeDir).carried ∧
        (key ≠ "path.data" → key ≠ "path.logs" →
          KeyMap.valuesOf key (forNode home spec nodeDir).carried = [value])) ∧
      (∀ key, KeyMap.valuesOf key (forNode home spec nodeDir).carried =
        ((spec.settings.lookup key).or (spec.builtin? key)).toList ++
          (directory? nodeDir key).toList) ∧
      (((forNode home spec nodeDir).carried.map (·.1)).Nodup ↔
        "path.data" ∉ spec.settings.map (·.1) ∧ "path.logs" ∉ spec.settings.map (·.1)) := by
  have values := @valuesOf_forNode spec home nodeDir sorted plain
  refine ⟨?_, fun key value own => ⟨?_, fun noData noLogs => ?_⟩, values, nodup_forNode sorted plain⟩
  · rw [carried_forNode sorted plain, List.map_append]
    rfl
  · have launched : spec.launchSettings.lookup key = some value := by
      rw [spec.lookup_launchSettings sorted, sorted.mem_iff.mp own]
      rfl
    rw [carried_forNode sorted plain]
    exact List.mem_append_left _ (spec.isSorted_launchSettings.mem_iff.mpr launched)
  · rw [values key, directory?_eq_none noData noLogs, sorted.mem_iff.mp own]
    rfl

/-- A node with a value of its own for a built-in setting, and with a value that has a sign of equality.
-/
def keyed : NodeSpec where
  name := "crate_C_0"
  host := "127.0.0.1"
  httpPort := 4200
  transportRange := ⟨4300, 4300⟩
  clusterName := "C"
  peers := ["crate_C_0"]
  settings := [("network.host", "0.0.0.0"), ("node.attr.zone", "a=b")]

theorem forNode_contract_of_keyed :
    ((forNode "/opt" keyed "/runs/C/crate_C_0").carried.map (·.1)).Nodup ∧
      KeyMap.valuesOf "network.host" (forNode "/opt" keyed "/runs/C/crate_C_0").carried =
        ["0.0.0.0"] ∧
      KeyMap.valuesOf "node.attr.zone" (forNode "/opt" keyed "/runs/C/crate_C_0").carried =
        ["a=b"] ∧
      KeyMap.valuesOf "path.data" (forNode "/opt" keyed "/runs/C/crate_C_0").carried =
        ["/runs/C/crate_C_0/data"] := by
  have sorted : KeyMap.IsSorted keyed.settings :=
    List.pairwise_pair.mpr (by decide : "network.host" < "node.attr.zone")
  obtain ⟨_, own, values, distinct⟩ :=
    forNode_contract "/opt" keyed "/runs/C/crate_C_0" sorted (by decide)
  refine ⟨distinct.mpr (by decide), ?_, ?_, ?_⟩
  · exact (own _ _ (by decide)).2 (by decide) (by decide)
  · exact (own _ _ (by decide)).2 (by decide) (by decide)
  · rw [values]
    decide

/-- A node with a place of its own for its data. -/
def moved : NodeSpec := { keyed with settings := [("path.data", "/mnt/data")] }

/-- It is told two places. -/
theorem twice_of_moved :
    (∀ key ∈ moved.settings.map (·.1), '=' ∉ key.toList) ∧
      (forNode "/opt" moved "/runs/C/crate_C_0").args.filter (·.startsWith "-Cpath.data=") =
        ["-Cpath.data=/mnt/data", "-Cpath.data=/runs/C/crate_C_0/data"] ∧
      KeyMap.valuesOf "path.data" (forNode "/opt" moved "/runs/C/crate_C_0").carried =
        ["/mnt/data", "/runs/C/crate_C_0/data"] := by
  refine ⟨by decide, ?_, by decide⟩
  decide +kernel

end LaunchCommand

end GracefulStop
