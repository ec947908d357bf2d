import GracefulStop.Proofs.Config.Layers
import GracefulStop.Proofs.Files.Names
import GracefulStop.Proofs.KeyMap
import GracefulStop.Proofs.Text.Utf8
import GracefulStop.Proofs.Toml.Tables

/-!
# Loading a configuration

Every field of a loaded configuration has the value of the highest layer that gives it one, with
relative paths seen from the project. Only the outcome is checked, so that a value that could not stand
is of no harm in a layer below another that has a value for its field. A named file has to be there,
though not with the ending of the files that are read: without its ending it is found as well.
-/

namespace GracefulStop

open Config (Assignment Assigns Field Holds LayerGives Settings Values)
open Layer (Value)

namespace ConfigLoader

/-- A file gives an assignment: it is found, it is read, and it gives values to the fields of the
assignment and to no others. -/
def FileGives (files : FileTree) (path : Path) (given : Assignment) : Prop :=
  ∃ octets entries, octets? files path = some octets ∧ Toml.read? (textOf octets) = some entries ∧
    Assigns (Value.entriesOfToml entries) given

/-- A file that may be missing gives an assignment, which is empty if it is. -/
def OptionalGives (files : FileTree) (path : Path) (given : Assignment) : Prop :=
  files.exists? path = false ∧ (given = fun _ => none) ∨
    files.exists? path = true ∧ FileGives files path given

/-- Variables give an assignment: those of the stem name its fields and no others, and their texts
stand for its values. A text that is no truth value and no number stands for itself. -/
structure VariablesGive (stem : String) (environment : Environment) (given : Assignment) : Prop where
  known : ∀ {name text key}, (name, text) ∈ environment → Environment.keyOf? stem name = some key →
    ∃ field wanted, key = Field.key field ∧ given field = some wanted ∧
      field.read? (Environment.valueOf text) = some wanted
  all : ∀ field, (given field).isSome = true →
    ∃ name text, (name, text) ∈ environment ∧ Environment.keyOf? stem name = some field.key

/-- What the layers above the built-in values give, from the lowest on. -/
structure Layering where
  user : Assignment
  project : Assignment
  machine : Assignment
  named : Assignment
  environment : Assignment

/-- The value of each field: that of the highest layer that gives it one. -/
def Layering.values (layering : Layering) : Values := fun field =>
  ((layering.environment field).or <| (layering.named field).or <| (layering.machine field).or <|
    (layering.project field).or (layering.user field)).getD (field.get {})

/-- A loader finds layers in files and variables. -/
structure Finds (loader : ConfigLoader) (files : FileTree) (environment : Environment)
    (layering : Layering) : Prop where
  user : match loader.userFile with
    | some path => OptionalGives files path layering.user
    | none => layering.user = fun _ => none
  project : OptionalGives files (Path.join loader.projectDir projectFile) layering.project
  machine : OptionalGives files (Path.join loader.projectDir machineFile) layering.machine
  named : match loader.namedFile with
    | some path => FileGives files path layering.named
    | none => layering.named = fun _ => none
  environment : VariablesGive loader.stem environment layering.environment

/-- A configuration if it can drive a run. -/
def checked (config : Config) : Except LoadError Config :=
  match config.validate with
  | .ok () => .ok config
  | .error error => .error (.invalid error)

variable {loader : ConfigLoader} {files : FileTree} {environment : Environment}

/-! ## Files -/

/-- The layers of files make some values of others. -/
def Lays (files : FileTree) (sources : List (ConfigSource × Path)) (lay : Values → Values) : Prop :=
  ∃ layers, sources.mapM (layerOf files) = .ok layers ∧
    ∀ value values, Holds value values → Holds (layers.foldl Value.withLayer value) (lay values)

theorem lays_nil : Lays files [] id := ⟨[], rfl, fun _ _ holds => holds⟩

theorem Lays.append {lower upper : List (ConfigSource × Path)} {first second : Values → Values}
    (below : Lays files lower first) (above : Lays files upper second) :
    Lays files (lower ++ upper) (second ∘ first) := by
  rcases below with ⟨lowerLayers, lowerRead, lowerHolds⟩
  rcases above with ⟨upperLayers, upperRead, upperHolds⟩
  refine ⟨lowerLayers ++ upperLayers, ?_, fun value values holds => ?_⟩
  · rw [List.mapM_append, lowerRead, upperRead]
    rfl
  · rw [List.foldl_append]
    exact upperHolds _ _ (lowerHolds _ _ holds)

theorem lays_file {path : Path} {given : Assignment} (label : ConfigSource)
    (gives : FileGives files path given) : Lays files [(label, path)] given.over := by
  rcases gives with ⟨octets, entries, found, read, assigns⟩
  refine ⟨[Value.entriesOfToml entries], ?_, fun value values holds => holds.withLayer assigns⟩
  simp only [List.mapM_cons, List.mapM_nil, layerOf, found, read]
  rfl

theorem over_none : Assignment.over (fun _ => none) = id := rfl

theorem lays_optional {path : Path} {given : Assignment} (label : ConfigSource)
    (gives : OptionalGives files path given) :
    Lays files ([(label, path)].filter fun source => files.exists? source.2) given.over := by
  rcases gives with ⟨missing, rfl⟩ | ⟨there, gives⟩
  · rw [over_none]
    simpa [missing] using lays_nil
  · simpa [there] using lays_file label gives

theorem lays_sources {layering : Layering} (finds : loader.Finds files environment layering) :
    Lays files (loader.sources files)
      (layering.named.over ∘ (layering.machine.over ∘ layering.project.over) ∘ layering.user.over) := by
  rw [sources, optionalFiles, List.filter_append]
  refine Lays.append (.append ?_ ?_) ?_
  · have gives := finds.user
    split at gives <;> rename_i given
    · simpa only [given] using lays_optional .user gives
    · simpa only [given, gives, over_none, List.filter_nil] using lays_nil
  · rw [← List.singleton_append, List.filter_append]
    exact (lays_optional .project finds.project).append (lays_optional .machine finds.machine)
  · have gives := finds.named
    unfold requiredFiles
    split at gives <;> rename_i given
    · simpa only [given] using lays_file .named gives
    · simpa only [given, gives, over_none] using lays_nil

/-! ## Variables -/

theorem layerGives_of_keys {layer : List (String × Value)} {given : Assignment}
    (each : ∀ entry ∈ layer, ∃ field wanted, entry.1 = Field.key field ∧ given field = some wanted ∧
      field.read? entry.2 = some wanted) :
    ∃ settings : Settings, LayerGives layer settings ∧ settings.Agree given ∧
      settings.map (fun setting => setting.1.key) = layer.map (·.1) := by
  induction layer with
  | nil => exact ⟨[], .nil, by simp [Settings.Agree], rfl⟩
  | cons entry layer ih =>
      rcases entry with ⟨key, value⟩
      rcases each _ List.mem_cons_self with ⟨field, wanted, rfl, same, read⟩
      rcases ih fun entry member => each entry (List.mem_cons_of_mem _ member) with
        ⟨settings, gives, agree, keys⟩
      refine ⟨(field, value) :: settings, .cons (.field field value) gives, ?_, by simp [keys]⟩
      intro setting member
      rcases List.mem_cons.mp member with rfl | later
      · exact ⟨wanted, same, read⟩
      · exact agree setting later

theorem key_injective {field other : Field} (same : field.key = other.key) : field = other := by
  have steps : Layer.KeyPath.ofKey field.key = Layer.KeyPath.ofKey other.key := by rw [same]
  rw [Config.ofKey_field, Config.ofKey_field] at steps
  simp only [List.cons.injEq, Layer.Step.name.injEq, and_true] at steps
  exact Config.Field.eq_of_name (Config.Section.name_injective steps.1) steps.2

theorem assigns_variables {stem : String} {given : Assignment}
    (gives : VariablesGive stem environment given) : Assigns (environment.layer stem) given := by
  have each : ∀ entry ∈ environment.layer stem, ∃ field wanted, entry.1 = Field.key field ∧
      given field = some wanted ∧ field.read? entry.2 = some wanted := by
    intro entry member
    rcases List.mem_filterMap.mp (KeyMap.mem_ofList member) with ⟨⟨name, text⟩, listed, made⟩
    rcases Option.map_eq_some_iff.mp made with ⟨key, keyed, rfl⟩
    exact gives.known listed keyed
  rcases layerGives_of_keys each with ⟨settings, layerGives, agree, keys⟩
  refine ⟨settings, layerGives, agree, fun field assigned => ?_⟩
  rcases gives.all field assigned with ⟨name, text, member, keyed⟩
  have listed : field.key ∈ settings.map fun setting => setting.1.key := by
    rw [keys]
    refine KeyMap.mem_keys_ofList.mpr (List.mem_map.mpr ⟨(field.key, Environment.valueOf text), ?_, rfl⟩)
    exact List.mem_filterMap.mpr ⟨(name, text), member, by simp [keyed]⟩
  rcases List.mem_map.mp listed with ⟨setting, settingMember, sameKey⟩
  exact List.mem_map.mpr ⟨setting, settingMember, key_injective sameKey⟩

/-! ## Documents as files -/

theorem exists_of_octets {path : Path} {octets : List UInt8}
    (stored : files.octets? path = some octets) : files.exists? path = true := by
  unfold FileTree.octets? at stored
  split at stored
  · rename_i found
    rw [FileTree.exists?, found]
    rfl
  · cases stored

theorem read?_stored {entries : List (String × Toml)} {depth : Nat}
    (sound : Toml.IsSound (depth + 1) (.table entries)) (few : depth ≤ Toml.Text.deepest)
    (blank : Nat) :
    Toml.read? (textOf
        (Toml.document entries ++ String.ofList (List.replicate blank '\n')).toUTF8.toList) =
      some (Toml.settleEntries entries) := by
  rw [textOf, Text.ofUtf8_toUTF8, Toml.skipMark_document sound few,
    Toml.read?_document_blank sound few]

/-- A file that holds a document, and maybe blank lines after it, gives what its tables give. -/
theorem fileGives_document {path : Path} {given : Assignment} {entries : List (String × Toml)}
    {depth : Nat} (blank : Nat) (sound : Toml.IsSound (depth + 1) (.table entries))
    (few : depth ≤ Toml.Text.deepest)
    (stored : files.octets? path =
      some (Toml.document entries ++ String.ofList (List.replicate blank '\n')).toUTF8.toList)
    (assigns : Assigns (Value.entriesOfToml (Toml.settleEntries entries)) given) :
    FileGives files path given :=
  ⟨_, Toml.settleEntries entries, by rw [octets?, stored]; rfl, read?_stored sound few blank, assigns⟩

/-! ## The whole -/

theorem values_over (layering : Layering) :
    layering.environment.over ((layering.named.over ∘ (layering.machine.over ∘ layering.project.over) ∘
      layering.user.over) fun field => field.get {}) = layering.values := by
  funext field
  simp only [Assignment.over, Layering.values, Function.comp_apply]
  cases layering.environment field <;> cases layering.named field <;> cases layering.machine field <;>
    cases layering.project field <;> rfl

theorem layers_eq {layering : Layering} (finds : loader.Finds files environment layering) :
    ∃ layers, loader.layers files environment = .ok layers ∧
      Holds (layers.foldl Value.withLayer (.table [])) layering.values := by
  rcases lays_sources finds with ⟨fileLayers, read, holds⟩
  refine ⟨(({} : Config).layer :: fileLayers) ++ [environment.layer loader.stem], ?_, ?_⟩
  · rw [layers, read]
    rfl
  · rw [List.foldl_append, List.foldl_cons, List.foldl_cons, Config.default_withLayer,
      List.foldl_nil, ← values_over]
    exact (holds _ _ Config.holds_default).withLayer (assigns_variables finds.environment)

theorem load_of_layers {layers : List (List (String × Value))}
    (found : loader.layers files environment = .ok layers) :
    loader.load files environment =
      (combine layers).bind fun config => checked (config.resolvePaths loader.projectDir) := by
  rw [load, found]
  rfl

theorem load_eq {layering : Layering} (finds : loader.Finds files environment layering) :
    loader.load files environment =
      checked ((Config.ofValues layering.values).resolvePaths loader.projectDir) := by
  rcases layers_eq finds with ⟨layers, found, holds⟩
  rw [load_of_layers found, combine, Config.ofValue?_of_holds holds]
  rfl

theorem of_checked {merged config : Config} (passes : checked merged = .ok config) :
    merged = config ∧ config.validate = .ok () := by
  unfold checked at passes
  split at passes
  · rename_i valid
    rw [← Except.ok.inj passes]
    exact ⟨rfl, valid⟩
  · cases passes

theorem merged_of_load {config : Config} (loads : loader.load files environment = .ok config) :
    ∃ value merged, Config.ofValue? value = some merged ∧
      merged.resolvePaths loader.projectDir = config ∧ config.validate = .ok () := by
  cases found : loader.layers files environment with
  | error error => simp [load, found, bind, Except.bind] at loads
  | ok layers =>
      rw [load_of_layers found, combine] at loads
      cases made : Config.ofValue? (layers.foldl Value.withLayer (.table [])) with
      | none => simp [made, Except.bind] at loads
      | some merged =>
          rw [made] at loads
          exact ⟨_, merged, made, of_checked loads⟩

theorem validate_of_load {config : Config} (loads : loader.load files environment = .ok config) :
    config.validate = .ok () := by
  rcases merged_of_load loads with ⟨_, _, _, _, valid⟩
  exact valid

theorem layerOf_error {source : ConfigSource × Path} {error : LoadError}
    (fails : layerOf files source = .error error) : error = .build := by
  unfold layerOf at fails
  split at fails
  · split at fails <;> cases fails
    rfl
  · split at fails <;> cases fails
    rfl

theorem mapM_layerOf_error {sources : List (ConfigSource × Path)} {error : LoadError}
    (fails : sources.mapM (layerOf files) = .error error) : error = .build := by
  induction sources with
  | nil => cases fails
  | cons source sources ih =>
      rw [List.mapM_cons] at fails
      cases first : layerOf files source with
      | error other =>
          rw [first] at fails
          cases fails
          exact layerOf_error first
      | ok layer =>
          cases others : sources.mapM (layerOf files) with
          | error other =>
              rw [first, others] at fails
              cases fails
              exact ih others
          | ok layers =>
              rw [first, others] at fails
              cases fails

theorem build_of_missing {path : Path} (named : loader.namedFile = some path)
    (missing : octets? files path = none) : loader.load files environment = .error .build := by
  have absent : (loader.requiredFiles).mapM (layerOf files) = .error .build := by
    simp only [requiredFiles, named, List.mapM_cons, List.mapM_nil, layerOf, missing, if_true]
    rfl
  have fails : (loader.sources files).mapM (layerOf files) = .error .build := by
    rw [sources, List.mapM_append, absent]
    cases optional : (loader.optionalFiles.filter fun source => files.exists? source.2).mapM
        (layerOf files) with
    | error error => rw [mapM_layerOf_error optional]; rfl
    | ok layers => rfl
  rw [load, layers, fails]
  rfl

/-- A loader gives what its layers make, and only a configuration that can drive a run; it fails if
nothing is found under the name of its named file. -/
theorem load_contract (loader : ConfigLoader) (files : FileTree) (environment : Environment) :
    (∀ layering, loader.Finds files environment layering →
      loader.load files environment =
        checked ((Config.ofValues layering.values).resolvePaths loader.projectDir)) ∧
    (∀ config, loader.load files environment = .ok config → config.validate = .ok ()) ∧
    ∀ path, loader.namedFile = some path → octets? files path = none →
      loader.load files environment = .error .build :=
  ⟨fun _ => load_eq, fun _ => validate_of_load, fun _ => build_of_missing⟩

/-- A project with a file of its own and one for its tests. -/
def testedProject (own tests : List (String × Toml)) : FileTree where
  root := .directory [("p", .directory
    [("decom.toml", .regular (Toml.document own).toUTF8.toList false),
      ("ci.toml", .regular (Toml.document tests).toUTF8.toList false)])]
  workingDir := "/"

theorem stored_own (own tests : List (String × Toml)) :
    (testedProject own tests).octets? "/p/decom.toml" = some (Toml.document own).toUTF8.toList := by
  rw [FileTree.octets?, FileTree.find?_absolute _ (by decide) (by decide)]
  rfl

theorem stored_tests (own tests : List (String × Toml)) :
    (testedProject own tests).octets? "/p/ci.toml" = some (Toml.document tests).toUTF8.toList := by
  rw [FileTree.octets?, FileTree.find?_absolute _ (by decide) (by decide)]
  rfl

/-- The file of the project leaves no ports and names a table, the file for its tests leaves some
ports, and a variable is set. -/
def testedLayering : Layering where
  user := fun _ => none
  project
    | .portStart => some (45000 : Nat)
    | .table => some "t2"
    | _ => none
  machine := fun _ => none
  named
    | .portStart => some (43000 : Nat)
    | _ => none
  environment
    | .concurrency => some (7 : Nat)
    | _ => none

def ownEntries : List (String × Toml) :=
  [("cluster", .table [("port_range_start", .int 45000)]),
    ("workload", .table [("table", .string "t2")])]

def testsEntries : List (String × Toml) := [("cluster", .table [("port_range_start", .int 43000)])]

def testedLoader : ConfigLoader := { projectDir := "/p", namedFile := some "/p/ci.toml" }

def testedVariables : Environment :=
  [("HOME", "/"), ("DECOM_WORKLOAD__CONCURRENCY_PER_KIND", "7")]

theorem isSound_ports {port : Int} (least : Toml.leastInt ≤ port) (greatest : port ≤ Toml.greatestInt) :
    Toml.IsSound 1 (.table [("port_range_start", .int port)]) := by
  refine .table (by simp) ?_
  simp only [List.mem_singleton, forall_eq]
  exact .inline (.scalar (.int least greatest))

theorem gives_own : FileGives (testedProject ownEntries testsEntries) "/p/decom.toml"
    testedLayering.project := by
  have sound : Toml.IsSound 2 (.table ownEntries) := by
    refine .table (by simp [ownEntries]) ?_
    simp only [ownEntries, List.mem_cons, List.not_mem_nil, or_false]
    rintro entry (rfl | rfl)
    · exact isSound_ports (by decide) (by decide)
    · refine .table (by simp) ?_
      simp only [List.mem_singleton, forall_eq]
      exact .inline (.scalar (.string _))
  refine fileGives_document 0 sound (by decide) (by simpa using stored_own _ _) ?_
  refine ⟨[(.portStart, .int 45000), (.table, .text "t2")], ?_, ?_, ?_⟩
  · have ports := @Config.EntryGives.table .cluster [(.portStart, .int 45000)] (by simp; rfl)
    have workload := @Config.EntryGives.table .workload [(.table, .text "t2")] (by simp; rfl)
    exact .cons ports (.cons workload .nil)
  · simp only [Settings.Agree, List.mem_cons, List.not_mem_nil, or_false]
    rintro setting (rfl | rfl)
    · exact ⟨_, rfl, rfl⟩
    · exact ⟨_, rfl, rfl⟩
  · intro field
    cases field <;> simp [testedLayering]

theorem gives_tests : FileGives (testedProject ownEntries testsEntries) "/p/ci.toml"
    testedLayering.named := by
  have sound : Toml.IsSound 2 (.table testsEntries) := by
    refine .table (by simp [testsEntries]) ?_
    simp only [testsEntries, List.mem_singleton, forall_eq]
    exact isSound_ports (by decide) (by decide)
  refine fileGives_document 0 sound (by decide) (by simpa using stored_tests _ _) ?_
  refine ⟨[(.portStart, .int 43000)], ?_, ?_, ?_⟩
  · exact .cons (@Config.EntryGives.table .cluster [(.portStart, .int 43000)] (by simp; rfl)) .nil
  · simp only [Settings.Agree, List.mem_singleton, forall_eq]
    exact ⟨_, rfl, rfl⟩
  · intro field
    cases field <;> simp [testedLayering]

theorem finds_tested :
    testedLoader.Finds (testedProject ownEntries testsEntries) testedVariables testedLayering where
  user := rfl
  project := .inr ⟨exists_of_octets (stored_own _ _), gives_own⟩
  machine := .inl ⟨(FileTree.exists?_eq _ (by decide)).trans rfl, rfl⟩
  named := gives_tests
  environment :=
    { known := by
        intro name text key member keyed
        simp only [testedVariables, List.mem_cons, Prod.mk.injEq, List.not_mem_nil, or_false] at member
        rcases member with ⟨rfl, rfl⟩ | ⟨rfl, rfl⟩
        · have other : Environment.keyOf? testedLoader.stem "HOME" = none := rfl
          rw [other] at keyed
          cases keyed
        · exact ⟨.concurrency, (7 : Nat), (Option.some.inj keyed).symm, rfl, rfl⟩
      all := by
        intro field assigned
        cases field <;> try cases assigned
        exact ⟨"DECOM_WORKLOAD__CONCURRENCY_PER_KIND", "7", by simp [testedVariables], rfl⟩ }

/-- The ports that are none do no harm in the file of the project. -/
theorem load_contract_of_tested :
    testedLoader.load (testedProject ownEntries testsEntries) testedVariables =
      .ok { cluster := { portStart := 43000, runDir := "/p/.decom/runs" }
            workload := { concurrencyPerKind := 7, table := "t2" } } :=
  ((load_contract testedLoader (testedProject ownEntries testsEntries) testedVariables).1 _
    finds_tested).trans rfl

/-- An empty file with an ending. -/
def endedFile : FileTree := { root := .directory [("ci.toml", .regular [] false)], workingDir := "/" }

theorem octets_ended : octets? endedFile "/ci" = some [] := by
  have other : withEnding "/ci" = "/ci.toml" := by decide
  have missing : endedFile.octets? "/ci" = none := by
    rw [FileTree.octets?, FileTree.find?_absolute _ (by decide) (by decide)]
    rfl
  have there : endedFile.octets? "/ci.toml" = some [] := by
    rw [FileTree.octets?, FileTree.find?_absolute _ (by decide) (by decide)]
    rfl
  rw [octets?, missing, other, there]
  rfl

theorem finds_ended :
    Finds { projectDir := "/", namedFile := some "/ci" } endedFile []
      ⟨fun _ => none, fun _ => none, fun _ => none, fun _ => none, fun _ => none⟩ where
  user := rfl
  project := .inl ⟨(FileTree.exists?_eq _ (by decide)).trans rfl, rfl⟩
  machine := .inl ⟨(FileTree.exists?_eq _ (by decide)).trans rfl, rfl⟩
  named := ⟨[], [], octets_ended, rfl, [], .nil, by simp [Settings.Agree], by simp⟩
  environment := { known := by simp, all := by simp }

/-- No file has the name that is given, but one has it with an ending, and is loaded. -/
theorem load_of_other_ending :
    endedFile.exists? "/ci" = false ∧
      load { projectDir := "/", namedFile := some "/ci" } endedFile [] =
        .ok { cluster := { runDir := "/.decom/runs" } } := by
  refine ⟨?_, (load_eq finds_ended).trans rfl⟩
  rw [FileTree.exists?, FileTree.find?_absolute _ (by decide) (by decide)]
  rfl

end ConfigLoader

end GracefulStop
