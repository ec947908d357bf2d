import GracefulStop.Command.Show
import GracefulStop.Proofs.Config.Paths

/-!
# Loading a configuration that was printed

The text of a loaded configuration gives a value to each of its fields, unless the field has none and
is left out. So it loads as this configuration if the fields that are left out have no value in the
built-in configuration either. That is so for the installation of the database, and is not for the time
that the members of a cluster are awaited.
-/

namespace GracefulStop

open Layer (Value)

namespace Config

open Toml (IsScalar IsInline IsSound greatestInt leastInt)

/-! ## Fields as they are printed -/

/-- The fields of a section, in the order in which they are printed. -/
def Section.fields : Section → List Field
  | cluster => [.home, .host, .portStart, .portStop, .runDir] ++ [.nodeSettings]
  | retry => [.initialBackoff, .multiplier, .retryDeadline]
  | startup => [.maxAttempts, .startTimeout]
  | quorum => [.quorumPoll, .quorumTimeout]
  | decommission => [.leaveTimeout, .signal]
  | verify => [.verifyPoll, .verifyDeadline]
  | workload => [.concurrency, .table]

/-- The sections, in the order in which they are printed. -/
def Section.all : List Section :=
  [.cluster, .retry, .startup, .quorum, .decommission, .verify, .workload]

/-- The value with which a field is printed, unless it is left out. -/
def Field.toml? (config : Config) : Field → Option Toml
  | .home => config.cluster.home.map .string
  | .host => some (.string config.cluster.host)
  | .portStart => some (.int config.cluster.portStart)
  | .portStop => some (.int config.cluster.portStop)
  | .runDir => some (.string config.cluster.runDir)
  | .nodeSettings => some (.array (config.cluster.nodeSettings.map settingTable))
  | .initialBackoff => some (.int config.retry.initialBackoffMillis)
  | .multiplier => some (.float config.retry.multiplier)
  | .retryDeadline => some (.int config.retry.deadlineMillis)
  | .maxAttempts => some (.int config.startup.maxAttempts)
  | .startTimeout => some (.int config.startup.startTimeoutSeconds)
  | .quorumPoll => some (.int config.quorum.pollIntervalMillis)
  | .quorumTimeout => config.quorum.timeoutSeconds.map fun (seconds : Nat) => .int seconds
  | .leaveTimeout => some (.int config.decommission.timeoutSeconds)
  | .signal => some (.string config.decommission.signal)
  | .verifyPoll => some (.int config.verify.pollIntervalMillis)
  | .verifyDeadline => some (.int config.verify.deadlineSeconds)
  | .concurrency => some (.int config.workload.concurrencyPerKind)
  | .table => some (.string config.workload.table)

/-- The entries of fields that are not left out. -/
def fieldEntries (config : Config) (fields : List Field) : List (String × Toml) :=
  fields.filterMap fun field => (field.toml? config).map fun value => (field.name, value)

/-- Numbers of a width that their fields read. -/
structure IsNarrow (config : Config) : Prop where
  portStart : config.cluster.portStart ≤ greatest16
  portStop : config.cluster.portStop ≤ greatest16
  maxAttempts : config.startup.maxAttempts ≤ greatest32

/-- What the text of a configuration can hold: numbers that are not too great for it, and a factor that
its digits give back. -/
structure IsPrintable (config : Config) : Prop extends IsNarrow config where
  wide : ∀ number ∈ config.wideNumbers, (number : Int) ≤ greatestInt
  factor : Toml.ofWord? (Decimal.Style.toml.write config.retry.multiplier).toList =
    some (.float config.retry.multiplier)

variable {config : Config} {field : Field} {value : Toml}

theorem tomlEntries_eq :
    config.tomlEntries =
      Section.all.map fun part => (part.name, .table (config.fieldEntries part.fields)) := by
  rcases config with ⟨⟨home, _, _, _, _, _⟩, _, _, ⟨_, timeout⟩, _, _, _⟩
  cases home <;> cases timeout <;> rfl

theorem mem_fields (field : Field) : field ∈ field.place.fields := by
  cases field <;> decide

theorem place_of_mem {part : Section} (member : field ∈ part.fields) : field.place = part := by
  cases part <;> cases field <;> revert member <;> decide

theorem nodup_names (part : Section) : (part.fields.map Field.name).Nodup := by
  cases part <;> decide

theorem mem_all (part : Section) : part ∈ Section.all := by
  cases part <;> decide

theorem mem_fieldEntries {fields : List Field} {entry : String × Toml} :
    entry ∈ config.fieldEntries fields ↔
      ∃ field ∈ fields, ∃ value, field.toml? config = some value ∧ entry = (field.name, value) := by
  simp only [fieldEntries, List.mem_filterMap, Option.map_eq_some_iff, @eq_comm _ entry]

/-! ## Each field is read as it is -/

theorem isScalar_nat {number : Nat} (bounded : (number : Int) ≤ greatestInt) :
    IsScalar (.int number) := .int (by simp only [leastInt]; omega) bounded

theorem nat?_natCast (number : Nat) : Value.nat? (.int number) = some number := by
  simp [Value.nat?]

theorem natUpTo?_int {number greatest : Nat} (bounded : number ≤ greatest) :
    Value.natUpTo? greatest (.int number) = some number := by
  simp [Value.natUpTo?, nat?_natCast, bounded]

theorem itemsOfToml_eq_map (items : List Toml) : Value.itemsOfToml items = items.map .ofToml := by
  induction items with
  | nil => rfl
  | cons item items ih => rw [Value.itemsOfToml, List.map_cons, ih]

theorem entriesOfToml_eq_map (entries : List (String × Toml)) :
    Value.entriesOfToml entries = entries.map fun entry => (entry.1, .ofToml entry.2) := by
  induction entries with
  | nil => rfl
  | cons entry entries ih => rw [Value.entriesOfToml, List.map_cons, ih]

theorem read?_settings (settings : List NodeSetting) :
    Value.list? NodeSetting.ofValue? (.ofToml (.array (settings.map settingTable))) =
      some settings := by
  rw [Value.ofToml, itemsOfToml_eq_map, List.map_map, Value.list?]
  exact Toml.mapM_map fun setting _ => rfl

/-- What is printed of a field is read as the value of the field. -/
theorem read?_printed (printable : config.IsPrintable) (printed : field.toml? config = some value) :
    field.read? (.ofToml value) = some (field.get config) := by
  cases field <;> simp only [Field.toml?, Option.some.injEq, Option.map_eq_some_iff] at printed
  case home =>
    rcases printed with ⟨home, same, rfl⟩
    change some (some home) = some config.cluster.home
    rw [same]
  case quorumTimeout =>
    rcases printed with ⟨seconds, same, rfl⟩
    change (Value.nat? (.int seconds)).map some = some config.quorum.timeoutSeconds
    rw [nat?_natCast, same, Option.map_some]
  all_goals subst printed
  case nodeSettings => exact read?_settings _
  case portStart => exact natUpTo?_int printable.portStart
  case portStop => exact natUpTo?_int printable.portStop
  case maxAttempts => exact natUpTo?_int printable.maxAttempts
  all_goals rfl

/-! ## The text is read back -/

theorem isPlain_of_toml? (printed : field.toml? config = some value) (other : field ≠ .nodeSettings) :
    Toml.isPlain value = true := by
  cases field <;> simp only [Field.toml?, Option.some.injEq, Option.map_eq_some_iff] at printed
  case home => rcases printed with ⟨_, _, rfl⟩; rfl
  case quorumTimeout => rcases printed with ⟨_, _, rfl⟩; rfl
  case nodeSettings => exact absurd rfl other
  all_goals subst printed; rfl

theorem isInline_setting (setting : NodeSetting) :
    ∀ entry ∈ [("key", Toml.string setting.key), ("value", Toml.string setting.value)],
      IsInline entry.2 := by
  simp only [List.mem_cons, List.not_mem_nil, or_false]
  rintro entry (rfl | rfl)
  · exact .scalar (.string setting.key)
  · exact .scalar (.string setting.value)

theorem sound_settings (settings : List NodeSetting) :
    IsSound 1 (.array (settings.map settingTable)) := by
  by_cases empty : settings = []
  · rw [empty]
    exact .inline (.array (by simp))
  · refine .tables (by simpa using empty) ?_ ?_ <;> simp only [List.mem_map]
    · rintro _ ⟨setting, _, rfl⟩
      rfl
    · rintro _ ⟨setting, _, rfl⟩
      exact .table (by simp) fun entry member => .inline (isInline_setting setting entry member)

theorem settle_settings (settings : List NodeSetting) :
    Toml.settle (.array (settings.map settingTable)) = .array (settings.map settingTable) := by
  have each (setting : NodeSetting) : Toml.settle (settingTable setting) = settingTable setting := by
    rw [settingTable, Toml.settle_table, Toml.settleEntries_plain fun entry member =>
      Toml.isPlain_of_inline (isInline_setting setting entry member)]
  rw [Toml.settle, Toml.settleItems_eq_map, List.map_map]
  simp [Function.comp_def, each]

theorem sound_printed (printable : config.IsPrintable) (printed : field.toml? config = some value) :
    IsSound 1 value := by
  have wide := printable.wide
  simp only [wideNumbers, List.forall_mem_cons] at wide
  rcases wide with ⟨initial, deadline, start, poll, timeout, leave, look, limit, workers, _⟩
  have narrow {number : Nat} (bounded : number ≤ greatest32) : (number : Int) ≤ greatestInt := by
    simp only [greatest32, greatestInt] at *
    omega
  have port {number : Nat} (bounded : number ≤ greatest16) : (number : Int) ≤ greatestInt :=
    narrow (bounded.trans (by decide))
  have portStart := port printable.portStart
  have portStop := port printable.portStop
  have attempts := narrow printable.maxAttempts
  cases field <;> simp only [Field.toml?, Option.some.injEq, Option.map_eq_some_iff] at printed
  case home =>
    rcases printed with ⟨home, _, rfl⟩
    exact .inline (.scalar (.string home))
  case quorumTimeout =>
    rcases printed with ⟨seconds, same, rfl⟩
    rw [same] at timeout
    exact .inline (.scalar (isScalar_nat timeout))
  all_goals subst printed
  case nodeSettings => exact sound_settings _
  case multiplier => exact .inline (.scalar (.float printable.factor))
  case host | runDir | signal | table => exact .inline (.scalar (.string _))
  all_goals exact .inline (.scalar (isScalar_nat (by assumption)))

theorem names_fieldEntries (fields : List Field) :
    ((config.fieldEntries fields).map (·.1)).Sublist (fields.map Field.name) := by
  induction fields with
  | nil => exact .slnil
  | cons field fields ih =>
      rw [fieldEntries, List.filterMap_cons]
      cases field.toml? config with
      | none => exact ih.cons _
      | some value => exact ih.cons_cons _

theorem sound_section (printable : config.IsPrintable) (part : Section) :
    IsSound 2 (.table (config.fieldEntries part.fields)) := by
  refine .table ?_ fun entry member => ?_
  · exact (nodup_names part).sublist (names_fieldEntries part.fields)
  · rcases mem_fieldEntries.mp member with ⟨field, _, value, printed, rfl⟩
    exact sound_printed printable printed

theorem sound_tomlEntries (printable : config.IsPrintable) : IsSound 3 (.table config.tomlEntries) := by
  rw [tomlEntries_eq]
  refine .table (by simp [Section.all, Section.name]) fun entry member => ?_
  rcases List.mem_map.mp member with ⟨part, _, rfl⟩
  exact sound_section printable part

theorem settle_section (part : Section) :
    Toml.settleEntries (config.fieldEntries part.fields) = config.fieldEntries part.fields := by
  have plain {fields : List Field} (others : Field.nodeSettings ∉ fields) :
      ∀ entry ∈ config.fieldEntries fields, Toml.isPlain entry.2 = true := by
    intro entry member
    rcases mem_fieldEntries.mp member with ⟨field, listed, value, printed, rfl⟩
    exact isPlain_of_toml? printed (by rintro rfl; exact others listed)
  cases part
  case cluster =>
    -- the launch settings, which may be printed as tables, are printed after the other fields
    have split : config.fieldEntries Section.cluster.fields =
        config.fieldEntries [.home, .host, .portStart, .portStop, .runDir] ++
          [(Field.nodeSettings.name, .array (config.cluster.nodeSettings.map settingTable))] := by
      rw [Section.fields, fieldEntries, List.filterMap_append]
      rfl
    rw [split, Toml.settleEntries_append (plain (by decide)),
      Toml.settleEntries_singleton (settle_settings _)]
  all_goals exact Toml.settleEntries_plain (plain (by decide))

theorem settle_tomlEntries : Toml.settleEntries config.tomlEntries = config.tomlEntries := by
  rw [tomlEntries_eq, Toml.settleEntries_tables]
  · simp [Toml.settle_table, settle_section]
  · intro entry member
    rcases List.mem_map.mp member with ⟨part, _, rfl⟩
    rfl

/-! ## The layer of the text -/

/-- What the text of a configuration gives: the fields that are not left out, as they are. -/
def printed (config : Config) : Assignment :=
  fun field => (field.toml? config).map fun _ => field.get config

/-- The values of fields in the layer of the text. -/
def printedSettings (config : Config) (fields : List Field) : Settings :=
  fields.filterMap fun field => (field.toml? config).map fun value => (field, .ofToml value)

theorem mem_printedSettings {fields : List Field} {setting : Field × Value} :
    setting ∈ config.printedSettings fields ↔
      ∃ field ∈ fields, ∃ value, field.toml? config = some value ∧
        setting = (field, .ofToml value) := by
  simp only [printedSettings, List.mem_filterMap, Option.map_eq_some_iff, @eq_comm _ setting]

theorem gives_section (part : Section) :
    EntryGives (part.name, .ofToml (.table (config.fieldEntries part.fields)))
      (config.printedSettings part.fields) := by
  have same : Value.entriesOfToml (config.fieldEntries part.fields) =
      (config.printedSettings part.fields).map fun setting => (setting.1.name, setting.2) := by
    rw [entriesOfToml_eq_map, fieldEntries, printedSettings, List.map_filterMap, List.map_filterMap]
    simp only [Option.map_map]
    rfl
  rw [Value.ofToml, same]
  refine .table fun setting member => ?_
  rcases mem_printedSettings.mp member with ⟨field, listed, value, _, rfl⟩
  exact place_of_mem listed

theorem gives_sections (parts : List Section) :
    LayerGives
      (Value.entriesOfToml (parts.map fun part => (part.name, .table (config.fieldEntries part.fields))))
      (parts.flatMap fun part => config.printedSettings part.fields) := by
  induction parts with
  | nil => exact .nil
  | cons part parts ih => exact .cons (gives_section part) ih

theorem assigns_printed (printable : config.IsPrintable) :
    Assigns (Value.entriesOfToml config.tomlEntries) config.printed := by
  refine ⟨_, tomlEntries_eq ▸ gives_sections Section.all, ?_, ?_⟩
  · intro setting member
    rcases List.mem_flatMap.mp member with ⟨part, _, listed⟩
    rcases mem_printedSettings.mp listed with ⟨field, _, value, printed, rfl⟩
    exact ⟨_, by rw [Config.printed, printed, Option.map_some], read?_printed printable printed⟩
  · intro field assigned
    rcases Option.isSome_iff_exists.mp assigned with ⟨_, given⟩
    rcases Option.map_eq_some_iff.mp given with ⟨value, printed, _⟩
    refine List.mem_map.mpr ⟨(field, .ofToml value), ?_, rfl⟩
    refine List.mem_flatMap.mpr ⟨field.place, mem_all _, ?_⟩
    exact mem_printedSettings.mpr ⟨field, mem_fields field, value, printed, rfl⟩

/-- A configuration in which the members of a cluster are awaited for the built-in time if they were to
be awaited for ever. -/
def bounded (config : Config) : Config :=
  { config with
    quorum := { config.quorum with timeoutSeconds := config.quorum.timeoutSeconds.or (some 120) } }

theorem bounded_of_timed (timed : config.quorum.timeoutSeconds ≠ none) : config.bounded = config := by
  rcases config with ⟨_, _, _, ⟨_, timeout⟩, _, _, _⟩
  cases timeout with
  | none => exact absurd rfl timed
  | some seconds => rfl

/-- A field that is left out has its built-in value in the end. -/
theorem ofValues_printed :
    (ofValues fun field => (config.printed field).getD (field.get {})) = config.bounded := by
  rcases config with ⟨⟨home, _, _, _, _, _⟩, _, _, ⟨_, timeout⟩, _, _, _⟩
  cases home <;> cases timeout <;> rfl

/-! ## What is loaded can be printed -/

theorem of_orElse {Wanted : Type} {fallback : Wanted} {read : Value → Option Wanted}
    {value : Option Value} {wanted : Wanted} (holds : Wanted → Prop) (default : holds fallback)
    (each : ∀ {value wanted}, read value = some wanted → holds wanted)
    (given : Value.orElse fallback read value = some wanted) : holds wanted := by
  cases value with
  | none => exact Option.some.inj given ▸ default
  | some value => exact each given

theorem natUpTo?_le {greatest number : Nat} {value : Value}
    (read : value.natUpTo? greatest = some number) : number ≤ greatest := by
  simp only [Value.natUpTo?, Option.bind_eq_bind, Option.bind_eq_some_iff] at read
  rcases read with ⟨found, _, checked⟩
  split at checked
  · rename_i within
    exact Option.some.inj checked ▸ within
  · cases checked

theorem ports_of_ofValue? {value : Value} {settings : ClusterSettings}
    (read : ClusterSettings.ofValue? value = some settings) :
    settings.portStart ≤ greatest16 ∧ settings.portStop ≤ greatest16 := by
  simp only [ClusterSettings.ofValue?, Option.bind_eq_bind, Option.bind_eq_some_iff] at read
  rcases read with ⟨fields, _, read⟩
  split at read
  · simp only [Option.bind_eq_some_iff, Option.some.injEq] at read
    rcases read with ⟨_, _, _, _, start, startRead, stop, stopRead, _, _, _, _, rfl⟩
    exact ⟨of_orElse (· ≤ greatest16) (by decide) natUpTo?_le startRead,
      of_orElse (· ≤ greatest16) (by decide) natUpTo?_le stopRead⟩
  · cases read

theorem attempts_of_ofValue? {value : Value} {settings : StartupSettings}
    (read : StartupSettings.ofValue? value = some settings) : settings.maxAttempts ≤ greatest32 := by
  simp only [StartupSettings.ofValue?, Option.bind_eq_bind, Option.bind_eq_some_iff] at read
  rcases read with ⟨fields, _, read⟩
  split at read
  · simp only [Option.bind_eq_some_iff, Option.some.injEq] at read
    rcases read with ⟨_, attemptsRead, _, _, rfl⟩
    exact of_orElse (· ≤ greatest32) (by decide) natUpTo?_le attemptsRead
  · cases read

theorem narrow_of_ofValue? {value : Value} (read : Config.ofValue? value = some config) :
    config.IsNarrow := by
  simp only [Config.ofValue?, Option.bind_eq_bind, Option.bind_eq_some_iff] at read
  rcases read with ⟨fields, _, read⟩
  split at read
  · simp only [Option.bind_eq_some_iff, Option.some.injEq] at read
    rcases read with ⟨cluster, clusterRead, _, _, startup, startupRead, _, _, _, _, _, _, _, _, rfl⟩
    have ports := of_orElse (fun settings : ClusterSettings => settings.portStart ≤ greatest16 ∧
      settings.portStop ≤ greatest16) (by decide) ports_of_ofValue? clusterRead
    have attempts := of_orElse (fun settings : StartupSettings => settings.maxAttempts ≤ greatest32)
      (by decide) attempts_of_ofValue? startupRead
    exact ⟨ports.1, ports.2, attempts⟩
  · cases read

theorem IsNarrow.resolvePaths (narrow : config.IsNarrow) (base : Path) :
    (config.resolvePaths base).IsNarrow := ⟨narrow.portStart, narrow.portStop, narrow.maxAttempts⟩

theorem IsNarrow.isPrintable {text : String} (narrow : config.IsNarrow)
    (printed : config.tomlText? = some text)
    (factor : Toml.ofWord? (Decimal.Style.toml.write config.retry.multiplier).toList =
      some (.float config.retry.multiplier)) :
    config.IsPrintable ∧ text = Toml.document config.tomlEntries := by
  unfold tomlText? at printed
  split at printed
  · rename_i wide
    exact ⟨⟨narrow, by simpa using wide, factor⟩, (Option.some.inj printed).symm⟩
  · cases printed

end Config

namespace ConfigLoader

open Config (Assignment)

variable {loader other : ConfigLoader} {files store : FileTree} {environment fresh : Environment}
  {config : Config} {text : String}

/-- A loader finds one layer only, a text in the file of the project. -/
structure FindsOnly (loader : ConfigLoader) (files : FileTree) (environment : Environment)
    (text : String) : Prop where
  stored : files.octets? (Path.join loader.projectDir projectFile) = some text.toUTF8.toList
  user : ∀ path, loader.userFile = some path → files.exists? path = false
  machine : files.exists? (Path.join loader.projectDir machineFile) = false
  named : loader.namedFile = none
  environment : ∀ setting ∈ environment, Environment.keyOf? loader.stem setting.1 = none

/-- The layers of a loader that finds the text of a configuration only. -/
def printedLayering (config : Config) : Layering where
  user := fun _ => none
  project := config.printed
  machine := fun _ => none
  named := fun _ => none
  environment := fun _ => none

/-- What the one file gives is all that is found. -/
theorem FindsOnly.finds {given : Assignment} (only : other.FindsOnly store fresh text)
    (gives : FileGives store (Path.join other.projectDir projectFile) given) :
    other.Finds store fresh
      ⟨fun _ => none, given, fun _ => none, fun _ => none, fun _ => none⟩ where
  user := by
    split
    · rename_i path found
      exact .inl ⟨only.user path found, rfl⟩
    · rfl
  project := .inr ⟨exists_of_octets only.stored, gives⟩
  machine := .inl ⟨only.machine, rfl⟩
  named := by rw [only.named]
  environment :=
    { known := by
        intro name text key member keyed
        rw [only.environment _ member] at keyed
        cases keyed
      all := by
        intro field assigned
        cases assigned }

theorem finds_printed (printable : config.IsPrintable)
    (only : other.FindsOnly store fresh (Toml.document config.tomlEntries ++ "\n")) :
    other.Finds store fresh (printedLayering config) := by
  refine only.finds (fileGives_document 1 (Config.sound_tomlEntries printable) (by decide)
    only.stored ?_)
  rw [Config.settle_tomlEntries]
  exact Config.assigns_printed printable

/-- A loaded configuration is loaded from its text, but for the time that the members of a cluster are
awaited. -/
theorem load_of_text (loads : loader.load files environment = .ok config)
    (absolute : loader.projectDir.isAbsolute = true) (printed : config.tomlText? = some text)
    (factor : Toml.ofWord? (Decimal.Style.toml.write config.retry.multiplier).toList =
      some (.float config.retry.multiplier))
    (only : other.FindsOnly store fresh (text ++ "\n")) :
    other.load store fresh = .ok config.bounded := by
  rcases merged_of_load loads with ⟨value, merged, read, resolved, valid⟩
  have narrow : config.IsNarrow := resolved ▸ (Config.narrow_of_ofValue? read).resolvePaths _
  have same : config.resolvePaths other.projectDir = config := by
    rw [← resolved, Config.resolvePaths_again absolute]
  rcases narrow.isPrintable printed factor with ⟨printable, rfl⟩
  have values : (printedLayering config).values =
      fun field => (config.printed field).getD (field.get {}) := by
    funext field
    simp [Layering.values, printedLayering]
  have again : config.bounded.resolvePaths other.projectDir = config.bounded :=
    congrArg Config.bounded same
  have validAgain : config.bounded.validate = .ok () := valid
  rw [load_eq (finds_printed printable only), values, Config.ofValues_printed, again, checked,
    validAgain]

/-- What the command shows is the text of the configuration, with the end of a line. -/
theorem config_writes {context : CommandContext} {project : Path}
    (loads : (context.loader project none).load context.files context.environment = .ok config)
    (printed : config.tomlText? = some text) :
    (Command.config context project "toml").written.out = text ++ "\n" := by
  simp [Command.config, loads, printed]

/-- A loaded configuration is loaded from what is shown of it: as it is if it sets the time for which the
members of a cluster are awaited, and else with the built-in time. -/
theorem load_of_shown (loads : loader.load files environment = .ok config)
    (absolute : loader.projectDir.isAbsolute = true) (printed : config.tomlText? = some text)
    (factor : Toml.ofWord? (Decimal.Style.toml.write config.retry.multiplier).toList =
      some (.float config.retry.multiplier))
    (only : other.FindsOnly store fresh (text ++ "\n")) :
    (∀ context project, context.files = files → context.environment = environment →
      context.loader project none = loader →
        (Command.config context project "toml").written.out = text ++ "\n") ∧
    (config.quorum.timeoutSeconds ≠ none → other.load store fresh = .ok config) ∧
    (config.quorum.timeoutSeconds = none → other.load store fresh =
      .ok { config with quorum := { config.quorum with timeoutSeconds := some 120 } }) := by
  have again := load_of_text loads absolute printed factor only
  refine ⟨?_, fun timed => ?_, fun untimed => ?_⟩
  · rintro context project rfl rfl rfl
    exact config_writes loads printed
  · rw [again, Config.bounded_of_timed timed]
  · rw [again, Config.bounded, untimed]
    rfl

/-! ### Two projects -/

/-- Two projects, each with a file of its own. -/
def twoProjects (first second : String) : FileTree where
  root := .directory
    [("p", .directory [("decom.toml", .regular first.toUTF8.toList false)]),
      ("q", .directory [("decom.toml", .regular second.toUTF8.toList false)])]
  workingDir := "/"

theorem findsOnly_first (first second : String) :
    FindsOnly { projectDir := "/p" } (twoProjects first second) [] first where
  stored := by
    have place : Path.join "/p" projectFile = "/p/decom.toml" := by decide
    rw [place, FileTree.octets?, FileTree.find?_absolute _ (by decide) (by decide)]
    rfl
  user := by simp
  machine := by
    have place : Path.join "/p" machineFile = "/p/decom.local.toml" := by decide
    rw [place, FileTree.exists?, FileTree.find?_absolute _ (by decide) (by decide)]
    rfl
  named := rfl
  environment := by simp

theorem findsOnly_second (first second : String) :
    FindsOnly { projectDir := "/q" } (twoProjects first second) [] second where
  stored := by
    have place : Path.join "/q" projectFile = "/q/decom.toml" := by decide
    rw [place, FileTree.octets?, FileTree.find?_absolute _ (by decide) (by decide)]
    rfl
  user := by simp
  machine := by
    have place : Path.join "/q" machineFile = "/q/decom.local.toml" := by decide
    rw [place, FileTree.exists?, FileTree.find?_absolute _ (by decide) (by decide)]
    rfl
  named := rfl
  environment := by simp

theorem factor_default :
    Toml.ofWord? (Decimal.Style.toml.write 2.0).toList = some (.float 2.0) := by
  have written : Decimal.Style.toml.write 2.0 = "2.0" := by decide +kernel
  rw [written]
  rfl

/-- Relative paths, a launch setting that stands twice, and a table whose name has to be quoted. -/
def relative : Config where
  cluster := { home := some "crate 5", nodeSettings := [⟨"a", "1"⟩, ⟨"a", "1"⟩] }
  workload := { table := "a \"table\"\n" }

theorem isPrintable_relative : relative.IsPrintable :=
  ⟨⟨by decide, by decide, by decide⟩, by decide, factor_default⟩

/-- What is shown of this configuration in a project. -/
def shownRelative : String := Toml.document (relative.resolvePaths "/p").tomlEntries ++ "\n"

/-- The configuration in one project, and what is shown of it in another. -/
def relativeProjects : FileTree :=
  twoProjects (Toml.document relative.tomlEntries ++ "\n") shownRelative

theorem load_relative :
    load { projectDir := "/p" } relativeProjects [] = .ok (relative.resolvePaths "/p") :=
  (load_eq (finds_printed isPrintable_relative (findsOnly_first _ _))).trans rfl

theorem load_of_shown_of_relative :
    (Command.config { files := relativeProjects, environment := [], colours := false }
        "/p" "toml").written.out = shownRelative ∧
      load { projectDir := "/q" } relativeProjects [] = .ok (relative.resolvePaths "/p") := by
  have shown := load_of_shown load_relative (by decide) (if_pos (by decide)) factor_default
    (findsOnly_second (Toml.document relative.tomlEntries ++ "\n") shownRelative)
  exact ⟨shown.1 { files := relativeProjects, environment := [], colours := false } "/p" rfl rfl rfl,
    shown.2.1 (by decide)⟩

/-! ### A configuration that awaits members for ever -/

/-- The time between two looks in the first place of a list, and nothing in the second. -/
def listEntries : List (String × Toml) := [("quorum[0]", .int 100), ("quorum[2]", .int 5)]

/-- The configuration of this file in a project. -/
def untimed : Config where
  cluster := { runDir := "/p/.decom/runs" }
  quorum := { pollIntervalMillis := 100, timeoutSeconds := none }

def untimedProjects : FileTree :=
  twoProjects (Toml.document listEntries) (Toml.document untimed.tomlEntries ++ "\n")

theorem layers_of_only {entries : List (String × Toml)} (only : loader.FindsOnly files environment text)
    (read : Toml.read? (textOf text.toUTF8.toList) = some entries) :
    loader.layers files environment =
      .ok [({} : Config).layer, Value.entriesOfToml entries, []] := by
  have sources : loader.sources files =
      [(.project, Path.join loader.projectDir projectFile)] := by
    have project := exists_of_octets only.stored
    rw [ConfigLoader.sources, optionalFiles, requiredFiles, only.named]
    cases given : loader.userFile with
    | none => simp [project, only.machine]
    | some path => simp [only.user path given, project, only.machine]
  have unset : environment.layer loader.stem = [] := by
    rw [Environment.layer, List.filterMap_eq_nil_iff.mpr]
    · rfl
    · exact fun setting member => Option.map_eq_none_iff.mpr (only.environment setting member)
  have found : octets? files (Path.join loader.projectDir projectFile) = some text.toUTF8.toList := by
    rw [octets?, only.stored]
    rfl
  rw [layers, sources, unset]
  simp only [List.mapM_cons, List.mapM_nil, layerOf, found, read]
  rfl

theorem combine_list :
    combine [({} : Config).layer, Value.entriesOfToml listEntries, []] =
      .ok { quorum := { pollIntervalMillis := 100, timeoutSeconds := none } } := by
  have first : Layer.KeyPath.ofKey "quorum[0]" = [.name "quorum", .place 0] := by decide +kernel
  have last : Layer.KeyPath.ofKey "quorum[2]" = [.name "quorum", .place 2] := by decide +kernel
  simp only [combine, List.foldl, listEntries, Value.entriesOfToml,
    Value.ofToml, Value.withLayer, first, last]
  rfl

theorem sound_list : Toml.IsSound 1 (.table listEntries) := by
  refine .table (by simp [listEntries]) ?_
  simp only [listEntries, List.mem_cons, List.not_mem_nil, or_false]
  rintro entry (rfl | rfl)
  · exact .inline (.scalar (.int (by decide) (by decide)))
  · exact .inline (.scalar (.int (by decide) (by decide)))

theorem load_untimed : load { projectDir := "/p" } untimedProjects [] = .ok untimed := by
  have read : Toml.read? (textOf (Toml.document listEntries).toUTF8.toList) = some listEntries := by
    have settled : Toml.settleEntries listEntries = listEntries := rfl
    simpa [settled] using read?_stored sound_list (by decide) 0
  have layers := layers_of_only (findsOnly_first (Toml.document listEntries)
    (Toml.document untimed.tomlEntries ++ "\n")) read
  exact (load_of_layers layers).trans (by rw [combine_list]; rfl)

/-- What is shown of a configuration that awaits members for ever is loaded as one that does not. -/
theorem load_of_shown_untimed :
    load { projectDir := "/p" } untimedProjects [] = .ok untimed ∧
      (Command.config { files := untimedProjects, environment := [], colours := false }
        "/p" "toml").written.out = Toml.document untimed.tomlEntries ++ "\n" ∧
      FindsOnly { projectDir := "/q" } untimedProjects [] (Toml.document untimed.tomlEntries ++ "\n") ∧
      load { projectDir := "/q" } untimedProjects [] =
        .ok { untimed with quorum := { untimed.quorum with timeoutSeconds := some 120 } } ∧
      untimed.quorum.timeoutSeconds = none := by
  have printed : untimed.tomlText? = some (Toml.document untimed.tomlEntries) := if_pos (by decide)
  refine ⟨load_untimed, config_writes load_untimed printed, findsOnly_second _ _, ?_, rfl⟩
  exact load_of_text load_untimed (by decide) printed factor_default (findsOnly_second _ _)

end ConfigLoader

end GracefulStop
