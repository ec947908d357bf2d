import GracefulStop.Proofs.Config.Reload

/-!
# Texts that variables give

The text of a variable is looked at before its field is known: one that writes a truth value or a number
counts as that, and a field that holds a text then gets the text of the value. So a variable gives a text
as it is if it writes no such value, or writes it as it is shown, whereas a string of a file is always
given as it is.
-/

namespace GracefulStop

open Layer (Step Value)

/-! ## Paths of keys -/

namespace Layer.KeyPath

variable {key name other : String} {text rest : List Char} {steps : List Step} {fuel : Nat}

theorem name?_eq_some (read : name? text = some (name, rest)) : text = name.toList ++ rest := by
  unfold name? at read
  split at read
  · cases read
  · cases read
    simp

theorem eq_nil_of_steps? (read : steps? fuel text = some []) : text = [] := by
  unfold steps? at read
  split at read
  · rfl
  · cases read
  · simp [Option.bind_eq_some_iff] at read
  · simp [Option.bind_eq_some_iff] at read
  · cases read

theorem eq_of_steps?_name (read : steps? fuel text = some [.name name]) :
    text = '.' :: name.toList := by
  unfold steps? at read
  split at read
  · cases read
  · cases read
  · simp only [Option.bind_eq_bind, Option.bind_eq_some_iff, Option.some.injEq, List.cons.injEq,
      Step.name.injEq] at read
    obtain ⟨⟨found, past⟩, named, steps, others, rfl, rfl⟩ := read
    have ends : past = [] := eq_nil_of_steps? others
    rw [name?_eq_some named, ends, List.append_nil]
  · simp [Option.bind_eq_some_iff] at read
  · cases read

/-- A key that parts into steps begins with the name of the first of them. -/
theorem exists_of_read? (read : read? key = some steps) :
    ∃ name rest others, key.toList = name.toList ++ rest ∧ steps? rest.length rest = some others ∧
      steps = .name name :: others := by
  simp only [read?, Option.bind_eq_bind, Option.bind_eq_some_iff, Option.some.injEq] at read
  obtain ⟨⟨name, rest⟩, named, others, read, rfl⟩ := read
  exact ⟨name, rest, others, name?_eq_some named, read, rfl⟩

theorem ofKey_cases (key : String) : ofKey key = [.name key] ∨ ∃ name rest others,
    key.toList = name.toList ++ rest ∧ steps? rest.length rest = some others ∧
      ofKey key = .name name :: others := by
  unfold ofKey
  cases read : read? key with
  | none => exact .inl rfl
  | some steps => exact .inr (exists_of_read? read)

/-- A key that is one name is its name. -/
theorem eq_of_ofKey_name (path : ofKey key = [.name name]) : key = name := by
  rcases ofKey_cases key with plain | ⟨found, rest, others, written, read, parts⟩
  · rw [plain] at path
    simpa using path
  · rw [parts] at path
    cases path
    rw [eq_nil_of_steps? read, List.append_nil] at written
    exact String.toList_injective written

/-- A key that is two names is the text of both. -/
theorem eq_of_ofKey_names (path : ofKey key = [.name name, .name other]) :
    key = name ++ "." ++ other := by
  rcases ofKey_cases key with plain | ⟨found, rest, others, written, read, parts⟩
  · rw [plain] at path
    cases path
  · rw [parts] at path
    cases path
    rw [eq_of_steps?_name read] at written
    exact String.toList_injective (by simpa using written)

theorem exists_ofKey (key : String) : ∃ name steps, ofKey key = .name name :: steps := by
  rcases ofKey_cases key with plain | ⟨name, _, others, _, _, parts⟩
  · exact ⟨key, [], plain⟩
  · exact ⟨name, others, parts⟩

end Layer.KeyPath

/-! ## What a text means -/

namespace Environment

/-- The text that a field gets from the text of a variable: the word for a truth value, the digits of a
whole number of 64 bits, those of a double, or else the text itself. -/
inductive Means (text : String) : String → Prop
  | truth (truth : Bool) (word : Text.lowerAscii text = toString truth) : Means text (toString truth)
  | whole {number : Int} (noTruth : ∀ truth : Bool, Text.lowerAscii text ≠ toString truth)
      (read : Decimal.int? (-2 ^ 63) (2 ^ 63 - 1) text.toList = some number) :
      Means text (toString number)
  | double {number : Float} (noTruth : ∀ truth : Bool, Text.lowerAscii text ≠ toString truth)
      (noWhole : Decimal.int? (-2 ^ 63) (2 ^ 63 - 1) text.toList = none)
      (read : Decimal.double? text.toList = some number) :
      Means text (Decimal.Style.plain.write number)
  | plain (noTruth : ∀ truth : Bool, Text.lowerAscii text ≠ toString truth)
      (noWhole : Decimal.int? (-2 ^ 63) (2 ^ 63 - 1) text.toList = none)
      (noDouble : Decimal.double? text.toList = none) : Means text text

variable {text meaning : String}

theorem valueOf_of_noTruth (noTruth : ∀ truth : Bool, Text.lowerAscii text ≠ toString truth) :
    valueOf text = match Decimal.int? (-2 ^ 63) (2 ^ 63 - 1) text.toList with
      | some value => .int value
      | none =>
        match Decimal.double? text.toList with
        | some value => .float value
        | none => .text text := by
  have noTrue : Text.lowerAscii text ≠ "true" := noTruth true
  have noFalse : Text.lowerAscii text ≠ "false" := noTruth false
  exact (if_neg noTrue).trans (if_neg noFalse)

theorem Means.text?_valueOf (means : Means text meaning) : (valueOf text).text? = some meaning := by
  cases means with
  | truth truth word =>
      cases truth with
      | true => simp [valueOf, show Text.lowerAscii text = "true" from word, Value.text?]
      | false => simp [valueOf, show Text.lowerAscii text = "false" from word, Value.text?]
  | whole noTruth read =>
      rw [valueOf_of_noTruth noTruth, read]
      rfl
  | double noTruth noWhole read =>
      rw [valueOf_of_noTruth noTruth, noWhole, read]
      rfl
  | plain noTruth noWhole noDouble =>
      rw [valueOf_of_noTruth noTruth, noWhole, noDouble]
      rfl

theorem exists_means (text : String) : ∃ meaning, Means text meaning := by
  by_cases word : ∃ truth : Bool, Text.lowerAscii text = toString truth
  · obtain ⟨truth, word⟩ := word
    exact ⟨_, .truth truth word⟩
  · have noTruth := not_exists.mp word
    cases whole : Decimal.int? (-2 ^ 63) (2 ^ 63 - 1) text.toList with
    | some number => exact ⟨_, .whole noTruth whole⟩
    | none =>
        cases double : Decimal.double? text.toList with
        | some number => exact ⟨_, .double noTruth whole double⟩
        | none => exact ⟨_, .plain noTruth whole double⟩

theorem means_iff : Means text meaning ↔ (valueOf text).text? = some meaning := by
  refine ⟨Means.text?_valueOf, fun given => ?_⟩
  obtain ⟨other, means⟩ := exists_means text
  have same := means.text?_valueOf
  rw [given] at same
  cases same
  exact means

/-! ## The layer of variables -/

variable {stem : String} {environment : Environment}

/-- The entry that a variable makes, if it begins with the stem. -/
def entryOf? (stem : String) (setting : String × String) : Option (String × Value) :=
  (keyOf? stem setting.1).map fun key => (key, valueOf setting.2)

theorem layer_eq :
    environment.layer stem = KeyMap.ofList (environment.filterMap (entryOf? stem)) := rfl

theorem exists_of_mem_entries {entry : String × Value}
    (member : entry ∈ environment.filterMap (entryOf? stem)) :
    ∃ setting ∈ environment, keyOf? stem setting.1 = some entry.1 := by
  obtain ⟨setting, listed, made⟩ := List.mem_filterMap.mp member
  obtain ⟨key, keyed, rfl⟩ := Option.map_eq_some_iff.mp made
  exact ⟨setting, listed, keyed⟩

end Environment

namespace Config

/-- The fields that hold a text as it is: not the numbers, and not the paths, which are seen from the
project. -/
inductive TextField where
  | host | signal | table
  deriving DecidableEq

namespace TextField

/-- The field of all fields. -/
def field : TextField → Field
  | host => .host
  | signal => .signal
  | table => .table

/-- The variable that gives it. -/
def variableName : TextField → String
  | host => "DECOM_CLUSTER__HOST"
  | signal => "DECOM_DECOMMISSION__SIGNAL"
  | table => "DECOM_WORKLOAD__TABLE"

/-- Its text in a configuration. -/
def get : TextField → Config → String
  | host, config => config.cluster.host
  | signal, config => config.decommission.signal
  | table, config => config.workload.table

/-- A configuration with another text for it. -/
def set (text : String) : TextField → Config → Config
  | host, config => { config with cluster := { config.cluster with host := text } }
  | signal, config => { config with decommission := { config.decommission with signal := text } }
  | table, config => { config with workload := { config.workload with table := text } }

end TextField

/-! ## A value in its place -/

variable {field : TextField} {value found : Value} {config : Config} {entry : String × Value}

/-- A table in which the place of a field holds a value, or else a list or a table, which is no text. -/
def Keeps (field : TextField) (found value : Value) : Prop :=
  ∃ part here, value.entries.lookup field.field.place.name = some part ∧
    part.entries.lookup field.field.name = some here ∧ (here = found ∨ here.text? = none)

theorem eq_table_of_lookup {name : String} {part : Value}
    (place : value.entries.lookup name = some part) : value = .table value.entries := by
  cases value with
  | table entries => rfl
  | _ => cases place

theorem get_of_ofValue? (keeps : Keeps field found value)
    (read : Config.ofValue? value = some config) : found.text? = some (field.get config) := by
  obtain ⟨part, here, inPart, place, held⟩ := keeps
  -- what is no text is not read, so that it is the value that is in its place
  suffices text : here.text? = some (field.get config) by
    rcases held with rfl | noText
    · exact text
    · rw [noText] at text
      cases text
  rw [eq_table_of_lookup inPart] at read
  simp only [Config.ofValue?, Value.fields?, List.map, Option.bind_eq_bind, Option.bind_some,
    Option.bind_eq_some_iff, Option.some.injEq] at read
  obtain ⟨cluster, clusterRead, _, _, _, _, _, _, leave, leaveRead, _, _, load, loadRead, rfl⟩ := read
  cases field with
  | host =>
      rw [show value.entries.lookup "cluster" = some part from inPart,
        eq_table_of_lookup place] at clusterRead
      simp only [Value.orElse, ClusterSettings.ofValue?, Value.fields?, List.map,
        Option.bind_eq_bind, Option.bind_some, Option.bind_eq_some_iff, Option.some.injEq]
        at clusterRead
      obtain ⟨_, _, host, hostRead, _, _, _, _, _, _, _, _, rfl⟩ := clusterRead
      rw [show part.entries.lookup "host" = some here from place] at hostRead
      exact hostRead
  | signal =>
      rw [show value.entries.lookup "decommission" = some part from inPart,
        eq_table_of_lookup place] at leaveRead
      simp only [Value.orElse, DecommissionSettings.ofValue?, Value.fields?, List.map,
        Option.bind_eq_bind, Option.bind_some, Option.bind_eq_some_iff, Option.some.injEq]
        at leaveRead
      obtain ⟨_, _, signal, signalRead, rfl⟩ := leaveRead
      rw [show part.entries.lookup "signal" = some here from place] at signalRead
      exact signalRead
  | table =>
      rw [show value.entries.lookup "workload" = some part from inPart,
        eq_table_of_lookup place] at loadRead
      simp only [Value.orElse, WorkloadSettings.ofValue?, Value.fields?, List.map,
        Option.bind_eq_bind, Option.bind_some, Option.bind_eq_some_iff, Option.some.injEq]
        at loadRead
      obtain ⟨_, _, table, tableRead, rfl⟩ := loadRead
      rw [show part.entries.lookup "table" = some here from place] at tableRead
      exact tableRead

theorem lookup_changeStep (name other : String) (edit : Value → Value) (value : Value) :
    (value.changeStep (.name name) edit).entries.lookup other =
      if other = name then some (edit ((value.entries.lookup name).getD .absent))
      else value.entries.lookup other :=
  lookup_changeEntry name other edit value.entries

/-- The value of a field is put in its place, whatever stands in the way. -/
theorem keeps_changeAt {edit : Value → Value} (edits : ∀ old, edit old = found) (value : Value) :
    Keeps field found
      (value.changeAt [.name field.field.place.name, .name field.field.name] edit) := by
  simp only [Value.changeAt, List.foldr]
  refine ⟨_, found, (lookup_changeStep _ _ _ _).trans (if_pos rfl), ?_, .inl rfl⟩
  rw [lookup_changeStep, if_pos rfl, edits]

/-- What is set at the end of a later key leaves the value of a field as it is, or makes it a list or a
table. -/
theorem Keeps.changeAt {key : String} {edit : Value → Value} (keeps : Keeps field found value)
    (later : field.field.key < key)
    (undivided : ∀ index steps, Layer.KeyPath.ofKey key ≠
      .name field.field.place.name :: .place index :: steps) :
    Keeps field found (value.changeAt (Layer.KeyPath.ofKey key) edit) := by
  obtain ⟨part, here, inPart, place, held⟩ := keeps
  obtain ⟨name, steps, path⟩ := Layer.KeyPath.exists_ofKey key
  simp only [path, Value.changeAt, List.foldr_cons]
  by_cases same : field.field.place.name = name
  · subst same
    cases steps with
    | nil =>
        -- the key of a section stands before those of its fields
        rw [Layer.KeyPath.eq_of_ofKey_name path] at later
        exact absurd later (by cases field <;> decide)
    | cons step steps =>
        have inner := lookup_changeStep field.field.place.name field.field.place.name
          ((step :: steps).foldr Value.changeStep edit) value
        rw [if_pos rfl, inPart, Option.getD_some, List.foldr_cons] at inner
        cases step with
        | place index => exact absurd path (undivided index steps)
        | name other =>
            by_cases sameField : field.field.name = other
            · subst sameField
              refine ⟨_, _, inner, (lookup_changeStep _ _ _ _).trans (if_pos rfl), .inr ?_⟩
              cases steps with
              | nil =>
                  rw [Layer.KeyPath.eq_of_ofKey_names path] at later
                  exact absurd later (String.lt_irrefl _)
              | cons step steps => cases step <;> rfl
            · refine ⟨_, here, inner, ?_, held⟩
              rw [lookup_changeStep, if_neg sameField, place]
  · exact ⟨part, here, by rw [lookup_changeStep, if_neg same, inPart], place, held⟩

/-- Entries with later keys leave the value of a field as it is, or make it a list or a table. -/
theorem Keeps.withLayer {layer : List (String × Value)} (keeps : Keeps field found value)
    (later : ∀ entry ∈ layer, field.field.key < entry.1)
    (undivided : ∀ entry ∈ layer, ∀ index steps, Layer.KeyPath.ofKey entry.1 ≠
      .name field.field.place.name :: .place index :: steps) :
    Keeps field found (value.withLayer layer) := by
  induction layer generalizing value with
  | nil => exact keeps
  | cons entry layer ih =>
      have first : Keeps field found
          (value.changeAt (Layer.KeyPath.ofKey entry.1) fun old => old.overlay entry.2) :=
        keeps.changeAt (later entry List.mem_cons_self) (undivided entry List.mem_cons_self)
      exact ih first (fun other member => later other (List.mem_cons_of_mem _ member))
        fun other member => undivided other (List.mem_cons_of_mem _ member)

theorem overlay_valueOf (text : String) (old : Value) :
    old.overlay (Environment.valueOf text) = Environment.valueOf text := by
  obtain ⟨meaning, means⟩ := Environment.exists_means text
  have read := means.text?_valueOf
  cases value : Environment.valueOf text with
  | table entries =>
      rw [value] at read
      cases read
  | _ => rfl

/-- Variables that give a text to a field: the last one that stands for the field has it, and none stands
for a place in a list where the section of the field is a table. -/
structure VariableGives (stem : String) (environment : Environment) (field : TextField)
    (text : String) : Prop where
  last : ∃ before name after, environment = before ++ (name, text) :: after ∧
    Environment.keyOf? stem name = some field.field.key ∧
    ∀ setting ∈ after, Environment.keyOf? stem setting.1 ≠ some field.field.key
  undivided : ∀ setting ∈ environment, ∀ key, Environment.keyOf? stem setting.1 = some key →
    ∀ index steps, Layer.KeyPath.ofKey key ≠
      .name field.field.place.name :: .place index :: steps

variable {stem text : String} {environment : Environment}

theorem VariableGives.lookup (gives : VariableGives stem environment field text) :
    (environment.layer stem).lookup field.field.key = some (Environment.valueOf text) := by
  obtain ⟨before, name, after, rfl, keyed, last⟩ := gives.last
  have none :
      List.lookup field.field.key (after.filterMap (Environment.entryOf? stem)).reverse = none := by
    rw [List.lookup_eq_none_iff]
    intro entry member
    obtain ⟨setting, listed, named⟩ := Environment.exists_of_mem_entries (List.mem_reverse.mp member)
    rw [bne_iff_ne]
    intro same
    exact last setting listed (same ▸ named)
  have made :
      Environment.entryOf? stem (name, text) = some (field.field.key, Environment.valueOf text) := by
    rw [Environment.entryOf?, keyed, Option.map_some]
  rw [Environment.layer_eq, KeyMap.lookup_ofList, List.filterMap_append, List.filterMap_cons_some made,
    List.reverse_append, List.reverse_cons, List.lookup_append, List.lookup_append, none,
    KeyMap.lookup_cons, if_pos rfl]
  rfl

theorem VariableGives.keeps (gives : VariableGives stem environment field text) (value : Value) :
    Keeps field (Environment.valueOf text) (value.withLayer (environment.layer stem)) := by
  have sorted : KeyMap.IsSorted (environment.layer stem) := KeyMap.isSorted_ofList _
  obtain ⟨front, back, parted⟩ := List.append_of_mem (sorted.mem_iff.mpr gives.lookup)
  have undivided : ∀ entry ∈ environment.layer stem, ∀ index steps,
      Layer.KeyPath.ofKey entry.1 ≠ .name field.field.place.name :: .place index :: steps := by
    intro entry member
    obtain ⟨setting, listed, keyed⟩ := Environment.exists_of_mem_entries (KeyMap.mem_ofList member)
    exact gives.undivided setting listed _ keyed
  rw [parted] at sorted undivided ⊢
  rw [Value.withLayer, List.foldl_append, List.foldl_cons, ofKey_field]
  have placed := @keeps_changeAt field _ _ (overlay_valueOf text) (value.withLayer front)
  refine placed.withLayer (fun entry member => ?_) fun entry member => ?_
  · exact (List.pairwise_cons.mp (List.pairwise_append.mp sorted).2.1).1 entry member
  · exact undivided entry (List.mem_append_right _ (List.mem_cons_of_mem _ member))

end Config

namespace ConfigLoader

open Config (Assigns Assignment Settings TextField VariableGives)

variable {loader other : ConfigLoader} {files store : FileTree} {environment : Environment}
  {config : Config} {field : TextField} {text : String}

theorem get_resolvePaths (config : Config) (base : Path) :
    field.get (config.resolvePaths base) = field.get config := by
  cases field <;> rfl

/-- A field of which a variable gives the text has what this text means. -/
theorem means_of_load (gives : VariableGives loader.stem environment field text)
    (loads : loader.load files environment = .ok config) :
    Environment.Means text (field.get config) := by
  cases found : loader.layers files environment with
  | error error => simp [load, found, bind, Except.bind] at loads
  | ok layers =>
      have last : ∃ below, layers = below ++ [environment.layer loader.stem] := by
        simp only [ConfigLoader.layers, bind, Except.bind] at found
        split at found
        · cases found
        · exact ⟨_, (Except.ok.inj found).symm⟩
      obtain ⟨below, rfl⟩ := last
      rw [load_of_layers found, combine, List.foldl_append] at loads
      cases read : Config.ofValue? ((below.foldl Value.withLayer (.table [])).withLayer
          (environment.layer loader.stem)) with
      | none => simp [read, Except.bind] at loads
      | some merged =>
          simp only [List.foldl_cons, List.foldl_nil, read] at loads
          obtain ⟨rfl, _⟩ := of_checked loads
          rw [get_resolvePaths, Environment.means_iff]
          exact Config.get_of_ofValue? (gives.keeps _) read

/-! ## A variable and a string of a file -/

/-- A loader finds one layer only, a text that variables give to a field. -/
structure FindsVariable (loader : ConfigLoader) (files : FileTree) (environment : Environment)
    (field : TextField) (text : String) : Prop where
  user : ∀ path, loader.userFile = some path → files.exists? path = false
  project : files.exists? (Path.join loader.projectDir projectFile) = false
  machine : files.exists? (Path.join loader.projectDir machineFile) = false
  named : loader.namedFile = none
  given : ∃ name, (name, text) ∈ environment ∧
    Environment.keyOf? loader.stem name = some field.field.key
  only : ∀ setting ∈ environment, Environment.keyOf? loader.stem setting.1 ≠ none →
    Environment.keyOf? loader.stem setting.1 = some field.field.key ∧ setting.2 = text

/-- The tables of a document with one string, that of a field. -/
def tablesOf (field : TextField) (text : String) : List (String × Toml) :=
  [(field.field.place.name, .table [(field.field.name, .string text)])]

/-- The value of a field, and of no other. -/
def assignment (text : String) : TextField → Assignment
  | .host => fun field => match field with
    | .host => some text
    | _ => none
  | .signal => fun field => match field with
    | .signal => some text
    | _ => none
  | .table => fun field => match field with
    | .table => some text
    | _ => none

theorem assignment_self (text : String) (field : TextField) :
    ∃ wanted, assignment text field field.field = some wanted ∧
      ∀ value : Value, value.text? = some text → field.field.read? value = some wanted := by
  cases field <;> exact ⟨text, rfl, fun _ read => read⟩

theorem eq_of_assignment {given : Config.Field}
    (assigned : (assignment text field given).isSome = true) : given = field.field := by
  cases field <;> cases given <;> first | rfl | cases assigned

namespace Layering

/-- Layers that give nothing. -/
def silent : Layering where
  user := fun _ => none
  project := fun _ => none
  machine := fun _ => none
  named := fun _ => none
  environment := fun _ => none

/-- Layers and a variable that gives a text to a field. -/
def withVariable (layering : Layering) (field : TextField) (text : String) : Layering :=
  { layering with
    environment := fun given => (assignment text field given).or (layering.environment given) }

/-- Layers and a string for a field in the file of the project. -/
def withString (layering : Layering) (field : TextField) (text : String) : Layering :=
  { layering with
    project := fun given => (assignment text field given).or (layering.project given) }

/-- None of the layers above the file of the project gives a field. -/
structure IsSilentAbove (layering : Layering) (field : TextField) : Prop where
  machine : layering.machine field.field = none
  named : layering.named field.field = none
  environment : layering.environment field.field = none

variable {layering : Layering}

theorem values_withVariable (layering : Layering) (field : TextField) (text : String) :
    Config.ofValues (layering.withVariable field text).values =
      field.set text (Config.ofValues layering.values) := by
  cases field <;> rfl

theorem withString_values (silent : layering.IsSilentAbove field) (text : String)
    (given : Config.Field) :
    (layering.withString field text).values given = (layering.withVariable field text).values given := by
  by_cases same : given = field.field
  · subst same
    obtain ⟨wanted, assigned, _⟩ := assignment_self text field
    simp [values, withString, withVariable, assigned, silent.machine, silent.named,
      silent.environment]
  · have none : assignment text field given = none := by
      cases other : assignment text field given with
      | none => rfl
      | some _ => exact absurd (eq_of_assignment (by rw [other]; rfl)) same
    simp [values, withString, withVariable, none]

theorem values_withString (silent : layering.IsSilentAbove field) (text : String) :
    Config.ofValues (layering.withString field text).values =
      field.set text (Config.ofValues layering.values) := by
  rw [funext (withString_values silent text), values_withVariable]

theorem withVariable_silent (field : TextField) (text : String) :
    silent.withVariable field text = { silent with environment := assignment text field } := by
  have alone : (fun given => (assignment text field given).or (silent.environment given)) =
      assignment text field := funext fun _ => Option.or_none
  rw [withVariable, alone]

theorem withString_silent (field : TextField) (text : String) :
    silent.withString field text = { silent with project := assignment text field } := by
  have alone : (fun given => (assignment text field given).or (silent.project given)) =
      assignment text field := funext fun _ => Option.or_none
  rw [withString, alone]

end Layering

theorem variablesGive_assignment {meaning : String} (means : Environment.Means text meaning)
    (found : loader.FindsVariable files environment field text) :
    VariablesGive loader.stem environment (assignment meaning field) where
  known := by
    intro name other key member keyed
    obtain ⟨same, rfl⟩ := found.only _ member (by simp [keyed])
    obtain ⟨wanted, assigned, read⟩ := assignment_self meaning field
    refine ⟨field.field, wanted, ?_, assigned, read _ means.text?_valueOf⟩
    simpa [keyed] using same
  all := by
    intro given assigned
    rw [eq_of_assignment assigned]
    obtain ⟨name, member, keyed⟩ := found.given
    exact ⟨name, text, member, keyed⟩

theorem finds_variable {meaning : String} (means : Environment.Means text meaning)
    (found : loader.FindsVariable files environment field text) :
    loader.Finds files environment (Layering.silent.withVariable field meaning) := by
  rw [Layering.withVariable_silent]
  refine ⟨?_, .inl ⟨found.project, rfl⟩, .inl ⟨found.machine, rfl⟩, ?_,
    variablesGive_assignment means found⟩
  · split
    · rename_i path given
      exact .inl ⟨found.user path given, rfl⟩
    · rfl
  · rw [found.named]
    rfl

theorem sound_tablesOf (field : TextField) (text : String) :
    Toml.IsSound 2 (.table (tablesOf field text)) := by
  refine .table (by simp [tablesOf]) ?_
  simp only [tablesOf, List.mem_singleton, forall_eq]
  refine .table (by simp) ?_
  simp only [List.mem_singleton, forall_eq]
  exact .inline (.scalar (.string text))

theorem settle_tablesOf (field : TextField) (text : String) :
    Toml.settleEntries (tablesOf field text) = tablesOf field text := by
  cases field <;> rfl

theorem finds_string (only : other.FindsOnly store environment (Toml.document (tablesOf field text))) :
    other.Finds store environment (Layering.silent.withString field text) := by
  rw [Layering.withString_silent]
  refine only.finds (fileGives_document 0 (sound_tablesOf field text) (by decide)
    (by simpa using only.stored) ?_)
  rw [settle_tablesOf]
  obtain ⟨wanted, assigned, read⟩ := assignment_self text field
  refine ⟨[(field.field, .text text)], ?_, ?_, fun given isGiven => ?_⟩
  · exact .cons (@Config.EntryGives.table field.field.place [(field.field, .text text)] (by simp)) .nil
  · simp only [Settings.Agree, List.mem_singleton, forall_eq]
    exact ⟨wanted, assigned, read _ rfl⟩
  · rw [eq_of_assignment isGiven]
    exact List.mem_cons_self

/-! ### A text set in a configuration -/

theorem resolvePaths_set (text : String) (field : TextField) (config : Config) (base : Path) :
    (field.set text config).resolvePaths base = field.set text (config.resolvePaths base) := by
  cases field <;> rfl

theorem validate_set (text : String) (field : TextField) (config : Config) :
    (field.set text config).validate = config.validate := by
  cases field <;> rfl

/-- A text is not checked. -/
theorem checked_set (text : String) (field : TextField) (config : Config) :
    checked (field.set text config) = (checked config).map (field.set text) := by
  rw [checked, checked, validate_set]
  cases config.validate <;> rfl

theorem set_set (text other : String) (field : TextField) (config : Config) :
    field.set text (field.set other config) = field.set text config := by
  cases field <;> rfl

theorem get_set (text : String) (field : TextField) (config : Config) :
    field.get (field.set text config) = text := by
  cases field <;> rfl

/-- A variable sets its field in what the layers without it make. -/
theorem load_of_withVariable {layering : Layering}
    (finds : loader.Finds files environment (layering.withVariable field text)) :
    loader.load files environment =
      (checked ((Config.ofValues layering.values).resolvePaths loader.projectDir)).map
        (field.set text) := by
  rw [load_eq finds, Layering.values_withVariable, resolvePaths_set, checked_set]

/-- So does a string of the file of the project, if no layer above has the field. -/
theorem load_of_withString {layering : Layering} (silent : layering.IsSilentAbove field)
    (finds : loader.Finds files environment (layering.withString field text)) :
    loader.load files environment =
      (checked ((Config.ofValues layering.values).resolvePaths loader.projectDir)).map
        (field.set text) := by
  rw [load_eq finds, Layering.values_withString silent, resolvePaths_set, checked_set]

/-- The text of a variable means what the layers have for its field. -/
theorem means_of_finds {layering : Layering} {name meaning : String}
    (listed : (name, text) ∈ environment)
    (keyed : Environment.keyOf? loader.stem name = some field.field.key)
    (finds : loader.Finds files environment (layering.withVariable field meaning)) :
    Environment.Means text meaning := by
  obtain ⟨given, wanted, sameKey, assigned, read⟩ := finds.environment.known listed keyed
  obtain rfl := key_injective sameKey
  rw [Environment.means_iff]
  cases field <;> cases assigned <;> exact read

/-- A variable gives a field what its text means, whatever the layers below give. So a variable and a
string of the file of a project, with the same layers beside them, make configurations that differ in
this field, unless the text means itself. -/
theorem load_of_variable (field : TextField) (text : String) :
    Environment.keyOf? "DECOM" field.variableName = some field.field.key ∧
    (∀ (loader : ConfigLoader) files environment config,
      VariableGives loader.stem environment field text →
      loader.load files environment = .ok config → Environment.Means text (field.get config)) ∧
    (∀ (loader other : ConfigLoader) files environment store fresh
      (layering : Layering) name meaning,
      (name, text) ∈ environment →
      Environment.keyOf? loader.stem name = some field.field.key →
      loader.Finds files environment (layering.withVariable field meaning) →
      other.Finds store fresh (layering.withString field text) →
      layering.IsSilentAbove field → loader.projectDir = other.projectDir →
      Environment.Means text meaning ∧
      other.load store fresh = (loader.load files environment).map (field.set text) ∧
      ∀ config, loader.load files environment = .ok config →
        (other.load store fresh = .ok config ↔ meaning = text)) := by
  refine ⟨by cases field <;> rfl, fun _ _ _ _ => means_of_load, ?_⟩
  intro loader other files environment store fresh layering name meaning listed keyed finds others
    silent sameDir
  have fromFile := load_of_withString silent others
  have fromVariable := load_of_withVariable finds
  rw [← sameDir] at fromFile
  refine ⟨means_of_finds listed keyed finds, ?_, fun config loads => ?_⟩
  · rw [fromFile, fromVariable]
    cases checked ((Config.ofValues layering.values).resolvePaths loader.projectDir) with
    | error error => rfl
    | ok config => exact congrArg Except.ok (set_set text meaning field config).symm
  · rw [fromVariable] at loads
    rw [fromFile]
    refine ⟨fun same => ?_, fun same => by rw [← same, loads]⟩
    cases merged : checked ((Config.ofValues layering.values).resolvePaths loader.projectDir) with
    | error error =>
        rw [merged] at loads
        cases loads
    | ok base =>
        rw [merged] at loads same
        have texts := congrArg field.get (Except.ok.inj (loads.trans same.symm))
        rwa [get_set, get_set] at texts

/-- A directory with nothing in it. -/
def bare : FileTree := { root := .directory [], workingDir := "/" }

/-- Digits that do not write a number as it is shown. -/
def digits : Environment := [("HOME", "/"), ("DECOM_WORKLOAD__TABLE", "007")]

theorem means_digits : Environment.Means "007" "7" := by
  rw [Environment.means_iff]
  rfl

theorem gives_digits : VariableGives "DECOM" digits .table "007" where
  last := ⟨[("HOME", "/")], "DECOM_WORKLOAD__TABLE", [], rfl, rfl, by simp⟩
  undivided := by
    simp only [digits, List.mem_cons, List.not_mem_nil, or_false]
    rintro _ (rfl | rfl) key keyed index steps
    · cases keyed
    · have named : Environment.keyOf? "DECOM" "DECOM_WORKLOAD__TABLE" = some Config.Field.table.key :=
        rfl
      rw [named] at keyed
      cases keyed
      rw [Config.ofKey_field]
      simp

theorem finds_digits : FindsVariable { projectDir := "/p" } bare digits .table "007" where
  user := by simp
  project := (FileTree.exists?_eq _ (by decide)).trans rfl
  machine := (FileTree.exists?_eq _ (by decide)).trans rfl
  named := rfl
  given := ⟨"DECOM_WORKLOAD__TABLE", by simp [digits], rfl⟩
  only := by
    simp only [digits, List.mem_cons, List.not_mem_nil, or_false]
    rintro _ (rfl | rfl) named
    · exact absurd rfl named
    · exact ⟨rfl, rfl⟩

theorem load_digits : load { projectDir := "/p" } bare digits =
    .ok ((TextField.table.set "7" {}).resolvePaths "/p") := by
  rw [load_of_withVariable (finds_variable means_digits finds_digits)]
  rfl

/-- Digits after noughts make another table of a variable than of a string of a file. -/
theorem load_of_variable_of_digits :
    ∃ config, load { projectDir := "/p" } bare digits = .ok config ∧
      config.workload.table = "7" ∧
      load { projectDir := "/p" } (twoProjects (Toml.document (tablesOf .table "007")) "") [] =
        .ok (TextField.table.set "007" config) ∧
      TextField.table.set "007" config ≠ config := by
  obtain ⟨_, given, beside⟩ := load_of_variable .table "007"
  obtain ⟨-, fromFile, same⟩ := beside { projectDir := "/p" } { projectDir := "/p" } bare digits
    (twoProjects (Toml.document (tablesOf .table "007")) "") [] Layering.silent
    "DECOM_WORKLOAD__TABLE" "7" (by simp [digits]) rfl (finds_variable means_digits finds_digits)
    (finds_string (findsOnly_first _ "")) ⟨rfl, rfl, rfl⟩ rfl
  have table := (given _ _ _ _ gives_digits load_digits).text?_valueOf
  rw [means_digits.text?_valueOf] at table
  rw [load_digits] at fromFile
  refine ⟨_, load_digits, (Option.some.inj table).symm, fromFile, fun equal => ?_⟩
  exact absurd ((same _ load_digits).mp (fromFile.trans (congrArg Except.ok equal))) (by decide)

/-- Variables by which a section is a table, and then a list. -/
def dividing : Environment := [("DECOM_WORKLOAD__TABLE", "orders"), ("DECOM_WORKLOAD[0]", "5")]

theorem layer_dividing : Environment.layer "DECOM" dividing =
    [("workload.table", .text "orders"), ("workload[0]", .int 5)] := by
  rfl

/-- The list takes the place of the table. -/
theorem withLayer_dividing :
    (Value.table ({} : Config).layer).withLayer (Environment.layer "DECOM" dividing) =
      .table (({} : Config).layer.dropLast ++ [("workload", .list [.int 5])]) := by
  have table : Layer.KeyPath.ofKey "workload.table" = [.name "workload", .name "table"] := by rfl
  have place : Layer.KeyPath.ofKey "workload[0]" = [.name "workload", .place 0] := by rfl
  simp only [layer_dividing, Value.withLayer, List.foldl_cons, List.foldl_nil, table, place]
  rfl

/-- A text that writes a number is not kept as it is, and none is whose section is made a list. -/
theorem load_of_other_texts :
    (∃ config, load { projectDir := "/p" } bare digits = .ok config ∧
      config.workload.table ≠ "007") ∧
    ∃ config, load { projectDir := "/p" } bare dividing = .ok config ∧
      config.workload.table ≠ "orders" := by
  constructor
  · exact ⟨_, load_digits, by decide⟩
  · have sources : sources { projectDir := "/p" } bare = [] := by
      simp [ConfigLoader.sources, optionalFiles, requiredFiles, finds_digits.project,
        finds_digits.machine]
    have found : layers { projectDir := "/p" } bare dividing =
        .ok [({} : Config).layer, Environment.layer "DECOM" dividing] := by
      rw [layers, sources]
      rfl
    have read : Config.ofValue?
        (.table (({} : Config).layer.dropLast ++ [("workload", .list [.int 5])])) =
          some { workload := { concurrencyPerKind := 5 } } := by
      rfl
    refine ⟨{ cluster := { runDir := "/p/.decom/runs" }, workload := { concurrencyPerKind := 5 } }, ?_,
      by decide⟩
    rw [load_of_layers found, combine, List.foldl_cons, List.foldl_cons, List.foldl_nil,
      Config.default_withLayer, withLayer_dividing, read]
    rfl

end ConfigLoader

end GracefulStop
