import GracefulStop.Config.Load
import GracefulStop.Proofs.Config.Fields
import Mathlib

/-!
# Layers of a configuration

A layer that gives values to some fields changes these fields and no others, whether it names them one
by one or in the tables of their sections. So a field has in the end the value of the highest layer that
gives it one.
-/

namespace GracefulStop.Config

open Layer (Value KeyPath.ofKey)

/-- Values of a layer for fields. -/
abbrev Settings := List (Field × Value)

/-- An entry of a layer that gives values to fields: to one by its key, or to those of a section in a
table. -/
inductive EntryGives : String × Value → Settings → Prop where
  | field (field : Field) (value : Value) : EntryGives (field.key, value) [(field, value)]
  | table {part : Section} {settings : Settings} (inPart : ∀ setting ∈ settings, setting.1.place = part) :
      EntryGives (part.name, .table (settings.map fun setting => (setting.1.name, setting.2))) settings

/-- A layer of which every entry gives values to fields. -/
inductive LayerGives : List (String × Value) → Settings → Prop where
  | nil : LayerGives [] []
  | cons {entry : String × Value} {layer : List (String × Value)} {front back : Settings}
      (first : EntryGives entry front) (others : LayerGives layer back) :
      LayerGives (entry :: layer) (front ++ back)

/-- A value for each of some fields. -/
abbrev Assignment := (field : Field) → Option field.Carrier

/-- The values after an assignment. -/
def Assignment.over (given : Assignment) (values : Values) : Values :=
  fun field => (given field).getD (values field)

/-- Values of a layer that are read as those of an assignment. -/
def Settings.Agree (settings : Settings) (given : Assignment) : Prop :=
  ∀ setting ∈ settings, ∃ wanted, given setting.1 = some wanted ∧
    setting.1.read? setting.2 = some wanted

/-- A layer that gives an assignment: it gives values to the fields of the assignment and to no
others, and these are read as those of the assignment. -/
def Assigns (layer : List (String × Value)) (given : Assignment) : Prop :=
  ∃ settings : Settings, LayerGives layer settings ∧ settings.Agree given ∧
    ∀ field, (given field).isSome = true → field ∈ settings.map (·.1)

/-! ## One field -/

theorem lookup_changeEntry (name other : String) (edit : Value → Value)
    (entries : List (String × Value)) :
    (Value.changeEntry name edit entries).lookup other =
      if other = name then some (edit ((entries.lookup name).getD .absent))
      else entries.lookup other := by
  have unlike {one two : String} (different : one ≠ two) : (one == two) = false :=
    beq_false_of_ne different
  induction entries with
  | nil =>
      by_cases same : other = name
      · simp [Value.changeEntry, List.lookup, same]
      · simp [Value.changeEntry, List.lookup, same, unlike same]
  | cons entry entries ih =>
      rcases entry with ⟨first, value⟩
      rw [Value.changeEntry]
      by_cases here : first = name
      · subst here
        by_cases same : other = first
        · simp [List.lookup, same]
        · simp [List.lookup, same, unlike same]
      · by_cases same : other = name
        · subst same
          simp [here, List.lookup, unlike (Ne.symm here), ih]
        · by_cases found : other = first
          · simp [here, List.lookup, found]
          · simp [here, List.lookup, unlike found, ih, same]

/-- Nothing is kept of the old value of a field. -/
theorem overlay_of_read {field : Field} {value : Value} {wanted : field.Carrier}
    (read : field.read? value = some wanted) (old : Value) : old.overlay value = value := by
  cases value with
  | table entries => cases field <;> simp [Field.read?, Value.text?, Value.natUpTo?, Value.nat?, Value.optional?, Value.list?, Value.float?] at read
  | _ => rfl

theorem Field.eq_of_name {field other : Field} (place : field.place = other.place)
    (name : field.name = other.name) : field = other := by
  cases field <;> cases other <;> first | rfl | (exact absurd place (by decide)) | (exact absurd name (by decide))

variable {value : Value} {values : Values}

/-- A value laid over a field changes this field of its section. -/
theorem Section.Holds.change {part : Section} {field : Field} {found : Value}
    {wanted : field.Carrier} (holds : part.Holds value values) (inPart : field.place = part)
    (read : field.read? found = some wanted) :
    part.Holds (value.changeStep (.name field.name) fun old => old.overlay found)
      (Function.update values field wanted) := by
  rcases holds with ⟨entries, rfl, each⟩
  refine ⟨_, rfl, fun other otherIn => ?_⟩
  simp only [Value.entries, lookup_changeEntry]
  by_cases same : other = field
  · subst same
    exact ⟨found, by simp [overlay_of_read read], by simpa using read⟩
  · have unlike : other.name ≠ field.name :=
      fun name => same (Field.eq_of_name (otherIn.trans inPart.symm) name)
    rw [if_neg unlike, Function.update_of_ne same]
    exact each other otherIn

theorem Section.Holds.congr {part : Section} {after : Values} (holds : part.Holds value values)
    (same : ∀ field : Field, field.place = part → after field = values field) :
    part.Holds value after := by
  rcases holds with ⟨entries, rfl, each⟩
  refine ⟨entries, rfl, fun field inPart => ?_⟩
  rw [same field inPart]
  exact each field inPart

theorem Section.name_injective {part other : Section} (same : part.name = other.name) :
    part = other := by
  cases part <;> cases other <;> first | rfl | exact absurd same (by decide)

/-- A change to the table of a section changes the fields of this section only. -/
theorem Holds.change {part : Section} {edit : Value → Value} {after : Values}
    (holds : Holds value values)
    (changes : ∀ found, part.Holds found values → part.Holds (edit found) after)
    (others : ∀ field : Field, field.place ≠ part → after field = values field) :
    Holds (value.changeStep (.name part.name) edit) after := by
  rcases holds with ⟨entries, rfl, each⟩
  refine ⟨_, rfl, fun other => ?_⟩
  rcases each other with ⟨found, foundAt, otherHolds⟩
  simp only [Value.entries, lookup_changeEntry]
  by_cases same : other = part
  · subst same
    exact ⟨_, by simp [foundAt], changes found otherHolds⟩
  · rw [if_neg (same ∘ Section.name_injective)]
    refine ⟨found, foundAt, otherHolds.congr fun field inOther => others field ?_⟩
    exact fun inPart => same (inOther.symm.trans inPart)

/-! ## A layer -/

/-- The values after some settings of an assignment. -/
def Settings.over (settings : Settings) (given : Assignment) (values : Values) : Values :=
  fun field => if field ∈ settings.map (·.1) then (given field).getD (values field) else values field

variable {given : Assignment} {settings front back : Settings}

theorem over_append : (front ++ back).over given values = back.over given (front.over given values) := by
  funext field
  simp only [Settings.over, List.map_append, List.mem_append]
  by_cases later : field ∈ back.map (·.1)
  · by_cases earlier : field ∈ front.map (·.1)
    · cases given field <;> simp [later, earlier]
    · simp [later, earlier]
  · simp only [later, or_false, if_false]

theorem over_singleton {field : Field} {wanted : field.Carrier} (found : Value)
    (same : given field = some wanted) :
    Settings.over [(field, found)] given values = Function.update values field wanted := by
  funext other
  by_cases here : other = field
  · subst here
    simp [Settings.over, same]
  · simp [Settings.over, here]

/-- The entries of the table of a section are laid over it one after another. -/
theorem Section.Holds.overlayAll {part : Section} (holds : part.Holds value values)
    (inPart : ∀ setting ∈ settings, setting.1.place = part) (agree : settings.Agree given) :
    part.Holds (value.overlayAll (settings.map fun setting => (setting.1.name, setting.2)))
      (settings.over given values) := by
  induction settings generalizing value values with
  | nil => exact holds
  | cons setting settings ih =>
      rcases setting with ⟨field, found⟩
      rcases agree _ List.mem_cons_self with ⟨wanted, same, read⟩
      have changed := holds.change (inPart _ List.mem_cons_self) read
      rw [← over_singleton found same] at changed
      rw [← List.singleton_append, over_append]
      exact ih changed (fun setting member => inPart setting (List.mem_cons_of_mem _ member))
        fun setting member => agree setting (List.mem_cons_of_mem _ member)

theorem ofKey_section (part : Section) : KeyPath.ofKey part.name = [.name part.name] := by
  cases part <;> rfl

theorem ofKey_field (field : Field) :
    KeyPath.ofKey field.key = [.name field.place.name, .name field.name] := by
  cases field <;> rfl

theorem Holds.withEntry {entry : String × Value} (holds : Holds value values)
    (gives : EntryGives entry settings) (agree : settings.Agree given) :
    Holds (value.changeAt (KeyPath.ofKey entry.1) fun old => old.overlay entry.2)
      (settings.over given values) := by
  cases gives with
  | field field found =>
      rcases agree _ List.mem_cons_self with ⟨wanted, same, read⟩
      rw [ofKey_field, over_singleton found same]
      refine holds.change (fun part partHolds => partHolds.change rfl read) fun other unlike => ?_
      refine Function.update_of_ne ?_ _ _
      rintro rfl
      exact unlike rfl
  | @table part _ inPart =>
      rw [ofKey_section]
      refine holds.change (fun old oldHolds => ?_) fun other unlike => if_neg ?_
      · rcases oldHolds with ⟨entries, rfl, each⟩
        exact Section.Holds.overlayAll ⟨entries, rfl, each⟩ inPart agree
      · rintro member
        rcases List.mem_map.mp member with ⟨setting, listed, rfl⟩
        exact unlike (inPart setting listed)

theorem Holds.withSettings {layer : List (String × Value)} (holds : Holds value values)
    (gives : LayerGives layer settings) (agree : settings.Agree given) :
    Holds (value.withLayer layer) (settings.over given values) := by
  induction gives generalizing value values with
  | nil => exact holds
  | cons first others ih =>
      rw [over_append]
      refine ih (holds.withEntry first fun setting member => ?_) fun setting member => ?_
      · exact agree setting (List.mem_append_left _ member)
      · exact agree setting (List.mem_append_right _ member)

/-- A layer changes the fields that it gives values to, and no others. -/
theorem Holds.withLayer {layer : List (String × Value)} (holds : Holds value values)
    (assigns : Assigns layer given) : Holds (value.withLayer layer) (given.over values) := by
  rcases assigns with ⟨settings, gives, agree, all⟩
  have same : settings.over given values = given.over values := by
    funext field
    rw [Settings.over, Assignment.over]
    split_ifs with member
    · rfl
    · cases assigned : given field with
      | none => rfl
      | some wanted => exact absurd (all field (by rw [assigned]; rfl)) member
  rw [← same]
  exact holds.withSettings gives agree

end GracefulStop.Config
