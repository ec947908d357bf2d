import GracefulStop.Proofs.Toml.Lines
import Mathlib.Data.List.Nodup

/-!
# Tables

The lines of a document make its table again. A header leads to a place that no line has filled yet, so
each table and each element of an array of tables is made at the end of what is there. Only the order
of the entries of a table changes: those in lines of their own come first.
-/

namespace GracefulStop.Toml

variable {entries : List (String × Toml)} {items : List Toml} {value : Toml} {depth : Nat}

/-- A value that is written and read back: in the line of its entry, or under headers. The tables in
a table have different names, and so many of them stand inside one another at most. -/
inductive IsSound : (depth : Nat) → Toml → Prop where
  | inline {depth : Nat} {value : Toml} (inline : IsInline value) : IsSound depth value
  | table {depth : Nat} {entries : List (String × Toml)} (names : (entries.map (·.1)).Nodup)
      (each : ∀ entry ∈ entries, IsSound depth entry.2) : IsSound (depth + 1) (.table entries)
  | tables {depth : Nat} {items : List Toml} (filled : items ≠ [])
      (tables : ∀ item ∈ items, isTable item = true) (each : ∀ item ∈ items, IsSound depth item) :
      IsSound depth (.array items)

mutual

/-- A value with the entries of its tables in the order in which they are read back. -/
def settle : Toml → Toml
  | .table entries => .table (entries.filter (fun entry => isPlain entry.2) ++ settleHeaded entries)
  | .array items => .array (settleItems items)
  | value => value

/-- The entries of a table that have headers. -/
def settleHeaded : List (String × Toml) → List (String × Toml)
  | [] => []
  | (name, value) :: rest =>
    if isPlain value then settleHeaded rest else (name, settle value) :: settleHeaded rest

/-- The items of an array, each with its tables settled. -/
def settleItems : List Toml → List Toml
  | [] => []
  | item :: rest => settle item :: settleItems rest

end

/-- The entries of a document in the order in which they are read back. -/
def settleEntries (entries : List (String × Toml)) : List (String × Toml) :=
  entries.filter (fun entry => isPlain entry.2) ++ settleHeaded entries

/-! ## Lines -/

theorem isPlain_of_scalar (scalar : IsScalar value) : isPlain value = true := by
  cases scalar <;> rfl

theorem isPlain_of_inline (inline : IsInline value) : isPlain value = true := by
  rcases inline with scalar | @⟨items, scalars⟩
  · exact isPlain_of_scalar scalar
  · match items with
    | [] => rfl
    | item :: items =>
        cases scalars item List.mem_cons_self <;> rfl

theorem isTableArray_of_tables (filled : items ≠ []) (tables : ∀ item ∈ items, isTable item = true) :
    isTableArray (.array items) = true := by
  cases items with
  | nil => exact absurd rfl filled
  | cons item items => exact List.all_eq_true.mpr tables

theorem isInline_of_isPlain (sound : IsSound depth value) (plain : isPlain value = true) :
    IsInline value := by
  cases sound with
  | inline inline => exact inline
  | table => simp [isPlain, isTable] at plain
  | tables filled tables => simp [isPlain, isTableArray_of_tables filled tables] at plain

theorem plainLines_sound (each : ∀ entry ∈ entries, IsSound depth entry.2) :
    ∀ line ∈ plainLines entries, line.IsSound := by
  intro line member
  simp only [plainLines, List.mem_map, List.mem_filter] at member
  rcases member with ⟨entry, ⟨listed, plain⟩, rfl⟩
  exact .entry ⟨by simp, by simp [Text.deepest]⟩ (isInline_of_isPlain (each entry listed) plain)

theorem headedLines_sound {path : List String}
    (each : ∀ entry ∈ entries, ∀ line ∈ valueLines (path ++ [entry.1]) entry.2, line.IsSound) :
    ∀ line ∈ headedLines path entries, line.IsSound := by
  induction entries with
  | nil => simp [headedLines]
  | cons entry entries ih =>
      intro line member
      rw [headedLines, List.mem_append] at member
      rcases member with first | others
      · exact each entry List.mem_cons_self line first
      · exact ih (fun entry member => each entry (List.mem_cons_of_mem _ member)) line others

theorem elementLines_sound {path : List String}
    (each : ∀ item ∈ items, ∀ line ∈ valueLines path item, line.IsSound) :
    ∀ line ∈ elementLines path items, line.IsSound := by
  induction items with
  | nil => simp [elementLines]
  | cons item items ih =>
      have first := each item List.mem_cons_self
      have others := ih fun item member => each item (List.mem_cons_of_mem _ member)
      cases item with
      | table entries =>
          rw [valueLines] at first
          intro line member
          simp only [elementLines, List.mem_cons, List.mem_append] at member
          rcases member with rfl | (plain | headed) | later
          · cases first _ List.mem_cons_self with
            | header sound => exact .element sound
          · exact first line (by simp [plain])
          · exact first line (by simp [headed])
          · exact others line later
      | _ => exact others

theorem valueLines_plain {path : List String} (plain : isPlain value = true) :
    valueLines path value = [] := by
  cases value with
  | table => simp [isPlain, isTable] at plain
  | array items => 
      simp only [isPlain, Bool.and_eq_true, Bool.not_eq_true'] at plain
      simp [valueLines, plain.2]
  | _ => rfl

/-- The lines under a header are sound if the paths of the headers are not too long. -/
theorem valueLines_sound (sound : IsSound depth value) {path : List String} (filled : path ≠ [])
    (few : path.length + depth ≤ Text.deepest + 1) :
    ∀ line ∈ valueLines path value, line.IsSound := by
  induction sound generalizing path with
  | inline inline => simp [valueLines_plain (isPlain_of_inline inline)]
  | table names each ih =>
      intro line member
      rw [valueLines, List.mem_cons, List.mem_append] at member
      rcases member with rfl | plain | headed
      · exact .header ⟨filled, by omega⟩
      · exact plainLines_sound each line plain
      · refine headedLines_sound (fun entry listed => ih entry listed (by simp) ?_) line headed
        simp only [List.length_append, List.length_cons, List.length_nil]
        omega
  | tables nonempty tables each ih =>
      rw [valueLines, if_pos (isTableArray_of_tables nonempty tables)]
      exact elementLines_sound fun item member => ih item member filled few

theorem documentLines_sound (sound : IsSound (depth + 1) (.table entries))
    (few : depth ≤ Text.deepest) : ∀ line ∈ documentLines entries, line.IsSound := by
  have each : ∀ entry ∈ entries, IsSound depth entry.2 := by
    cases sound with
    | inline inline => exact absurd (isPlain_of_inline inline) (by simp [isPlain, isTable])
    | table names each => exact each
  intro line member
  rw [documentLines, List.mem_append] at member
  rcases member with plain | headed
  · exact plainLines_sound each line plain
  · refine headedLines_sound (fun entry listed => ?_) line headed
    refine valueLines_sound (each entry listed) (by simp) ?_
    simp only [List.nil_append, List.length_cons, List.length_nil]
    omega

/-! ## Places -/

namespace Entries

variable {inner before : Entries} {name : String} {path : List String} {place : Entries → Entries}

theorem change_new (edit : Option Node → Option Node) (new : name ∉ before.map (·.1)) :
    before.change name edit = (edit none).map fun node => before ++ [(name, node)] := by
  induction before with
  | nil => simp [change]
  | cons entry before ih =>
      simp only [List.map_cons, List.mem_cons, not_or] at new
      simp [change, Ne.symm new.1, ih new.2, Function.comp_def]

theorem change_last (edit : Option Node → Option Node) (node : Node)
    (new : name ∉ before.map (·.1)) :
    Entries.change name edit (before ++ [(name, node)]) =
      (edit (some node)).map fun node => before ++ [(name, node)] := by
  induction before with
  | nil => simp [change]
  | cons entry before ih =>
      simp only [List.map_cons, List.mem_cons, not_or] at new
      simp [change, Ne.symm new.1, ih new.2, Function.comp_def]

/-- A path leads to a place among entries: what a header or an entry after a header changes at the
end of the path is changed in that place. -/
def Leads (path : List String) (place : Entries → Entries) : Prop :=
  ∀ edit rest inner, changeAt .implied edit (path ++ rest) .defined (place inner) =
    (changeAt .implied edit rest .defined inner).map place

theorem leads_nil : Leads [] id := by
  intro edit rest inner
  simp

theorem Leads.table (leads : Leads path place) (new : name ∉ before.map (·.1)) :
    Leads (path ++ [name]) fun inner => place (before ++ [(name, .table .defined inner)]) := by
  intro edit rest inner
  rw [List.append_assoc, leads, List.singleton_append, changeAt, change_last _ _ new]
  simp [Opened.along, Function.comp_def]

theorem Leads.tables (leads : Leads path place) (earlier : List Entries)
    (new : name ∉ before.map (·.1)) :
    Leads (path ++ [name]) fun inner => place (before ++ [(name, .tables earlier inner)]) := by
  intro edit rest inner
  rw [List.append_assoc, leads, List.singleton_append, changeAt, change_last _ _ new]
  simp [Function.comp_def]

theorem splitLast_append (path : List String) (name : String) :
    splitLast (path ++ [name]) = some (path, name) := by
  induction path with
  | nil => rfl
  | cons first path ih =>
      cases path with
      | nil => rfl
      | cons second path =>
          rw [List.cons_append, List.cons_append, splitLast, ← List.cons_append, ih]
          · rfl
          · simp

/-! ## One line -/

theorem Leads.addLine_entry (leads : Leads path place) (value : Toml)
    (new : name ∉ inner.map (·.1)) :
    addLine (place inner) path (.entry [name] value) =
      some (place (inner ++ [(name, .leaf value)]), path) := by
  have changed edit := leads edit [] inner
  simp only [List.append_nil] at changed
  simp [addLine, changed, changeAt, assign, splitLast, change_new _ new]

theorem Leads.addLine_header (leads : Leads path place) (current : List String)
    (new : name ∉ inner.map (·.1)) :
    addLine (place inner) current (.header (path ++ [name])) =
      some (place (inner ++ [(name, .table .defined [])]), path ++ [name]) := by
  have changed edit := leads edit [] inner
  simp only [List.append_nil] at changed
  simp [addLine, define, splitLast_append, changed, changeAt, change_new _ new]

theorem Leads.addLine_first (leads : Leads path place) (current : List String)
    (new : name ∉ inner.map (·.1)) :
    addLine (place inner) current (.element (path ++ [name])) =
      some (place (inner ++ [(name, .tables [] [])]), path ++ [name]) := by
  have changed edit := leads edit [] inner
  simp only [List.append_nil] at changed
  simp [addLine, append, splitLast_append, changed, changeAt, change_new _ new]

theorem Leads.addLine_next (leads : Leads path place) (current : List String)
    (earlier : List Entries) (last : Entries) (new : name ∉ before.map (·.1)) :
    addLine (place (before ++ [(name, .tables earlier last)])) current (.element (path ++ [name])) =
      some (place (before ++ [(name, .tables (earlier ++ [last]) [])]), path ++ [name]) := by
  have changed edit := leads edit [] (before ++ [(name, .tables earlier last)])
  simp only [List.append_nil] at changed
  simp [addLine, append, splitLast_append, changed, changeAt, change_last _ _ new]

/-! ## The lines of a table -/

/-- Lines lead from entries to entries, whatever lines follow. -/
def Yields (before : Entries) (current : List String) (lines : List Line) (after : Entries) : Prop :=
  ∃ final, ∀ more, addLines before current (lines ++ more) = addLines after final more

/-- A value makes a node: its lines fill a place in which its name is new. -/
def Makes (value : Toml) (node : Node) : Prop :=
  ∀ {path place inner name}, Leads path place → name ∉ inner.map (·.1) → ∀ current,
    Yields (place inner) current (valueLines (path ++ [name]) value) (place (inner ++ [(name, node)]))

theorem Yields.cons {middle after : Entries} {current next : List String} {line : Line}
    {lines : List Line} (step : addLine before current line = some (middle, next))
    (others : Yields middle next lines after) : Yields before current (line :: lines) after := by
  rcases others with ⟨final, others⟩
  exact ⟨final, fun more => by simp [addLines, step, others]⟩

theorem Yields.append {middle after : Entries} {current : List String} {front back : List Line}
    (first : Yields before current front middle)
    (second : ∀ current, Yields middle current back after) :
    Yields before current (front ++ back) after := by
  rcases first with ⟨next, first⟩
  rcases second next with ⟨final, second⟩
  exact ⟨final, fun more => by rw [List.append_assoc, first, second]⟩

theorem Yields.nil {current : List String} : Yields before current [] before :=
  ⟨current, fun _ => rfl⟩

/-- The nodes of entries that are written whole. -/
def leaves (entries : List (String × Toml)) : Entries :=
  entries.map fun entry => (entry.1, .leaf entry.2)

theorem new_append {other : String} {node : Node} (new : other ∉ inner.map (·.1))
    (unlike : other ≠ name) : other ∉ (inner ++ [(name, node)]).map (·.1) := by
  simp only [List.map_append, List.map_cons, List.map_nil, List.mem_append, List.mem_singleton,
    not_or]
  exact ⟨new, unlike⟩

theorem Leads.yields_leaves (leads : Leads path place)
    (new : ∀ entry ∈ entries, entry.1 ∉ inner.map (·.1)) (names : (entries.map (·.1)).Nodup)
    {after : Entries} {more : List Line}
    (others : Yields (place (inner ++ leaves entries)) path more after) :
    Yields (place inner) path ((entries.map fun entry => .entry [entry.1] entry.2) ++ more) after := by
  induction entries generalizing inner with
  | nil => simpa [leaves] using others
  | cons entry entries ih =>
      simp only [List.map_cons, List.nodup_cons] at names
      refine .cons (leads.addLine_entry entry.2 (new entry List.mem_cons_self)) (ih ?_ names.2 ?_)
      · intro other member
        refine new_append (new other (List.mem_cons_of_mem _ member)) ?_
        intro same
        exact names.1 (same ▸ List.mem_map_of_mem member)
      · simpa [leaves] using others

/-- The entries of a table that have headers make nodes at the end of what is there. -/
theorem makes_headed
    (makes : ∀ entry ∈ entries, isPlain entry.2 = false →
      ∃ node, Makes entry.2 node ∧ node.value = settle entry.2)
    (names : (entries.map (·.1)).Nodup) :
    ∃ nodes, entryValues nodes = settleHeaded entries ∧ ∀ {path place inner}, Leads path place →
      (∀ entry ∈ entries, isPlain entry.2 = false → entry.1 ∉ inner.map (·.1)) → ∀ current,
      Yields (place inner) current (headedLines path entries) (place (inner ++ nodes)) := by
  induction entries with
  | nil =>
      refine ⟨[], rfl, fun {path place inner} _ _ current => ?_⟩
      simpa [headedLines] using Yields.nil
  | cons entry entries ih =>
      simp only [List.map_cons, List.nodup_cons] at names
      rcases ih (fun entry member => makes entry (List.mem_cons_of_mem _ member)) names.2
        with ⟨nodes, values, yields⟩
      by_cases plain : isPlain entry.2 = true
      · refine ⟨nodes, by simpa [settleHeaded, plain] using values, ?_⟩
        intro path place inner leads new current
        have others := yields leads (fun entry member => new entry (List.mem_cons_of_mem _ member))
        simpa [headedLines, valueLines_plain plain] using others current
      · have headed : isPlain entry.2 = false := by simpa using plain
        rcases makes entry List.mem_cons_self headed with ⟨node, makesNode, same⟩
        refine ⟨(entry.1, node) :: nodes, by simp [entryValues, settleHeaded, headed, values, same], ?_⟩
        intro path place inner leads new current
        have first := makesNode leads (new entry List.mem_cons_self headed) current
        have newLater : ∀ other ∈ entries, isPlain other.2 = false →
            other.1 ∉ (inner ++ [(entry.1, node)]).map (·.1) := by
          intro other member otherHeaded
          refine new_append (new other (List.mem_cons_of_mem _ member) otherHeaded) ?_
          intro same
          exact names.1 (same ▸ List.mem_map_of_mem member)
        have both := first.append (yields leads newLater)
        simpa [headedLines] using both

/-- Lines fill a table, wherever it is. -/
def Fills (entries : List (String × Toml)) (nodes : Entries) : Prop :=
  ∀ {path place}, Leads path place →
    Yields (place []) path (plainLines entries ++ headedLines path entries) (place nodes)

theorem entryValues_leaves : entryValues (leaves entries ++ inner) = entries ++ entryValues inner := by
  induction entries with
  | nil => rfl
  | cons entry entries ih => simpa [leaves, entryValues, Node.value] using ih

theorem fills_settled
    (makes : ∀ entry ∈ entries, isPlain entry.2 = false →
      ∃ node, Makes entry.2 node ∧ node.value = settle entry.2)
    (names : (entries.map (·.1)).Nodup) :
    ∃ nodes, entryValues nodes = settleEntries entries ∧ Fills entries nodes := by
  rcases makes_headed makes names with ⟨nodes, values, yields⟩
  let plains := entries.filter fun entry => isPlain entry.2
  refine ⟨leaves plains ++ nodes, by simp [entryValues_leaves, values, settleEntries, plains], ?_⟩
  intro path place leads
  refine leads.yields_leaves (by simp) (names.sublist (List.filter_sublist.map _)) ?_
  simp only [List.nil_append]
  refine yields leads (fun entry member headed listed => ?_) path
  simp only [leaves, List.map_map, List.mem_map, List.mem_filter, Function.comp_apply] at listed
  rcases listed with ⟨other, ⟨otherMember, plain⟩, same⟩
  rw [List.inj_on_of_nodup_map names otherMember member same, headed] at plain
  exact absurd plain (by decide)

theorem makes_table {nodes : Entries} (fills : Fills entries nodes) :
    Makes (.table entries) (.table .defined nodes) := by
  intro path place inner name leads new current
  rw [valueLines]
  exact .cons (leads.addLine_header current new) (fills (leads.table new))

/-- The tables of an array are filled as the lines of the elements say. -/
def FillsEach (items : List Toml) (tables : List Entries) : Prop :=
  List.Forall₂ (fun item nodes => ∃ entries, item = .table entries ∧
    entryValues nodes = settleEntries entries ∧ Fills entries nodes) items tables

theorem tableValues_settled {tables : List Entries} (fills : FillsEach items tables) :
    tableValues tables = settleItems items := by
  induction fills with
  | nil => rfl
  | cons first others ih =>
      rcases first with ⟨entries, rfl, values, _⟩
      simp [tableValues, settleItems, settle, ih, values, settleEntries]

theorem isTable_of_fillsEach {tables : List Entries} (fills : FillsEach items tables) :
    ∀ item ∈ items, isTable item = true := by
  induction fills with
  | nil => simp
  | cons first others ih =>
      rcases first with ⟨entries, rfl, _, _⟩
      simpa [isTable] using ih

theorem exists_fillsEach
    (each : ∀ item ∈ items, ∃ entries nodes, item = .table entries ∧
      entryValues nodes = settleEntries entries ∧ Fills entries nodes) :
    ∃ tables, FillsEach items tables := by
  induction items with
  | nil => exact ⟨[], .nil⟩
  | cons item items ih =>
      rcases each item List.mem_cons_self with ⟨entries, nodes, first⟩
      rcases ih fun item member => each item (List.mem_cons_of_mem _ member) with ⟨tables, others⟩
      exact ⟨nodes :: tables, .cons ⟨entries, first⟩ others⟩

/-- The node of an array of tables: those before its last one, the last one at first, and those that
followed. -/
def arrayNode (earlier : List Entries) (last : Entries) : List Entries → Node
  | [] => .tables earlier last
  | next :: rest => arrayNode (earlier ++ [last]) next rest

theorem tableValues_append (front back : List Entries) :
    tableValues (front ++ back) = tableValues front ++ tableValues back := by
  induction front with
  | nil => rfl
  | cons entries front ih => simp [tableValues, ih]

theorem value_arrayNode (earlier : List Entries) (last : Entries) (rest : List Entries) :
    (arrayNode earlier last rest).value = .array (tableValues (earlier ++ last :: rest)) := by
  induction rest generalizing earlier last with
  | nil => simp [arrayNode, Node.value, tableValues_append, tableValues]
  | cons next rest ih => simp [arrayNode, ih]

/-- The elements of an array of tables that follow others. -/
theorem yields_later {tables : List Entries} (fills : FillsEach items tables)
    (leads : Leads path place) (new : name ∉ inner.map (·.1)) (earlier : List Entries)
    (last : Entries) (current : List String) :
    Yields (place (inner ++ [(name, .tables earlier last)])) current
      (elementLines (path ++ [name]) items)
      (place (inner ++ [(name, arrayNode earlier last tables)])) := by
  induction fills generalizing earlier last current with
  | nil => simpa [elementLines, arrayNode] using Yields.nil
  | cons first others ih =>
      rcases first with ⟨entries, rfl, _, fills⟩
      rw [elementLines]
      exact .cons (leads.addLine_next current earlier last new)
        ((fills (leads.tables (earlier ++ [last]) new)).append (ih (earlier ++ [last]) _))

theorem makes_tables {first : Entries} {tables : List Entries}
    (fills : FillsEach items (first :: tables)) :
    Makes (.array items) (arrayNode [] first tables) := by
  intro path place inner name leads new current
  have array : isTableArray (.array items) = true :=
    isTableArray_of_tables (by cases fills; simp) (isTable_of_fillsEach fills)
  cases fills with
  | cons head others =>
      rcases head with ⟨entries, rfl, _, fills⟩
      rw [valueLines, if_pos array, elementLines]
      exact .cons (leads.addLine_first current new)
        ((fills (leads.tables [] new)).append (yields_later others leads new [] _))

/-- The lines of a sound table fill it. -/
theorem fills_of_sound (sound : IsSound depth value) :
    (isPlain value = false → ∃ node, Makes value node ∧ node.value = settle value) ∧
      ∀ entries, value = .table entries →
        ∃ nodes, entryValues nodes = settleEntries entries ∧ Fills entries nodes := by
  induction sound with
  | inline inline =>
      have plain := isPlain_of_inline inline
      refine ⟨fun headed => absurd plain (by simp [headed]), ?_⟩
      rintro entries rfl
      simp [isPlain, isTable] at plain
  | table names each ih =>
      rcases fills_settled (fun entry member => (ih entry member).1) names with ⟨nodes, values, fills⟩
      refine ⟨fun _ => ⟨_, makes_table fills, ?_⟩, ?_⟩
      · simp [Node.value, settle, values, settleEntries]
      · intro entries same
        rw [← Toml.table.inj same]
        exact ⟨nodes, values, fills⟩
  | tables filled tables each ih =>
      refine ⟨fun _ => ?_, nofun⟩
      have fillEach := exists_fillsEach fun item member => by
        have table := tables item member
        cases item with
        | table entries =>
            rcases (ih _ member).2 entries rfl with ⟨nodes, values, fills⟩
            exact ⟨entries, nodes, rfl, values, fills⟩
        | _ => simp [isTable] at table
      rcases fillEach with ⟨tables, fills⟩
      have values := tableValues_settled fills
      cases tables with
      | nil => cases fills; exact absurd rfl filled
      | cons first tables =>
          refine ⟨_, makes_tables fills, ?_⟩
          simp [value_arrayNode, values, settle]

end Entries

/-- The text of a document and of blank lines after it. -/
theorem document_blank (entries : List (String × Toml)) (blank : Nat) :
    document entries ++ String.ofList (List.replicate blank '\n') =
      String.ofList (linesChars true (documentLines entries) ++ List.replicate blank '\n') := by
  rw [document, String.ofList_append]

/-- A document is read back, with the entries of its tables in the order in which they are written. -/
theorem read?_document_blank (sound : IsSound (depth + 1) (.table entries))
    (few : depth ≤ Text.deepest) (blank : Nat) :
    read? (document entries ++ String.ofList (List.replicate blank '\n')) =
      some (settleEntries entries) := by
  rcases (Entries.fills_of_sound sound).2 entries rfl with ⟨nodes, values, fills⟩
  rcases fills Entries.leads_nil with ⟨final, yields⟩
  have made := yields []
  simp only [List.append_nil, id, Entries.addLines] at made
  rw [read?, document_blank, lines?_of_sound (documentLines_sound sound few), Option.bind_some,
    ofLines?, documentLines, made, Option.map_some, values]

theorem read?_document (sound : IsSound (depth + 1) (.table entries)) (few : depth ≤ Text.deepest) :
    read? (document entries) = some (settleEntries entries) := by
  simpa using read?_document_blank sound few 0

/-- A document begins with no mark of its encoding. -/
theorem skipMark_document (sound : IsSound (depth + 1) (.table entries))
    (few : depth ≤ Text.deepest) (blank : Nat) :
    String.ofList (Text.skipMark
        (document entries ++ String.ofList (List.replicate blank '\n')).toList) =
      document entries ++ String.ofList (List.replicate blank '\n') := by
  rw [document_blank, String.toList_ofList,
    Text.skipMark_linesChars (documentLines_sound sound few)]

/-! ## What stands at a name -/

theorem settle_scalar (scalar : IsScalar value) : settle value = value := by
  cases scalar <;> rfl

theorem settle_inline (inline : IsInline value) : settle value = value := by
  rcases inline with scalar | @⟨items, scalars⟩
  · exact settle_scalar scalar
  · have same : settleItems items = items := by
      induction items with
      | nil => rfl
      | cons item items ih =>
          simp [settleItems, settle_scalar (scalars item List.mem_cons_self),
            ih fun item member => scalars item (List.mem_cons_of_mem _ member)]
    rw [settle, same]

theorem lookup_new {Value : Type} {entries : List (String × Value)} {name : String}
    (new : name ∉ entries.map (·.1)) : entries.lookup name = none := by
  rw [List.lookup_eq_none_iff]
  intro entry member
  simp only [bne_iff_ne, ne_eq]
  rintro rfl
  exact new (List.mem_map_of_mem member)

theorem lookup_plain (names : (entries.map (·.1)).Nodup) (name : String) :
    (entries.filter fun entry => isPlain entry.2).lookup name =
      (entries.lookup name).filter isPlain := by
  induction entries with
  | nil => rfl
  | cons entry entries ih =>
      rcases entry with ⟨other, value⟩
      simp only [List.map_cons, List.nodup_cons] at names
      by_cases same : name = other
      · subst same
        by_cases plain : isPlain value = true
        · simp [plain, Option.filter]
        · simp [plain, ih names.2, lookup_new names.1, Option.filter]
      · have unlike : (name == other) = false := by simpa using same
        by_cases plain : isPlain value = true
        · simp [plain, List.lookup_cons, unlike, ih names.2]
        · simp [plain, List.lookup_cons, unlike, ih names.2]

theorem lookup_settleHeaded (names : (entries.map (·.1)).Nodup) (name : String) :
    (settleHeaded entries).lookup name =
      ((entries.lookup name).filter fun value => !isPlain value).map settle := by
  induction entries with
  | nil => rfl
  | cons entry entries ih =>
      rcases entry with ⟨other, value⟩
      simp only [List.map_cons, List.nodup_cons] at names
      by_cases same : name = other
      · subst same
        by_cases plain : isPlain value = true
        · simp [settleHeaded, plain, ih names.2, lookup_new names.1, Option.filter]
        · simp [settleHeaded, plain, Option.filter]
      · have unlike : (name == other) = false := by simpa using same
        by_cases plain : isPlain value = true
        · simp [settleHeaded, plain, List.lookup_cons, unlike, ih names.2]
        · simp [settleHeaded, plain, List.lookup_cons, unlike, ih names.2]

/-- The order in which entries are read back does not matter to who looks a name up. -/
theorem lookup_settleEntries (names : (entries.map (·.1)).Nodup)
    (each : ∀ entry ∈ entries, IsSound depth entry.2) (name : String) :
    (settleEntries entries).lookup name = (entries.lookup name).map settle := by
  rw [settleEntries, List.lookup_append, lookup_plain names, lookup_settleHeaded names]
  cases found : entries.lookup name with
  | none => rfl
  | some value =>
      have member : (name, value) ∈ entries := by
        rcases List.lookup_eq_some_iff.mp found with ⟨front, back, rfl, _⟩
        simp
      by_cases plain : isPlain value = true
      · have inline := isInline_of_isPlain (each _ member) plain
        simp [Option.filter, plain, settle_inline inline]
      · simp [Option.filter, plain]

/-- What is written item by item is read back item by item. -/
theorem mapM_map {Written Item : Type} {write : Item → Written} {read : Written → Option Item}
    {items : List Item} (back : ∀ item ∈ items, read (write item) = some item) :
    (items.map write).mapM read = some items := by
  induction items with
  | nil => rfl
  | cons item items ih =>
      rw [List.map_cons, List.mapM_cons, back item List.mem_cons_self,
        ih fun item member => back item (List.mem_cons_of_mem _ member)]
      rfl

theorem settle_table (entries : List (String × Toml)) :
    settle (.table entries) = .table (settleEntries entries) := by
  rw [settle, settleEntries]

theorem settleItems_eq_map (items : List Toml) : settleItems items = items.map settle := by
  induction items with
  | nil => rfl
  | cons item items ih => rw [settleItems, List.map_cons, ih]

theorem settleHeaded_eq_map (entries : List (String × Toml)) :
    settleHeaded entries =
      (entries.filter fun entry => !isPlain entry.2).map fun entry => (entry.1, settle entry.2) := by
  induction entries with
  | nil => rfl
  | cons entry entries ih =>
      by_cases plain : isPlain entry.2 = true
      · simp [settleHeaded, plain, ih]
      · simp [settleHeaded, plain, ih]

theorem settleEntries_plain {entries : List (String × Toml)}
    (plain : ∀ entry ∈ entries, isPlain entry.2 = true) : settleEntries entries = entries := by
  have headed : entries.filter (fun entry => !isPlain entry.2) = [] := by simpa using plain
  rw [settleEntries, settleHeaded_eq_map, headed, List.map_nil, List.append_nil,
    List.filter_eq_self.mpr plain]

theorem settleEntries_append {front back : List (String × Toml)}
    (plain : ∀ entry ∈ front, isPlain entry.2 = true) :
    settleEntries (front ++ back) = front ++ settleEntries back := by
  have headed : front.filter (fun entry => !isPlain entry.2) = [] := by simpa using plain
  rw [settleEntries, settleEntries, settleHeaded_eq_map, settleHeaded_eq_map, List.filter_append,
    List.filter_append, headed, List.filter_eq_self.mpr plain, List.nil_append, List.append_assoc]

theorem settleEntries_singleton {name : String} {value : Toml} (same : settle value = value) :
    settleEntries [(name, value)] = [(name, value)] := by
  rw [settleEntries, settleHeaded_eq_map]
  by_cases plain : isPlain value = true
  · simp [plain]
  · simp [plain, same]

/-- Entries that are all tables are read back in their order. -/
theorem settleEntries_tables {entries : List (String × Toml)}
    (tables : ∀ entry ∈ entries, isPlain entry.2 = false) :
    settleEntries entries = entries.map fun entry => (entry.1, settle entry.2) := by
  have plain : entries.filter (fun entry => isPlain entry.2) = [] := by simpa using tables
  have headed : entries.filter (fun entry => !isPlain entry.2) = entries := by simpa using tables
  rw [settleEntries, settleHeaded_eq_map, plain, headed, List.nil_append]

/-- The entry of a settled table is the settled entry of the table. -/
theorem member?_settle {entries : List (String × Toml)} {depth : Nat}
    (sound : IsSound (depth + 1) (.table entries)) (name : String) :
    (settle (.table entries)).member? name = (entries.lookup name).map settle := by
  cases sound with
  | inline inline => exact absurd (isPlain_of_inline inline) (by simp [isPlain, isTable])
  | table names each => rw [settle_table, member?, lookup_settleEntries names each]

end GracefulStop.Toml
