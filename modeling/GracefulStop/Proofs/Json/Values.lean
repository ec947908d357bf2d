import GracefulStop.Proofs.Json.Scalars
import GracefulStop.Proofs.KeyMap

/-!
# Values that are read back from their texts

The text of a value on one line is read as this value, however deep its arrays and objects are nested up
to the deepest nesting that is read. The members of an object are read in the order of their names, so
that an object in this order is read as it is. Of a double it is taken that its own digits give it back.
-/

namespace GracefulStop.Json

/-- A double that its digits give back. -/
def ReadsBack (number : Float) : Prop :=
  read? (compact (.float number)) = some (.float number)

/-- A value that can be sent: whole numbers of 64 bits, signed or unsigned, doubles that their digits give
back, the members of objects in order, and arrays and objects nested at most so deep. -/
inductive IsValue : (depth : Nat) → Json → Prop where
  | null {depth : Nat} : IsValue depth .null
  | bool {depth : Nat} (truth : Bool) : IsValue depth (.bool truth)
  | int {depth : Nat} {n : Int} (least : -2 ^ 63 ≤ n) (greatest : n < 2 ^ 64) : IsValue depth (.int n)
  | float {depth : Nat} {number : Float} (same : ReadsBack number) : IsValue depth (.float number)
  | string {depth : Nat} (text : String) : IsValue depth (.string text)
  | array {depth : Nat} {items : List Json} (each : ∀ item ∈ items, IsValue depth item) :
      IsValue (depth + 1) (.array items)
  | object {depth : Nat} {members : List (String × Json)} (sorted : KeyMap.IsSorted members)
      (each : ∀ member ∈ members, IsValue depth member.2) : IsValue (depth + 1) (.object members)

theorem IsValue.mono {depth deeper : Nat} {value : Json} (sound : IsValue depth value)
    (less : depth ≤ deeper) : IsValue deeper value := by
  induction sound generalizing deeper with
  | null => exact .null
  | bool truth => exact .bool truth
  | int least greatest => exact .int least greatest
  | float same => exact .float same
  | string text => exact .string text
  | array each ih =>
      obtain ⟨deeper, rfl⟩ := Nat.exists_eq_add_of_lt less
      exact .array fun item member => ih item member (by omega)
  | object sorted each ih =>
      obtain ⟨deeper, rfl⟩ := Nat.exists_eq_add_of_lt less
      exact .object sorted fun entry member => ih entry member (by omega)

namespace Text

variable {c : Char} {text literal tail rest : List Char} {fuel depth : Nat} {tree : Tree}

/-! ## Values at the front of a text -/

theorem skipBlanks_start (start : isBlank c = false) : skipBlanks (c :: text) = c :: text := by
  simp [skipBlanks, start]

/-- A text that is read as a tree, whatever ends the value after it. It begins neither with a blank nor
with what would close an empty array. Fuel for two steps a character is enough: one is for the value that
begins there, and one for the list that it stands in. -/
structure Spells (text : List Char) (tree : Tree) : Prop where
  starts : ∃ c tail, text = c :: tail ∧ isBlank c = false ∧ c ≠ ']'
  read : ∀ {fuel rest}, 2 * text.length ≤ fuel → EndsValue rest →
    tree? fuel (text ++ rest) = some (tree, rest)

theorem spells_of_step (start : isBlank c = false) (unclosed : c ≠ ']')
    (read : ∀ {fuel rest}, 2 * (c :: tail).length ≤ fuel + 1 → EndsValue rest →
      tree? (fuel + 1) (c :: tail ++ rest) = some (tree, rest)) : Spells (c :: tail) tree where
  starts := ⟨c, tail, rfl, start, unclosed⟩
  read := by
    intro fuel rest enough ends
    obtain ⟨fuel, rfl⟩ : ∃ before, fuel = before + 1 :=
      Nat.exists_eq_succ_of_ne_zero (by simp only [List.length_cons] at enough; omega)
    exact read enough ends

theorem spells_null : Spells ['n', 'u', 'l', 'l'] .null :=
  spells_of_step rfl (by decide) fun _ _ => by simp [tree?, skipBlanks, isBlank]

theorem spells_true : Spells ['t', 'r', 'u', 'e'] (.bool true) :=
  spells_of_step rfl (by decide) fun _ _ => by simp [tree?, skipBlanks, isBlank]

theorem spells_false : Spells ['f', 'a', 'l', 's', 'e'] (.bool false) :=
  spells_of_step rfl (by decide) fun _ _ => by simp [tree?, skipBlanks, isBlank]

theorem quote_toList (text : String) :
    (quote text).toList = '"' :: (text.toList.flatMap escapeChar ++ ['"']) := by
  rw [quote, String.toList_ofList]

theorem spells_string (text : String) : Spells (quote text).toList (.string (some text)) := by
  rw [quote_toList]
  refine spells_of_step rfl (by decide) fun {fuel rest} _ _ => ?_
  rw [List.cons_append, List.append_assoc, List.singleton_append, tree?,
    skipBlanks_start rfl]
  simp only [string?_quoted, Option.map_some]

/-- A character with which a number literal begins. -/
def StartsNumber (c : Char) : Prop := c = '-' ∨ c.isDigit = true

theorem StartsNumber.unlike (starts : StartsNumber c) {other : Char} (minus : other ≠ '-')
    (digit : other.isDigit = false) : c ≠ other := by
  rintro rfl
  rcases starts with same | isDigit
  · exact minus same
  · rw [isDigit] at digit
    cases digit

theorem StartsNumber.noBlank (starts : StartsNumber c) : isBlank c = false := by
  rcases starts with rfl | digit
  · rfl
  · exact isBlank_of_isDigit digit

theorem startsNumber_of_number {rest : List Char} (read : number? text = some (literal, rest)) :
    ∃ c tail, text = c :: tail ∧ StartsNumber c := by
  cases text with
  | nil => cases read
  | cons c text =>
      refine ⟨c, text, rfl, ?_⟩
      by_cases minus : c = '-'
      · exact .inl minus
      · right
        rw [number?_plain (by simpa using minus)] at read
        simp only [magnitude?, Option.bind_eq_bind, Option.bind_eq_some_iff] at read
        obtain ⟨⟨whole, _⟩, wholeRead, _⟩ := read
        by_cases zero : c = '0'
        · rw [zero]
          rfl
        · rw [wholePart?_other (by simpa using zero)] at wholeRead
          obtain ⟨written, filled, each, _⟩ := digits?_eq_some wholeRead
          cases whole with
          | nil => exact absurd rfl filled
          | cons digit digits =>
              cases written
              exact each c List.mem_cons_self

/-- A number is what is left when no other value begins so. -/
theorem tree?_number (starts : StartsNumber c) :
    tree? (fuel + 1) (c :: text) =
      (number? (c :: text)).map fun (literal, rest) => (.number literal, rest) := by
  rw [tree?, skipBlanks_start starts.noBlank]
  split <;> first
    | rfl
    | rename_i same
      exact absurd (List.cons.inj same).1 (starts.unlike (by decide) (by decide))

theorem spells_number (read : number? text = some (text, [])) : Spells text (.number text) := by
  obtain ⟨c, tail, rfl, starts⟩ := startsNumber_of_number read
  refine spells_of_step starts.noBlank (starts.unlike (by decide) (by decide))
    fun {fuel rest} _ ends => ?_
  have more := (takes_number read).2 rest ends
  rw [List.cons_append] at more ⊢
  rw [tree?_number starts, more]
  rfl

theorem number?_of_tree? (read : tree? fuel text = some (.number literal, rest)) :
    number? (skipBlanks text) = some (literal, rest) := by
  cases fuel with
  | zero => cases read
  | succ fuel =>
      rw [tree?] at read
      split at read
      · cases read
      · cases read
      · cases read
      · simp at read
      · split at read
        · cases read
        · simp at read
      · split at read
        · cases read
        · simp at read
      · obtain ⟨⟨found, past⟩, numberRead, made⟩ := Option.map_eq_some_iff.mp read
        cases made
        exact numberRead

/-! ## Arrays and objects -/

theorem endsValue_cons {mark : Char} (ends : mark = ',' ∨ mark = ']' ∨ mark = '}') :
    EndsValue (mark :: rest) := by
  intro c first
  rw [← Option.some.inj first]
  exact ends

theorem items?_last (spells : Spells text tree) (enough : 2 * text.length ≤ fuel) :
    items? (fuel + 1) (text ++ ']' :: rest) = some ([tree], rest) := by
  rw [items?, spells.read enough (endsValue_cons (by simp))]
  rfl

theorem items?_more {trees : List Tree} (spells : Spells text tree)
    (enough : 2 * text.length ≤ fuel) (others : items? fuel tail = some (trees, rest)) :
    items? (fuel + 1) (text ++ ',' :: tail) = some (tree :: trees, rest) := by
  rw [items?, spells.read enough (endsValue_cons (by simp))]
  change (items? fuel tail).map _ = _
  rw [others]
  rfl

/-- Items with commas between them are read up to the bracket after them. -/
theorem items?_joined {items : List Json} {trees : List Tree}
    (spells : List.Forall₂ (fun item tree => Spells (compact item).toList tree) items trees)
    (filled : items ≠ [])
    (enough : 2 * ((String.intercalate "," (compactItems items)).toList.length + 1) ≤ fuel) :
    items? fuel ((String.intercalate "," (compactItems items)).toList ++ ']' :: rest) =
      some (trees, rest) := by
  induction spells generalizing fuel with
  | nil => exact absurd rfl filled
  | @cons item tree items trees first others ih =>
      obtain ⟨fuel, rfl⟩ : ∃ before, fuel = before + 1 := Nat.exists_eq_succ_of_ne_zero (by omega)
      cases others with
      | nil =>
          simp only [compactItems, String.intercalate_singleton] at enough ⊢
          exact items?_last first (by omega)
      | @cons next nextTree items trees second others =>
          -- the comma alone leaves fuel for the step from the first item to the others
          have tail := @ih fuel (List.cons_ne_nil _ _)
          simp only [compactItems, String.intercalate_cons_cons, String.toList_append,
            List.length_append, List.append_assoc] at enough tail ⊢
          have comma : ",".toList = [','] := rfl
          rw [comma] at enough ⊢
          rw [List.length_singleton] at enough
          exact items?_more first (by omega) (tail (by omega))

/-- What is written of a member before its value. -/
def nameChars (name : String) : List Char := (quote name).toList ++ [':']

theorem nameChars_append (name : String) (tail : List Char) :
    nameChars name ++ tail = '"' :: (name.toList.flatMap escapeChar ++ '"' :: ':' :: tail) := by
  simp [nameChars, quote_toList]

theorem members?_last {name : String} (spells : Spells text tree) (enough : 2 * text.length ≤ fuel) :
    members? (fuel + 1) (nameChars name ++ (text ++ '}' :: rest)) =
      some ([(some name, tree)], rest) := by
  have value := @spells.read _ ('}' :: rest) enough (endsValue_cons (by simp))
  simp [nameChars_append, members?, skipBlanks, isBlank, string?_quoted, value]

theorem members?_more {name : String} {trees : List (Option String × Tree)}
    (spells : Spells text tree) (enough : 2 * text.length ≤ fuel)
    (others : members? fuel tail = some (trees, rest)) :
    members? (fuel + 1) (nameChars name ++ (text ++ ',' :: tail)) =
      some ((some name, tree) :: trees, rest) := by
  have value := @spells.read _ (',' :: tail) enough (endsValue_cons (by simp))
  simp [nameChars_append, members?, skipBlanks, isBlank, string?_quoted, value, others]

/-- A tree that is read of the text of a member. -/
structure SpellsMember (member : String × Json) (tree : Option String × Tree) : Prop where
  name : tree.1 = some member.1
  value : Spells (compact member.2).toList tree.2

theorem toList_member (member : String × Json) :
    (quote member.1 ++ ":" ++ compact member.2).toList =
      nameChars member.1 ++ (compact member.2).toList := by
  have colon : ":".toList = [':'] := rfl
  rw [String.toList_append, String.toList_append, colon, nameChars]

theorem compactMembers_cons (member : String × Json) (members : List (String × Json)) :
    compactMembers (member :: members) =
      (quote member.1 ++ ":" ++ compact member.2) :: compactMembers members := rfl

/-- Members with commas between them are read up to the brace after them. -/
theorem members?_joined {members : List (String × Json)} {trees : List (Option String × Tree)}
    (spells : List.Forall₂ SpellsMember members trees) (filled : members ≠ [])
    (enough : 2 * ((String.intercalate "," (compactMembers members)).toList.length + 1) ≤ fuel) :
    members? fuel ((String.intercalate "," (compactMembers members)).toList ++ '}' :: rest) =
      some (trees, rest) := by
  induction spells generalizing fuel with
  | nil => exact absurd rfl filled
  | @cons member tree members trees first others ih =>
      obtain ⟨fuel, rfl⟩ : ∃ before, fuel = before + 1 := Nat.exists_eq_succ_of_ne_zero (by omega)
      have same : tree = (some member.1, tree.2) := Prod.ext first.name rfl
      cases others with
      | nil =>
          rw [compactMembers_cons, compactMembers, String.intercalate_singleton, toList_member] at *
          rw [List.length_append] at enough
          rw [List.append_assoc, members?_last first.value (by omega), ← same]
      | @cons next nextTree members trees second others =>
          have tail := @ih fuel (List.cons_ne_nil _ _)
          have comma : ",".toList = [','] := rfl
          rw [compactMembers_cons, compactMembers_cons, String.intercalate_cons_cons,
            ← compactMembers_cons, String.toList_append, String.toList_append, toList_member,
            comma] at enough ⊢
          simp only [List.length_append, List.append_assoc, List.length_singleton] at enough ⊢
          rw [List.singleton_append, members?_more first.value (by omega) (tail (by omega)), ← same]

theorem tree?_items (start : isBlank c = false) (unclosed : c ≠ ']') :
    tree? (fuel + 1) ('[' :: c :: text) =
      (items? fuel (c :: text)).map fun (items, rest) => (.array items, rest) := by
  rw [tree?, skipBlanks_start (c := '[') rfl]
  simp only [skipBlanks_start start]
  split
  · rename_i same
    exact absurd (List.cons.inj same).1 unclosed
  · rfl

theorem tree?_members {name : String} :
    tree? (fuel + 1) ('{' :: (nameChars name ++ text)) =
      (members? fuel (nameChars name ++ text)).map fun (members, rest) =>
        (.object members, rest) := by
  rw [tree?, skipBlanks_start (c := '{') rfl, nameChars_append]
  simp only [skipBlanks_start (c := '"') rfl]
  rfl

/-- The text of the first of some items stands in front of them. -/
theorem exists_joined (first : String) (others : List String) :
    ∃ more, (String.intercalate "," (first :: others)).toList = first.toList ++ more := by
  cases others with
  | nil => exact ⟨[], by simp⟩
  | cons second others =>
      exact ⟨_, by rw [String.intercalate_cons_cons, String.append_assoc, String.toList_append]⟩

theorem spells_array {items : List Json} {trees : List Tree}
    (spells : List.Forall₂ (fun item tree => Spells (compact item).toList tree) items trees) :
    Spells (compact (.array items)).toList (.array trees) := by
  have written : (compact (.array items)).toList =
      '[' :: ((String.intercalate "," (compactItems items)).toList ++ [']']) := by
    simp [compact]
  rw [written]
  refine spells_of_step rfl (by decide) fun {fuel rest} enough _ => ?_
  rw [List.cons_append, List.append_assoc, List.singleton_append]
  cases spells with
  | nil => rfl
  | @cons item tree items trees first others =>
      have read := @items?_joined rest fuel _ _ (.cons first others) (List.cons_ne_nil _ _)
        (by simp at enough ⊢; omega)
      obtain ⟨more, joined⟩ := exists_joined (compact item) (compactItems items)
      obtain ⟨c, tail, front, start, filled⟩ := first.starts
      rw [compactItems, joined, front, List.cons_append, List.cons_append] at read ⊢
      rw [tree?_items start filled, read]
      rfl

theorem spells_object {members : List (String × Json)} {trees : List (Option String × Tree)}
    (spells : List.Forall₂ SpellsMember members trees) :
    Spells (compact (.object members)).toList (.object trees) := by
  have written : (compact (.object members)).toList =
      '{' :: ((String.intercalate "," (compactMembers members)).toList ++ ['}']) := by
    simp [compact]
  rw [written]
  refine spells_of_step rfl (by decide) fun {fuel rest} enough _ => ?_
  rw [List.cons_append, List.append_assoc, List.singleton_append]
  cases spells with
  | nil => rfl
  | @cons member tree members trees first others =>
      have read := @members?_joined rest fuel _ _ (.cons first others) (List.cons_ne_nil _ _)
        (by simp at enough ⊢; omega)
      obtain ⟨more, joined⟩ := exists_joined (quote member.1 ++ ":" ++ compact member.2)
        (compactMembers members)
      rw [compactMembers_cons, joined, toList_member, List.append_assoc, List.append_assoc] at read ⊢
      rw [tree?_members, read]
      rfl

end Text

/-! ## Values -/

open GracefulStop.Json.Text

variable {depth : Nat} {value : Json} {tree : Tree}

theorem read?_of_spells (spells : Spells (compact value).toList tree) :
    read? (compact value) = tree.value? deepest := by
  have read := @spells.read (2 * (compact value).toList.length + 2) [] (by omega)
    (by simp [EndsValue])
  rw [List.append_nil] at read
  simp [read?, parse?, read, skipBlanks]

theorem number_of_value? {number : Float} (valued : tree.value? (depth + 1) = some (.float number)) :
    ∃ literal, tree = .number literal ∧ (Literal.ofChars literal).value? = some (.float number) := by
  cases tree with
  | number literal => exact ⟨literal, rfl, valued⟩
  | null => cases valued
  | bool truth => cases valued
  | string text => simp [Tree.value?] at valued
  | array items => simp [Tree.value?] at valued
  | object members => simp [Tree.value?, ofMembers] at valued

/-- A text without blanks that is read as a double is one number literal. -/
theorem number?_of_read {number : Float} {text : String} (solid : IsSolid text)
    (read : read? text = some (.float number)) :
    number? text.toList = some (text.toList, []) ∧
      (Literal.ofChars text.toList).value? = some (.float number) := by
  obtain ⟨tree, parsed, valued⟩ := Option.bind_eq_some_iff.mp read
  obtain ⟨literal, rfl, literalValued⟩ := number_of_value? valued
  have unskipped {chars : List Char} (within : ∀ c ∈ chars, isBlank c = false) :
      skipBlanks chars = chars := by
    cases chars with
    | nil => rfl
    | cons c chars => exact skipBlanks_start (within c List.mem_cons_self)
  simp only [parse?] at parsed
  split at parsed
  · rename_i rest taken
    split_ifs at parsed with blank
    cases parsed
    have numberRead := number?_of_tree? taken
    rw [unskipped solid] at numberRead
    have whole := (takes_number numberRead).1
    -- only blanks are left after the literal, and the text has none
    rw [unskipped fun c member => solid c (by simp [whole, member])] at blank
    rw [List.isEmpty_iff.mp blank] at numberRead whole
    rw [List.append_nil] at whole
    rw [whole]
    exact ⟨whole ▸ numberRead, literalValued⟩
  · cases parsed

/-- The digits of a double that they give back are read wherever a value may stand. -/
theorem spells_readsBack {number : Float} (same : ReadsBack number) :
    ∃ tree, Spells (compact (.float number)).toList tree ∧
      ∀ depth, tree.value? depth = some (.float number) := by
  obtain ⟨literal, valued⟩ := number?_of_read (isSolid_write number) same
  exact ⟨_, spells_number literal, fun _ => valued⟩

theorem exists_trees {items : List Json} (each : ∀ item ∈ items, ∃ tree,
      Spells (compact item).toList tree ∧ tree.value? depth = some item) :
    ∃ trees, List.Forall₂ (fun item tree => Spells (compact item).toList tree) items trees ∧
      Tree.values? depth trees = some items := by
  induction items with
  | nil => exact ⟨[], .nil, rfl⟩
  | cons item items ih =>
      obtain ⟨tree, spells, valued⟩ := each item List.mem_cons_self
      obtain ⟨trees, others, all⟩ := ih fun item member => each item (List.mem_cons_of_mem _ member)
      refine ⟨tree :: trees, .cons spells others, ?_⟩
      rw [Tree.values?, valued, all]
      rfl

theorem exists_memberTrees {members : List (String × Json)} (each : ∀ member ∈ members, ∃ tree,
      Spells (compact member.2).toList tree ∧ tree.value? depth = some member.2) :
    ∃ trees, List.Forall₂ SpellsMember members trees ∧
      Tree.memberValues? depth trees = some members := by
  induction members with
  | nil => exact ⟨[], .nil, rfl⟩
  | cons member members ih =>
      obtain ⟨tree, spells, valued⟩ := each member List.mem_cons_self
      obtain ⟨trees, others, all⟩ := ih fun entry member => each entry (List.mem_cons_of_mem _ member)
      refine ⟨(some member.1, tree) :: trees, .cons ⟨rfl, spells⟩ others, ?_⟩
      rw [Tree.memberValues?, valued, all]
      rfl

/-- The text of a value is read as a tree that has this value. -/
theorem spells_value (sound : IsValue depth value) :
    ∃ tree, Spells (compact value).toList tree ∧ tree.value? depth = some value := by
  induction sound with
  | null => exact ⟨.null, spells_null, rfl⟩
  | bool truth =>
      cases truth with
      | true => exact ⟨.bool true, spells_true, rfl⟩
      | false => exact ⟨.bool false, spells_false, rfl⟩
  | @int depth n least greatest =>
      exact ⟨_, spells_number (number?_toString n), value?_toString least greatest⟩
  | float same =>
      obtain ⟨tree, spells, valued⟩ := spells_readsBack same
      exact ⟨tree, spells, valued _⟩
  | string text => exact ⟨_, spells_string text, rfl⟩
  | array each ih =>
      obtain ⟨trees, spells, all⟩ := exists_trees ih
      exact ⟨_, spells_array spells, by rw [Tree.value?, all]; rfl⟩
  | object sorted each ih =>
      obtain ⟨trees, spells, all⟩ := exists_memberTrees ih
      refine ⟨_, spells_object spells, ?_⟩
      rw [Tree.value?, all, Option.map_some, ofMembers, KeyMap.ofList_sorted sorted]

/-- The text of an object is read as its members in the order of their names. -/
theorem read?_members {members : List (String × Json)}
    (each : ∀ member ∈ members, IsValue (deepest - 1) member.2) :
    read? (compact (.object members)) = some (ofMembers members) := by
  obtain ⟨trees, spells, all⟩ :=
    exists_memberTrees fun member listed => spells_value (each member listed)
  rw [read?_of_spells (spells_object spells)]
  change (Tree.memberValues? (deepest - 1) trees).map ofMembers = _
  rw [all]
  rfl

end GracefulStop.Json
