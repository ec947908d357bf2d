import GracefulStop.Proofs.Toml.Words

/-!
# Lines

The text of lines is read back into these lines: headers, and entries whose values are scalars or
arrays of scalars. Each reader gives back all that follows its part, so that the lines are read one
after the other. A reader is given enough fuel if it gets as much as there are characters to read.
-/

namespace GracefulStop.Toml

/-- A value of one word or string that its written form stands for. A double has to be one that its
digits give back. -/
inductive IsScalar : Toml → Prop where
  | string (text : String) : IsScalar (.string text)
  | int {n : Int} (least : leastInt ≤ n) (greatest : n ≤ greatestInt) : IsScalar (.int n)
  | bool (truth : Bool) : IsScalar (.bool truth)
  | float {number : Float}
      (same : ofWord? (Decimal.Style.toml.write number).toList = some (.float number)) :
      IsScalar (.float number)

/-- A value that stands in the line of its entry: a scalar, or an array of scalars. -/
inductive IsInline : Toml → Prop where
  | scalar {value : Toml} (scalar : IsScalar value) : IsInline value
  | array {items : List Toml} (scalars : ∀ item ∈ items, IsScalar item) : IsInline (.array items)

/-- A path that a line may have: it has a name, and not too many. -/
def IsPath (path : List String) : Prop := path ≠ [] ∧ path.length ≤ Text.deepest

/-- A line that its written form stands for. -/
inductive Line.IsSound : Line → Prop where
  | header {path : List String} (sound : IsPath path) : Line.IsSound (.header path)
  | element {path : List String} (sound : IsPath path) : Line.IsSound (.element path)
  | entry {path : List String} {value : Toml} (sound : IsPath path) (inline : IsInline value) :
      Line.IsSound (.entry path value)

namespace Text

variable {text rest : List Char} {fuel depth : Nat} {value : Toml} {c : Char}

/-! ## Between the parts -/

/-- A character with which a part of a line begins: no white space, no comment. -/
def IsStart (c : Char) : Prop := isBlank c = false ∧ c ≠ '#' ∧ c ≠ '\n' ∧ c ≠ '\r'

theorem skipBlanks_start (start : ∀ c ∈ text.head?, isBlank c = false) : skipBlanks text = text := by
  cases text with
  | nil => rfl
  | cons c text => simp [skipBlanks, start c rfl]

theorem skipLines_start (start : IsStart c) : skipLines fuel (c :: text) = some (c :: text) := by
  rcases start with ⟨blank, comment, line, carriage⟩
  cases fuel with
  | zero => rfl
  | succ fuel => simp [skipLines, skipBlanks, blank, comment, line, carriage]

theorem skipLines_newline : skipLines (fuel + 1) ('\n' :: text) = skipLines fuel text := by
  simp [skipLines, skipBlanks, lineEnd?, newline?, isBlank]

theorem skipLines_indent :
    skipLines (fuel + 1) ([' ', ' ', ' ', ' '] ++ text) = skipLines (fuel + 1) text := by
  simp [skipLines, skipBlanks, isBlank]

theorem lineEnd?_newline : lineEnd? ('\n' :: text) = some text := rfl

/-! ## Values -/

/-- What follows a value is a comma, a bracket that closes an array, or the end of the line. -/
def EndsValue (rest : List Char) : Prop := ∀ c ∈ rest.head?, c = ',' ∨ c = ']' ∨ c = '\n'

theorem EndsValue.unlike (ends : EndsValue rest) (other : c ∉ [',', ']', '\n']) :
    rest.head? ≠ some c := by
  intro first
  have known := ends c first
  simp_all

theorem EndsValue.word (ends : EndsValue rest) : ∀ c ∈ rest.head?, isWordChar c = false := by
  intro c first
  rcases ends c first with rfl | rfl | rfl <;> decide

/-- A quote, or a character of a word. -/
def StartsScalar (c : Char) : Prop := c = '"' ∨ c = '\'' ∨ isWordChar c = true

theorem StartsScalar.unlike (starts : StartsScalar c) {other : Char}
    (word : isWordChar other = false) (quotes : other ∉ ['"', '\'']) : c ≠ other := by
  rintro rfl
  rcases starts with rfl | rfl | inside
  · simp at quotes
  · simp at quotes
  · rw [inside] at word
    exact absurd word (by decide)

theorem StartsScalar.isStart (starts : StartsScalar c) : IsStart c := by
  refine ⟨?_, starts.unlike (by decide) (by decide), starts.unlike (by decide) (by decide),
    starts.unlike (by decide) (by decide)⟩
  simp [isBlank, starts.unlike (show isWordChar ' ' = false by decide) (by decide),
    starts.unlike (show isWordChar '\t' = false by decide) (by decide)]

/-- A scalar is read by its first character, as a string or as a word. -/
theorem value?_scalar (starts : StartsScalar c) :
    value? (fuel + 1) depth (c :: text) =
      if c = '"' ∨ c = '\'' then
        (string? (c :: text)).map fun (value, rest) => (.string (String.ofList value), rest)
      else word? (c :: text) := by
  have bracket : c ≠ '[' := starts.unlike (by decide) (by decide)
  have brace : c ≠ '\x7b' := starts.unlike (by decide) (by decide)
  rw [value?]
  · simp
  · intro _ same
    exact absurd (List.cons.inj same).1 bracket
  · intro _ same
    exact absurd (List.cons.inj same).1 brace
  · intro _ _ same
    exact absurd (List.cons.inj same).1 bracket
  · intro _ _ same
    exact absurd (List.cons.inj same).1 brace

theorem head_stringChars (text : List Char) :
    ∃ c tail, stringChars text = c :: tail ∧ (c = '"' ∨ c = '\'') := by
  unfold stringChars
  split
  · exact ⟨_, _, rfl, .inl rfl⟩
  · exact ⟨_, _, rfl, .inr rfl⟩
  · exact ⟨_, _, rfl, .inl rfl⟩
  · exact ⟨_, _, rfl, .inr rfl⟩

theorem value?_string (text : List Char) (ends : EndsValue rest) :
    value? (fuel + 1) depth (stringChars text ++ rest) =
      some (.string (String.ofList text), rest) := by
  have read := string?_stringChars text (ends.unlike (c := '\'') (by decide))
    (ends.unlike (c := '"') (by decide))
  rcases head_stringChars text with ⟨c, tail, written, quote⟩
  have starts : StartsScalar c := by
    rcases quote with rfl | rfl
    · exact .inl rfl
    · exact .inr (.inl rfl)
  rw [written, List.cons_append] at read ⊢
  rw [value?_scalar starts, if_pos quote, read, Option.map_some]

theorem value?_word (spells : Spells text value) (ends : EndsValue rest) :
    value? (fuel + 1) depth (text ++ rest) = some (value, rest) := by
  have read := spells.append ends.word
  cases text with
  | nil => exact absurd rfl spells.ne_nil
  | cons c text =>
      have first := spells.inside c List.mem_cons_self
      have quote : ¬ (c = '"' ∨ c = '\'') := by
        rintro (rfl | rfl) <;> exact absurd first (by decide)
      rw [List.cons_append] at read ⊢
      rw [value?_scalar (.inr (.inr first)), if_neg quote, read]

theorem head_word (spells : Spells text value) : ∃ c tail, text = c :: tail ∧ StartsScalar c := by
  cases text with
  | nil => exact absurd rfl spells.ne_nil
  | cons c text => exact ⟨c, text, rfl, .inr (.inr (spells.inside c List.mem_cons_self))⟩

theorem head_scalar (scalar : IsScalar value) :
    ∃ c tail, valueChars value = c :: tail ∧ StartsScalar c := by
  cases scalar with
  | string text =>
      rcases head_stringChars text.toList with ⟨c, tail, written, quote⟩
      exact ⟨c, tail, written, by tauto⟩
  | int least greatest => exact head_word (spells_int least greatest)
  | bool truth => exact head_word (spells_bool truth)
  | float same => exact head_word (spells_float same)

theorem value?_of_scalar (scalar : IsScalar value) (ends : EndsValue rest) :
    value? (fuel + 1) depth (valueChars value ++ rest) = some (value, rest) := by
  cases scalar with
  | string text => simpa [valueChars] using value?_string text.toList ends
  | int least greatest => exact value?_word (spells_int least greatest) ends
  | bool truth => exact value?_word (spells_bool truth) ends
  | float same => exact value?_word (spells_float same) ends

theorem isStart_bracket : IsStart ']' := by simp [IsStart, isBlank]

theorem isStart_comma : IsStart ',' := by simp [IsStart, isBlank]

theorem endsValue_cons (known : c = ',' ∨ c = ']' ∨ c = '\n') : EndsValue (c :: text) := by
  intro first same
  rwa [← Option.some.inj same]

/-- Of the items of an array one is read if white space precedes it only, whatever follows. -/
theorem items?_item (depth : Nat) {front : List Char} (scalar : IsScalar value)
    (reached : skipLines (fuel + 1) front = some (valueChars value ++ c :: text))
    (known : c = ',' ∨ c = ']') :
    items? (fuel + 2) depth front =
      if c = ',' then (items? (fuel + 1) depth text).map fun (items, rest) => (value :: items, rest)
      else some ([value], text) := by
  rcases head_scalar scalar with ⟨first, tail, written, starts⟩
  have bracket : first ≠ ']' := starts.unlike (by decide) (by decide)
  have read : value? (fuel + 1) depth (valueChars value ++ c :: text) = some (value, c :: text) :=
    value?_of_scalar scalar (endsValue_cons (by tauto))
  have start : IsStart c := by
    rcases known with rfl | rfl
    · exact isStart_comma
    · exact isStart_bracket
  rw [items?, reached]
  rw [written] at read ⊢
  simp only [List.cons_append] at read ⊢
  split
  · simp at *
  · rename_i same
    simp_all
  · rename_i _ same
    rw [← Option.some.inj same, read]
    rcases known with rfl | rfl
    · simp [skipLines_start isStart_comma]
    · simp [skipLines_start isStart_bracket]

theorem items?_none : items? (fuel + 1) depth (']' :: text) = some ([], text) := by
  simp [items?, skipLines_start isStart_bracket]

theorem items?_lines (depth : Nat) (rest : List Char) {items : List Toml}
    (scalars : ∀ item ∈ items, IsScalar item)
    (enough : items.length + 3 ≤ fuel) :
    items? fuel depth ('\n' :: (itemLines items ++ ']' :: rest)) = some (items, rest) := by
  induction items generalizing fuel with
  | nil =>
      rcases fuel with _ | _ | fuel
      · omega
      · simp at enough
      · simp [items?, itemLines, skipLines_newline, skipLines_start isStart_bracket]
  | cons item items ih =>
      rcases fuel with _ | _ | _ | fuel
      · simp at enough
      · simp at enough
      · simp at enough
      · have scalar := scalars item List.mem_cons_self
        have fewer : items.length + 3 ≤ fuel + 2 := by
          simp only [List.length_cons] at enough
          omega
        have others := ih (fun item member => scalars item (List.mem_cons_of_mem _ member)) fewer
        rcases head_scalar scalar with ⟨first, tail, written, starts⟩
        have reached : skipLines (fuel + 1 + 1)
            ('\n' :: (itemLines (item :: items) ++ ']' :: rest)) =
            some (valueChars item ++ ',' :: '\n' :: (itemLines items ++ ']' :: rest)) := by
          rw [skipLines_newline, itemLines]
          simp only [List.append_assoc]
          rw [skipLines_indent, written, List.cons_append, skipLines_start starts.isStart]
          simp
        rw [items?_item depth scalar reached (.inl rfl), if_pos rfl, others, Option.map_some]

/-- Each item of several has a line of its own. -/
theorem length_itemLines (items : List Toml) : 6 * items.length ≤ (itemLines items).length := by
  induction items with
  | nil => simp
  | cons item items ih =>
      simp only [itemLines, List.length_append, List.length_cons, List.length_nil]
      omega

theorem value?_array :
    value? (fuel + 1) (depth + 1) ('[' :: text) =
      (items? fuel depth text).map fun (items, rest) => (.array items, rest) := by
  rw [value?]

/-- A value is read back if there is as much fuel as its written form is long. -/
theorem value?_inline (inline : IsInline value) (ends : EndsValue rest)
    (enough : (valueChars value).length ≤ fuel) :
    value? fuel (depth + 1) (valueChars value ++ rest) = some (value, rest) := by
  rcases inline with scalar | @⟨items, scalars⟩
  · rcases head_scalar scalar with ⟨c, tail, written, _⟩
    cases fuel with
    | zero => simp [written] at enough
    | succ fuel => exact value?_of_scalar scalar ends
  · match items with
    | [] =>
        rcases fuel with _ | _ | fuel
        · simp [valueChars] at enough
        · simp [valueChars] at enough
        · simp [valueChars, value?_array, items?_none]
    | [item] =>
        have scalar := scalars item (by simp)
        rcases head_scalar scalar with ⟨c, tail, written, starts⟩
        rcases fuel with _ | _ | _ | fuel
        · simp [valueChars] at enough
        · simp [valueChars] at enough
        · simp [valueChars, written] at enough
        · have reached : skipLines (fuel + 1) (valueChars item ++ ']' :: rest) =
              some (valueChars item ++ ']' :: rest) := by
            rw [written, List.cons_append, skipLines_start starts.isStart]
          have read := items?_item depth scalar reached (.inr rfl)
          simp [valueChars, value?_array, read]
    | first :: second :: others =>
        have long := length_itemLines (first :: second :: others)
        rcases fuel with _ | fuel
        · simp [valueChars] at enough
        · simp only [valueChars, List.length_cons, List.length_append, List.length_nil] at enough long
          have read := items?_lines depth rest scalars
            (show (first :: second :: others).length + 3 ≤ fuel by simp only [List.length_cons]; omega)
          simp [valueChars, value?_array, read]

theorem head_inline (inline : IsInline value) :
    ∃ c tail, valueChars value = c :: tail ∧ isBlank c = false := by
  rcases inline with scalar | @⟨items, _⟩
  · rcases head_scalar scalar with ⟨c, tail, written, starts⟩
    exact ⟨c, tail, written, starts.isStart.1⟩
  · match items with
    | [] => exact ⟨'[', _, rfl, by decide⟩
    | [item] => exact ⟨'[', _, rfl, by decide⟩
    | first :: second :: others => exact ⟨'[', _, rfl, by decide⟩

/-! ## Keys -/

theorem head_keyChars (name : List Char) :
    ∃ c tail, keyChars name = c :: tail ∧ (c = '"' ∨ c = '\'' ∨ isBare c = true) := by
  unfold keyChars
  dsimp only
  split_ifs with bare
  · simp only [Bool.and_eq_true, Bool.not_eq_true', List.isEmpty_eq_false_iff,
      List.all_eq_true] at bare
    cases name with
    | nil => exact absurd rfl bare.1
    | cons c name => exact ⟨c, name, rfl, .inr (.inr (bare.2 c List.mem_cons_self))⟩
  · exact ⟨_, _, rfl, .inl rfl⟩
  · exact ⟨_, _, rfl, .inr (.inl rfl)⟩
  · exact ⟨_, _, rfl, .inl rfl⟩

/-- A path begins as a scalar does, with a quote or a character of a word. -/
theorem head_pathChars {path : List String} (filled : path ≠ []) :
    ∃ c tail, pathChars path = c :: tail ∧ StartsScalar c := by
  cases path with
  | nil => exact absurd rfl filled
  | cons name path =>
      rcases head_keyChars name.toList with ⟨c, tail, written, first⟩
      refine ⟨c, ?_⟩
      have starts : StartsScalar c := by
        rcases first with rfl | rfl | bare
        · exact .inl rfl
        · exact .inr (.inl rfl)
        · refine .inr (.inr ?_)
          simp only [isBare, Bool.or_eq_true, beq_iff_eq] at bare
          simp [isWordChar, bare]
      cases path <;> simp [pathChars, List.intercalate, written, starts]

theorem pathChars_cons (name next : String) (path : List String) :
    pathChars (name :: next :: path) = keyChars name.toList ++ '.' :: pathChars (next :: path) := by
  simp [pathChars, List.intercalate]

theorem length_pathChars (path : List String) : path.length ≤ (pathChars path).length := by
  induction path with
  | nil => simp
  | cons name path ih =>
      rcases head_keyChars name.toList with ⟨c, tail, written, _⟩
      cases path with
      | nil => simp [pathChars, List.intercalate, written]
      | cons next path =>
          rw [pathChars_cons, written]
          simp only [List.length_cons, List.length_append] at ih ⊢
          omega

/-- A path is read back, without the blanks that follow it. -/
theorem path?_pathChars {path : List String} (filled : path ≠ []) (enough : path.length ≤ fuel)
    (stop : ∀ c ∈ rest.head?, isBare c = false) (dot : (skipBlanks rest).head? ≠ some '.') :
    path? fuel (pathChars path ++ rest) = some (path, skipBlanks rest) := by
  induction path generalizing fuel with
  | nil => exact absurd rfl filled
  | cons name path ih =>
      cases fuel with
      | zero => simp at enough
      | succ fuel =>
          have start : skipBlanks (pathChars (name :: path) ++ rest) = pathChars (name :: path) ++ rest := by
            rcases head_pathChars filled with ⟨c, tail, written, starts⟩
            rw [written]
            exact skipBlanks_start fun first same => by
              rw [← Option.some.inj same]
              exact starts.isStart.1
          rw [path?, start]
          cases path with
          | nil =>
              have written : pathChars [name] = keyChars name.toList := by
                simp [pathChars, List.intercalate]
              rw [written, name?_keyChars name.toList stop]
              simp only [Option.bind_eq_bind, Option.bind_some, String.ofList_toList]
              split
              · rename_i same
                rw [same] at dot
                exact absurd rfl dot
              · rfl
          | cons next path =>
              have shorter : (next :: path).length ≤ fuel := by simpa using enough
              have read : name? (keyChars name.toList ++ '.' :: (pathChars (next :: path) ++ rest)) =
                  some (String.ofList name.toList, '.' :: (pathChars (next :: path) ++ rest)) :=
                name?_keyChars name.toList (by simp [isBare])
              rw [pathChars_cons, List.append_assoc, List.cons_append, read]
              simp [skipBlanks, isBlank, ih (List.cons_ne_nil _ _) shorter]

theorem key?_pathChars {path : List String} (sound : IsPath path)
    (enough : (pathChars path).length ≤ fuel) (known : c = ' ' ∨ c = ']')
    (dot : (skipBlanks (c :: rest)).head? ≠ some '.') :
    key? fuel (pathChars path ++ c :: rest) = some (path, skipBlanks (c :: rest)) := by
  rcases sound with ⟨filled, few⟩
  have stop : ∀ first ∈ (c :: rest).head?, isBare first = false := by
    intro first same
    rw [← Option.some.inj same]
    rcases known with rfl | rfl <;> decide
  have read := path?_pathChars filled (Nat.le_trans (length_pathChars path) enough) stop dot
  simp [key?, read, few]

/-! ## Lines -/

theorem line?_header {path : List String} (sound : IsPath path)
    (enough : (pathChars path).length ≤ fuel) :
    line? fuel ((Line.header path).chars ++ rest) = some (.header path, rest) := by
  have read : key? fuel (pathChars path ++ ']' :: '\n' :: rest) = some (path, ']' :: '\n' :: rest) :=
    key?_pathChars sound enough (.inr rfl) (by simp [skipBlanks, isBlank])
  rcases head_pathChars sound.1 with ⟨c, tail, written, starts⟩
  have bracket : c ≠ '[' := starts.unlike (by decide) (by decide)
  rw [written] at read
  simp only [Line.chars, written, List.cons_append, List.append_assoc, List.nil_append] at read ⊢
  rw [line?]
  · simp [read, lineEnd?_newline]
  · intro _ same
    exact absurd (List.cons.inj same).1 bracket

theorem line?_element {path : List String} (sound : IsPath path)
    (enough : (pathChars path).length ≤ fuel) :
    line? fuel ((Line.element path).chars ++ rest) = some (.element path, rest) := by
  have read : key? fuel (pathChars path ++ ']' :: ']' :: '\n' :: rest) =
      some (path, ']' :: ']' :: '\n' :: rest) :=
    key?_pathChars sound enough (.inr rfl) (by simp [skipBlanks, isBlank])
  simp [Line.chars, line?, read, lineEnd?_newline]

theorem line?_entry {path : List String} (sound : IsPath path) (inline : IsInline value)
    (enough : (Line.entry path value).chars.length ≤ fuel) :
    line? fuel ((Line.entry path value).chars ++ rest) = some (.entry path value, rest) := by
  simp only [Line.chars, List.length_append, List.length_cons, List.length_nil] at enough
  have equals : skipBlanks (' ' :: '=' :: ' ' :: (valueChars value ++ '\n' :: rest)) =
      '=' :: ' ' :: (valueChars value ++ '\n' :: rest) := by
    simp [skipBlanks, isBlank]
  have key : key? fuel (pathChars path ++ ' ' :: '=' :: ' ' :: (valueChars value ++ '\n' :: rest)) =
      some (path, '=' :: ' ' :: (valueChars value ++ '\n' :: rest)) := by
    rw [← equals]
    exact key?_pathChars sound (by omega) (.inl rfl) (by simp [equals])
  have blank : skipBlanks (' ' :: (valueChars value ++ '\n' :: rest)) =
      valueChars value ++ '\n' :: rest := by
    rcases head_inline inline with ⟨c, tail, written, visible⟩
    simpa [skipBlanks, written, isBlank] using visible
  have read : value? fuel deepest (valueChars value ++ '\n' :: rest) =
      some (value, '\n' :: rest) :=
    value?_inline inline (endsValue_cons (.inr (.inr rfl))) (by omega)
  rcases head_pathChars sound.1 with ⟨c, tail, written, starts⟩
  have bracket : c ≠ '[' := starts.unlike (by decide) (by decide)
  rw [written] at key
  simp only [Line.chars, written, List.cons_append, List.append_assoc, List.nil_append] at key ⊢
  rw [line?]
  · simp [key, blank, read, lineEnd?_newline]
  · intro _ same
    exact absurd (List.cons.inj same).1 bracket
  · intro _ same
    exact absurd (List.cons.inj same).1 bracket

theorem line?_chars {line : Line} (sound : line.IsSound) (enough : line.chars.length ≤ fuel) :
    line? fuel (line.chars ++ rest) = some (line, rest) := by
  cases sound with
  | header sound =>
      simp only [Line.chars, List.length_cons, List.length_append] at enough
      exact line?_header sound (by omega)
  | element sound =>
      simp only [Line.chars, List.length_cons, List.length_append] at enough
      exact line?_element sound (by omega)
  | entry sound inline => exact line?_entry sound inline enough

/-- A line begins with a character at which no reader of white space passes. -/
theorem head_line {line : Line} (sound : line.IsSound) :
    ∃ c tail, line.chars = c :: tail ∧ IsStart c ∧ c ≠ '\uFEFF' := by
  cases sound with
  | header sound => exact ⟨'[', _, rfl, by simp [IsStart, isBlank], by decide⟩
  | element sound => exact ⟨'[', _, rfl, by simp [IsStart, isBlank], by decide⟩
  | @entry path value sound inline =>
      rcases head_pathChars sound.1 with ⟨c, tail, written, starts⟩
      refine ⟨c, tail ++ [' ', '=', ' '] ++ valueChars value ++ ['\n'],
        by simp only [Line.chars, written, List.cons_append], starts.isStart, ?_⟩
      exact starts.unlike (by decide) (by decide)

theorem skipLines_blank {blank : Nat} (enough : blank ≤ fuel) :
    skipLines fuel (List.replicate blank '\n') = some [] := by
  induction blank generalizing fuel with
  | zero => cases fuel <;> simp [skipLines, skipBlanks]
  | succ blank ih =>
      cases fuel with
      | zero => simp at enough
      | succ fuel => rw [List.replicate_succ, skipLines_newline, ih (by omega)]

/-- Lines are read back from their text, whatever number of blank lines follows. -/
theorem lines?_linesChars {lines : List Line} (sound : ∀ line ∈ lines, line.IsSound) {first : Bool}
    {blank : Nat} (enough : (linesChars first lines).length + blank < fuel) :
    lines? fuel (linesChars first lines ++ List.replicate blank '\n') = some lines := by
  induction lines generalizing first fuel with
  | nil =>
      cases fuel with
      | zero => simp at enough
      | succ fuel => simp [linesChars, lines?, skipLines_blank (show blank ≤ fuel by omega)]
  | cons line lines ih =>
      rcases head_line (sound line List.mem_cons_self) with ⟨c, tail, written, start, _⟩
      have visible : 0 < line.chars.length := by simp [written]
      generalize more : linesChars false lines ++ List.replicate blank '\n' = rest
      cases fuel with
      | zero => simp at enough
      | succ fuel =>
          simp only [linesChars, List.length_append] at enough
          have reached : skipLines fuel (linesChars first (line :: lines) ++ List.replicate blank '\n') =
              some (line.chars ++ rest) := by
            have start : ∀ fuel, skipLines fuel (line.chars ++ rest) = some (line.chars ++ rest) := by
              intro fuel
              rw [written]
              exact skipLines_start start
            rw [linesChars, List.append_assoc, List.append_assoc, more]
            split_ifs at enough ⊢ with header
            · cases fuel with
              | zero => simp at enough
              | succ fuel =>
                  simp only [List.cons_append, List.nil_append]
                  rw [skipLines_newline, start]
            · exact start fuel
          have read : line? fuel (line.chars ++ rest) = some (line, rest) :=
            line?_chars (sound line List.mem_cons_self) (by omega)
          have others : lines? fuel rest = some lines := by
            rw [← more]
            exact ih (fun line member => sound line (List.mem_cons_of_mem _ member)) (by omega)
          rw [lines?, reached]
          split
          · simp at *
          · simp_all
          · rename_i same
            rw [← Option.some.inj same, read]
            simp [others]

/-- The text of lines begins with no mark of its encoding. -/
theorem skipMark_linesChars {lines : List Line} (sound : ∀ line ∈ lines, line.IsSound) (blank : Nat) :
    skipMark (linesChars true lines ++ List.replicate blank '\n') =
      linesChars true lines ++ List.replicate blank '\n' := by
  have unmarked : (linesChars true lines ++ List.replicate blank '\n').head? ≠ some '\uFEFF' := by
    cases lines with
    | nil => cases blank <;> simp [linesChars, List.replicate_succ]
    | cons line lines =>
        rcases head_line (sound line List.mem_cons_self) with ⟨c, tail, written, _, mark⟩
        simpa [linesChars, written] using mark
  unfold skipMark
  split
  · rename_i same
    simp [same] at unmarked
  · rfl

end Text

/-- The lines of a text are read back. -/
theorem lines?_of_sound {lines : List Line} (sound : ∀ line ∈ lines, line.IsSound) (blank : Nat) :
    lines? (String.ofList (linesChars true lines ++ List.replicate blank '\n')) = some lines := by
  simp only [lines?, String.toList_ofList, Text.skipMark_linesChars sound]
  exact Text.lines?_linesChars sound (by simp; omega)

end GracefulStop.Toml
