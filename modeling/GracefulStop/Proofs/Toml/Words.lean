import GracefulStop.Proofs.Toml.Strings
import Mathlib.Data.List.Basic
import Mathlib.Data.List.TakeWhile

/-!
# Words

Whole numbers, truth values and doubles are words. A word that reads as one of them is read back from
the front of a text if what follows it cannot belong to a word: no time of a day is looked for, since
only a day has one.
-/

namespace GracefulStop.Toml

variable {text rest : List Char} {value : Toml}

/-! ## Decimal digits -/

theorem ungroup?_digits {digits : List Char} (filled : digits ≠ [])
    (each : ∀ c ∈ digits, c.isDigit = true) : ungroup? Char.isDigit digits = some digits := by
  induction digits with
  | nil => exact absurd rfl filled
  | cons c digits ih =>
      cases digits with
      | nil => simp [ungroup?, each]
      | cons next digits =>
          have tail := ih (List.cons_ne_nil _ _) fun c member => each c (List.mem_cons_of_mem _ member)
          have grouped : next ≠ '_' := by
            intro same
            have digit := each next (by simp)
            rw [same] at digit
            exact absurd digit (by decide)
          rw [ungroup?]
          · simp [each c, tail]
          · simp
          · intro others same
            exact grouped (List.cons.inj same).1

theorem isGrouped_of_ungroup? {digits : List Char} (read : ungroup? Char.isDigit text = some digits) :
    ∀ c ∈ text, isGrouped c = true := by
  fun_induction ungroup? Char.isDigit text generalizing digits with
  | case1 => simp at read
  | case2 c digit => simp [isGrouped, digit]
  | case3 => simp at read
  | case4 c rest digit ih =>
      rcases Option.map_eq_some_iff.mp read with ⟨others, tail, _⟩
      intro c member
      simp only [List.mem_cons] at member
      rcases member with rfl | rfl | member
      · simp [isGrouped, digit]
      · rfl
      · exact ih tail c member
  | case5 => simp at read
  | case6 c rest _ _ digit ih =>
      rcases Option.map_eq_some_iff.mp read with ⟨others, tail, _⟩
      intro c member
      rcases List.mem_cons.mp member with rfl | member
      · simp [isGrouped, digit]
      · exact ih tail c member
  | case7 => simp at read

theorem digitsValue_toDigits (n : Nat) : Decimal.digitsValue (Nat.toDigits 10 n) = n := by
  have value := Nat.ofDigitChars_toDigits (b := 10) (n := n) (by decide) (by decide)
  rw [Nat.ofDigitChars_eq_foldl] at value
  simpa [Decimal.digitsValue, Nat.mul_comm] using value

theorem isDigit_of_mem {n : Nat} {c : Char} (member : c ∈ Nat.toDigits 10 n) : c.isDigit = true :=
  Nat.isDigit_of_mem_toDigits (by decide) (by decide) member

/-- Only zero is written with a zero in front. -/
theorem head?_toDigits {n : Nat} (positive : 0 < n) : (Nat.toDigits 10 n).head? ≠ some '0' := by
  induction n using Nat.strongRecOn with
  | ind n ih =>
      rw [Nat.toDigits_eq_if (by decide)]
      split_ifs with small
      · have digits : ∀ digit < 10, 0 < digit → [digit.digitChar].head? ≠ some '0' := by decide
        exact digits n small positive
      · have front := ih (n / 10) (by omega) (by omega)
        rwa [List.head?_append_of_ne_nil _ Nat.toDigits_ne_nil]

theorem wholeDigits?_toDigits (n : Nat) :
    wholeDigits? (Nat.toDigits 10 n) = some (Nat.toDigits 10 n) := by
  simp only [wholeDigits?, ungroup?_digits Nat.toDigits_ne_nil fun _ => isDigit_of_mem,
    Option.bind_eq_bind, Option.bind_some]
  split
  · rename_i digit digits written
    rcases Nat.eq_zero_or_pos n with rfl | positive
    · simp at written
    · exact absurd (by simp [written]) (head?_toDigits positive)
  · rfl

/-! ## Whole numbers -/

/-- A whole number is written as its digits, after a minus if it is below zero. -/
theorem toList_toString (n : Int) :
    (toString n).toList = (if n < 0 then ['-'] else []) ++ Nat.toDigits 10 n.natAbs := by
  cases n with
  | ofNat n =>
      have signless : ¬ Int.ofNat n < 0 := by simp
      rw [if_neg signless]
      exact Nat.toList_repr
  | negSucc n =>
      rw [if_pos (Int.negSucc_lt_zero n)]
      change ("-" ++ Nat.repr (n + 1)).toList = _
      simp [Nat.toList_repr]

theorem takeSign_toString (n : Int) :
    Decimal.takeSign (toString n).toList = (decide (n < 0), Nat.toDigits 10 n.natAbs) := by
  rw [toList_toString]
  by_cases negative : n < 0
  · simp [negative, Decimal.takeSign]
  · simp only [negative, if_false, List.nil_append, decide_false]
    unfold Decimal.takeSign
    split
    · rename_i rest written
      have digit : ('-').isDigit = true := isDigit_of_mem (n := n.natAbs) (by simp [written])
      exact absurd digit (by decide)
    · rename_i rest written
      have digit : ('+').isDigit = true := isDigit_of_mem (n := n.natAbs) (by simp [written])
      exact absurd digit (by decide)
    · rfl

theorem decimalInt?_toString {n : Int} (least : leastInt ≤ n) (greatest : n ≤ greatestInt) :
    decimalInt? (toString n).toList = some (.int n) := by
  have whole : (if n < 0 then -Int.ofNat n.natAbs else Int.ofNat n.natAbs) = n := by
    split_ifs with negative <;> simp only [Int.ofNat_eq_natCast] <;> omega
  simp only [decimalInt?, takeSign_toString, wholeDigits?_toDigits, Option.bind_eq_bind,
    Option.bind_some, digitsValue_toDigits, decide_eq_true_eq, whole]
  simp [boundedInt?, least, greatest]

/-- Digits, which a sign may precede, are a whole number: no other word has digits only. -/
theorem ofWord?_of_digits (tail : ∀ c ∈ text.drop 1, c.isDigit = true)
    (unsigned : (Decimal.takeSign text).2.all isGrouped = true) :
    ofWord? text = decimalInt? text := by
  have absent (c : Char) (alien : c.isDigit = false) : c ∉ text.drop 1 := by
    intro member
    rw [tail c member] at alien
    exact absurd alien (by decide)
  have later (c : Char) (count : Nat) (alien : c.isDigit = false) :
      (text.drop (count + 1)).head? ≠ some c := by
    intro first
    have member := List.mem_of_mem_head? first
    rw [Nat.add_comm, ← List.drop_drop] at member
    exact absent c alien (List.mem_of_mem_drop member)
  unfold ofWord?
  split
  · exact absurd (by simp) (absent 'r' (by decide))
  · exact absurd (by simp) (absent 'a' (by decide))
  · exact absurd (by simp) (absent 'x' (by decide))
  · exact absurd (by simp) (absent 'o' (by decide))
  · exact absurd (by simp) (absent 'b' (by decide))
  · simp [later ':' 1 (by decide), later '-' 3 (by decide), unsigned, -List.head?_drop]

theorem ofWord?_toString {n : Int} (least : leastInt ≤ n) (greatest : n ≤ greatestInt) :
    ofWord? (toString n).toList = some (.int n) := by
  rw [ofWord?_of_digits, decimalInt?_toString least greatest]
  · intro c member
    rw [toList_toString] at member
    split_ifs at member with negative
    · exact isDigit_of_mem (by simpa using member)
    · exact isDigit_of_mem (List.mem_of_mem_drop member)
  · rw [takeSign_toString, List.all_eq_true]
    intro c member
    simp [isGrouped, isDigit_of_mem member]

/-! ## Doubles -/

theorem date?_eq_some (read : date? text = some value) : ∃ day, value = .date day := by
  unfold date? at read
  split at read
  · exact ⟨_, (Option.some.inj read).symm⟩
  · split_ifs at read with separated
    simp only [Option.bind_eq_bind, Option.bind_eq_some_iff, Option.some.injEq] at read
    rcases read with ⟨clock, _, offset, _, same⟩
    exact ⟨_, same.symm⟩
  · split at read
    · exact ⟨_, (Option.some.inj read).symm⟩
    · simp at read

theorem boundedInt?_eq_some {n : Int} (read : boundedInt? n = some value) : value = .int n := by
  unfold boundedInt? at read
  split_ifs at read
  exact (Option.some.inj read).symm

theorem float?_of_ofWord? {number : Float} (read : ofWord? text = some (.float number)) :
    float? text = some (.float number) := by
  have bounded (base : Nat) (digits : List Char) : intIn? base digits ≠ some (.float number) := by
    intro read
    simp only [intIn?, Option.bind_eq_bind, Option.bind_eq_some_iff] at read
    rcases read with ⟨digits, _, read⟩
    exact absurd (boundedInt?_eq_some read) (by simp)
  unfold ofWord? at read
  split at read
  · simp at read
  · simp at read
  · exact absurd read (bounded _ _)
  · exact absurd read (bounded _ _)
  · exact absurd read (bounded _ _)
  · split_ifs at read with dated whole
    · rcases date?_eq_some read with ⟨day, same⟩
      simp at same
    · simp only [decimalInt?, Option.bind_eq_bind, Option.bind_eq_some_iff] at read
      rcases read with ⟨digits, _, read⟩
      exact absurd (boundedInt?_eq_some read) (by simp)
    · exact read

/-- A sign, or nothing, stands before what follows the sign. -/
theorem mem_takeSign {c : Char} (member : c ∈ text) :
    c = '-' ∨ c = '+' ∨ c ∈ (Decimal.takeSign text).2 := by
  unfold Decimal.takeSign
  split
  · rcases List.mem_cons.mp member with minus | tail
    · exact .inl minus
    · exact .inr (.inr tail)
  · rcases List.mem_cons.mp member with plus | tail
    · exact .inr (.inl plus)
    · exact .inr (.inr tail)
  · exact .inr (.inr member)

namespace Text

theorem isWordChar_of_isGrouped {c : Char} (grouped : isGrouped c = true) : isWordChar c = true := by
  simp only [isGrouped, Bool.or_eq_true, beq_iff_eq] at grouped
  rcases grouped with digit | rfl
  · simp [isWordChar, Char.isAlphanum, digit]
  · decide

theorem isWordChar_of_takeSign
    (unsigned : ∀ c ∈ (Decimal.takeSign text).2, isWordChar c = true) :
    ∀ c ∈ text, isWordChar c = true := by
  intro c member
  rcases mem_takeSign member with rfl | rfl | tail
  · decide
  · decide
  · exact unsigned c tail

theorem isWordChar_of_exponent {exponent : Int} (read : exponentAtEnd? text = some exponent) :
    ∀ c ∈ text, isWordChar c = true := by
  cases text with
  | nil => simp
  | cons mark text =>
      simp only [exponentAtEnd?] at read
      split at read
      · rename_i marked
        rcases Option.map_eq_some_iff.mp read with ⟨digits, digitsRead, _⟩
        intro c member
        rcases List.mem_cons.mp member with rfl | member
        · simp only [Bool.or_eq_true, beq_iff_eq] at marked
          rcases marked with rfl | rfl <;> decide
        · refine isWordChar_of_takeSign (fun c member => ?_) c member
          exact isWordChar_of_isGrouped (isGrouped_of_ungroup? digitsRead c member)
      · simp at read

theorem isWordChar_of_fraction {fraction tail : List Char} {exponent : Int}
    (read : fractionDigits? text = some (fraction, tail))
    (exponentRead : exponentAtEnd? tail = some exponent) : ∀ c ∈ text, isWordChar c = true := by
  unfold fractionDigits? at read
  split at read
  · rename_i text
    rcases Option.map_eq_some_iff.mp read with ⟨digits, _, same⟩
    rcases Prod.mk.inj same with ⟨_, rfl⟩
    intro c member
    rcases List.mem_cons.mp member with rfl | member
    · decide
    · rw [← List.takeWhile_append_dropWhile (p := isGrouped) (l := text)] at member
      rcases List.mem_append.mp member with front | back
      · exact isWordChar_of_isGrouped (List.mem_takeWhile_imp front)
      · exact isWordChar_of_exponent exponentRead c back
  · rcases Prod.mk.inj (Option.some.inj read) with ⟨_, rfl⟩
    exact isWordChar_of_exponent exponentRead

/-- What reads as a double is a word. -/
theorem isWordChar_of_float {number : Float} (read : float? text = some (.float number)) :
    ∀ c ∈ text, isWordChar c = true := by
  simp only [float?] at read
  apply isWordChar_of_takeSign
  split at read
  · rename_i infinite
    rw [infinite]
    exact List.all_eq_true.mp rfl
  split at read
  · rename_i undefined
    rw [undefined]
    exact List.all_eq_true.mp rfl
  · simp only [Option.bind_eq_bind, Option.bind_eq_some_iff] at read
    rcases read with ⟨whole, _, ⟨fraction, tail⟩, fractionRead, exponent, exponentRead, _⟩
    intro c member
    rw [← List.takeWhile_append_dropWhile (p := isGrouped)
      (l := (Decimal.takeSign text).2)] at member
    rcases List.mem_append.mp member with front | back
    · exact isWordChar_of_isGrouped (List.mem_takeWhile_imp front)
    · exact isWordChar_of_fraction fractionRead exponentRead c back

/-! ## Words before other text -/

theorem fixedDigits?_eq_some {count n : Nat} (read : fixedDigits? count text = some (n, rest)) :
    (text.take count).length = count ∧ (text.take count).all Char.isDigit = true ∧
      rest = text.drop count := by
  simp only [fixedDigits?] at read
  split_ifs at read with digits
  simp only [Bool.and_eq_true, decide_eq_true_eq] at digits
  simp only [Option.some.injEq, Prod.mk.injEq] at read
  exact ⟨digits.1, digits.2, read.2.symm⟩

theorem after?_eq_some {c : Char} (read : after? c text = some rest) : text = c :: rest := by
  unfold after? at read
  split at read
  · split_ifs at read with same
    rw [beq_iff_eq.mp same, Option.some.inj read]
  · simp at read

/-- A day is found to be one by its first four digits and the dash after them. -/
theorem date?_of_day {day : String} (read : day? text = some (day, rest)) :
    ofWord? text = date? text := by
  simp only [day?, Option.bind_eq_bind, Option.bind_eq_some_iff] at read
  rcases read with ⟨⟨year, past⟩, yearRead, months, dash, _⟩
  rcases fixedDigits?_eq_some yearRead with ⟨long, digits, rfl⟩
  have front (c : Char) (alien : c.isDigit = false) : c ∉ text.take 4 := by
    intro member
    rw [List.all_eq_true.mp digits c member] at alien
    exact absurd alien (by decide)
  have dashed : text.drop 4 = '-' :: months := after?_eq_some dash
  unfold ofWord?
  split
  · exact absurd (by simp) (front 'r' (by decide))
  · exact absurd (by simp) (front 'a' (by decide))
  · exact absurd (by simp) (front 'x' (by decide))
  · exact absurd (by simp) (front 'o' (by decide))
  · exact absurd (by simp) (front 'b' (by decide))
  · rw [if_pos]
    simp [dashed, digits, -List.head?_drop]

/-- A word that reads as no date is no day, so that no time can follow it. -/
theorem timeFollows_of_undated (read : ofWord? text = some value)
    (undated : ∀ day, value ≠ .date day) : timeFollows text rest = false := by
  unfold timeFollows
  split
  · rename_i dayRead
    rw [date?_of_day dayRead] at read
    rcases date?_eq_some read with ⟨day, same⟩
    exact absurd same (undated day)
  · rfl

/-- A word that stands for a value without a date, whatever follows it. -/
structure Spells (text : List Char) (value : Toml) : Prop where
  read : ofWord? text = some value
  undated : ∀ day, value ≠ .date day
  inside : ∀ c ∈ text, isWordChar c = true

theorem Spells.ne_nil (spells : Spells text value) : text ≠ [] := by
  rintro rfl
  exact absurd spells.read (by simp [ofWord?, Decimal.takeSign, decimalInt?, wholeDigits?, ungroup?])

theorem Spells.append (spells : Spells text value)
    (stop : ∀ c ∈ rest.head?, isWordChar c = false) :
    word? (text ++ rest) = some (value, rest) := by
  rcases cut_while spells.inside stop with ⟨taken, dropped⟩
  simp [word?, taken, dropped, timeFollows_of_undated spells.read spells.undated, spells.read]

theorem spells_int {n : Int} (least : leastInt ≤ n) (greatest : n ≤ greatestInt) :
    Spells (toString n).toList (.int n) where
  read := ofWord?_toString least greatest
  undated := by simp
  inside := by
    intro c member
    rw [toList_toString, List.mem_append] at member
    rcases member with sign | digit
    · split_ifs at sign with negative
      · rw [List.mem_singleton.mp sign]
        decide
      · simp at sign
    · exact isWordChar_of_isGrouped (by simp [isGrouped, isDigit_of_mem digit])

theorem spells_bool (truth : Bool) : Spells (toString truth).toList (.bool truth) where
  read := by cases truth <;> rfl
  undated := by simp
  inside := by cases truth <;> exact List.all_eq_true.mp rfl

theorem spells_float {number : Float} (read : ofWord? text = some (.float number)) :
    Spells text (.float number) where
  read := read
  undated := by simp
  inside := isWordChar_of_float (float?_of_ofWord? read)

end Text

end GracefulStop.Toml
