import GracefulStop.Json.Parser
import GracefulStop.Json.Printer
import GracefulStop.Proofs.Toml.Words

/-!
# Strings and numbers of JSON texts

A string is read back from between its quotes, whatever its characters. A number literal is read from the
front of a text if what follows it ends a value, so that no digit, point or exponent can still belong to
it. Whole numbers of 64 bits are read back from their digits.
-/

namespace GracefulStop.Json

namespace Text

variable {c : Char} {piece : Piece} {parts : List Piece} {text literal digits tail rest : List Char}

/-! ## Strings -/

/-- A piece that stands for a character: the character itself, or its number if it is a control
character. -/
inductive Piece.StandsFor (c : Char) : Piece → Prop
  | char : Piece.StandsFor c (.char c)
  | unit (control : c.toNat < 0x20) : Piece.StandsFor c (.unit c.toNat)

theorem hexUnit?_control (control : c.toNat < 0x20) :
    hexUnit? '0' '0' (hexChar (c.toNat / 16)) (hexChar (c.toNat % 16)) = some c.toNat := by
  have all : ∀ code < 0x20,
      hexUnit? '0' '0' (hexChar (code / 16)) (hexChar (code % 16)) = some code := by
    decide
  exact all _ control

theorem pieces_short {letter : Char} (short : shortEscape? letter = some c) :
    pieces ('\\' :: letter :: tail) =
      (pieces tail).map fun (parts, rest) => (.char c :: parts, rest) := by
  have noCode : letter ≠ 'u' := by
    rintro rfl
    cases short
  rw [pieces]
  · rw [short]
    cases pieces tail <;> rfl
  · intro _ _ _ _ _ same
    exact absurd same noCode

theorem pieces_code (control : c.toNat < 0x20) :
    pieces ('\\' :: 'u' :: '0' :: '0' :: hexChar (c.toNat / 16) :: hexChar (c.toNat % 16) :: tail) =
      (pieces tail).map fun (parts, rest) => (.unit c.toNat :: parts, rest) := by
  rw [pieces, hexUnit?_control control]
  cases pieces tail <;> rfl

theorem pieces_self (quote : c ≠ '"') (slash : c ≠ '\\') (printed : ¬ c.toNat < 0x20) :
    pieces (c :: tail) = (pieces tail).map fun (parts, rest) => (.char c :: parts, rest) := by
  rw [pieces]
  · rw [if_neg (by simp [slash, printed])]
    cases pieces tail <;> rfl
  · exact quote
  · intro _ _ _ _ _ same
    exact absurd same slash
  · intro _ _ same
    exact absurd same slash

/-- What is written of a character is read as one piece, which stands for it. -/
theorem pieces_escapeChar (c : Char) (tail : List Char) :
    ∃ piece, Piece.StandsFor c piece ∧
      pieces (escapeChar c ++ tail) =
        (pieces tail).map fun (parts, rest) => (piece :: parts, rest) := by
  have short {letter : Char} (stands : shortEscape? letter = some c) :
      ∃ piece, Piece.StandsFor c piece ∧
        pieces (['\\', letter] ++ tail) =
          (pieces tail).map fun (parts, rest) => (piece :: parts, rest) :=
    ⟨.char c, .char, pieces_short stands⟩
  unfold escapeChar
  split_ifs with quote slash back form line carriage tab control
  · exact short (by rw [beq_iff_eq.mp quote]; rfl)
  · exact short (by rw [beq_iff_eq.mp slash]; rfl)
  · exact short (by rw [beq_iff_eq.mp back]; rfl)
  · exact short (by rw [beq_iff_eq.mp form]; rfl)
  · exact short (by rw [beq_iff_eq.mp line]; rfl)
  · exact short (by rw [beq_iff_eq.mp carriage]; rfl)
  · exact short (by rw [beq_iff_eq.mp tab]; rfl)
  · exact ⟨.unit c.toNat, .unit control, pieces_code control⟩
  · exact ⟨.char c, .char, pieces_self (by simpa using quote) (by simpa using slash) control⟩

/-- The number of a control character is no half of a pair. -/
theorem joinPieces_cons (stands : Piece.StandsFor c piece) :
    joinPieces (piece :: parts) = (joinPieces parts).map (c :: ·) := by
  cases stands with
  | char => rw [joinPieces]
  | unit control =>
      have noHigh : ¬ (0xD800 ≤ c.toNat && c.toNat < 0xDC00) = true := by simp; omega
      have noLow : ¬ (0xDC00 ≤ c.toNat && c.toNat < 0xE000) = true := by simp; omega
      have noHalf : ¬ (0xD800 ≤ c.toNat && c.toNat < 0xE000) = true := by simp; omega
      match parts with
      | .unit low :: parts => rw [joinPieces, if_neg noHigh, if_neg noLow, Char.ofNat_toNat]
      | .char other :: parts => simp [joinPieces, noHalf]
      | [] => simp [joinPieces, noHalf]

theorem pieces_quoted (text rest : List Char) :
    ∃ parts, pieces (text.flatMap escapeChar ++ '"' :: rest) = some (parts, rest) ∧
      joinPieces parts = some text := by
  induction text with
  | nil => exact ⟨[], by simp [pieces], rfl⟩
  | cons c text ih =>
      obtain ⟨parts, read, joined⟩ := ih
      obtain ⟨piece, stands, first⟩ :=
        pieces_escapeChar c (text.flatMap escapeChar ++ '"' :: rest)
      refine ⟨piece :: parts, ?_, ?_⟩
      · rw [List.flatMap_cons, List.append_assoc, first, read]
        rfl
      · rw [joinPieces_cons stands, joined]
        rfl

/-- Whatever a string holds, it is read back from what is written of it. -/
theorem string?_quoted (text : String) (rest : List Char) :
    string? (text.toList.flatMap escapeChar ++ '"' :: rest) = some (some text, rest) := by
  obtain ⟨parts, read, joined⟩ := pieces_quoted text.toList rest
  simp [string?, read, joined]

/-! ## Number literals -/

/-- What may follow a value: a comma, a bracket that closes, or nothing. -/
def EndsValue (rest : List Char) : Prop := ∀ c ∈ rest.head?, c = ',' ∨ c = ']' ∨ c = '}'

theorem EndsValue.unlike (ends : EndsValue rest) (other : c ∉ [',', ']', '}']) :
    rest.head? ≠ some c := by
  intro first
  have known := ends c first
  simp_all

theorem EndsValue.noDigit (ends : EndsValue rest) : ∀ c ∈ rest.head?, c.isDigit = false := by
  intro c first
  rcases ends c first with rfl | rfl | rfl <;> rfl

theorem digits?_eq_some (read : digits? text = some (digits, tail)) :
    text = digits ++ tail ∧ digits ≠ [] ∧ (∀ c ∈ digits, c.isDigit = true) ∧
      ∀ c ∈ tail.head?, c.isDigit = false := by
  unfold digits? at read
  split at read
  · cases read
  · rename_i filled
    cases read
    refine ⟨List.takeWhile_append_dropWhile.symm, filled, fun c => List.mem_takeWhile_imp, ?_⟩
    intro c first
    have stop := List.head?_dropWhile_not Char.isDigit text
    rwa [show (text.dropWhile Char.isDigit).head? = some c from first] at stop

theorem digits?_of_digits (filled : digits ≠ []) (each : ∀ c ∈ digits, c.isDigit = true)
    (stop : ∀ c ∈ tail.head?, c.isDigit = false) : digits? (digits ++ tail) = some (digits, tail) := by
  obtain ⟨taken, dropped⟩ := Toml.Text.cut_while each stop
  rw [digits?, taken, dropped]
  cases digits with
  | nil => exact absurd rfl filled
  | cons c digits => rfl

/-- A reader that takes a part off the front of a text, and the same part if the text stands before the
end of a value. -/
def Takes (part : List Char → Option (List Char × List Char)) : Prop :=
  ∀ {text front tail}, part text = some (front, tail) → text = front ++ tail ∧
    ∀ rest, EndsValue rest → part (text ++ rest) = some (front, tail ++ rest)

theorem takes_digits : Takes digits? := by
  intro text digits tail read
  obtain ⟨rfl, filled, each, stop⟩ := digits?_eq_some read
  refine ⟨rfl, fun rest ends => ?_⟩
  rw [List.append_assoc]
  refine digits?_of_digits filled each fun c first => ?_
  cases tail with
  | nil => exact ends.noDigit c first
  | cons other tail => exact stop c first

theorem wholePart?_other (other : text.head? ≠ some '0') : wholePart? text = digits? text := by
  unfold wholePart?
  split
  · exact absurd rfl other
  · rfl

theorem takes_wholePart : Takes wholePart? := by
  intro text front tail read
  -- a zero in front is the whole part, and is refused if a digit follows it
  by_cases zero : text.head? = some '0'
  · obtain ⟨after, rfl⟩ := List.head?_eq_some_iff.mp zero
    cases after with
    | nil =>
        cases read
        refine ⟨rfl, fun rest ends => ?_⟩
        cases rest with
        | nil => rfl
        | cons c rest => simp [wholePart?, ends.noDigit c rfl]
    | cons c after =>
        simp only [wholePart?] at read
        split_ifs at read with digit
        cases read
        exact ⟨rfl, fun rest _ => by simp [wholePart?, digit]⟩
  · rw [wholePart?_other zero] at read
    obtain ⟨same, more⟩ := takes_digits read
    refine ⟨same, fun rest ends => ?_⟩
    rw [wholePart?_other, more rest ends]
    obtain ⟨_, filled, _⟩ := digits?_eq_some read
    rwa [same, List.append_assoc, List.head?_append_of_ne_nil _ filled,
      ← List.head?_append_of_ne_nil _ filled, ← same]

theorem fractionPart?_other (other : text.head? ≠ some '.') : fractionPart? text = some ([], text) := by
  unfold fractionPart?
  split
  · exact absurd rfl other
  · rfl

theorem takes_fractionPart : Takes fractionPart? := by
  intro text front tail read
  by_cases point : text.head? = some '.'
  · obtain ⟨after, rfl⟩ := List.head?_eq_some_iff.mp point
    obtain ⟨⟨digits, found⟩, digitsRead, made⟩ := Option.map_eq_some_iff.mp read
    cases made
    obtain ⟨rfl, more⟩ := takes_digits digitsRead
    refine ⟨rfl, fun rest ends => ?_⟩
    rw [List.cons_append, fractionPart?, more rest ends]
    rfl
  · rw [fractionPart?_other point] at read
    cases read
    refine ⟨rfl, fun rest ends => fractionPart?_other ?_⟩
    cases text with
    | nil => exact ends.unlike (by decide)
    | cons c text => exact point

/-- The exponent after its mark: a sign, or none, and digits. -/
theorem exponentPart?_mark {mark : Char} (marked : (mark == 'e' || mark == 'E') = true) :
    exponentPart? (mark :: text) =
      if text.head? = some '+' ∨ text.head? = some '-' then
        (digits? text.tail).map fun (digits, rest) => (mark :: text.head?.toList ++ digits, rest)
      else (digits? text).map fun (digits, rest) => (mark :: digits, rest) := by
  unfold exponentPart?
  simp only [if_pos marked]
  split
  · simp
  · simp
  · rename_i plus minus
    have unsigned : ¬ (text.head? = some '+' ∨ text.head? = some '-') := by
      rintro (first | first)
      · obtain ⟨after, same⟩ := List.head?_eq_some_iff.mp first
        exact plus after same
      · obtain ⟨after, same⟩ := List.head?_eq_some_iff.mp first
        exact minus after same
    rw [if_neg unsigned]

theorem exponentPart?_other (mark : ∀ c ∈ text.head?, (c == 'e' || c == 'E') = false) :
    exponentPart? text = some ([], text) := by
  cases text with
  | nil => rfl
  | cons c text =>
      unfold exponentPart?
      simp [mark c rfl]

theorem takes_exponentPart : Takes exponentPart? := by
  intro text front tail read
  by_cases marked : ∃ c ∈ text.head?, (c == 'e' || c == 'E') = true
  · obtain ⟨mark, first, isMark⟩ := marked
    obtain ⟨after, rfl⟩ := List.head?_eq_some_iff.mp first
    rw [exponentPart?_mark isMark] at read
    split_ifs at read with signed
    · obtain ⟨⟨digits, found⟩, digitsRead, made⟩ := Option.map_eq_some_iff.mp read
      cases made
      obtain ⟨same, more⟩ := takes_digits digitsRead
      cases after with
      | nil => simp at signed
      | cons sign after =>
          refine ⟨by simpa using same, fun rest ends => ?_⟩
          rw [List.cons_append, exponentPart?_mark isMark, if_pos (by simpa using signed)]
          simpa using more rest ends
    · obtain ⟨⟨digits, found⟩, digitsRead, made⟩ := Option.map_eq_some_iff.mp read
      cases made
      obtain ⟨rfl, more⟩ := takes_digits digitsRead
      obtain ⟨_, filled, _⟩ := digits?_eq_some digitsRead
      refine ⟨rfl, fun rest ends => ?_⟩
      rw [List.cons_append, exponentPart?_mark isMark, if_neg, more rest ends]
      · rfl
      · rwa [List.append_assoc, List.head?_append_of_ne_nil _ filled,
          ← List.head?_append_of_ne_nil _ filled]
  · have unmarked : ∀ c ∈ text.head?, (c == 'e' || c == 'E') = false := fun c first =>
      Bool.eq_false_iff.mpr fun isMark => marked ⟨c, first, isMark⟩
    rw [exponentPart?_other unmarked] at read
    cases read
    refine ⟨rfl, fun rest ends => exponentPart?_other fun c first => ?_⟩
    cases text with
    | nil => rcases ends c first with rfl | rfl | rfl <;> rfl
    | cons other text => exact unmarked c first

/-- A literal without its sign. -/
def magnitude? (text : List Char) : Option (List Char × List Char) := do
  let (whole, rest) ← wholePart? text
  let (fraction, rest) ← fractionPart? rest
  let (exponent, rest) ← exponentPart? rest
  some (whole ++ fraction ++ exponent, rest)

theorem number?_minus : number? ('-' :: text) =
    (magnitude? text).map fun (literal, rest) => ('-' :: literal, rest) := by
  simp only [number?, magnitude?, Option.bind_eq_bind, Option.map_bind, Function.comp_def]
  rfl

theorem number?_plain (plain : text.head? ≠ some '-') : number? text = magnitude? text := by
  cases text with
  | nil => rfl
  | cons c text =>
      have unlike : c ≠ '-' := by simpa using plain
      simp [number?, magnitude?, unlike]

theorem takes_magnitude : Takes magnitude? := by
  intro text front tail read
  simp only [magnitude?, Option.bind_eq_bind, Option.bind_eq_some_iff, Option.some.injEq,
    Prod.mk.injEq, Prod.exists] at read
  obtain ⟨whole, _, wholeRead, fraction, _, fractionRead, exponent, _, exponentRead, rfl, rfl⟩ := read
  obtain ⟨rfl, moreWhole⟩ := takes_wholePart wholeRead
  obtain ⟨rfl, moreFraction⟩ := takes_fractionPart fractionRead
  obtain ⟨rfl, moreExponent⟩ := takes_exponentPart exponentRead
  refine ⟨by simp, fun rest ends => ?_⟩
  simp only [magnitude?, moreWhole rest ends, moreFraction rest ends, moreExponent rest ends,
    Option.bind_eq_bind, Option.bind_some]

/-- A number literal is taken off the front of a text. -/
theorem takes_number : Takes number? := by
  intro text front tail read
  by_cases minus : text.head? = some '-'
  · obtain ⟨after, rfl⟩ := List.head?_eq_some_iff.mp minus
    rw [number?_minus] at read
    obtain ⟨⟨literal, found⟩, literalRead, made⟩ := Option.map_eq_some_iff.mp read
    cases made
    obtain ⟨rfl, more⟩ := takes_magnitude literalRead
    refine ⟨rfl, fun rest ends => ?_⟩
    rw [List.cons_append, number?_minus, more rest ends]
    rfl
  · rw [number?_plain minus] at read
    obtain ⟨same, more⟩ := takes_magnitude read
    refine ⟨same, fun rest ends => ?_⟩
    rw [number?_plain, more rest ends]
    cases text with
    | nil => cases read
    | cons c text => exact minus

/-! ## Whole numbers -/

theorem wholePart?_toDigits (n : Nat) (stop : ∀ c ∈ rest.head?, c.isDigit = false) :
    wholePart? (Nat.toDigits 10 n ++ rest) = some (Nat.toDigits 10 n, rest) := by
  rcases Nat.eq_zero_or_pos n with rfl | positive
  · cases rest with
    | nil => rfl
    | cons c rest => simp [wholePart?, stop c rfl]
  · rw [wholePart?_other, digits?_of_digits Nat.toDigits_ne_nil (fun _ => Toml.isDigit_of_mem) stop]
    rw [List.head?_append_of_ne_nil _ Nat.toDigits_ne_nil]
    exact Toml.head?_toDigits positive

theorem magnitude?_toDigits (n : Nat) :
    magnitude? (Nat.toDigits 10 n) = some (Nat.toDigits 10 n, []) := by
  have whole := @wholePart?_toDigits [] n (by simp)
  rw [List.append_nil] at whole
  simp [magnitude?, whole, fractionPart?, exponentPart?]

/-- A whole number is one literal. -/
theorem number?_toString (n : Int) : number? (toString n).toList = some ((toString n).toList, []) := by
  rw [Toml.toList_toString]
  split_ifs with negative
  · rw [List.singleton_append, number?_minus, magnitude?_toDigits]
    rfl
  · rw [List.nil_append, number?_plain, magnitude?_toDigits]
    intro minus
    have digit := Toml.isDigit_of_mem (List.mem_of_mem_head? minus)
    exact absurd digit (by decide)

end Text

theorem digitsValue_toDigits (n : Nat) : digitsValue (Nat.toDigits 10 n) = n :=
  Toml.digitsValue_toDigits n

theorem ofChars_toString (n : Int) :
    Literal.ofChars (toString n).toList =
      ⟨decide (n < 0), Nat.toDigits 10 n.natAbs, [], false, false, []⟩ := by
  have each : ∀ c ∈ Nat.toDigits 10 n.natAbs, c.isDigit = true := fun _ => Toml.isDigit_of_mem
  have all := @Toml.Text.cut_while _ [] _ each (by simp)
  rw [List.append_nil] at all
  rw [Toml.toList_toString]
  split_ifs with negative
  · simp [Literal.ofChars, all, negative]
  · cases written : Nat.toDigits 10 n.natAbs with
    | nil => exact absurd written Nat.toDigits_ne_nil
    | cons c digits =>
        have unsigned : c ≠ '-' := by
          rintro rfl
          exact absurd (each '-' (by simp [written])) (by decide)
        rw [written] at all
        simp [Literal.ofChars, unsigned, all, negative]

/-- A whole number of 64 bits, signed or unsigned, is the value of its digits. -/
theorem value?_toString {n : Int} (least : -2 ^ 63 ≤ n) (greatest : n < 2 ^ 64) :
    (Literal.ofChars (toString n).toList).value? = some (.int n) := by
  rw [ofChars_toString, Literal.value?, digitsValue_toDigits]
  by_cases negative : n < 0
  · have bounded : (0 < n.natAbs && n.natAbs ≤ 2 ^ 63) = true := by
      rw [Bool.and_eq_true, decide_eq_true_eq, decide_eq_true_eq]
      omega
    have same : -(n.natAbs : Int) = n := by omega
    simp only [negative, decide_true, Bool.false_eq_true, if_false, if_true, bounded, same]
  · have bounded : n.natAbs < 2 ^ 64 := by omega
    have same : (n.natAbs : Int) = n := by omega
    simp only [negative, decide_false, Bool.false_eq_true, if_false, if_pos bounded, same]

/-! ## Doubles -/

open GracefulStop.Json.Text (isBlank)

/-- A text without blanks. -/
def IsSolid (text : String) : Prop := ∀ c ∈ text.toList, isBlank c = false

instance (text : String) : Decidable (IsSolid text) :=
  List.decidableBAll (fun c => isBlank c = false) text.toList

theorem IsSolid.append {text other : String} (solid : IsSolid text) (more : IsSolid other) :
    IsSolid (text ++ other) := by
  intro c member
  rw [String.toList_append] at member
  exact (List.mem_append.mp member).elim (solid c) (more c)

theorem isBlank_of_isDigit {c : Char} (digit : c.isDigit = true) : isBlank c = false := by
  by_contra blank
  simp only [isBlank, Bool.not_eq_false, Bool.or_eq_true, beq_iff_eq] at blank
  rcases blank with ((rfl | rfl) | rfl) | rfl <;> exact absurd digit (by decide)

theorem isBlank_digitChar (digit : Nat) : isBlank (Nat.digitChar digit) = false := by
  have digits : ∀ digit < 16, isBlank (Nat.digitChar digit) = false := by decide
  by_cases small : digit < 16
  · exact digits digit small
  · have unlike : ∀ other < 16, digit ≠ other := by omega
    simp [Nat.digitChar, unlike, isBlank]

theorem isSolid_digitText (digits : List Nat) : IsSolid (Decimal.digitText digits) := by
  intro c member
  rw [Decimal.digitText, String.toList_ofList] at member
  obtain ⟨digit, _, rfl⟩ := List.mem_map.mp member
  exact isBlank_digitChar digit

theorem isSolid_zeros (count : Nat) : IsSolid (Decimal.zeros count) := by
  intro c member
  rw [Decimal.zeros, String.toList_ofList] at member
  rw [List.eq_of_mem_replicate member]
  rfl

theorem isSolid_toString (n : Int) : IsSolid (toString n) := by
  intro c member
  rw [Toml.toList_toString] at member
  rcases List.mem_append.mp member with sign | digit
  · split_ifs at sign
    · rw [List.mem_singleton.mp sign]
      rfl
    · cases sign
  · exact isBlank_of_isDigit (Toml.isDigit_of_mem digit)

theorem isSolid_positional (number : Decimal.Digits) (wholeMark : Bool) :
    IsSolid (number.positional wholeMark) := by
  have mark : IsSolid (if wholeMark then ".0" else "") := by cases wholeMark <;> decide
  unfold Decimal.Digits.positional
  split
  · exact IsSolid.append (by decide) (isSolid_digitText _)
  · rename_i point _ _
    by_cases whole : number.digits.length ≤ point
    · rw [if_pos whole]
      exact ((isSolid_digitText _).append (isSolid_zeros _)).append mark
    · rw [if_neg whole]
      exact ((isSolid_digitText _).append (by decide)).append (isSolid_digitText _)
  · exact (IsSolid.append (by decide) (isSolid_zeros _)).append (isSolid_digitText _)

theorem isSolid_scientific (number : Decimal.Digits) {exponentSign : String}
    (sign : IsSolid exponentSign) : IsSolid (number.scientific exponentSign) := by
  unfold Decimal.Digits.scientific
  refine IsSolid.append (IsSolid.append ?_ (by decide)) ?_
  · split
    · decide
    · exact isSolid_digitText _
    · exact ((isSolid_digitText _).append (by decide)).append (isSolid_digitText _)
  · split
    · exact isSolid_toString _
    · exact sign.append (isSolid_toString _)

/-- No text of a double has blanks. -/
theorem isSolid_write (number : Float) : IsSolid (Decimal.Style.json.write number) := by
  unfold Decimal.Style.write
  split
  · decide
  · split <;> decide
  · rename_i negative mantissa scale narrow _
    have sign : IsSolid (if negative then "-" else "") := by cases negative <;> decide
    dsimp only
    split
    · exact (sign.append (by decide)).append (by decide)
    · refine sign.append ?_
      split
      · exact isSolid_positional _ _
      · exact isSolid_scientific _ (by decide)

end GracefulStop.Json
