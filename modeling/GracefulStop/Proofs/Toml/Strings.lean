import GracefulStop.Toml.Parser
import GracefulStop.Toml.Printer
import Mathlib.Tactic.SplitIfs

/-!
# Strings and names

Whatever a string holds, one of the written forms of a string holds it, and reading that form gives the
string back, together with all that follows it. The same is true of the names of keys. What follows a
string that may have several lines must not begin with a quote, which would still belong to it.
-/

namespace GracefulStop.Toml

namespace Text

variable {c : Char} {code text tail rest : List Char}

/-! ## Escapes -/

theorem coded?_of_mapM (tail : List Char) {digits : List Char} {values : List Nat}
    (each : digits.mapM hexDigit? = some values)
    (valid : (values.foldl (fun code value => code * 16 + value) 0).isValidChar) :
    coded? digits.length (digits ++ tail) =
      some (Char.ofNat (values.foldl (fun code value => code * 16 + value) 0), tail) := by
  have fits : (Nat.isValidChar (values.foldl (fun code value => code * 16 + value) 0)) := valid
  simp [coded?, each, fits]

theorem mapM_hexDigit (high low : Nat) (highBound : high < 16) (lowBound : low < 16) :
    ['0', '0', hexDigit high, hexDigit low].mapM hexDigit? = some [0, 0, high, low] := by
  have all : ∀ high < 16, ∀ low < 16,
      ['0', '0', hexDigit high, hexDigit low].mapM hexDigit? = some [0, 0, high, low] := by
    decide
  exact all high highBound low lowBound

/-- After a backslash, a code that stands for a character, whatever follows it. -/
def Encodes (code : List Char) (c : Char) : Prop :=
  ∀ tail, escape? (code ++ tail) = some (c, code.length) ∧ breaksOff (code ++ tail) = false

theorem encodes_short {letter : Char} (short : escape? [letter] = some (c, 1))
    (known : letter ∈ ['b', 't', 'n', 'f', 'r', '\\', '"']) : Encodes [letter] c := by
  intro tail
  simp only [List.mem_cons, List.not_mem_nil, or_false] at known
  rcases known with rfl | rfl | rfl | rfl | rfl | rfl | rfl <;>
    exact ⟨short, by simp [breaksOff, skipBlanks, isBlank]⟩

theorem encodes_control (control : isControl c = true) :
    Encodes ['u', '0', '0', hexDigit (c.toNat / 16), hexDigit (c.toNat % 16)] c := by
  intro tail
  have small : c.toNat < 128 := by
    simp only [isControl, Bool.or_eq_true, decide_eq_true_eq, beq_iff_eq] at control
    omega
  have digits := mapM_hexDigit (c.toNat / 16) (c.toNat % 16) (by omega) (by omega)
  have whole : c.toNat / 16 * 16 + c.toNat % 16 = c.toNat := by omega
  have coded : coded? 4 ('0' :: '0' :: hexDigit (c.toNat / 16) :: hexDigit (c.toNat % 16) :: tail) =
      some (c, tail) := by
    have read := coded?_of_mapM tail digits
    simp only [List.foldl_cons, List.foldl_nil, Nat.zero_mul, Nat.zero_add, whole] at read
    simpa using read c.valid
  constructor
  · simp [escape?, coded]
  · simp [breaksOff, skipBlanks, isBlank]

/-- A character stands for itself, or is written as an escape. -/
theorem escapeControl_cases (c : Char) :
    escapeControl c = [c] ∧ isInline c = true ∧ c ≠ '\\' ∧ c ≠ '\n' ∨
      ∃ code, escapeControl c = '\\' :: code ∧ Encodes code c := by
  have short : ∀ letter, escape? [letter] = some (c, 1) →
      letter ∈ ['b', 't', 'n', 'f', 'r', '\\', '"'] →
      ∃ code, ['\\', letter] = '\\' :: code ∧ Encodes code c :=
    fun letter stands known => ⟨[letter], rfl, encodes_short stands known⟩
  unfold escapeControl
  split_ifs with back tab line form carriage slash control
  · exact .inr (short 'b' (by rw [beq_iff_eq.mp back]; rfl) (by decide))
  · exact .inr (short 't' (by rw [beq_iff_eq.mp tab]; rfl) (by decide))
  · exact .inr (short 'n' (by rw [beq_iff_eq.mp line]; rfl) (by decide))
  · exact .inr (short 'f' (by rw [beq_iff_eq.mp form]; rfl) (by decide))
  · exact .inr (short 'r' (by rw [beq_iff_eq.mp carriage]; rfl) (by decide))
  · exact .inr (short '\\' (by rw [beq_iff_eq.mp slash]; rfl) (by decide))
  · exact .inr ⟨_, rfl, encodes_control control⟩
  · left
    simp only [beq_iff_eq] at line slash
    simp [isInline, control, line, slash]

/-! ## Strings on one line -/

theorem basic?_skip (code : List Char) : basic? code.length (code ++ tail) = basic? 0 tail := by
  induction code with
  | nil => rfl
  | cons c rest ih => simpa [basic?] using ih

theorem basic?_escape (tail : List Char) (encodes : Encodes code c) :
    basic? 0 ('\\' :: (code ++ tail)) =
      (basic? 0 tail).map fun (value, rest) => (c :: value, rest) := by
  rw [basic?]
  simp only [(encodes tail).1, Option.bind_eq_bind, Option.bind_some, basic?_skip code]
  cases basic? 0 tail <;> simp

theorem basic?_self (inside : isInline c = true) (quote : c ≠ '"') (slash : c ≠ '\\') :
    basic? 0 (c :: tail) = (basic? 0 tail).map fun (value, rest) => (c :: value, rest) := by
  rw [basic?]
  simp [inside, quote, slash]

theorem basic?_escapeLine (text rest : List Char) :
    basic? 0 (escapeLine text ++ '"' :: rest) = some (text, rest) := by
  induction text with
  | nil => simp [escapeLine, basic?]
  | cons c text ih =>
      simp only [escapeLine, List.flatMap_cons, List.append_assoc] at ih ⊢
      by_cases quote : c = '"'
      · subst quote
        have encodes : Encodes ['"'] '"' := encodes_short rfl (by decide)
        have step := basic?_escape (escapeLine text ++ '"' :: rest) encodes
        simp only [escapeLine, ih] at step
        simpa using step
      · rw [if_neg (by simpa using quote)]
        rcases escapeControl_cases c with ⟨same, inside, slash, _⟩ | ⟨code, written, encodes⟩
        · rw [same, List.singleton_append, basic?_self inside quote slash, ih]
          rfl
        · rw [written, List.cons_append, basic?_escape _ encodes, ih]
          rfl

theorem literal?_append (inside : text.all isInline = true) (quote : '\'' ∉ text) :
    literal? (text ++ '\'' :: rest) = some (text, rest) := by
  induction text with
  | nil => simp [literal?]
  | cons c text ih =>
      simp only [List.all_cons, Bool.and_eq_true] at inside
      simp only [List.mem_cons, not_or] at quote
      simp [literal?, inside.1, Ne.symm quote.1, ih inside.2 quote.2]

/-! ## Strings of several lines -/

theorem closing_of_head {quote : Char} (other : rest.head? ≠ some quote) :
    closing quote rest = ([], rest) := by
  match rest with
  | [] => rfl
  | [a] =>
      have unlike : a ≠ quote := by simpa using other
      simp [closing, unlike]
  | a :: b :: rest =>
      have unlike : a ≠ quote := by simpa using other
      simp [closing, unlike]

theorem closing_one {quote : Char} (other : rest.head? ≠ some quote) :
    closing quote (quote :: rest) = ([quote], rest) := by
  cases rest with
  | nil => simp [closing]
  | cons b rest =>
      have unlike : b ≠ quote := by simpa using other
      simp [closing, unlike]

theorem closing_two {quote : Char} : closing quote (quote :: quote :: rest) = ([quote, quote], rest) := by
  simp [closing]

theorem basicLines?_skip (code : List Char) :
    basicLines? (.count code.length) (code ++ tail) = basicLines? (.count 0) tail := by
  induction code with
  | nil => rfl
  | cons c rest ih => simpa [basicLines?] using ih

theorem basicLines?_escape (tail : List Char) (encodes : Encodes code c) :
    basicLines? (.count 0) ('\\' :: (code ++ tail)) =
      (basicLines? (.count 0) tail).map fun (value, rest) => (c :: value, rest) := by
  rw [basicLines?]
  · simp only [(encodes tail).1, (encodes tail).2, Option.bind_eq_bind, Option.bind_some,
      basicLines?_skip code]
    cases basicLines? (.count 0) tail <;> simp
  · simp

theorem basicLines?_self (inside : isInLines c tail = true) (slash : c ≠ '\\')
    (going : c = '"' → startsWithTwo '"' tail = false) :
    basicLines? (.count 0) (c :: tail) =
      (basicLines? (.count 0) tail).map fun (value, rest) => (c :: value, rest) := by
  rw [basicLines?]
  · by_cases quote : c = '"'
    · simp [quote, going quote, isInLines, isInline, isControl]
    · simp [quote, slash, inside]
  · simp

theorem basicLines?_closing :
    basicLines? (.count 0) ('"' :: '"' :: '"' :: rest) = some (closing '"' rest) := by
  simp [basicLines?, startsWithTwo]

/-- A quote stands next only where the text has one that is not the third in a row. -/
theorem head_escapeLines (c : Char) (text : List Char) {quotes : Nat}
    (other : c ≠ '"' ∨ quotes = 2) :
    ∃ first others, escapeLines quotes (c :: text) = first :: others ∧ first ≠ '"' := by
  by_cases quote : c = '"'
  · have third : quotes = 2 := other.resolve_left (not_not_intro quote)
    exact ⟨'\\', '"' :: escapeLines 0 text, by simp [escapeLines, quote, third], by decide⟩
  · by_cases line : c = '\n'
    · exact ⟨'\n', escapeLines 0 text, by simp [escapeLines, line], by decide⟩
    · rcases escapeControl_cases c with ⟨same, _, _, _⟩ | ⟨code, written, _⟩
      · exact ⟨c, escapeLines 0 text, by simp [escapeLines, quote, line, same], quote⟩
      · exact ⟨'\\', code ++ escapeLines 0 text, by simp [escapeLines, quote, line, written],
          by decide⟩

/-- Three quotes in a row stand only where at most two of them belong to the text, at its end. -/
theorem eq_of_startsWithTwo {quotes : Nat} (positive : 0 < quotes) (few : quotes ≤ 2)
    (two : startsWithTwo '"' (escapeLines quotes text ++ '"' :: '"' :: '"' :: rest) = true) :
    text = [] ∨ quotes = 1 ∧ text = ['"'] := by
  match text with
  | [] => exact .inl rfl
  | c :: text =>
      by_cases other : c ≠ '"' ∨ quotes = 2
      · rcases head_escapeLines c text other with ⟨first, others, written, unlike⟩
        rw [written] at two
        cases others <;> simp [startsWithTwo, unlike] at two
      · rcases not_or.mp other with ⟨quote, second⟩
        have first : quotes = 1 := by omega
        cases Decidable.not_not.mp quote
        refine .inr ⟨first, ?_⟩
        match text with
        | [] => rfl
        | d :: text =>
            rcases head_escapeLines d text (.inr rfl : _ ∨ 2 = 2) with
              ⟨third, others, written, unlike⟩
            have next : escapeLines quotes ('"' :: d :: text) = '"' :: third :: others := by
              rw [escapeLines, if_pos (by decide), if_neg second, first, written]
            simp [next, startsWithTwo, unlike] at two

theorem basicLines?_escapeLines {quotes : Nat} (few : quotes ≤ 2) (text : List Char)
    (other : rest.head? ≠ some '"') :
    basicLines? (.count 0) (escapeLines quotes text ++ '"' :: '"' :: '"' :: rest) =
      some (text, rest) := by
  induction text generalizing quotes with
  | nil => rw [escapeLines, List.nil_append, basicLines?_closing, closing_of_head other]
  | cons c text ih =>
      by_cases quote : c = '"'
      · subst quote
        by_cases third : quotes = 2
        · have encodes : Encodes ['"'] '"' := encodes_short rfl (by decide)
          have step := basicLines?_escape
            (escapeLines 0 text ++ '"' :: '"' :: '"' :: rest) encodes
          rw [ih (Nat.zero_le 2)] at step
          simpa [escapeLines, third] using step
        · have written : escapeLines quotes ('"' :: text) = '"' :: escapeLines (quotes + 1) text := by
            simp [escapeLines, third]
          rw [written, List.cons_append]
          -- The text ends where the first of at least three quotes in a row stands.
          by_cases two :
              startsWithTwo '"' (escapeLines (quotes + 1) text ++ '"' :: '"' :: '"' :: rest) = true
          · rcases eq_of_startsWithTwo (Nat.succ_pos quotes) (by omega) two with rfl | ⟨first, rfl⟩
            · rw [escapeLines, List.nil_append, basicLines?_closing, closing_one other]
            · have none : quotes = 0 := by omega
              simp [none, escapeLines, basicLines?_closing, closing_two]
          · have inside : isInLines '"'
                (escapeLines (quotes + 1) text ++ '"' :: '"' :: '"' :: rest) = true := by
              simp [isInLines, isInline, isControl]
            rw [basicLines?_self inside (by decide) (fun _ => by simpa using two),
              ih (by omega)]
            rfl
      · by_cases line : c = '\n'
        · have inside : isInLines '\n' (escapeLines 0 text ++ '"' :: '"' :: '"' :: rest) = true := by
            simp [isInLines]
          rw [line, escapeLines, if_neg (by decide), if_pos (by decide), List.cons_append,
            basicLines?_self inside (by decide) nofun, ih (Nat.zero_le 2)]
          rfl
        · have written : escapeLines quotes (c :: text) =
              escapeControl c ++ escapeLines 0 text := by
            simp [escapeLines, quote, line]
          rw [written, List.append_assoc]
          rcases escapeControl_cases c with ⟨same, inside, slash, _⟩ | ⟨code, escaped, encodes⟩
          · have stays : isInLines c (escapeLines 0 text ++ '"' :: '"' :: '"' :: rest) = true := by
              simp [isInLines, inside]
            rw [same, List.singleton_append, basicLines?_self stays slash (absurd · quote),
              ih (Nat.zero_le 2)]
            rfl
          · rw [escaped, List.cons_append, basicLines?_escape _ encodes, ih (Nat.zero_le 2)]
            rfl

theorem le_longestRun (mark : Char) (before : Nat) (text : List Char) :
    before ≤ longestRun mark before text := by
  induction text generalizing before with
  | nil => exact Nat.le_refl before
  | cons c text ih =>
      rw [longestRun]
      split
      · exact Nat.le_of_succ_le (ih (before + 1))
      · exact Nat.le_max_left _ _

/-- Three marks in a row, of which one has been read, are not all of the text. -/
theorem eq_of_longestRun {mark : Char} {before : Nat} (some : 0 < before)
    (few : longestRun mark before text ≤ 2)
    (two : startsWithTwo mark (text ++ mark :: mark :: mark :: rest) = true) :
    text = [] ∨ text = [mark] := by
  match text with
  | [] => exact .inl rfl
  | [c] =>
      simp only [List.cons_append, List.nil_append, startsWithTwo, Bool.and_eq_true,
        beq_iff_eq] at two
      exact .inr (by rw [two.1])
  | c :: d :: text =>
      simp only [List.cons_append, startsWithTwo, Bool.and_eq_true, beq_iff_eq] at two
      have more := le_longestRun mark (before + 1 + 1) text
      simp only [longestRun, two.1, two.2, beq_self_eq_true, if_true] at few
      omega

theorem literalLines?_append {before : Nat} (inside : ∀ c ∈ text, isInline c = true ∨ c = '\n')
    (few : longestRun '\'' before text ≤ 2) (other : rest.head? ≠ some '\'') :
    literalLines? (text ++ '\'' :: '\'' :: '\'' :: rest) = some (text, rest) := by
  induction text generalizing before with
  | nil =>
      rw [List.nil_append, literalLines?]
      simp [startsWithTwo, closing_of_head other]
  | cons c text ih =>
      have stays : isInLines c (text ++ '\'' :: '\'' :: '\'' :: rest) = true := by
        rcases inside c List.mem_cons_self with inline | rfl
        · simp [isInLines, inline]
        · simp [isInLines]
      have insideRest : ∀ c ∈ text, isInline c = true ∨ c = '\n' :=
        fun d member => inside d (List.mem_cons_of_mem _ member)
      rw [longestRun] at few
      rw [List.cons_append, literalLines?]
      by_cases quote : c = '\''
      · subst quote
        rw [if_pos (by decide)] at few
        by_cases two : startsWithTwo '\'' (text ++ '\'' :: '\'' :: '\'' :: rest) = true
        · rcases eq_of_longestRun (Nat.succ_pos before) few two with rfl | rfl
          · simp [startsWithTwo, closing_one other]
          · simp [startsWithTwo, closing_two]
        · simp [two, stays, ih insideRest few]
      · rw [if_neg (by simpa using quote)] at few
        have fewRest := ih insideRest (Nat.le_trans (Nat.le_max_right _ _) few)
        simp [quote, stays, fewRest]

/-! ## Strings of any form -/

theorem string?_basic (single : startsWithTwo '"' tail = false) :
    string? ('"' :: tail) = basic? 0 tail := by
  unfold string?
  split
  · rename_i three
    cases three
    simp [startsWithTwo] at single
  · rename_i three
    cases three
  · rfl

theorem string?_literal (single : startsWithTwo '\'' tail = false) :
    string? ('\'' :: tail) = literal? tail := by
  unfold string?
  split
  · rename_i three
    cases three
  · rename_i three
    cases three
    simp [startsWithTwo] at single
  · rfl

theorem startsWithTwo_escapeLine (other : rest.head? ≠ some '"') :
    startsWithTwo '"' (escapeLine text ++ '"' :: rest) = false := by
  match text with
  | [] =>
      cases rest with
      | nil => rfl
      | cons c rest =>
          have unlike : c ≠ '"' := by simpa using other
          simp [escapeLine, startsWithTwo, unlike]
  | c :: text =>
      have written : ∃ first others, escapeLine (c :: text) = first :: others ∧ first ≠ '"' := by
        by_cases quote : c = '"'
        · exact ⟨'\\', '"' :: escapeLine text, by simp [escapeLine, quote], by decide⟩
        · rcases escapeControl_cases c with ⟨same, _, _, _⟩ | ⟨code, escaped, _⟩
          · exact ⟨c, escapeLine text, by simp [escapeLine, quote, same], quote⟩
          · exact ⟨'\\', code ++ escapeLine text, by simp [escapeLine, quote, escaped], by decide⟩
      rcases written with ⟨first, others, written, unlike⟩
      rw [written]
      cases others <;> simp [startsWithTwo, unlike]

theorem isInline_of_not_forbidden (fine : text.any isForbidden = false) (member : c ∈ text) :
    isInline c = true ∨ c = '\n' := by
  have allowed := List.any_eq_false.mp fine c member
  by_cases line : c = '\n'
  · exact .inr line
  · left
    simp only [isForbidden, bne_iff_ne, Bool.and_eq_true, ne_eq, line, not_false_eq_true,
      and_true, not_and, Decidable.not_not] at allowed
    by_cases control : isControl c = true
    · simp [isInline, allowed control]
    · simp [isInline, control]

theorem formOf_literal (form : formOf text = .literal) :
    text.all isInline = true ∧ '\'' ∉ text := by
  simp only [formOf] at form
  split_ifs at form with _ literal
  simp only [Bool.and_eq_true, Bool.not_eq_true', List.contains_eq_mem, decide_eq_false_iff_not]
    at literal
  rcases literal with ⟨⟨fine, quote⟩, line⟩
  refine ⟨?_, quote⟩
  rw [List.all_eq_true]
  intro c member
  rcases isInline_of_not_forbidden fine member with inline | rfl
  · exact inline
  · exact absurd member line

theorem formOf_literalLines (form : formOf text = .literalLines) :
    (∀ c ∈ text, isInline c = true ∨ c = '\n') ∧ longestRun '\'' 0 text ≤ 2 := by
  simp only [formOf] at form
  split_ifs at form with _ _ _ literal
  simp only [Bool.and_eq_true, Bool.not_eq_true', decide_eq_true_eq] at literal
  exact ⟨fun c member => isInline_of_not_forbidden literal.1 member, literal.2⟩

/-- The line's end after the opening quotes is left out, and no other. -/
theorem skipNewline_opening {first : Char} {others : List Char}
    (stands : text.contains '\n' = false → first ≠ '\n') (carriage : first ≠ '\r') :
    skipNewline (opening text ++ first :: others) = first :: others := by
  by_cases lines : text.contains '\n' = true
  · rw [opening, if_pos lines]
    rfl
  · have line := stands (by simpa using lines)
    rw [opening, if_neg lines, List.nil_append]
    unfold skipNewline
    split <;> simp_all

theorem head_quoted_escapeLines (text rest : List Char) :
    ∃ first others, escapeLines 0 text ++ '"' :: '"' :: '"' :: rest = first :: others ∧
      (text.contains '\n' = false → first ≠ '\n') ∧ first ≠ '\r' := by
  match text with
  | [] => exact ⟨'"', _, rfl, nofun, by decide⟩
  | c :: text =>
      by_cases quote : c = '"'
      · exact ⟨'"', escapeLines 1 text ++ '"' :: '"' :: '"' :: rest,
          by simp [escapeLines, quote], by simp, by decide⟩
      · by_cases line : c = '\n'
        · exact ⟨'\n', escapeLines 0 text ++ '"' :: '"' :: '"' :: rest,
            by simp [escapeLines, line], by simp [line], by decide⟩
        · rcases escapeControl_cases c with ⟨same, inside, _, _⟩ | ⟨code, escaped, _⟩
          · refine ⟨c, escapeLines 0 text ++ '"' :: '"' :: '"' :: rest,
              by simp [escapeLines, quote, line, same], fun _ => line, ?_⟩
            rintro rfl
            exact absurd inside (by decide)
          · exact ⟨'\\', code ++ (escapeLines 0 text ++ '"' :: '"' :: '"' :: rest),
              by simp [escapeLines, quote, line, escaped], by simp, by decide⟩

theorem head_quoted_text (rest : List Char) (inside : ∀ c ∈ text, isInline c = true ∨ c = '\n') :
    ∃ first others, text ++ '\'' :: '\'' :: '\'' :: rest = first :: others ∧
      (text.contains '\n' = false → first ≠ '\n') ∧ first ≠ '\r' := by
  match text with
  | [] => exact ⟨'\'', _, rfl, nofun, by decide⟩
  | c :: text =>
      refine ⟨c, text ++ '\'' :: '\'' :: '\'' :: rest, rfl, ?_, ?_⟩
      · rintro none rfl
        simp at none
      · rintro rfl
        have bad := inside '\r' List.mem_cons_self
        revert bad
        decide

/-- A string is read back from its written form. -/
theorem string?_stringChars (text : List Char) (single : rest.head? ≠ some '\'')
    (double : rest.head? ≠ some '"') :
    string? (stringChars text ++ rest) = some (text, rest) := by
  unfold stringChars
  split
  · simp only [List.cons_append, List.append_assoc, List.nil_append]
    rw [string?_basic (startsWithTwo_escapeLine double), basic?_escapeLine]
  · rename_i form
    rcases formOf_literal form with ⟨inside, quote⟩
    have other : startsWithTwo '\'' (text ++ '\'' :: rest) = false := by
      match text with
      | [] =>
          cases rest with
          | nil => rfl
          | cons c rest =>
              have unlike : c ≠ '\'' := by simpa using single
              simp [startsWithTwo, unlike]
      | c :: text =>
          have unlike : c ≠ '\'' := fun same => quote (same ▸ List.mem_cons_self)
          cases text <;> simp [startsWithTwo, unlike]
    simp only [List.cons_append, List.append_assoc, List.nil_append]
    rw [string?_literal other, literal?_append inside quote]
  · simp only [List.cons_append, List.append_assoc, List.nil_append, string?]
    rcases head_quoted_escapeLines text rest with ⟨first, others, written, line, carriage⟩
    rw [written, skipNewline_opening line carriage, ← written,
      basicLines?_escapeLines (Nat.zero_le 2) text double]
  · rename_i form
    rcases formOf_literalLines form with ⟨inside, few⟩
    simp only [List.cons_append, List.append_assoc, List.nil_append, string?]
    rcases head_quoted_text rest inside with ⟨first, others, written, line, carriage⟩
    rw [written, skipNewline_opening line carriage, ← written,
      literalLines?_append inside few single]

/-! ## Names of keys -/

/-- Characters of a class are cut off where the first other one stands. -/
theorem cut_while {isIn : Char → Bool} (inside : ∀ c ∈ text, isIn c = true)
    (stop : ∀ c ∈ rest.head?, isIn c = false) :
    (text ++ rest).takeWhile isIn = text ∧ (text ++ rest).dropWhile isIn = rest := by
  rw [List.takeWhile_append_of_pos inside, List.dropWhile_append_of_pos inside]
  cases rest with
  | nil => simp
  | cons c rest => simp [stop c rfl]

theorem name?_quoted (tail : List Char) :
    name? ('"' :: tail) = (basic? 0 tail).map fun (name, rest) => (String.ofList name, rest) := by
  simp [name?, isBare, lineString?]

/-- A name is read back from its written form, if what follows cannot belong to a bare name. -/
theorem name?_keyChars (name : List Char) (stop : ∀ c ∈ rest.head?, isBare c = false) :
    name? (keyChars name ++ rest) = some (String.ofList name, rest) := by
  have double : name? ('"' :: (escapeLine name ++ ['"']) ++ rest) =
      some (String.ofList name, rest) := by
    simp [name?_quoted, basic?_escapeLine]
  unfold keyChars
  dsimp only
  split_ifs with bare plain single
  · simp only [Bool.and_eq_true, Bool.not_eq_true', List.isEmpty_eq_false_iff,
      List.all_eq_true] at bare
    rcases cut_while bare.2 stop with ⟨taken, dropped⟩
    cases name with
    | nil => exact absurd rfl bare.1
    | cons c name => simp only [name?, taken, dropped]
  · exact double
  · simp only [Bool.and_eq_true, Bool.not_eq_true', List.any_eq_false,
      List.contains_eq_mem, decide_eq_false_iff_not] at single
    have inside : name.all isInline = true := by
      rw [List.all_eq_true]
      intro c member
      have allowed := single.1 c member
      by_cases tab : c = '\t' <;> simp_all [isInline]
    simp [name?, isBare, lineString?, literal?_append inside single.2]
  · exact double

end Text

end GracefulStop.Toml
