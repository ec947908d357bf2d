import GracefulStop.Text.Utf8
import Mathlib.Tactic.SplitIfs

/-!
# Reading what UTF-8 writes

The octets of a text are read as the text. A character is written in up to four octets, the first of
which says how many follow and within which bounds the next one is. The octets keep the order of texts.
-/

namespace GracefulStop.Text

variable {octet missing least greatest bits : Nat} {rest : List Nat}

theorem utf8Chars_ascii (narrow : octet < 0x80) :
    utf8Chars .start (octet :: rest) = Char.ofNat octet :: utf8Chars .start rest := by
  simp [utf8Chars, utf8Step, utf8First, Utf8State.start, narrow]

theorem utf8Chars_lead (wide : 0x80 ≤ octet)
    (lead : utf8Lead octet = some (missing, least, greatest)) :
    utf8Chars .start (octet :: rest) =
      utf8Chars ⟨missing, least, greatest, octet % 2 ^ (6 - missing)⟩ rest := by
  simp [utf8Chars, utf8Step, Utf8State.start, utf8First_lead wide lead]

theorem utf8Chars_next (more : 2 ≤ missing) (above : least ≤ octet) (below : octet ≤ greatest) :
    utf8Chars ⟨missing, least, greatest, bits⟩ (octet :: rest) =
      utf8Chars ⟨missing - 1, 0x80, 0xBF, bits * 64 + octet % 64⟩ rest := by
  have within : missing ≠ 0 := by omega
  have notLast : missing ≠ 1 := by omega
  simp [utf8Chars, utf8Step, within, notLast, above, below]

theorem utf8Chars_last (above : least ≤ octet) (below : octet ≤ greatest) :
    utf8Chars ⟨1, least, greatest, bits⟩ (octet :: rest) =
      Char.ofNat (bits * 64 + octet % 64) :: utf8Chars .start rest := by
  simp [utf8Chars, utf8Step, above, below]

/-! ## One character -/

variable {code : Nat}

theorem utf8Chars_two (low : 0x7F < code) (high : code ≤ 0x7FF) :
    utf8Chars .start ((code / 64 % 32 + 0xC0) :: (code % 64 + 0x80) :: rest) =
      Char.ofNat code :: utf8Chars .start rest := by
  have lead : utf8Lead (code / 64 % 32 + 0xC0) = some (1, 0x80, 0xBF) := by
    rw [utf8Lead, if_pos]
    simp only [Bool.and_eq_true, decide_eq_true_eq]
    omega
  rw [utf8Chars_lead (by omega) lead, utf8Chars_last (by omega) (by omega)]
  congr 2
  omega

theorem utf8Chars_three (low : 0x7FF < code) (high : code ≤ 0xFFFF) (valid : code.isValidChar) :
    utf8Chars .start ((code / 4096 % 16 + 0xE0) :: (code / 64 % 64 + 0x80) ::
      (code % 64 + 0x80) :: rest) = Char.ofNat code :: utf8Chars .start rest := by
  have lead : ∃ least greatest, utf8Lead (code / 4096 % 16 + 0xE0) = some (2, least, greatest) ∧
      least ≤ code / 64 % 64 + 0x80 ∧ code / 64 % 64 + 0x80 ≤ greatest := by
    simp only [Nat.isValidChar] at valid
    unfold utf8Lead
    split_ifs with two e0 ed three f0 f13 f4 <;>
      simp only [Bool.and_eq_true, decide_eq_true_eq, beq_iff_eq] at *
    · omega
    · exact ⟨_, _, rfl, by omega, by omega⟩
    · exact ⟨_, _, rfl, by omega, by omega⟩
    · exact ⟨_, _, rfl, by omega, by omega⟩
    all_goals omega
  rcases lead with ⟨least, greatest, lead, above, below⟩
  rw [utf8Chars_lead (by omega) lead, utf8Chars_next (Nat.le_refl 2) above below,
    utf8Chars_last (by omega) (by omega)]
  congr 2
  omega

theorem utf8Chars_four (low : 0xFFFF < code) (valid : code.isValidChar) :
    utf8Chars .start ((code / 262144 % 8 + 0xF0) :: (code / 4096 % 64 + 0x80) ::
      (code / 64 % 64 + 0x80) :: (code % 64 + 0x80) :: rest) =
      Char.ofNat code :: utf8Chars .start rest := by
  simp only [Nat.isValidChar] at valid
  have lead : ∃ least greatest, utf8Lead (code / 262144 % 8 + 0xF0) = some (3, least, greatest) ∧
      least ≤ code / 4096 % 64 + 0x80 ∧ code / 4096 % 64 + 0x80 ≤ greatest := by
    unfold utf8Lead
    split_ifs with two e0 ed three f0 f13 f4 <;>
      simp only [Bool.and_eq_true, decide_eq_true_eq, beq_iff_eq] at *
    · omega
    · omega
    · omega
    · omega
    · exact ⟨_, _, rfl, by omega, by omega⟩
    · exact ⟨_, _, rfl, by omega, by omega⟩
    · exact ⟨_, _, rfl, by omega, by omega⟩
    · omega
  rcases lead with ⟨least, greatest, lead, above, below⟩
  rw [utf8Chars_lead (by omega) lead, utf8Chars_next (by decide) above below,
    utf8Chars_next (by decide) (by omega) (by omega), utf8Chars_last (by omega) (by omega)]
  congr 2
  omega

theorem utf8Chars_char (c : Char) :
    utf8Chars .start ((String.utf8EncodeChar c).map UInt8.toNat ++ rest) =
      c :: utf8Chars .start rest := by
  have same : Char.ofNat c.val.toNat = c := Char.ofNat_toNat c
  have valid : c.val.toNat.isValidChar := c.valid
  have bound : c.val.toNat < 0x110000 := by
    simp only [Nat.isValidChar] at valid
    omega
  -- an octet is written modulo 256, which changes none of these numbers
  have octet (n : Nat) (small : n < 256) : (UInt8.ofNat n).toNat = n := by
    simp only [UInt8.toNat_ofNat']
    omega
  simp only [String.utf8EncodeChar]
  generalize c.val.toNat = code at same valid bound
  split_ifs with one two three <;>
    simp only [List.map_cons, List.map_nil, List.cons_append, List.nil_append]
  · rw [octet _ (by omega), utf8Chars_ascii (by omega), same]
  · rw [octet _ (by omega), octet _ (by omega), utf8Chars_two (by omega) two, same]
  · rw [octet _ (by omega), octet _ (by omega), octet _ (by omega),
      utf8Chars_three (by omega) three valid, same]
  · rw [octet _ (by omega), octet _ (by omega), octet _ (by omega), octet _ (by omega),
      utf8Chars_four (by omega) valid, same]

/-! ## A text -/

theorem utf8Chars_flatMap (chars : List Char) :
    utf8Chars .start ((chars.flatMap String.utf8EncodeChar).map UInt8.toNat) = chars := by
  induction chars with
  | nil => rfl
  | cons c chars ih => rw [List.flatMap_cons, List.map_append, utf8Chars_char, ih]

theorem toList_loop (octets : ByteArray) (i : Nat) (taken : List UInt8) :
    ByteArray.toList.loop octets i taken = taken.reverse ++ octets.data.toList.drop i := by
  fun_induction ByteArray.toList.loop octets i taken with
  | case1 i taken inside ih =>
    have within : i < octets.data.toList.length := by simpa using inside
    rw [ih, List.reverse_cons, List.append_assoc, List.drop_eq_getElem_cons within]
    simp [ByteArray.get!, getElem!_pos octets.data i (by simpa using inside)]
  | case2 i taken outside =>
    have past : octets.data.toList.length ≤ i := by simpa using outside
    rw [List.drop_of_length_le past, List.append_nil]

theorem toUTF8_toList (text : String) :
    text.toUTF8.toList = text.toList.flatMap String.utf8EncodeChar := by
  have octets : text.toUTF8 = (text.toList.flatMap String.utf8EncodeChar).toByteArray :=
    String.utf8Encode_toList.symm
  rw [ByteArray.toList, toList_loop, octets, List.toList_data_toByteArray]
  rfl

/-- The octets of a text are read as the text. -/
theorem ofUtf8_toUTF8 (text : String) : ofUtf8 text.toUTF8.toList = text := by
  rw [ofUtf8, toUTF8_toList, utf8Chars_flatMap, String.ofList_toList]

/-! ## The order of texts -/

/-- A lesser character has lesser octets, whatever follows. -/
theorem encode_lt {c d : Char} (less : c < d) (front back : List UInt8) :
    String.utf8EncodeChar c ++ front < String.utf8EncodeChar d ++ back := by
  have codes : c.val.toNat < d.val.toNat := less
  have validC : c.val.toNat.isValidChar := c.valid
  have validD : d.val.toNat.isValidChar := d.valid
  simp only [Nat.isValidChar] at validC validD
  simp only [String.utf8EncodeChar]
  generalize c.val.toNat = low at *
  generalize d.val.toNat = high at *
  split_ifs <;>
    simp only [List.cons_append, List.nil_append, List.cons_lt_cons_iff, UInt8.lt_iff_toNat_lt,
      ← UInt8.toNat_inj, UInt8.toNat_ofNat'] <;>
    try omega
  -- of four octets each, the first in which they differ decides
  by_cases first : low / 262144 = high / 262144
  · refine .inr ⟨by omega, ?_⟩
    by_cases second : low / 4096 = high / 4096
    · exact .inr ⟨by omega, by omega⟩
    · exact .inl (by omega)
  · exact .inl (by omega)

theorem encode_flatMap_lt {chars others : List Char} (less : chars < others) :
    chars.flatMap String.utf8EncodeChar < others.flatMap String.utf8EncodeChar := by
  induction less with
  | @nil c chars =>
      rcases List.exists_cons_of_ne_nil (String.utf8EncodeChar_ne_nil (c := c)) with ⟨octet, rest, octets⟩
      rw [List.flatMap_cons, octets]
      exact List.nil_lt_cons octet _
  | rel less => exact encode_lt less _ _
  | @cons c chars others _ ih => exact List.append_left_lt ih

/-- Texts are in the order of their octets. -/
theorem lt_iff_toUTF8_lt {text other : String} :
    text < other ↔ text.toUTF8.toList < other.toUTF8.toList := by
  rw [toUTF8_toList, toUTF8_toList]
  refine ⟨encode_flatMap_lt, fun less => ?_⟩
  refine String.not_le.mp fun notLess => ?_
  by_cases same : text = other
  · exact List.lt_irrefl _ (same ▸ less)
  · have above : other < text := String.not_le.mp fun le => same (String.le_antisymm le notLess)
    exact List.lt_asymm less (encode_flatMap_lt above)

end GracefulStop.Text
