import GracefulStop.Text.Columns

/-!
# Joins

Some characters are drawn as one with what follows them: letters that become ligatures, emoji behind
a joiner, the letters of a flag. Whether a character is joined shows in the columns that it adds to
the text after it, so a text is read from its end.
-/

namespace GracefulStop.Text

/-- What a text starts with, as far as a character before it can be joined to it. Of a letter with a
flag, the flag says whether a joiner stands before it. -/
inductive Start where
  | plain
  | lineEnd
  /-- An Arabic alef, which joins with a lam. -/
  | alef
  /-- A Hebrew lamed, which joins with an alef over a joiner. -/
  | lamed (joiner : Bool)
  /-- A Buginese ya, and the vowel sign before it. -/
  | ya (joiner : Bool)
  | vowelYa
  /-- A Tifinagh consonant, and one with the consonant joiner before it. -/
  | consonant (joiner : Bool)
  | joinedConsonant
  /-- A Lisu tone that is written after another. -/
  | lisuTone
  /-- An Old Turkic vowel, which joins with a consonant over a joiner. -/
  | orkhonVowel (joiner : Bool)
  /-- A Khmer letter, which can be written below another. -/
  | khmer
  /-- The Kirat Rai vowels e and ai, which are parts of other vowels. -/
  | kiratE
  | kiratAi
  /-- An emoji, and a skin tone. -/
  | emoji
  | tone
  /-- A joiner before an emoji, and a key's frame before that. -/
  | joiner
  | keycap
  /-- One flag letter, and several. -/
  | flag
  | flags
  /-- Flag letters before a joiner: one, an even number, an odd number. -/
  | joinedFlag
  | evenFlags
  | oddFlags
  /-- The end of a tagged flag, with as many tag letters and then tag digits. -/
  | tagged (letters digits : Nat)
  deriving DecidableEq, Repr

namespace Start

/-- Whether a text starts with a letter that can be joined. -/
def isLetter : Start → Bool
  | alef | lamed _ | ya _ | vowelYa | consonant _ | joinedConsonant | lisuTone | orkhonVowel _
  | khmer => true
  | _ => false

/-- Whether a text starts with a joiner before an emoji. -/
def isJoiner : Start → Bool
  | joiner | keycap => true
  | _ => false

/-- A letter with a joiner before it. Letters that join without one do not mind it. -/
def withJoiner? : Start → Option Start
  | lamed _ => some (lamed true)
  | ya _ => some (ya true)
  | consonant _ => some (consonant true)
  | orkhonVowel _ => some (orkhonVowel true)
  | vowelYa => some vowelYa
  | joinedConsonant => some joinedConsonant
  | lisuTone => some lisuTone
  | khmer => some khmer
  | _ => none

end Start

/-- The Arabic letters of the form of alef. -/
def alefRanges : List CodeRange :=
  [(0x622, 0x623), (0x625, 0x625), (0x627, 0x627), (0x671, 0x673), (0x675, 0x675), (0x773, 0x774),
    (0x870, 0x882)]

/-- The Arabic letters of the form of lam. -/
def lamRanges : List CodeRange :=
  [(0x644, 0x644), (0x6B5, 0x6B8), (0x76A, 0x76A), (0x8A6, 0x8A6), (0x8C7, 0x8C7)]

/-- The characters besides marks over which Arabic letters join. -/
def clearRanges : List CodeRange :=
  [(0xAD, 0xAD), (0x61C, 0x61C), (0x70F, 0x70F), (0x200B, 0x200B), (0x200E, 0x200F),
    (0x202A, 0x202E), (0x2060, 0x2064), (0x206A, 0x206F), (0xFEFF, 0xFEFF), (0x1BCA0, 0x1BCA3),
    (0x1D173, 0x1D17A), (0xE0001, 0xE0001), (0xE0020, 0xE007F)]

/-- The marks without a form of their own, over which other letters join. -/
def formlessRanges : List CodeRange :=
  [(0x34F, 0x34F), (0x17B4, 0x17B5), (0x180B, 0x180D), (0x180F, 0x180F), (0xFE00, 0xFE0F),
    (0xE0100, 0xE01EF)]

/-- The Khmer letters that can be written below another. -/
def khmerRanges : List CodeRange :=
  [(0x1780, 0x1782), (0x1784, 0x1787), (0x1789, 0x178C), (0x178E, 0x1793), (0x1795, 0x1798),
    (0x179B, 0x179D), (0x17A0, 0x17A0), (0x17A2, 0x17A2), (0x17A7, 0x17A7), (0x17AB, 0x17AC),
    (0x17AF, 0x17AF)]

/-- The Tifinagh consonants. -/
def tifinaghRanges : List CodeRange := [(0x2D31, 0x2D65), (0x2D6F, 0x2D6F)]

/-- Whether Arabic letters join over a character. -/
def isClear (c : Char) : Bool :=
  isEmptyMark c || inRanges clearRanges c.toNat

/-- Whether a character joins emoji and letters. -/
def isJoinerChar (c : Char) : Bool := c == '\u200D'

/-- What a character adds to a text that starts with a letter, and what the text starts with then,
if the character is joined to the letter. -/
def joinLetter? (start : Start) (c : Char) : Option (Int × Start) :=
  match start, c.toNat with
  | .alef, code =>
    if inRanges lamRanges code then some (0, .plain)
    else if isClear c then some (0, .alef)
    else none
  | .lamed true, 0x5D0 => some (0, .plain)
  | .ya true, 0x1A17 => some (0, .vowelYa)
  | .vowelYa, 0x1A15 => some (0, .plain)
  | .consonant false, 0x2D7F => some (1, .joinedConsonant)
  | .consonant true, code => if inRanges tifinaghRanges code then some (0, .plain) else none
  | .joinedConsonant, code => if inRanges tifinaghRanges code then some (-1, .plain) else none
  | .lisuTone, code => if 0xA4F8 ≤ code && code ≤ 0xA4FB then some (0, .plain) else none
  | .orkhonVowel true, 0x10C32 => some (0, .plain)
  | .khmer, 0x17D2 => some (-1, .plain)
  | .kiratE, 0x16D63 => some (0, .plain)
  | .kiratE, 0x16D67 => some (0, .kiratAi)
  | .kiratE, 0x16D68 => some (1, .kiratE)
  | .kiratE, 0x16D69 => some (0, .plain)
  | .kiratAi, 0x16D63 => some (0, .plain)
  | _, _ => none

/-- The end of a tagged flag with one more tag before it, and the emoji once its flag is found:
three to six letters, or up to four letters and then three digits. -/
def joinTag? (letters digits : Nat) (c : Char) : Option Start :=
  if 0xE0061 ≤ c.toNat && c.toNat ≤ 0xE007A && digits == 0 && letters < 6 then
    some (.tagged (letters + 1) 0)
  else if 0xE0030 ≤ c.toNat && c.toNat ≤ 0xE0039 && digits < 3 && (digits != 0 || letters ≤ 4) then
    some (.tagged letters (digits + 1))
  else if c.toNat == 0x1F3F4 && (digits == 3 || (digits == 0 && 3 ≤ letters)) then some .emoji
  else none

/-- What a character adds to a text that starts with a part of an emoji, and what the text starts
with then, if the character is joined to the emoji. -/
def joinEmoji? (start : Start) (c : Char) : Option (Int × Start) :=
  match start with
  | .tone =>
    if isToneBase c then some (0, .emoji)
    else if isJoinerChar c then some (0, .joiner)
    else none
  | .emoji => if isJoinerChar c then some (0, .joiner) else none
  | .flag => if isFlagLetter c then some (1, .flags) else none
  | .flags =>
    if isFlagLetter c then some (1, .flags)
    else if isJoinerChar c then some (0, .joiner)
    else none
  | .joiner =>
    if c == '\u20E3' then some (0, .keycap)
    else if isFlagLetter c then some (1, .joinedFlag)
    else if isTone c then some (0, .tone)
    else if c.toNat == 0xE007F then some (0, .tagged 0 0)
    else if isEmoji c then some (0, .emoji)
    else none
  | .joinedFlag => if isFlagLetter c then some (-1, .evenFlags) else none
  | .oddFlags =>
    if isFlagLetter c then some (-1, .evenFlags)
    else if isJoinerChar c then some (0, .joiner)
    else none
  | .evenFlags =>
    if isFlagLetter c then some (3, .oddFlags)
    else if isJoinerChar c then some (0, .joiner)
    else none
  | .tagged letters digits => (joinTag? letters digits c).map fun start => (0, start)
  | _ => none

/-- What a text starts with that starts with a character. -/
def startOf (c : Char) : Start :=
  if c == '\n' then .lineEnd
  else if c.toNat < 0x5D0 then .plain
  else if c == '\u05DC' then .lamed false
  else if inRanges alefRanges c.toNat then .alef
  else if inRanges khmerRanges c.toNat then .khmer
  else if c == '\u1A10' then .ya false
  else if inRanges tifinaghRanges c.toNat then .consonant false
  else if c == '\uA4FC' || c == '\uA4FD' then .lisuTone
  else if c.toNat == 0x10C03 then .orkhonVowel false
  else if c.toNat == 0x16D67 then .kiratE
  else if c.toNat == 0x16D68 then .kiratAi
  else if isTone c then .tone
  else if isFlagLetter c then .flag
  else if isEmoji c then .emoji
  else .plain

/-- What a character adds to a text, and what the text starts with then. -/
def Start.before (start : Start) (c : Char) : Int × Start :=
  if start == .lineEnd && c == '\r' then (0, .plain)
  else match if isJoinerChar c then start.withJoiner? else none with
    | some joined => (0, joined)
    | none =>
      if start.isLetter && start != .alef && inRanges formlessRanges c.toNat then (0, start)
      else (joinLetter? start c <|> joinEmoji? start c).getD (columns c, startOf c)

end GracefulStop.Text
