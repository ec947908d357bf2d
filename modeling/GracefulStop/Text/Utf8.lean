import GracefulStop.Power

/-!
# Reading UTF-8

Octets that are no UTF-8 are replaced: the longest start of a character that breaks off
becomes one U+FFFD, and so does every other octet that starts none.
-/

namespace GracefulStop.Text

/-- The character that stands for what cannot be read. -/
def replacement : Char := '\uFFFD'

/-- How a first octet goes on: how many octets follow it, and the bounds of the next one. -/
def utf8Lead (octet : Nat) : Option (Nat × Nat × Nat) :=
  if 0xC2 ≤ octet && octet ≤ 0xDF then some (1, 0x80, 0xBF)
  else if octet == 0xE0 then some (2, 0xA0, 0xBF)
  else if octet == 0xED then some (2, 0x80, 0x9F)
  else if 0xE1 ≤ octet && octet ≤ 0xEF then some (2, 0x80, 0xBF)
  else if octet == 0xF0 then some (3, 0x90, 0xBF)
  else if 0xF1 ≤ octet && octet ≤ 0xF3 then some (3, 0x80, 0xBF)
  else if octet == 0xF4 then some (3, 0x80, 0x8F)
  else none

/-- Where a reader stands inside a character. -/
structure Utf8State where
  /-- Octets still to come; none between characters. -/
  missing : Nat
  /-- The bounds of the next octet. -/
  least : Nat
  greatest : Nat
  /-- The bits read so far. -/
  bits : Nat

/-- Between characters. -/
def Utf8State.start : Utf8State := ⟨0, 0, 0, 0⟩

/-- The bits that a first octet gives to its character. -/
private def leadBits (octet missing : Nat) : Nat := octet % 2 ^ (6 - missing)

/-- Reads an octet between characters. -/
def utf8First (octet : Nat) : List Char × Utf8State :=
  if octet < 0x80 then ([Char.ofNat octet], .start)
  else match utf8Lead octet with
    | some (missing, least, greatest) => ([], ⟨missing, least, greatest, leadBits octet missing⟩)
    | none => ([replacement], .start)

theorem utf8First_lead {octet missing least greatest : Nat} (wide : 0x80 ≤ octet)
    (lead : utf8Lead octet = some (missing, least, greatest)) :
    utf8First octet = ([], ⟨missing, least, greatest, octet % 2 ^ (6 - missing)⟩) := by
  rw [utf8First, if_neg (Nat.not_lt.mpr wide), lead]
  rfl

/-- Reads an octet, giving the characters that it completes. -/
def utf8Step (state : Utf8State) (octet : Nat) : List Char × Utf8State :=
  if state.missing = 0 then utf8First octet
  else if state.least ≤ octet && octet ≤ state.greatest then
    let bits := state.bits * 64 + octet % 64
    if state.missing = 1 then ([Char.ofNat bits], .start)
    else ([], ⟨state.missing - 1, 0x80, 0xBF, bits⟩)
  else
    let (chars, next) := utf8First octet
    (replacement :: chars, next)

/-- The characters of octets from a state on. -/
def utf8Chars (state : Utf8State) : List Nat → List Char
  | [] => if state.missing = 0 then [] else [replacement]
  | octet :: rest =>
    let (chars, next) := utf8Step state octet
    chars ++ utf8Chars next rest

/-- The text of octets, with a replacement for what is no UTF-8. -/
def ofUtf8 (octets : List UInt8) : String :=
  String.ofList (utf8Chars .start (octets.map UInt8.toNat))

end GracefulStop.Text
