import GracefulStop.Decimal.Shortest

/-!
# Reading numbers

Whole numbers and doubles as they are written in plain text: an optional sign, decimal digits, and
for doubles a point, an exponent, or a word for a value that is not finite.
-/

namespace GracefulStop.Decimal

/-- The number that decimal digits write. -/
def digitsValue (digits : List Char) : Nat :=
  digits.foldl (fun value digit => value * 10 + (digit.toNat - '0'.toNat)) 0

/-- The sign at the front of a text, and what follows it. -/
def takeSign : List Char → Bool × List Char
  | '-' :: rest => (true, rest)
  | '+' :: rest => (false, rest)
  | text => (false, text)

/-- The number that a text of decimal digits writes. -/
def nat? (text : List Char) : Option Nat :=
  if text.isEmpty || !text.all Char.isDigit then none else some (digitsValue text)

/-- The whole number that a text writes, of those between two bounds. -/
def int? (least greatest : Int) (text : List Char) : Option Int := do
  let (negative, digits) := takeSign text
  let magnitude ← nat? digits
  let value : Int := if negative then -magnitude else magnitude
  if least ≤ value && value ≤ greatest then some value else none

/-- The whole number that a text writes, of those from zero up to a bound. A minus is no part of it.
-/
def natUpTo? (greatest : Nat) (text : List Char) : Option Nat := do
  let value ← nat? (match text with
    | '+' :: rest => rest
    | _ => text)
  if value ≤ greatest then some value else none

/-- The double nearest to a decimal. -/
def nearest (negative : Bool) (digits : Nat) (exponent : Int) : Float :=
  let size := exponent + (Nat.toDigits 10 digits).length
  let magnitude : Float :=
    if digits = 0 || size < -400 then 0.0
    else if 400 < size then 1.0 / 0.0
    else Float.ofScientific digits (exponent < 0) exponent.natAbs
  if negative then -magnitude else magnitude

/-- The double nearest to a whole number of 64 bits. -/
def ofInt (value : Int) : Float :=
  if value < 0 then -(UInt64.ofNat value.natAbs).toFloat else (UInt64.ofNat value.toNat).toFloat

/-- The exponent at the end of a text, nothing where the text is empty. -/
def exponent? : List Char → Option Int
  | [] => some 0
  | mark :: rest =>
    if mark == 'e' || mark == 'E' then
      let (negative, digits) := takeSign rest
      (nat? digits).map fun value => if negative then -value else value
    else none

/-- The double that an unsigned decimal writes, which may have digits on one side of the point only.
-/
def unsigned? (negative : Bool) (text : List Char) : Option Float :=
  let whole := text.takeWhile Char.isDigit
  let afterWhole := text.dropWhile Char.isDigit
  let (fraction, rest) := match afterWhole with
    | '.' :: rest => (rest.takeWhile Char.isDigit, rest.dropWhile Char.isDigit)
    | _ => ([], afterWhole)
  if whole.isEmpty && fraction.isEmpty then none
  else
    (exponent? rest).map fun exponent =>
      nearest negative (digitsValue (whole ++ fraction)) (exponent - fraction.length)

/-- The double that a text writes. The words for infinity and for no number may be in any case. -/
def double? (text : List Char) : Option Float :=
  let (negative, unsigned) := takeSign text
  let word := String.ofList (unsigned.map Char.toLower)
  if word = "inf" || word = "infinity" then
    some (if negative then -1.0 / 0.0 else 1.0 / 0.0)
  else if word = "nan" then some (0.0 / 0.0)
  else unsigned? negative unsigned

end GracefulStop.Decimal
