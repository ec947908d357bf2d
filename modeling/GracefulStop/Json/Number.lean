import GracefulStop.Json.Basic

/-!
# JSON numbers

A literal without fraction and exponent is a whole number if it fits 64 bits, signed or
unsigned; any other literal, and `-0`, is a double. Into a double's significand go digits as
long as they fit 64 bits, first those before the point and then, whether or not all of them
went in, those after it. It is then multiplied or divided once by a power of ten; a result that
would be infinite is refused.
-/

namespace GracefulStop.Json

/-- A number literal taken apart. -/
structure Literal where
  negative : Bool
  /-- The digits before the point. -/
  whole : List Char
  /-- The digits after the point. -/
  fraction : List Char
  /-- Whether there is a point or an exponent. -/
  isFloat : Bool
  exponentNegative : Bool
  /-- The digits of the exponent. -/
  exponent : List Char

/-- The number that digits write. -/
def digitsValue (digits : List Char) : Nat :=
  digits.foldl (fun value digit => value * 10 + (digit.toNat - '0'.toNat)) 0

/-- Takes a literal apart. -/
def Literal.ofChars (literal : List Char) : Literal :=
  let (negative, unsigned) := match literal with
    | '-' :: rest => (true, rest)
    | _ => (false, literal)
  let whole := unsigned.takeWhile Char.isDigit
  let afterWhole := unsigned.dropWhile Char.isDigit
  let (fraction, afterFraction) := match afterWhole with
    | '.' :: rest => (rest.takeWhile Char.isDigit, rest.dropWhile Char.isDigit)
    | _ => ([], afterWhole)
  let (exponentNegative, exponent) := match afterFraction with
    | _ :: '-' :: digits => (true, digits)
    | _ :: '+' :: digits => (false, digits)
    | _ :: digits => (false, digits)
    | [] => (false, [])
  ⟨negative, whole, fraction, !afterWhole.isEmpty, exponentNegative, exponent⟩

/-- Takes digits into a significand while it fits 64 bits. -/
def takeDigits (significand : Nat) : List Char → Nat × List Char
  | [] => (significand, [])
  | digit :: rest =>
    let next := significand * 10 + (digit.toNat - '0'.toNat)
    if next < 2 ^ 64 then takeDigits next rest else (significand, digit :: rest)

/-- The largest power of ten that is a double. -/
def greatestPower : Int := 308

/-- The double nearest to `10 ^ power`. -/
def tenTo (power : Nat) : Float := Float.ofScientific 1 false power

/-- A significand times `10 ^ exponent`, with one rounding for the significand and one for each
multiplication or division; `none` if the result is infinite. Fewer than `-308` powers are taken
away in several steps. -/
def scale (significand : Nat) (exponent : Int) : Option Float :=
  let start := (UInt64.ofNat significand).toFloat
  if significand = 0 then some start
  else if exponent > greatestPower then none
  else if 0 ≤ exponent then
    let result := start * tenTo exponent.toNat
    if result.isInf then none else some result
  else if exponent < -1000 then some 0.0
  else
    let steps := ((-exponent).toNat - 1) / 308
    let rest := (-exponent).toNat - 308 * steps
    some ((List.replicate steps (tenTo 308)).foldl (· / ·) start / tenTo rest)

/-- The double of a literal, `none` if it is too large for one. -/
def Literal.float? (literal : Literal) : Option Float :=
  let (front, unusedWhole) := takeDigits 0 literal.whole
  let (significand, unusedFraction) := takeDigits front literal.fraction
  let point : Int := unusedWhole.length - (literal.fraction.length - unusedFraction.length)
  let exponent := digitsValue literal.exponent
  let magnitude : Option Float :=
    if 2 ^ 31 ≤ exponent then
      if literal.exponentNegative || significand = 0 then some 0.0 else none
    else scale significand (if literal.exponentNegative then point - exponent else point + exponent)
  magnitude.map fun value => if literal.negative then -value else value

/-- The value of a literal. -/
def Literal.value? (literal : Literal) : Option Json :=
  let whole := digitsValue literal.whole
  if literal.isFloat then literal.float?.map .float
  else if literal.negative then
    if 0 < whole && whole ≤ 2 ^ 63 then some (.int (-whole)) else literal.float?.map .float
  else if whole < 2 ^ 64 then some (.int whole)
  else literal.float?.map .float

end GracefulStop.Json
