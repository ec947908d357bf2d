import GracefulStop.Decimal.Shortest

/-!
# Written numbers

How a double is written: which sizes are written without an exponent, whether a whole
number keeps its `.0`, and how the exponent looks. Each format that the program writes
is one `Style`; they share the digits of `Decimal.shortest`.
-/

namespace GracefulStop.Decimal

/-- The choices of one number format. A number `0.d₁d₂… * 10 ^ point` is written without an
exponent if `leastPoint ≤ point ≤ greatestPoint`. -/
structure Style where
  /-- The smallest position of the point that is written plainly; `none` puts no limit. -/
  leastPoint : Option Int
  /-- The greatest position of the point that is written plainly; `none` puts no limit. -/
  greatestPoint : Option Int
  /-- Whether a whole number ends in `.0`. -/
  wholeMark : Bool
  /-- Which of two equally near decimals is written. -/
  tie : Tie
  /-- The sign before an exponent that is not negative. -/
  exponentSign : String
  /-- The texts of the values that are not finite. -/
  nan : String
  infinity : String
  minusInfinity : String

/-- Plain digits for every size, as in messages. -/
def Style.plain : Style := ⟨none, none, false, .larger, "", "NaN", "inf", "-inf"⟩

/-- Digits that always show a fraction, with an exponent from `1e16` on and below `1e-4`, as in
descriptions of values. -/
def Style.described : Style := ⟨some (-3), some 16, true, .larger, "", "NaN", "inf", "-inf"⟩

/-- Numbers of a JSON text. JSON has no text for a value that is not finite, so `null` stands in. -/
def Style.json : Style := ⟨some (-4), some 16, true, .even, "+", "null", "null", "null"⟩

/-- Numbers of a TOML text. -/
def Style.toml : Style := ⟨none, none, true, .larger, "", "nan", "inf", "-inf"⟩

/-- The text of digits. -/
def digitText (digits : List Nat) : String :=
  String.ofList (digits.map Nat.digitChar)

/-- The text of so many zeros. -/
def zeros (count : Nat) : String := String.ofList (List.replicate count '0')

/-- The digits with the point put in its place. -/
def Digits.positional (number : Digits) (wholeMark : Bool) : String :=
  let count := number.digits.length
  match number.point with
  | .ofNat 0 => "0." ++ digitText number.digits
  | .ofNat point =>
    if count ≤ point then
      digitText number.digits ++ zeros (point - count) ++ (if wholeMark then ".0" else "")
    else digitText (number.digits.take point) ++ "." ++ digitText (number.digits.drop point)
  | .negSucc n => "0." ++ zeros (n + 1) ++ digitText number.digits

/-- The digits with the point after the first of them and an exponent. -/
def Digits.scientific (number : Digits) (exponentSign : String) : String :=
  let exponent := number.point - 1
  let mantissa := match number.digits with
    | [] => "0"
    | [digit] => digitText [digit]
    | first :: rest => digitText [first] ++ "." ++ digitText rest
  mantissa ++ "e" ++ (if exponent < 0 then toString exponent else exponentSign ++ toString exponent)

/-- The text of a double in a format. -/
def Style.write (style : Style) (value : Float) : String :=
  match Parts.ofFloat value with
  | .nan => style.nan
  | .infinite negative => if negative then style.minusInfinity else style.infinity
  | .finite negative mantissa scale narrow =>
    let sign := if negative then "-" else ""
    if mantissa = 0 then sign ++ "0" ++ (if style.wholeMark then ".0" else "")
    else
      let number := shortest mantissa scale narrow style.tie
      let plain :=
        (style.leastPoint.all (· ≤ number.point)) && (style.greatestPoint.all (number.point ≤ ·))
      sign ++ (if plain then number.positional style.wholeMark
        else number.scientific style.exponentSign)

end GracefulStop.Decimal
