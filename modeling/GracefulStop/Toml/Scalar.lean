import GracefulStop.Decimal.Reading
import GracefulStop.Toml.Basic

/-!
# TOML values of one word

Truth values, numbers and dates are words without blanks. Digits may be grouped by single
underscores. A whole number fits 64 bits with a sign; a double that would be infinite is refused.
A date is checked against the calendar and the clock, and written in its usual form.
-/

namespace GracefulStop.Toml

/-- The digits of a group of digits in which single underscores stand between digits only. -/
def ungroup? (isDigit : Char → Bool) : List Char → Option (List Char)
  | [] => none
  | [c] => if isDigit c then some [c] else none
  | c :: '_' :: rest => if isDigit c then (ungroup? isDigit rest).map (c :: ·) else none
  | c :: rest => if isDigit c then (ungroup? isDigit rest).map (c :: ·) else none

/-- The value of a digit in a base up to sixteen. -/
def digitValue (c : Char) : Nat :=
  if c.isDigit then c.toNat - '0'.toNat else c.toLower.toNat - 'a'.toNat + 10

/-- Whether a character is a digit in a base. -/
def isDigitIn (base : Nat) (c : Char) : Bool :=
  (c.isDigit || ('a' ≤ c.toLower && c.toLower ≤ 'f')) && digitValue c < base

/-- The least and the greatest whole number. -/
def leastInt : Int := -2 ^ 63
def greatestInt : Int := 2 ^ 63 - 1

/-- A whole number, if it is not too large. -/
def boundedInt? (value : Int) : Option Toml :=
  if leastInt ≤ value && value ≤ greatestInt then some (.int value) else none

/-- A whole number in a base, after the mark of the base. -/
def intIn? (base : Nat) (text : List Char) : Option Toml := do
  let digits ← ungroup? (isDigitIn base) text
  boundedInt? (Int.ofNat (digits.foldl (fun value digit => value * base + digitValue digit) 0))

/-- The digits before a point or an exponent: a zero, or digits that start with none. -/
def wholeDigits? (text : List Char) : Option (List Char) := do
  let digits ← ungroup? Char.isDigit text
  match digits with
  | '0' :: _ :: _ => none
  | digits => some digits

/-- A decimal whole number. -/
def decimalInt? (text : List Char) : Option Toml := do
  let (negative, unsigned) := Decimal.takeSign text
  let digits ← wholeDigits? unsigned
  let value := Decimal.digitsValue digits
  boundedInt? (if negative then -Int.ofNat value else Int.ofNat value)

/-- Whether a character belongs to a group of digits. -/
def isGrouped (c : Char) : Bool := c.isDigit || c == '_'

/-- The digits after a point, none where there is no point. -/
def fractionDigits? : List Char → Option (List Char × List Char)
  | '.' :: rest =>
    (ungroup? Char.isDigit (rest.takeWhile isGrouped)).map fun digits =>
      (digits, rest.dropWhile isGrouped)
  | text => some ([], text)

/-- The exponent at the end of a word, zero where the word has ended. -/
def exponentAtEnd? : List Char → Option Int
  | [] => some 0
  | mark :: rest =>
    if mark == 'e' || mark == 'E' then
      let (negative, unsigned) := Decimal.takeSign rest
      (ungroup? Char.isDigit unsigned).map fun digits =>
        if negative then -Int.ofNat (Decimal.digitsValue digits)
        else Int.ofNat (Decimal.digitsValue digits)
    else none

/-- A double: a decimal with a point or an exponent, or a word for a value that is not finite. -/
def float? (text : List Char) : Option Toml := do
  let (negative, unsigned) := Decimal.takeSign text
  if unsigned = ['i', 'n', 'f'] then
    some (.float (if negative then -1.0 / 0.0 else 1.0 / 0.0))
  else if unsigned = ['n', 'a', 'n'] then some (.float (0.0 / 0.0))
  else
    let whole ← wholeDigits? (unsigned.takeWhile isGrouped)
    let (fraction, rest) ← fractionDigits? (unsigned.dropWhile isGrouped)
    let exponent ← exponentAtEnd? rest
    let value := Decimal.nearest negative (Decimal.digitsValue (whole ++ fraction))
      (exponent - fraction.length)
    if value.isInf then none else some (.float value)

/-- The number of so many digits at the front of a text, and what follows them. -/
def fixedDigits? (count : Nat) (text : List Char) : Option (Nat × List Char) :=
  let digits := text.take count
  if digits.length = count && digits.all Char.isDigit then
    some (Decimal.digitsValue digits, text.drop count)
  else none

/-- What follows a character at the front of a text. -/
def after? (c : Char) : List Char → Option (List Char)
  | first :: rest => if first == c then some rest else none
  | [] => none

/-- Whether a year has a leap day. -/
def isLeapYear (year : Nat) : Bool :=
  (year % 4 = 0 && year % 100 != 0) || year % 400 = 0

/-- How many days a month has. -/
def daysIn (year month : Nat) : Nat :=
  if month = 2 then (if isLeapYear year then 29 else 28)
  else if [4, 6, 9, 11].contains month then 30
  else 31

/-- A number in so many decimal digits. -/
def padded (width value : Nat) : String :=
  let digits := Nat.toDigits 10 value
  String.ofList (List.replicate (width - digits.length) '0' ++ digits)

/-- A day of the calendar, in its written form, and what follows it. -/
def day? (text : List Char) : Option (String × List Char) := do
  let (year, rest) ← fixedDigits? 4 text
  let (month, rest) ← fixedDigits? 2 (← after? '-' rest)
  let (day, rest) ← fixedDigits? 2 (← after? '-' rest)
  if 1 ≤ month && month ≤ 12 && 1 ≤ day && day ≤ daysIn year month then
    some (padded 4 year ++ "-" ++ padded 2 month ++ "-" ++ padded 2 day, rest)
  else none

/-- The fraction of a second, of which nine digits count, without zeros at its end but for the
first. -/
def fractionText (digits : List Char) : String :=
  match ((digits.take 9).reverse.dropWhile (· == '0')).reverse with
  | [] => ".0"
  | kept => String.ofList ('.' :: kept)

/-- The seconds of a time, after its minutes, in their written form, and what follows them. They may
be missing, and have a fraction. -/
def seconds? : List Char → Option (String × List Char)
  | ':' :: rest => do
    let (second, rest) ← fixedDigits? 2 rest
    if second ≤ 60 then
      match rest with
      | '.' :: rest =>
        let digits := rest.takeWhile Char.isDigit
        if digits.isEmpty then none
        else some (":" ++ padded 2 second ++ fractionText digits, rest.dropWhile Char.isDigit)
      | rest => some (":" ++ padded 2 second, rest)
    else none
  | rest => some ("", rest)

/-- A time of the day, in its written form, and what follows it. -/
def clock? (text : List Char) : Option (String × List Char) := do
  let (hour, rest) ← fixedDigits? 2 text
  let (minute, rest) ← fixedDigits? 2 (← after? ':' rest)
  let (seconds, rest) ← seconds? rest
  if hour ≤ 23 && minute ≤ 59 then
    some (padded 2 hour ++ ":" ++ padded 2 minute ++ seconds, rest)
  else none

/-- The distance from the clock of the world, in its written form. -/
def offset? : List Char → Option String
  | [] => some ""
  | sign :: rest =>
    if (sign == 'Z' || sign == 'z') && rest.isEmpty then some "Z"
    else if sign == '+' || sign == '-' then do
      let (hours, rest) ← fixedDigits? 2 rest
      let (minutes, rest) ← fixedDigits? 2 (← after? ':' rest)
      let sign := if hours = 0 && minutes = 0 then '+' else sign
      if rest.isEmpty && hours ≤ 23 && minutes ≤ 59 then
        some (String.ofList [sign] ++ padded 2 hours ++ ":" ++ padded 2 minutes)
      else none
    else none

/-- A date with a time, a date, or a time. -/
def date? (text : List Char) : Option Toml :=
  match day? text with
  | some (day, []) => some (.date day)
  | some (day, separator :: rest) => do
    if separator == 'T' || separator == 't' || separator == ' ' then
      let (clock, rest) ← clock? rest
      let offset ← offset? rest
      some (.date (day ++ "T" ++ clock ++ offset))
    else none
  | none =>
    match clock? text with
    | some (clock, []) => some (.date clock)
    | _ => none

/-- The value of a word. -/
def ofWord? (text : List Char) : Option Toml :=
  match text with
  | ['t', 'r', 'u', 'e'] => some (.bool true)
  | ['f', 'a', 'l', 's', 'e'] => some (.bool false)
  | '0' :: 'x' :: digits => intIn? 16 digits
  | '0' :: 'o' :: digits => intIn? 8 digits
  | '0' :: 'b' :: digits => intIn? 2 digits
  | text =>
    if (text.drop 2).head? = some ':' ||
        (text.drop 4).head? = some '-' && (text.take 4).all Char.isDigit
    then date? text
    else if (Decimal.takeSign text).2.all isGrouped then decimalInt? text
    else float? text

end GracefulStop.Toml
