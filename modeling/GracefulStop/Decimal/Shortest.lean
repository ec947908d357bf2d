import GracefulStop.Power

/-!
# Shortest decimals

A finite double is `m * 2 ^ q` for a whole `m`. Every real number in the interval
around it rounds to it, and among the decimals in that interval the shortest one is
its written value: the fewest significant digits that read back, and of those the one
nearest to the double. Of two equally near ones a format takes the larger or the even one.

All arithmetic is exact, on natural numbers.
-/

namespace GracefulStop.Decimal

/-- The value of a double, taken apart. -/
inductive Parts where
  /-- Not a number. -/
  | nan
  /-- An infinity of a sign. -/
  | infinite (negative : Bool)
  /-- The number `mantissa * 2 ^ (scale - 1074)`; a `narrow` one is a power of two whose
  lower neighbour is half as far away as its upper one. -/
  | finite (negative : Bool) (mantissa scale : Nat) (narrow : Bool)
  deriving DecidableEq, Repr

/-- Takes a double apart. -/
def Parts.ofFloat (value : Float) : Parts :=
  let bits := value.toBits.toNat
  let negative := bits / 2 ^ 63 == 1
  let exponent := bits / 2 ^ 52 % 2 ^ 11
  let fraction := bits % 2 ^ 52
  if exponent == 2047 then
    if fraction == 0 then .infinite negative else .nan
  else if exponent == 0 then .finite negative fraction 0 false
  else .finite negative (2 ^ 52 + fraction) (exponent - 1) (fraction == 0 && 1 < exponent)

/-- A positive decimal `0.d₁d₂… * 10 ^ point`, its digits from the left, the first not zero. -/
structure Digits where
  digits : List Nat
  point : Int
  deriving DecidableEq, Repr

/-- An interval of positive rationals about a value, all over one denominator. -/
structure Interval where
  lower : Nat
  value : Nat
  upper : Nat
  denominator : Nat
  closed : Bool
  deriving DecidableEq, Repr

/-- The reals that round to `mantissa * 2 ^ (scale - 1074)`. The ends round to the even neighbour.
-/
def Interval.around (mantissa scale : Nat) (narrow : Bool) : Interval :=
  let factor := 2 ^ (scale - 1076)
  { lower := (4 * mantissa - (if narrow then 1 else 2)) * factor
    value := 4 * mantissa * factor
    upper := (4 * mantissa + 2) * factor
    denominator := 2 ^ (1076 - scale)
    closed := mantissa % 2 == 0 }

/-- Multiplies every bound by `10 ^ power`. -/
def Interval.shift (interval : Interval) (power : Int) : Interval :=
  match power with
  | .ofNat n =>
    { interval with
      lower := interval.lower * 10 ^ n
      value := interval.value * 10 ^ n
      upper := interval.upper * 10 ^ n }
  | .negSucc n => { interval with denominator := interval.denominator * 10 ^ (n + 1) }

/-- Whether a whole number lies in the interval. -/
def Interval.holds (interval : Interval) (whole : Nat) : Bool :=
  let scaled := whole * interval.denominator
  if interval.closed then interval.lower ≤ scaled && scaled ≤ interval.upper
  else interval.lower < scaled && scaled < interval.upper

/-- Which of two equally near decimals is written. -/
inductive Tie where
  | larger
  | even
  deriving DecidableEq, Repr

/-- The whole number in the interval that is nearest to its value, if one lies in it. -/
def Interval.whole? (interval : Interval) (tie : Tie) : Option Nat :=
  let below := interval.value / interval.denominator
  let above := below + 1
  let toAbove := above * interval.denominator - interval.value
  let toBelow := interval.value - below * interval.denominator
  let takeAbove := toAbove < toBelow || (toAbove = toBelow && (tie = .larger || above % 2 = 0))
  match interval.holds below, interval.holds above with
  | true, true => some (if takeAbove then above else below)
  | true, false => some below
  | false, true => some above
  | false, false => none

/-- The decimal digits of a number, none for zero. -/
def digitsOf (number : Nat) : List Nat :=
  if number = 0 then [] else digitsOf (number / 10) ++ [number % 10]
termination_by number

/-- The number of decimal digits before the point of a positive quotient; negative when zeros follow
the point. -/
def magnitude (numerator denominator : Nat) : Int :=
  if denominator ≤ numerator then (digitsOf (numerator / denominator)).length
  else
    let quotient := denominator / numerator
    let places := (digitsOf quotient).length
    -- A quotient of just `10 ^ n` is reached one place earlier.
    if denominator = numerator * 10 ^ (places - 1) then 2 - (places : Int) else 1 - (places : Int)

/-- The digits of a number without the zeros at its end. -/
private def significant (number : Nat) : List Nat :=
  ((digitsOf number).reverse.dropWhile (· == 0)).reverse

/-- The first whole number in the interval on the grids of `count`, `count + 1`, … digits. -/
def Interval.shortest (interval : Interval) (tie : Tie) (point : Int) (count : Nat) :
    (tries : Nat) → Digits
  | 0 => ⟨[], point⟩
  | tries + 1 =>
    match (interval.shift (count - point)).whole? tie with
    | some number =>
      ⟨significant number, point + ((digitsOf number).length - count : Int)⟩
    | none => interval.shortest tie point (count + 1) tries

/-- The shortest digits of a positive double. -/
def shortest (mantissa scale : Nat) (narrow : Bool) (tie : Tie) : Digits :=
  let interval := Interval.around mantissa scale narrow
  interval.shortest tie (magnitude interval.value interval.denominator) 1 18

end GracefulStop.Decimal
