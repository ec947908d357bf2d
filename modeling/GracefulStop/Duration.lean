import GracefulStop.Power

/-!
# Lengths of time

A `Duration` is a whole number of nanoseconds. Differences stop at zero. The
written form uses the largest of the units second, millisecond, microsecond and
nanosecond that does not exceed the length, with the fraction's trailing zeros
left out.
-/

namespace GracefulStop

/-- A length of time, counted in whole nanoseconds. -/
structure Duration where
  nanos : Nat
  deriving DecidableEq, Repr, Inhabited

namespace Duration

/-- No time at all. -/
def zero : Duration := ⟨0⟩

/-- So many whole milliseconds. -/
def ofMillis (millis : Nat) : Duration := ⟨millis * 1000000⟩

/-- So many whole seconds. -/
def ofSeconds (seconds : Nat) : Duration := ⟨seconds * 1000000000⟩

instance : LE Duration := ⟨fun left right => left.nanos ≤ right.nanos⟩
instance : LT Duration := ⟨fun left right => left.nanos < right.nanos⟩

instance (left right : Duration) : Decidable (left ≤ right) :=
  inferInstanceAs (Decidable (left.nanos ≤ right.nanos))

instance (left right : Duration) : Decidable (left < right) :=
  inferInstanceAs (Decidable (left.nanos < right.nanos))

instance : Add Duration := ⟨fun left right => ⟨left.nanos + right.nanos⟩⟩

/-- The time by which one length exceeds another, nothing if it does not. -/
instance : Sub Duration := ⟨fun left right => ⟨left.nanos - right.nanos⟩⟩

instance : Min Duration := ⟨fun left right => ⟨min left.nanos right.nanos⟩⟩
instance : Max Duration := ⟨fun left right => ⟨max left.nanos right.nanos⟩⟩

@[simp] theorem le_def {left right : Duration} : left ≤ right ↔ left.nanos ≤ right.nanos := Iff.rfl

@[simp] theorem lt_def {left right : Duration} : left < right ↔ left.nanos < right.nanos := Iff.rfl

@[simp] theorem nanos_add (left right : Duration) :
    (left + right).nanos = left.nanos + right.nanos := rfl

@[simp] theorem nanos_sub (left right : Duration) :
    (left - right).nanos = left.nanos - right.nanos := rfl

@[simp] theorem nanos_min (left right : Duration) :
    (min left right).nanos = min left.nanos right.nanos := rfl

@[simp] theorem nanos_max (left right : Duration) :
    (max left right).nanos = max left.nanos right.nanos := rfl

/-- The nearest length to `length` that lies between `least` and `greatest`. -/
def clamp (length least greatest : Duration) : Duration :=
  if length < least then least else if greatest < length then greatest else length

/-- The whole milliseconds of a length. -/
def millis (length : Duration) : Nat := length.nanos / 1000000

/-- The length rounded up to whole milliseconds. -/
def ceilMillis (length : Duration) : Duration := ofMillis ((length.nanos + 999999) / 1000000)

/-- A fraction of `places` decimal places, without the zeros at its end. -/
private def fraction (value places : Nat) : String :=
  let digits := (Nat.toDigits 10 value)
  let padded := List.replicate (places - digits.length) '0' ++ digits
  match (padded.reverse.dropWhile (· == '0')).reverse with
  | [] => ""
  | kept => String.ofList ('.' :: kept)

/-- The length in one unit, which has `10 ^ places` nanoseconds. -/
private def inUnit (nanos places : Nat) (unit : String) : String :=
  toString (nanos / 10 ^ places) ++ fraction (nanos % 10 ^ places) places ++ unit

/-- The written form of a length, such as `10.5s`, `1.05ms` or `0ns`. -/
def text (length : Duration) : String :=
  if 1000000000 ≤ length.nanos then inUnit length.nanos 9 "s"
  else if 1000000 ≤ length.nanos then inUnit length.nanos 6 "ms"
  else if 1000 ≤ length.nanos then inUnit length.nanos 3 "µs"
  else inUnit length.nanos 0 "ns"

end Duration

end GracefulStop
