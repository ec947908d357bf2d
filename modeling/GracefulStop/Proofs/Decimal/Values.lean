import GracefulStop.Decimal.Rounding
import Mathlib

/-!
# The numbers that doubles stand for

A double that is finite stands for a rational number. The parts of a double are those of its model in
the core library, in which doubles are compared by their exponents first, and then by their mantissas.
Because a mantissa has 53 bits wherever the exponent is not the least one, that is the order of the
numbers.
-/

namespace GracefulStop.Decimal

open Float.Model

/-- The number that a double stands for, nothing where that is not a finite one. -/
def Parts.toRat? : Parts → Option ℚ
  | .finite negative mantissa scale _ =>
    some ((if negative then -1 else 1) * (mantissa * 2 ^ (scale - 1074 : ℤ)))
  | _ => none

/-- The sign of a number in the model of doubles. -/
def signOf (negative : Bool) : UnpackedFloat.Sign := if negative then .negative else .positive

/-- Parts that are those of a double in the model. -/
inductive Parts.Agrees : Parts → UnpackedFloat → Prop
  | nan : Agrees .nan .notANumber
  | infinite (negative : Bool) : Agrees (.infinite negative) (.infinity (signOf negative))
  | zero (negative : Bool) : Agrees (.finite negative 0 0 false) (.zero (signOf negative))
  | finite (negative narrow : Bool) {mantissa scale : Nat} {exponent : Int} (positive : 0 < mantissa)
      (bounded : mantissa < 2 ^ 53) (full : scale = 0 ∨ 2 ^ 52 ≤ mantissa)
      (shifted : exponent = scale - 1074) :
      Agrees (.finite negative mantissa scale narrow)
        (.finite (signOf negative) mantissa exponent positive)

theorem ofBitVec_unpackSign (bits : BitVec 64) :
    UnpackedFloat.Sign.ofBitVec (@UnpackedFloat.unpackSign .binary64 bits) =
      signOf (bits.toNat / 2 ^ 63 == 1) := by
  have field : (@UnpackedFloat.unpackSign .binary64 bits).toNat = bits.toNat / 2 ^ 63 := by
    have bounded := bits.isLt
    simp only [UnpackedFloat.unpackSign, BitVec.toNat_cast, BitVec.extractLsb_toNat,
      Nat.shiftRight_eq_div_pow]
    omega
  rw [← field]
  generalize @UnpackedFloat.unpackSign .binary64 bits = sign
  rcases BitVec.eq_zero_or_eq_one sign with rfl | rfl <;> rfl

theorem Parts.agrees_ofFloat (value : Float) : (ofFloat value).Agrees value.toModel.unpack := by
  have bits : value.toModel.toBits.toBitVec.toNat = value.toBits.toNat := rfl
  unfold Float.Model.unpack UnpackedFloat.unpack
  extract_lets fraction biased exponent signBit sign
  have signed : sign = signOf (value.toBits.toNat / 2 ^ 63 == 1) := ofBitVec_unpackSign _
  have low : fraction.toNat = value.toBits.toNat % 2 ^ 52 := by
    simp [fraction, UnpackedFloat.unpackMantissa, ← bits]
  have high : biased.toNat = value.toBits.toNat / 2 ^ 52 % 2 ^ 11 := by
    simp [biased, UnpackedFloat.unpackExponent, ← bits, Nat.shiftRight_eq_div_pow]
  have bounded : fraction.toNat < 2 ^ 52 := fraction.isLt
  have greatest : biased = -1#_ ↔ value.toBits.toNat / 2 ^ 52 % 2 ^ 11 = 2047 := by
    rw [← high, ← BitVec.toNat_inj]
    simp
  have least : biased = 0#_ ↔ value.toBits.toNat / 2 ^ 52 % 2 ^ 11 = 0 := by
    rw [← high, ← BitVec.toNat_inj]
    simp
  have whole : fraction = 0#_ ↔ value.toBits.toNat % 2 ^ 52 = 0 := by
    rw [← low, ← BitVec.toNat_inj]
    simp
  rw [signed]
  unfold ofFloat
  simp only [greatest, least, whole, beq_iff_eq]
  split
  · split
    · exact .infinite _
    · exact .nan
  · split
    · split
      · rename_i zero
        rw [zero]
        exact .zero _
      · simp only [← low]
        exact .finite _ _ (by omega) (by omega) (.inl rfl) (by simp [exponent, *]; rfl)
    · have joined : (1#1 ++ fraction).toNat = 2 ^ 52 + fraction.toNat := by
        have leading := Nat.two_pow_add_eq_or_of_lt bounded 1
        rw [Nat.mul_one] at leading
        rw [BitVec.toNat_append, Nat.shiftLeft_eq, leading]
        rfl
      simp only [joined, ← low]
      refine .finite _ _ (by omega) (by omega) (.inr (by omega)) ?_
      simp only [exponent, high, Format.exponentBias]
      omega

section

variable {mantissa mantissa' scale scale' : Nat}

/-- What is scaled up further is larger, as a mantissa falls short of 52 bits at the least scale only. -/
theorem scaled_lt_of_lt (bounded : mantissa < 2 ^ 53) (full : scale' = 0 ∨ 2 ^ 52 ≤ mantissa')
    (less : scale < scale') : mantissa * 2 ^ scale < mantissa' * 2 ^ scale' := by
  calc
    mantissa * 2 ^ scale < 2 ^ 53 * 2 ^ scale :=
      Nat.mul_lt_mul_of_pos_right bounded (Nat.two_pow_pos scale)
    _ = 2 ^ 52 * 2 ^ (scale + 1) := by
      rw [← Nat.pow_add, ← Nat.pow_add]
      congr 1
      omega
    _ ≤ mantissa' * 2 ^ scale' :=
      Nat.mul_le_mul (full.resolve_left (by omega)) (Nat.pow_le_pow_right (by omega) less)

theorem scaled_lt_iff (bounded : mantissa < 2 ^ 53) (bounded' : mantissa' < 2 ^ 53)
    (full : scale = 0 ∨ 2 ^ 52 ≤ mantissa) (full' : scale' = 0 ∨ 2 ^ 52 ≤ mantissa') :
    mantissa * 2 ^ scale < mantissa' * 2 ^ scale' ↔
      scale < scale' ∨ scale = scale' ∧ mantissa < mantissa' := by
  rcases Nat.lt_trichotomy scale scale' with less | same | greater
  · simp only [scaled_lt_of_lt bounded full' less, less, true_or]
  · subst same
    simp only [Nat.mul_lt_mul_right (Nat.two_pow_pos scale), Nat.lt_irrefl, false_or, true_and]
  · have more := scaled_lt_of_lt bounded' full greater
    omega

theorem compare_eq_lt_iff (bounded : mantissa < 2 ^ 53) (bounded' : mantissa' < 2 ^ 53)
    (full : scale = 0 ∨ 2 ^ 52 ≤ mantissa) (full' : scale' = 0 ∨ 2 ^ 52 ≤ mantissa') :
    (compare (scale - 1074 : Int) (scale' - 1074)).then (compare mantissa mantissa') = .lt ↔
      (mantissa * 2 ^ (scale - 1074 : ℤ) : ℚ) < mantissa' * 2 ^ (scale' - 1074 : ℤ) := by
  have whole : (mantissa * 2 ^ scale : ℚ) < mantissa' * 2 ^ scale' ↔
      mantissa * 2 ^ scale < mantissa' * 2 ^ scale' := by
    norm_cast
  rw [zpow_sub₀ two_ne_zero, zpow_sub₀ two_ne_zero, zpow_natCast, zpow_natCast, ← mul_div_assoc,
    ← mul_div_assoc, div_lt_div_iff_of_pos_right (by positivity), whole,
    scaled_lt_iff bounded bounded' full full', Ordering.then_eq_lt, compare_lt_iff_lt,
    compare_eq_iff_eq, compare_lt_iff_lt]
  omega

theorem compare_eq_gt_iff (bounded : mantissa < 2 ^ 53) (bounded' : mantissa' < 2 ^ 53)
    (full : scale = 0 ∨ 2 ^ 52 ≤ mantissa) (full' : scale' = 0 ∨ 2 ^ 52 ≤ mantissa') :
    (compare (scale - 1074 : Int) (scale' - 1074)).then (compare mantissa mantissa') = .gt ↔
      (mantissa' * 2 ^ (scale' - 1074 : ℤ) : ℚ) < mantissa * 2 ^ (scale - 1074 : ℤ) := by
  rw [← compare_eq_lt_iff bounded' bounded full' full, ← Ordering.swap_eq_lt, Ordering.swap_then,
    Int.compare_swap, Nat.compare_swap]

end

theorem Parts.Agrees.isFinite_eq {parts : Parts} {unpacked : UnpackedFloat}
    (agrees : parts.Agrees unpacked) : unpacked.isFinite = parts.toRat?.isSome := by
  cases agrees <;> rfl

/-- Doubles are in the order of the numbers that they stand for. -/
theorem Parts.Agrees.lt_iff {left right : Parts} {unpacked unpacked' : UnpackedFloat}
    {number number' : ℚ} (agrees : left.Agrees unpacked) (agrees' : right.Agrees unpacked')
    (stands : left.toRat? = some number) (stands' : right.toRat? = some number') :
    unpacked.lt unpacked' = true ↔ number < number' := by
  cases agrees with
  | nan => cases stands
  | infinite => cases stands
  | zero negative =>
      cases agrees' with
      | nan => cases stands'
      | infinite => cases stands'
      | zero negative' =>
          cases stands
          cases stands'
          simp [UnpackedFloat.lt, UnpackedFloat.compare]
      | @finite negative' _ mantissa scale =>
          have above : (0 : ℚ) < mantissa * 2 ^ (scale - 1074 : ℤ) := by positivity
          cases stands
          cases stands'
          cases negative' <;>
            simp [UnpackedFloat.lt, UnpackedFloat.compare, signOf, above, above.le]
  | @finite negative _ mantissa scale _ _ bounded full shifted =>
      have above : (0 : ℚ) < mantissa * 2 ^ (scale - 1074 : ℤ) := by positivity
      cases agrees' with
      | nan => cases stands'
      | infinite => cases stands'
      | zero negative' =>
          cases stands
          cases stands'
          cases negative <;>
            simp [UnpackedFloat.lt, UnpackedFloat.compare, signOf, above, above.le]
      | @finite negative' _ mantissa' scale' _ _ bounded' full' shifted' =>
          have above' : (0 : ℚ) < mantissa' * 2 ^ (scale' - 1074 : ℤ) := by positivity
          cases stands
          cases stands'
          subst shifted shifted'
          cases negative
          · cases negative'
            · simpa [UnpackedFloat.lt, UnpackedFloat.compare, signOf] using
                compare_eq_lt_iff bounded bounded' full full'
            · have less := (neg_lt_zero.mpr above').trans above
              simp [UnpackedFloat.lt, UnpackedFloat.compare, signOf, less.le]
          · cases negative'
            · have less := (neg_lt_zero.mpr above).trans above'
              simp [UnpackedFloat.lt, UnpackedFloat.compare, signOf, less]
            · simpa [UnpackedFloat.lt, UnpackedFloat.compare, signOf] using
                compare_eq_gt_iff bounded bounded' full full'

/-- Of doubles that stand for numbers one is less where its number is. -/
theorem lt_iff {value value' : Float} {number number' : ℚ}
    (stands : (Parts.ofFloat value).toRat? = some number)
    (stands' : (Parts.ofFloat value').toRat? = some number') : value < value' ↔ number < number' := by
  have ordered := (Parts.agrees_ofFloat value).lt_iff (Parts.agrees_ofFloat value') stands stands'
  change decide _ = true ↔ _
  rw [decide_eq_true_iff]
  exact ordered

theorem isFinite_eq (value : Float) : value.isFinite = (Parts.ofFloat value).toRat?.isSome :=
  (Parts.agrees_ofFloat value).isFinite_eq

theorem toRat?_one : (Parts.ofFloat 1.0).toRat? = some 1 := by
  have parts : Parts.ofFloat 1.0 = .finite false (2 ^ 52) 1022 true := by decide +kernel
  rw [parts]
  norm_num [Parts.toRat?]

section

variable (numerator : Nat) {denominator : Nat}

theorem roundDivEven_near (positive : 0 < denominator) :
    2 * (roundDivEven numerator denominator * denominator) ≤ 2 * numerator + denominator ∧
      2 * numerator ≤ 2 * (roundDivEven numerator denominator * denominator) + denominator := by
  have divided := Nat.div_add_mod' numerator denominator
  have rest := Nat.mod_lt numerator positive
  have above : (numerator / denominator + 1) * denominator =
      numerator / denominator * denominator + denominator := Nat.succ_mul _ _
  unfold roundDivEven
  dsimp only
  split
  · omega
  · split
    · rw [above]
      omega
    · split
      · omega
      · rw [above]
        omega

theorem abs_roundDivEven_sub_le (positive : 0 < denominator) :
    |(roundDivEven numerator denominator : ℚ) - numerator / denominator| ≤ 1 / 2 := by
  rcases roundDivEven_near numerator positive with ⟨high, low⟩
  have positive' : (0 : ℚ) < denominator := by exact_mod_cast positive
  have high' : (2 * (roundDivEven numerator denominator * denominator) : ℚ) ≤
      2 * numerator + denominator := by
    exact_mod_cast high
  have low' : (2 * numerator : ℚ) ≤
      2 * (roundDivEven numerator denominator * denominator) + denominator := by
    exact_mod_cast low
  rw [abs_le]
  constructor
  · rw [le_sub_iff_add_le, ← le_sub_iff_add_le', div_le_iff₀ positive']
    linarith
  · rw [sub_le_iff_le_add', ← sub_le_iff_le_add, le_div_iff₀ positive']
    linarith

end

theorem zpow_scale (scale : Nat) :
    (2 : ℚ) ^ (scale - 1074 : ℤ) = 2 ^ (scale - 1074) / 2 ^ (1074 - scale) := by
  rcases Nat.le_total scale 1074 with small | large
  · have exponent : (scale - 1074 : ℤ) = -((1074 - scale : Nat) : ℤ) := by omega
    rw [exponent, zpow_neg, zpow_natCast, Nat.sub_eq_zero_of_le small, pow_zero, one_div]
  · have exponent : (scale - 1074 : ℤ) = ((scale - 1074 : Nat) : ℤ) := by omega
    rw [exponent, zpow_natCast, Nat.sub_eq_zero_of_le large, pow_zero, div_one]

/-- So many units times a number that is not negative are rounded to a whole number next to them. -/
theorem exists_roundScaled {value : Float} {number : ℚ}
    (stands : (Parts.ofFloat value).toRat? = some number) (notNegative : 0 ≤ number) (units : Nat) :
    ∃ whole, roundScaled? value units = some whole ∧ |(whole : ℚ) - number * units| ≤ 1 / 2 := by
  unfold roundScaled?
  cases parts : Parts.ofFloat value with
  | nan => simp [parts, Parts.toRat?] at stands
  | infinite => simp [parts, Parts.toRat?] at stands
  | finite negative mantissa scale narrow =>
      have unsigned : ¬(negative && mantissa != 0) ∧ number = mantissa * 2 ^ (scale - 1074 : ℤ) := by
        simp only [parts, Parts.toRat?, Option.some.injEq] at stands
        cases negative with
        | false => simp [← stands]
        | true =>
            rcases Nat.eq_zero_or_pos mantissa with rfl | positive
            · simp [← stands]
            · have above : (0 : ℚ) < mantissa * 2 ^ (scale - 1074 : ℤ) := by positivity
              rw [if_pos rfl] at stands
              linarith
      rcases unsigned with ⟨whole, rfl⟩
      refine ⟨_, if_neg whole, ?_⟩
      have near := abs_roundDivEven_sub_le (mantissa * 2 ^ (scale - 1074) * units)
        (Nat.two_pow_pos (1074 - scale))
      rw [zpow_scale, ← mul_div_assoc, div_mul_eq_mul_div]
      exact_mod_cast near

end GracefulStop.Decimal
