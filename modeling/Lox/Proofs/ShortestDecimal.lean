import Lox.Number.Text
import Lox.Proofs.NumberLine
import Mathlib.Data.Nat.Cast.Field
import Mathlib.Data.Rat.Floor
import Mathlib.Tactic.FieldSimp

set_option autoImplicit false

namespace Lox

def Decimal.value (decimal : Decimal) : ℚ :=
  decimal.coefficient * 10 ^ decimal.exponent

theorem zpow_eq_div {base : ℚ} (nonzero : base ≠ 0) (exponent : ℤ) :
    base ^ exponent = base ^ exponent.toNat / base ^ (-exponent).toNat := by
  rw [← zpow_natCast_sub_natCast₀ nonzero, Int.toNat_sub_toNat_neg]

namespace RoundingInterval

variable (interval : RoundingInterval) (place : ℤ)

def scale : ℚ :=
  2 ^ (-interval.exponent).toNat * 10 ^ (-place).toNat

theorem scale_pos : 0 < interval.scale place := by
  unfold scale
  positivity

theorem binary_scaled (units : Nat) :
    (units : ℚ) * 2 ^ interval.exponent =
      (units * interval.binaryFactor place : Nat) / interval.scale place := by
  rw [zpow_eq_div two_ne_zero, binaryFactor, scale, Nat.pow_eq, Nat.pow_eq]
  push_cast
  field_simp

theorem decimal_scaled (coefficient : Nat) :
    (coefficient : ℚ) * 10 ^ place =
      (coefficient * interval.decimalFactor place : Nat) / interval.scale place := by
  rw [zpow_eq_div (by norm_num), decimalFactor, scale, Nat.pow_eq, Nat.pow_eq]
  push_cast
  field_simp

theorem contains_iff (coefficient : Nat) :
    interval.contains place coefficient ↔
      interval.Covers (Decimal.value ⟨coefficient, place⟩) := by
  have positive := interval.scale_pos place
  rw [Covers, Decimal.value, interval.binary_scaled place, interval.binary_scaled place,
    interval.decimal_scaled place]
  simp only [div_le_div_iff_of_pos_right positive, div_lt_div_iff_of_pos_right positive,
    Nat.cast_le, Nat.cast_lt, contains]
  split <;> simp

theorem contains_of_nearest? {coefficient : Nat}
    (found : interval.nearest? place = some coefficient) :
    interval.contains place coefficient := by
  unfold nearest? at found
  grind

theorem shortestFrom_covers (steps : Nat)
    (last : interval.contains (place - steps) (interval.below (place - steps))) :
    interval.Covers (interval.shortestFrom steps place).value := by
  induction steps generalizing place with
  | zero =>
      rw [shortestFrom, ← contains_iff]
      simpa using last
  | succ steps ih =>
      rw [shortestFrom]
      split
      · next found => exact (contains_iff ..).mp (interval.contains_of_nearest? place found)
      · refine ih (place - 1) ?_
        rwa [show place - 1 - steps = place - (steps + 1 : Nat) by omega]

theorem Covers.between {interval : RoundingInterval} {low middle high : ℚ}
    (first : interval.Covers low) (last : interval.Covers high) (above : low ≤ middle)
    (below : middle ≤ high) : interval.Covers middle := by
  unfold Covers at *
  grind

theorem below_bounds :
    Decimal.value ⟨interval.below place, place⟩ ≤ interval.middle * 2 ^ interval.exponent ∧
      interval.middle * (2 : ℚ) ^ interval.exponent <
        Decimal.value ⟨interval.below place + 1, place⟩ := by
  have positive := interval.scale_pos place
  have factor : 0 < interval.decimalFactor place := by
    rw [decimalFactor, Nat.pow_eq, Nat.pow_eq]
    positivity
  rw [Decimal.value, Decimal.value, interval.decimal_scaled place, interval.decimal_scaled place,
    interval.binary_scaled place, div_le_div_iff_of_pos_right positive,
    div_lt_div_iff_of_pos_right positive, Nat.cast_le, Nat.cast_lt]
  refine ⟨Nat.div_mul_le_self _ _, ?_⟩
  rw [mul_comm (interval.below place + 1)]
  exact Nat.lt_mul_div_succ _ factor

theorem not_covers_of_nearest?
    (middle : interval.Covers (interval.middle * 2 ^ interval.exponent))
    (none : interval.nearest? place = none) (coefficient : Nat) :
    ¬ interval.Covers (Decimal.value ⟨coefficient, place⟩) := by
  intro covers
  obtain ⟨below, above⟩ := interval.below_bounds place
  have outside : ¬ interval.contains place (interval.below place) ∧
      ¬ interval.contains place (interval.below place + 1) := by
    unfold nearest? at none
    grind
  rw [contains_iff, contains_iff] at outside
  have grid {left right : Nat} (order : left ≤ right) :
      Decimal.value ⟨left, place⟩ ≤ Decimal.value ⟨right, place⟩ := by
    unfold Decimal.value
    gcongr
  -- The interval has no gaps, so a point next to the middle would be in it too.
  rcases Nat.lt_or_ge (interval.below place) coefficient with after | before
  · exact outside.2 (middle.between covers above.le (grid after))
  · exact outside.1 (covers.between middle (grid before) below)

theorem shortestFrom_passes
    (middle : interval.Covers (interval.middle * 2 ^ interval.exponent)) (steps : Nat)
    {decimal : Decimal} (covers : interval.Covers decimal.value)
    (start : decimal.exponent ≤ place) :
    decimal.exponent ≤ (interval.shortestFrom steps place).exponent := by
  induction steps generalizing place with
  | zero => exact start
  | succ steps ih =>
      rw [shortestFrom]
      split
      · exact start
      · next none =>
          refine ih (place - 1) ?_
          have passed : decimal.exponent ≠ place := by
            rintro rfl
            exact interval.not_covers_of_nearest? _ middle none decimal.coefficient covers
          omega

end RoundingInterval

namespace Number

variable {number : Number}

theorem exponent_of_not_whole (broken : ¬ number.magnitude.isWhole) :
    ∃ places : Nat, number.magnitude.exponent = -(places : ℤ) ∧
      number.magnitude.significand % 2 ^ places ≠ 0 := by
  rw [Magnitude.isWhole, decide_eq_true_eq, Nat.pow_eq] at broken
  have negative : ¬ 0 ≤ number.magnitude.exponent := by
    intro positive
    rw [Int.toNat_of_nonpos (by omega), pow_zero, Nat.mod_one] at broken
    exact broken rfl
  exact ⟨(-number.magnitude.exponent).toNat, by omega, broken⟩

theorem exists_rank_of_not_whole (broken : ¬ number.magnitude.isWhole) :
    ∃ rank, number.rank = rank + 1 := by
  refine Nat.exists_eq_succ_of_ne_zero fun zero => broken ?_
  rw [magnitude_eq, (Grid.significand_eq_zero_iff number.rank).mpr zero]
  simp [Magnitude.isWhole]

theorem significand_ne_zero {rank : Nat} (place : number.rank = rank + 1) :
    number.magnitude.significand ≠ 0 := by
  rw [magnitude_eq, Ne, Grid.significand_eq_zero_iff, place]
  exact Nat.succ_ne_zero rank

theorem covers_size {rank : Nat} (place : number.rank = rank + 1) :
    number.roundingInterval.Covers number.size := by
  have before := Grid.point_strictMono (Nat.lt_succ_self rank)
  have after := Grid.point_strictMono (Nat.lt_succ_self (rank + 1))
  rw [covers_iff place, size_eq, place]
  grind

theorem contains_last {places : Nat} (fits : number.magnitude.exponent = -(places : ℤ))
    (broken : ¬ number.magnitude.isWhole) :
    number.roundingInterval.contains (-places)
      (number.roundingInterval.below (-places)) := by
  obtain ⟨rank, place⟩ := exists_rank_of_not_whole broken
  -- As `2 ^ -places` is `5 ^ places * 10 ^ -places`, the number is a point of the grid itself.
  have exact : number.roundingInterval.below (-places) =
      number.magnitude.significand * 5 ^ places := by
    have factors : 4 * number.magnitude.significand * 10 ^ places =
        number.magnitude.significand * 5 ^ places * 2 ^ (places + 2) := by
      rw [show 10 = 5 * 2 by rfl, mul_pow, pow_add]
      ring
    simp only [RoundingInterval.below, RoundingInterval.binaryFactor,
      RoundingInterval.decimalFactor, roundingInterval, fits, Nat.pow_eq,
      show (-(places : ℤ) - 2).toNat = 0 by omega, show (- -(places : ℤ)).toNat = places by omega,
      show (-(-(places : ℤ) - 2)).toNat = places + 2 by omega, Int.toNat_neg_natCast, pow_zero,
      one_mul, factors]
    exact Nat.mul_div_cancel _ (by positivity)
  have value :
      Decimal.value ⟨number.magnitude.significand * 5 ^ places, -places⟩ = number.size := by
    rw [Decimal.value, size, fits, zpow_neg, zpow_neg, zpow_natCast, zpow_natCast,
      show (10 : ℚ) = 5 * 2 by norm_num, mul_pow]
    push_cast
    field_simp
  rw [RoundingInterval.contains_iff, exact, value]
  exact covers_size place

theorem covers_shortest (broken : ¬ number.magnitude.isWhole) :
    number.roundingInterval.Covers number.shortest.value := by
  obtain ⟨rank, place⟩ := exists_rank_of_not_whole broken
  obtain ⟨places, fits, -⟩ := exponent_of_not_whole broken
  have last : min number.magnitude.exponent 0 = -places := by omega
  rw [shortest, if_neg (significand_ne_zero place), last]
  refine RoundingInterval.shortestFrom_covers _ _ _ ?_
  have above : -(places : ℤ) ≤ number.magnitude.topPlace := by
    rw [Magnitude.topPlace, fits]
    omega
  rw [Int.toNat_of_nonneg (by omega), sub_sub_cancel]
  exact contains_last fits broken

theorem not_covers_whole (broken : ¬ number.magnitude.isWhole) (whole : Nat) :
    ¬ number.roundingInterval.Covers whole := by
  intro covers
  obtain ⟨places, fits, remainder⟩ := exponent_of_not_whole broken
  have onGrid : (whole : ℚ) = Decimal.value ⟨whole, 0⟩ := by simp [Decimal.value]
  have unit : number.roundingInterval.decimalFactor 0 = 4 * 2 ^ places := by
    simp only [RoundingInterval.decimalFactor, roundingInterval, fits, Nat.pow_eq,
      show (-(-(places : ℤ) - 2)).toNat = 2 + places by omega, Int.toNat_zero, pow_zero, one_mul,
      pow_add]
    rfl
  have scale : number.roundingInterval.binaryFactor 0 = 1 := by
    simp [RoundingInterval.binaryFactor, roundingInterval, fits, Nat.pow_eq,
      show (-(places : ℤ) - 2).toNat = 0 by omega]
  rw [onGrid, ← RoundingInterval.contains_iff, RoundingInterval.contains, unit, scale] at covers
  have low : 4 * number.magnitude.significand - 2 ≤ number.roundingInterval.low := by
    unfold roundingInterval
    grind
  have high : number.roundingInterval.high = 4 * number.magnitude.significand + 2 := rfl
  -- In quarters of the last place a whole value is a multiple of four, and the ends are two away.
  have exact : number.magnitude.significand = whole * 2 ^ places := by grind
  rw [exact, Nat.mul_mod_left] at remainder
  exact remainder rfl

theorem exponent_shortest_neg (broken : ¬ number.magnitude.isWhole) :
    number.shortest.exponent < 0 := by
  by_contra positive
  obtain ⟨zeros, exponent⟩ := Int.eq_ofNat_of_zero_le (not_lt.mp positive)
  have covers := covers_shortest broken
  rw [Decimal.value, exponent, zpow_natCast] at covers
  refine not_covers_whole broken (number.shortest.coefficient * 10 ^ zeros) ?_
  exact_mod_cast covers

theorem size_eq_whole (isWhole : number.magnitude.isWhole) :
    number.size = number.magnitude.whole := by
  rw [Magnitude.isWhole, decide_eq_true_eq, Nat.pow_eq] at isWhole
  have divides := (Nat.dvd_of_mod_eq_zero isWhole).mul_right
    (2 ^ number.magnitude.exponent.toNat)
  rw [size, zpow_eq_div two_ne_zero, Magnitude.whole, Nat.pow_eq, Nat.pow_eq,
    Nat.cast_div divides (by positivity)]
  push_cast
  ring

theorem isWhole_iff : number.magnitude.isWhole ↔ ∃ whole : Nat, number.size = whole := by
  refine ⟨fun isWhole => ⟨_, size_eq_whole isWhole⟩, ?_⟩
  rintro ⟨whole, exact⟩
  by_contra broken
  obtain ⟨rank, place⟩ := exists_rank_of_not_whole broken
  exact not_covers_whole broken whole (exact ▸ covers_size place)

theorem isWhole_iff_fract : number.magnitude.isWhole ↔ Int.fract number.value = 0 := by
  rw [isWhole_iff, Int.fract_eq_zero_iff, ← abs_value]
  constructor
  · rintro ⟨whole, exact⟩
    rcases eq_or_eq_neg_of_abs_eq exact with positive | negative
    · exact ⟨whole, by rw [positive, Int.cast_natCast]⟩
    · exact ⟨-whole, by rw [negative, Int.cast_neg, Int.cast_natCast]⟩
  · rintro ⟨whole, exact⟩
    exact ⟨whole.natAbs, by rw [← exact, Nat.cast_natAbs, Int.cast_abs]⟩

end Number

theorem two_zpow_lt_ten_zpow {binary decimal : Nat} (positive : 0 < binary)
    {exponent place : ℤ} (compare : ((2 : ℚ) ^ binary) ^ exponent ≤ (10 ^ decimal) ^ exponent)
    (below : decimal * exponent < binary * place) : (2 : ℚ) ^ exponent < 10 ^ place := by
  have power (base : ℚ) (inner : Nat) (outer : ℤ) :
      (base ^ inner) ^ outer = base ^ (inner * outer) := by
    rw [zpow_mul, zpow_natCast]
  have power' (base : ℚ) (inner : ℤ) (outer : Nat) :
      (base ^ inner) ^ outer = base ^ (outer * inner) := by
    rw [mul_comm, zpow_mul, zpow_natCast]
  rw [← pow_lt_pow_iff_left₀ (by positivity) (by positivity) positive.ne', power', power']
  calc (2 : ℚ) ^ (binary * exponent)
      ≤ 10 ^ (decimal * exponent) := by rwa [power, power] at compare
    _ < 10 ^ (binary * place) := zpow_lt_zpow_right₀ (by norm_num) below

theorem two_zpow_lt {exponent : ℤ} (bound : -200000 ≤ exponent) :
    (2 : ℚ) ^ exponent < 10 ^ (exponent * 30103 / 100000 + 3) := by
  -- The factor exceeds the decimal logarithm of two by little.
  rcases le_total 0 exponent with large | small
  · have above : (2 : ℚ) ^ 100000 ≤ 10 ^ 30103 := by
      exact_mod_cast show 2 ^ 100000 ≤ 10 ^ 30103 by decide +kernel
    refine two_zpow_lt_ten_zpow (by decide) (zpow_le_zpow_left₀ large (by positivity) above) ?_
    omega
  · have under : (10 : ℚ) ^ 30102 ≤ 2 ^ 100000 := by
      exact_mod_cast show 10 ^ 30102 ≤ 2 ^ 100000 by decide +kernel
    have flipped := zpow_le_zpow_left₀ (neg_nonneg.mpr small) (by positivity) under
    rw [zpow_neg, zpow_neg, inv_le_inv₀ (by positivity) (by positivity)] at flipped
    refine two_zpow_lt_ten_zpow (by decide) flipped ?_
    omega

namespace Number

variable {number : Number}

theorem lt_of_covers {exact : ℚ} (covers : number.roundingInterval.Covers exact) :
    exact < 2 ^ (number.magnitude.exponent + Nat.log2 number.magnitude.significand + 1) := by
  have high : exact ≤ number.roundingInterval.high * 2 ^ number.roundingInterval.exponent := by
    unfold RoundingInterval.Covers at covers
    grind
  have digits : number.roundingInterval.high <
      2 ^ (Nat.log2 number.magnitude.significand + 1 + 2) := by
    have bits := Nat.lt_log2_self (n := number.magnitude.significand)
    have high : number.roundingInterval.high = 4 * number.magnitude.significand + 2 := rfl
    rw [high, pow_add]
    omega
  have digitsCast : (number.roundingInterval.high : ℚ) <
      2 ^ (Nat.log2 number.magnitude.significand + 1 + 2) := by
    exact_mod_cast digits
  calc exact
      ≤ number.roundingInterval.high * 2 ^ number.roundingInterval.exponent := high
    _ < 2 ^ (Nat.log2 number.magnitude.significand + 1 + 2) *
          2 ^ number.roundingInterval.exponent := by gcongr
    _ = 2 ^ (number.magnitude.exponent + Nat.log2 number.magnitude.significand + 1) := by
        rw [← zpow_natCast, ← zpow_add₀ two_ne_zero, roundingInterval]
        congr 1
        push_cast
        ring

theorem exponent_le_topPlace {rank : Nat} (place : number.rank = rank + 1) {decimal : Decimal}
    (covers : number.roundingInterval.Covers decimal.value) :
    decimal.exponent ≤ number.magnitude.topPlace := by
  have positive := pos_of_covers place covers
  have some : 1 ≤ decimal.coefficient := by
    refine Nat.one_le_iff_ne_zero.mpr fun zero => ?_
    rw [Decimal.value, zero, Nat.cast_zero, zero_mul] at positive
    exact lt_irrefl _ positive
  have someCast : (1 : ℚ) ≤ decimal.coefficient := by exact_mod_cast some
  have lowest : -1074 ≤ number.magnitude.exponent := by
    rw [magnitude_eq]
    push_cast
    omega
  have chain : (10 : ℚ) ^ decimal.exponent < 10 ^ (number.magnitude.topPlace + 1) :=
    calc (10 : ℚ) ^ decimal.exponent
        ≤ decimal.value := le_mul_of_one_le_left (by positivity) someCast
      _ < _ := lt_of_covers covers
      _ < _ := two_zpow_lt (by omega)
      _ = _ := by rw [Magnitude.topPlace, add_assoc _ 2 1]; rfl
  exact Int.lt_add_one_iff.mp ((zpow_lt_zpow_iff_right₀ (by norm_num)).mp chain)

theorem exponent_le_shortest {rank : Nat} (place : number.rank = rank + 1) {decimal : Decimal}
    (covers : number.roundingInterval.Covers decimal.value) :
    decimal.exponent ≤ number.shortest.exponent := by
  have middle : number.size =
      number.roundingInterval.middle * 2 ^ number.roundingInterval.exponent := by
    rw [size, roundingInterval, zpow_sub₀ two_ne_zero]
    push_cast
    ring
  rw [shortest, if_neg (significand_ne_zero place)]
  exact RoundingInterval.shortestFrom_passes _ _ (middle ▸ covers_size place) _ covers
    (exponent_le_topPlace place covers)

/-- No decimal with fewer digits rounds to the number. -/
theorem length_digits_shortest_le (broken : ¬ number.magnitude.isWhole) {exact : ℚ}
    (rounds : RoundsTo exact number) {decimal : Decimal} (written : |exact| = decimal.value) :
    number.shortest.digits.length ≤ decimal.digits.length := by
  obtain ⟨rank, place⟩ := exists_rank_of_not_whole broken
  have covers := written ▸ covers_of_roundsTo place rounds
  by_contra! fewer
  -- The power of ten above all decimals of that length is on a coarser grid.
  have small : decimal.coefficient < 10 ^ decimal.digits.length :=
    (Nat.length_toDigits_le_iff (by decide) Nat.length_toDigits_pos).mp le_rfl
  have large : 10 ^ decimal.digits.length ≤ number.shortest.coefficient := by
    refine not_lt.mp (mt (fun less => ?_) (not_le.mpr fewer))
    exact (Nat.length_toDigits_le_iff (by decide) Nat.length_toDigits_pos).mpr less
  have grid := exponent_le_shortest place covers
  have round : Decimal.value ⟨1, decimal.digits.length + number.shortest.exponent⟩ =
      10 ^ decimal.digits.length * 10 ^ number.shortest.exponent := by
    rw [Decimal.value, zpow_add₀ (by norm_num), zpow_natCast, Nat.cast_one, one_mul]
  have between : number.roundingInterval.Covers
      (Decimal.value ⟨1, decimal.digits.length + number.shortest.exponent⟩) := by
    refine covers.between (covers_shortest broken) ?_ ?_
    · rw [round, Decimal.value]
      gcongr
      · exact_mod_cast small.le
      · norm_num
    · rw [round, Decimal.value]
      gcongr
      exact_mod_cast large
  have coarser := exponent_le_shortest place between
  have some : 0 < decimal.digits.length := Nat.length_toDigits_pos
  simp only at coarser
  omega

end Number

end Lox
