import Lox.Number.Shortest
import Mathlib.Algebra.Order.Field.Power
import Mathlib.Algebra.Order.Ring.Abs
import Mathlib.Data.Rat.Cast.Order
import Mathlib.Tactic.LinearCombination
import Mathlib.Tactic.Positivity
import Mathlib.Tactic.Ring

set_option autoImplicit false

/-!
# The line of finite numbers

Without their signs the finite numbers are the points of a grid. Counted by their
bits they increase, and from one point to the next it is one step, which doubles
where the exponent field changes. A value rounds to the nearest number, of two that
are equally near to the one with the even significand.
-/

namespace Lox

namespace Grid

def significand (rank : Nat) : Nat :=
  if rank / 0x10000000000000 = 0 then rank % 0x10000000000000
  else 0x10000000000000 + rank % 0x10000000000000

def step (rank : Nat) : ℚ :=
  2 ^ ((max (rank / 0x10000000000000) 1 : Nat) - 1075 : ℤ)

/-- The points in increasing order; it is not only finite numbers that have ranks. -/
def point (rank : Nat) : ℚ :=
  significand rank * step rank

def infinity : Nat := 0x7ff0000000000000

theorem step_pos (rank : Nat) : 0 < step rank :=
  zpow_pos two_pos _

theorem significand_mod_two (rank : Nat) : significand rank % 2 = rank % 2 := by
  unfold significand
  split <;> omega

theorem significand_eq_zero_iff (rank : Nat) : significand rank = 0 ↔ rank = 0 := by
  unfold significand
  split <;> omega

theorem step_succ (rank : Nat) :
    step (rank + 1) =
      if (rank + 1) % 0x10000000000000 = 0 ∧ 1 < (rank + 1) / 0x10000000000000 then 2 * step rank
      else step rank := by
  unfold step
  split
  · rw [show max ((rank + 1) / 0x10000000000000) 1 = max (rank / 0x10000000000000) 1 + 1 by omega,
      ← zpow_one_add₀ two_ne_zero]
    congr 1
    push_cast
    ring
  · rw [show max ((rank + 1) / 0x10000000000000) 1 = max (rank / 0x10000000000000) 1 by omega]

theorem point_succ (rank : Nat) : point (rank + 1) = point rank + step rank := by
  unfold point
  rw [step_succ]
  split
  · -- After the last point of an exponent the significand halves as the step doubles.
    have last : significand rank + 1 = 2 * significand (rank + 1) := by
      unfold significand
      split <;> split <;> omega
    have lastCast : (significand rank : ℚ) = 2 * significand (rank + 1) - 1 := by
      rw [eq_sub_iff_add_eq]
      exact_mod_cast last
    rw [lastCast]
    ring
  · have next : significand (rank + 1) = significand rank + 1 := by
      unfold significand
      split <;> split <;> omega
    rw [next]
    push_cast
    ring

theorem point_strictMono : StrictMono point := by
  refine strictMono_nat_of_lt_succ fun rank => ?_
  rw [point_succ]
  exact lt_add_of_pos_right _ (step_pos rank)

theorem point_zero : point 0 = 0 := by
  simp [point, significand]

theorem point_nonneg (rank : Nat) : 0 ≤ point rank :=
  mul_nonneg (Nat.cast_nonneg _) (step_pos rank).le

theorem step_last : step (infinity - 1) = 2 ^ 971 := by
  rw [step, show max ((infinity - 1) / 0x10000000000000) 1 = 2046 by decide,
    show ((2046 : Nat) - 1075 : ℤ) = (971 : Nat) by decide, zpow_natCast]

theorem point_last : point (infinity - 1) = 2 ^ 1024 - 2 ^ 971 := by
  have power : (2 : ℚ) ^ 1024 = 2 ^ 53 * 2 ^ 971 := pow_add 2 53 971
  rw [point, step_last, power, show significand (infinity - 1) = 2 ^ 53 - 1 by decide]
  rw [Nat.cast_sub Nat.one_le_two_pow, Nat.cast_one, sub_one_mul, Nat.cast_pow, Nat.cast_ofNat]

theorem midpoint_last : (point (infinity - 1) + point infinity) / 2 = 2 ^ 1024 - 2 ^ 970 := by
  have next : point infinity = point (infinity - 1) + step (infinity - 1) :=
    point_succ (infinity - 1)
  have half : (2 : ℚ) ^ 971 = 2 * 2 ^ 970 := pow_succ' 2 970
  rw [next, point_last, step_last, half]
  generalize (2 : ℚ) ^ 1024 = top
  generalize (2 : ℚ) ^ 970 = step
  ring

end Grid

namespace Number

/-- The bits without the sign, which count the absolute values in increasing order. -/
def rank (number : Number) : Nat :=
  number.bits.toNat % 0x8000000000000000

def size (number : Number) : ℚ :=
  number.magnitude.significand * 2 ^ number.magnitude.exponent

def value (number : Number) : ℚ :=
  if number.isNegative then -number.size else number.size

def ofRank (negative : Bool) (rank : Nat) : Number :=
  ⟨UInt64.ofNat (if negative then 0x8000000000000000 + rank else rank)⟩

section Fields

variable (number : Number)

theorem exponentField_eq : number.exponentField = number.rank / 0x10000000000000 := by
  unfold exponentField rank
  omega

theorem fraction_eq : number.fraction = number.rank % 0x10000000000000 := by
  unfold fraction rank
  omega

theorem rank_lt : number.rank < 0x8000000000000000 :=
  Nat.mod_lt _ (by decide)

theorem isFinite_iff : number.isFinite ↔ number.rank < Grid.infinity := by
  have bound := number.rank_lt
  rw [isFinite, exponentField_eq, decide_eq_true_iff]
  unfold Grid.infinity
  omega

theorem not_isNaN_of_isFinite {number : Number} (finite : number.isFinite) : ¬ number.isNaN := by
  rw [isFinite, decide_eq_true_eq] at finite
  simp only [isNaN, Bool.and_eq_true, decide_eq_true_eq]
  omega

theorem rank_infinite {number : Number} (infinite : ¬ number.isFinite) (nan : ¬ number.isNaN) :
    number.rank = Grid.infinity := by
  have bound := number.rank_lt
  rw [isFinite, exponentField_eq, decide_eq_true_eq] at infinite
  rw [isNaN, exponentField_eq, fraction_eq] at nan
  unfold Grid.infinity
  simp only [Bool.and_eq_true, decide_eq_true_eq] at nan
  omega

theorem magnitude_eq :
    number.magnitude =
      ⟨Grid.significand number.rank, (max (number.rank / 0x10000000000000) 1 : Nat) - 1075⟩ := by
  unfold magnitude Grid.significand
  rw [exponentField_eq, fraction_eq]
  split
  · simp [*]
  · rw [max_eq_left (by omega)]

theorem size_eq : number.size = Grid.point number.rank := by
  rw [size, magnitude_eq, Grid.point, Grid.step]

theorem size_nonneg : 0 ≤ number.size :=
  number.size_eq ▸ Grid.point_nonneg _

theorem abs_value : |number.value| = number.size := by
  unfold value
  split
  · rw [abs_neg, abs_of_nonneg number.size_nonneg]
  · rw [abs_of_nonneg number.size_nonneg]

end Fields

theorem bits_inj {left right : Number} : left.bits = right.bits ↔ left = right := by
  cases left
  cases right
  simp

theorem eq_of_rank {left right : Number} (sign : left.isNegative = right.isNegative)
    (same : left.rank = right.rank) : left = right := by
  have leftBound := left.bits.toNat_lt
  have rightBound := right.bits.toNat_lt
  unfold isNegative at sign
  unfold rank at same
  have bits : left.bits.toNat = right.bits.toNat := by
    rw [decide_eq_decide] at sign
    omega
  exact bits_inj.mp (UInt64.toNat_inj.mp bits)

theorem rank_eq_of_size {left right : Number} (same : left.size = right.size) :
    left.rank = right.rank := by
  rw [size_eq, size_eq] at same
  exact Grid.point_strictMono.injective same

theorem rank_ofRank (negative : Bool) {rank : Nat} (bound : rank < 0x8000000000000000) :
    (ofRank negative rank).rank = rank := by
  cases negative <;> simp [ofRank, Number.rank] <;> omega

theorem isNegative_ofRank (negative : Bool) {rank : Nat} (bound : rank < 0x8000000000000000) :
    (ofRank negative rank).isNegative = negative := by
  cases negative <;> simp [ofRank, isNegative] <;> omega

/--
A value rounds to a finite number of its own sign, if no finite number is nearer and
the significand is even if another one is as near. From half a step above the largest
number on, values round to no finite number.
-/
structure RoundsTo (exact : ℚ) (number : Number) : Prop where
  finite : number.isFinite
  inRange : |exact| < 2 ^ 1024 - 2 ^ 970
  sign : number.isNegative ↔ exact < 0
  nearest (other : Number) : other.isFinite → |exact - number.value| ≤ |exact - other.value|
  even (other : Number) : other.isFinite → other.value ≠ number.value →
    |exact - other.value| = |exact - number.value| → number.magnitude.significand % 2 = 0

section Distance

variable {exact : ℚ} {number : Number}

theorem distance_of_sign (sign : number.isNegative ↔ exact < 0) :
    |exact - number.value| = abs (|exact| - number.size) := by
  unfold value
  by_cases negative : exact < 0
  · rw [if_pos (sign.mpr negative), abs_of_neg negative, ← abs_neg]
    ring_nf
  · rw [if_neg (mt sign.mp negative), abs_of_nonneg (not_lt.mp negative)]

theorem distance_le (exact : ℚ) (number : Number) :
    abs (|exact| - number.size) ≤ |exact - number.value| := by
  rw [← abs_value]
  exact abs_abs_sub_abs_le exact number.value

theorem isFinite_ofRank (negative : Bool) {rank : Nat} (bound : rank < Grid.infinity) :
    (ofRank negative rank).isFinite := by
  rw [isFinite_iff, rank_ofRank negative (bound.trans (by decide))]
  exact bound

theorem distance_ofRank (exact : ℚ) {rank : Nat} (bound : rank < Grid.infinity) :
    |exact - (ofRank (exact < 0) rank).value| = abs (|exact| - Grid.point rank) := by
  have inRange : rank < 0x8000000000000000 := bound.trans (by decide)
  rw [distance_of_sign (by simp [isNegative_ofRank _ inRange]), size_eq, rank_ofRank _ inRange]

end Distance

namespace RoundsTo

variable {exact : ℚ} {number other : Number}

theorem nearest_point (rounds : RoundsTo exact number) {rank : Nat} (bound : rank < Grid.infinity) :
    abs (|exact| - Grid.point number.rank) ≤ abs (|exact| - Grid.point rank) := by
  have nearest := rounds.nearest _ (isFinite_ofRank (exact < 0) bound)
  rwa [distance_of_sign rounds.sign, distance_ofRank exact bound, size_eq] at nearest

theorem even_point (rounds : RoundsTo exact number) {rank : Nat} (bound : rank < Grid.infinity)
    (differs : rank ≠ number.rank)
    (tie : abs (|exact| - Grid.point rank) = abs (|exact| - Grid.point number.rank)) :
    number.rank % 2 = 0 := by
  have even := rounds.even _ (isFinite_ofRank (exact < 0) bound)
  rw [distance_ofRank exact bound, distance_of_sign rounds.sign, size_eq, magnitude_eq,
    Grid.significand_mod_two] at even
  refine even (fun same => ?_) tie
  have sizes := congrArg abs same
  rw [abs_value, abs_value] at sizes
  exact differs (rank_ofRank _ (bound.trans (by decide)) ▸ rank_eq_of_size sizes)

theorem not_below (rounds : RoundsTo exact number) (also : RoundsTo exact other) :
    ¬ number.rank < other.rank := by
  intro below
  have finite := number.isFinite_iff.mp rounds.finite
  have otherFinite := other.isFinite_iff.mp also.finite
  rcases Nat.lt_or_eq_of_le (Nat.succ_le_of_lt below) with apart | adjacent
  · -- The point between them is nearer to the value than one of the two.
    have left := Grid.point_strictMono (Nat.lt_succ_self number.rank)
    have right := Grid.point_strictMono apart
    have nearer := rounds.nearest_point (apart.trans otherFinite)
    have otherNearer := also.nearest_point (apart.trans otherFinite)
    grind
  · -- Neighbours are equally near only if both are even, which they cannot be.
    have tie : abs (|exact| - Grid.point other.rank) = abs (|exact| - Grid.point number.rank) :=
      le_antisymm (also.nearest_point finite) (rounds.nearest_point otherFinite)
    have even := rounds.even_point otherFinite below.ne' tie
    have otherEven := also.even_point finite below.ne tie.symm
    omega

theorem unique (rounds : RoundsTo exact number) (also : RoundsTo exact other) : number = other := by
  refine eq_of_rank ?_ (Nat.le_antisymm ?_ ?_)
  · rw [Bool.eq_iff_iff, rounds.sign, also.sign]
  · exact Nat.not_lt.mp (also.not_below rounds)
  · exact Nat.not_lt.mp (rounds.not_below also)

end RoundsTo

end Number

def RoundingInterval.Covers (interval : RoundingInterval) (exact : ℚ) : Prop :=
  let low := interval.low * (2 : ℚ) ^ interval.exponent
  let high := interval.high * (2 : ℚ) ^ interval.exponent
  if interval.closed then low ≤ exact ∧ exact ≤ high else low < exact ∧ exact < high

namespace Number

variable {number : Number} {rank : Nat}

theorem interval_high (number : Number) :
    number.roundingInterval.high * (2 : ℚ) ^ number.roundingInterval.exponent =
      (Grid.point number.rank + Grid.point (number.rank + 1)) / 2 := by
  rw [Grid.point_succ, Grid.point, roundingInterval, magnitude_eq, Grid.step]
  rw [zpow_sub₀ two_ne_zero _ 2]
  push_cast
  ring

theorem interval_low (place : number.rank = rank + 1) :
    number.roundingInterval.low * (2 : ℚ) ^ number.roundingInterval.exponent =
      (Grid.point rank + Grid.point (rank + 1)) / 2 := by
  have positive : 0 < Grid.significand (rank + 1) :=
    Nat.pos_of_ne_zero (mt (Grid.significand_eq_zero_iff _).mp (Nat.succ_ne_zero rank))
  have points := Grid.point_succ rank
  -- One or two quarters of the step above are half of the step below.
  have gap : ((if (rank + 1) % 0x10000000000000 = 0 ∧ 1 < (rank + 1) / 0x10000000000000
      then 1 else 2 : Nat) : ℚ) * Grid.step (rank + 1) = 2 * Grid.step rank := by
    rw [Grid.step_succ]
    split <;> push_cast <;> ring
  rw [roundingInterval, magnitude_eq, exponentField_eq, fraction_eq, place]
  simp only
  rw [zpow_sub₀ two_ne_zero _ 2, ← Grid.step, Nat.cast_sub (by split <;> omega),
    eq_sub_of_add_eq points.symm, Grid.point]
  push_cast at gap ⊢
  linear_combination (-1 / 4 : ℚ) * gap

theorem covers_iff (place : number.rank = rank + 1) (exact : ℚ) :
    number.roundingInterval.Covers exact ↔
      let low := (Grid.point rank + Grid.point (rank + 1)) / 2
      let high := (Grid.point (rank + 1) + Grid.point (rank + 2)) / 2
      if number.rank % 2 = 0 then low ≤ exact ∧ exact ≤ high else low < exact ∧ exact < high := by
  have closed : number.roundingInterval.closed = decide (number.rank % 2 = 0) := by
    rw [roundingInterval, magnitude_eq, Grid.significand_mod_two]
  rw [RoundingInterval.Covers, interval_low place, interval_high, place, closed]
  simp only [place, decide_eq_true_eq]

theorem pos_of_covers (place : number.rank = rank + 1) {exact : ℚ}
    (covers : number.roundingInterval.Covers exact) : 0 < exact := by
  have nonneg := Grid.point_nonneg rank
  have increasing := Grid.point_strictMono (Nat.lt_succ_self rank)
  rw [covers_iff place] at covers
  grind

theorem nearest_of_covers (place : number.rank = rank + 1) {exact : ℚ}
    (covers : number.roundingInterval.Covers exact) (other : Nat) :
    |exact - Grid.point number.rank| ≤ |exact - Grid.point other| ∧
      (other ≠ number.rank → |exact - Grid.point other| = |exact - Grid.point number.rank| →
        number.rank % 2 = 0) := by
  rw [covers_iff place] at covers
  have before := Grid.point_strictMono (Nat.lt_succ_self rank)
  have after := Grid.point_strictMono (Nat.lt_succ_self (rank + 1))
  -- Points beyond the neighbours are further away than these, as the points increase.
  rcases Nat.lt_trichotomy other number.rank with below | rfl | above
  · have further : Grid.point other ≤ Grid.point rank :=
      Grid.point_strictMono.monotone (by omega)
    rw [place] at covers ⊢
    grind
  · exact ⟨le_rfl, fun differs => absurd rfl differs⟩
  · have further : Grid.point (rank + 2) ≤ Grid.point other :=
      Grid.point_strictMono.monotone (by omega)
    rw [place] at covers ⊢
    grind

theorem inRange_of_covers (finite : number.isFinite) (place : number.rank = rank + 1) {exact : ℚ}
    (covers : number.roundingInterval.Covers exact) : exact < 2 ^ 1024 - 2 ^ 970 := by
  rw [covers_iff place] at covers
  rw [← Grid.midpoint_last]
  have bound := number.isFinite_iff.mp finite
  by_cases last : rank + 2 = Grid.infinity
  · -- The interval of the largest number is open, as its significand is odd.
    have odd : ¬ number.rank % 2 = 0 := by
      unfold Grid.infinity at last
      omega
    rw [if_neg odd, last, show rank + 1 = Grid.infinity - 1 by omega] at covers
    exact covers.2
  · have here := Grid.point_strictMono (Nat.lt_succ_self (rank + 1))
    have below := Grid.point_strictMono.monotone (show rank + 2 ≤ Grid.infinity - 1 by omega)
    have above := Grid.point_strictMono (show Grid.infinity - 1 < Grid.infinity by decide)
    grind

theorem roundsTo_of_covers (finite : number.isFinite) (place : number.rank = rank + 1) {exact : ℚ}
    (sign : number.isNegative ↔ exact < 0) (covers : number.roundingInterval.Covers |exact|) :
    RoundsTo exact number := by
  have nearest := nearest_of_covers place covers
  have distance (other : Number) : abs (|exact| - Grid.point number.rank) ≤
      abs (|exact| - Grid.point other.rank) ∧
      abs (|exact| - Grid.point other.rank) ≤ |exact - other.value| :=
    ⟨(nearest other.rank).1, other.size_eq ▸ distance_le exact other⟩
  have own : |exact - number.value| = abs (|exact| - Grid.point number.rank) := by
    rw [distance_of_sign sign, size_eq]
  refine ⟨finite, inRange_of_covers finite place covers, sign, fun other _ => ?_, ?_⟩
  · rw [own]
    exact (distance other).1.trans (distance other).2
  · intro other _ differs tie
    rw [own] at tie
    have near : abs (|exact| - Grid.point other.rank) = abs (|exact| - Grid.point number.rank) :=
      le_antisymm ((distance other).2.trans_eq tie) (distance other).1
    rw [magnitude_eq, Grid.significand_mod_two]
    refine (nearest other.rank).2 (fun same => ?_) near
    -- A number of the same absolute value has the other sign, so it is further away.
    have sizes : |other.value| = |number.value| := by
      rw [abs_value, abs_value, size_eq, size_eq, same]
    have opposite := (abs_eq_abs.mp sizes).resolve_left differs
    have nonzero : exact ≠ 0 := abs_pos.mp (pos_of_covers place covers)
    rw [← own, opposite, sub_neg_eq_add, abs_eq_abs] at tie
    grind

theorem covers_of_roundsTo (place : number.rank = rank + 1) {exact : ℚ}
    (rounds : RoundsTo exact number) : number.roundingInterval.Covers |exact| := by
  have bound := number.isFinite_iff.mp rounds.finite
  have before := Grid.point_strictMono (Nat.lt_succ_self rank)
  have after := Grid.point_strictMono (Nat.lt_succ_self (rank + 1))
  have low := rounds.nearest_point (show rank < Grid.infinity by omega)
  have lowTie := rounds.even_point (show rank < Grid.infinity by omega) (by omega)
  rw [covers_iff place]
  rw [place] at low lowTie ⊢
  by_cases last : rank + 2 < Grid.infinity
  · have high := rounds.nearest_point last
    have highTie := rounds.even_point last (by omega)
    rw [place] at high highTie
    grind
  · -- No finite number is above this one, but there the range ends.
    have high := rounds.inRange
    rw [← Grid.midpoint_last, show Grid.infinity = rank + 2 by omega] at high
    rw [show rank + 2 - 1 = rank + 1 by omega] at high
    grind

end Number

end Lox
