import Lox.Number.Basic

set_option autoImplicit false

/-!
# The shortest decimal of a number

Every finite number other than zero is the nearest one to all values of its
rounding interval. `Number.shortest` goes down the decimal grids `10 ^ p` and
stops at the first one that has a point in the interval, so no decimal with
fewer digits reads back as the number. Of two points on that grid it takes the
nearer one, and the larger one of two that are equally near.
-/

namespace Lox

/-- The decimal `coefficient * 10 ^ exponent`. -/
structure Decimal where
  coefficient : Nat
  exponent : Int
  deriving DecidableEq, Repr

/--
The values that round to one number, in units of `2 ^ exponent`: from `low` to
`high` around the number's own value `middle`, the ends belonging to it or not.
-/
structure RoundingInterval where
  low : Nat
  middle : Nat
  high : Nat
  exponent : Int
  closed : Bool
  deriving DecidableEq, Repr

def Number.roundingInterval (number : Number) : RoundingInterval :=
  let value := number.magnitude
  -- Half a place to either side rounds to the number, but below a power of two places are finer.
  let finerBelow := number.fraction = 0 ∧ 1 < number.exponentField
  { low := 4 * value.significand - (if finerBelow then 1 else 2)
    middle := 4 * value.significand
    high := 4 * value.significand + 2
    exponent := value.exponent - 2
    closed := value.significand % 2 = 0 }

namespace RoundingInterval

-- Multiples of `10 ^ place` and of the unit are compared after multiplying by these.
def decimalFactor (interval : RoundingInterval) (place : Int) : Nat :=
  Nat.pow 10 place.toNat * Nat.pow 2 (-interval.exponent).toNat

def binaryFactor (interval : RoundingInterval) (place : Int) : Nat :=
  Nat.pow 2 interval.exponent.toNat * Nat.pow 10 (-place).toNat

def contains (interval : RoundingInterval) (place : Int) (coefficient : Nat) : Bool :=
  let point := coefficient * interval.decimalFactor place
  let low := interval.low * interval.binaryFactor place
  let high := interval.high * interval.binaryFactor place
  if interval.closed then low ≤ point && point ≤ high
  else low < point && point < high

def below (interval : RoundingInterval) (place : Int) : Nat :=
  interval.middle * interval.binaryFactor place / interval.decimalFactor place

def nearest? (interval : RoundingInterval) (place : Int) : Option Nat :=
  let down := interval.below place
  let up := down + 1
  let middle := interval.middle * interval.binaryFactor place
  match interval.contains place down, interval.contains place up with
  | true, true =>
      if up * interval.decimalFactor place - middle ≤
          middle - down * interval.decimalFactor place
      then some up else some down
  | true, false => some down
  | false, true => some up
  | false, false => none

def shortestFrom (interval : RoundingInterval) : Nat -> Int -> Decimal
  | 0, place => ⟨interval.below place, place⟩
  | steps + 1, place =>
      match interval.nearest? place with
      | some coefficient => ⟨coefficient, place⟩
      | none => interval.shortestFrom steps (place - 1)

end RoundingInterval

def Magnitude.topPlace (value : Magnitude) : Int :=
  -- The factor is a little more than the decimal logarithm of two.
  (value.exponent + Nat.log2 value.significand + 1) * 30103 / 100000 + 2

def Number.shortest (number : Number) : Decimal :=
  let value := number.magnitude
  if value.significand = 0 then ⟨0, 0⟩
  else
    -- The grid of the last binary place, or of the ones, holds the value itself.
    let last := min value.exponent 0
    number.roundingInterval.shortestFrom (value.topPlace - last).toNat value.topPlace

end Lox
