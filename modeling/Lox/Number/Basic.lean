set_option autoImplicit false

namespace Lox

structure Number where
  bits : UInt64
  deriving DecidableEq, Repr

/-- The exact value `significand * 2 ^ exponent`. -/
structure Magnitude where
  significand : Nat
  exponent : Int
  deriving DecidableEq, Repr

namespace Number

def isNegative (number : Number) : Bool :=
  0x8000000000000000 ≤ number.bits.toNat

def exponentField (number : Number) : Nat :=
  number.bits.toNat / 0x10000000000000 % 0x800

def fraction (number : Number) : Nat :=
  number.bits.toNat % 0x10000000000000

def isFinite (number : Number) : Bool :=
  number.exponentField < 0x7ff

def isNaN (number : Number) : Bool :=
  number.exponentField = 0x7ff && number.fraction ≠ 0

def isZero (number : Number) : Bool :=
  number.exponentField = 0 && number.fraction = 0

def magnitude (number : Number) : Magnitude :=
  if number.exponentField = 0 then ⟨number.fraction, -1074⟩
  else ⟨0x10000000000000 + number.fraction, (number.exponentField : Int) - 1075⟩

def equals (left right : Number) : Bool :=
  !left.isNaN && !right.isNaN &&
    (left.bits = right.bits || (left.isZero && right.isZero))

def add (left right : Number) : Number :=
  ⟨(Float.ofBits left.bits + Float.ofBits right.bits).toBits⟩

def ofNat (value : Nat) : Number :=
  ⟨(Float.ofNat value).toBits⟩

def ofInt (value : Int) : Number :=
  ⟨(Float.ofInt value).toBits⟩

end Number

namespace Magnitude

def isWhole (value : Magnitude) : Bool :=
  value.significand % Nat.pow 2 (-value.exponent).toNat = 0

def whole (value : Magnitude) : Nat :=
  value.significand * Nat.pow 2 value.exponent.toNat / Nat.pow 2 (-value.exponent).toNat

end Magnitude

end Lox
