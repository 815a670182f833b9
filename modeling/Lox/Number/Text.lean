import Lox.Number.Shortest

set_option autoImplicit false

namespace Lox

namespace Decimal

def digits (decimal : Decimal) : List Char :=
  Nat.toDigits 10 decimal.coefficient

def leadingExponent (decimal : Decimal) : Int :=
  decimal.exponent + decimal.digits.length - 1

def wholeDigits (decimal : Decimal) : List Char :=
  let whole := decimal.digits.length + decimal.exponent
  if whole ≤ 0 then ['0']
  else decimal.digits.take whole.toNat ++ List.replicate decimal.exponent.toNat '0'

def fractionDigits (decimal : Decimal) : List Char :=
  let whole := decimal.digits.length + decimal.exponent
  if decimal.exponent < 0 then
    List.replicate (-whole).toNat '0' ++ decimal.digits.drop whole.toNat
  else []

def positional (decimal : Decimal) : List Char :=
  decimal.wholeDigits ++ '.' :: decimal.fractionDigits

def scientific (decimal : Decimal) : List Char :=
  let exponent := 'e' :: (toString decimal.leadingExponent).toList
  match decimal.digits with
  | first :: second :: rest => first :: '.' :: second :: rest ++ exponent
  | digits => digits ++ exponent

def inspected (decimal : Decimal) : List Char :=
  if decimal.coefficient ≠ 0 ∧
      (decimal.leadingExponent < -4 ∨ 16 ≤ decimal.leadingExponent) then
    decimal.scientific
  else if 0 ≤ decimal.exponent then
    decimal.wholeDigits ++ ['.', '0']
  else decimal.positional

end Decimal

namespace Number

def signed (number : Number) (absolute : List Char) : String :=
  if number.isNaN then "NaN"
  else
    let unsigned := if number.isFinite then absolute else ['i', 'n', 'f']
    String.ofList (if number.isNegative then '-' :: unsigned else unsigned)

def display (number : Number) : String :=
  number.signed <|
    if number.magnitude.isWhole then Nat.toDigits 10 number.magnitude.whole
    else number.shortest.positional

def debug (number : Number) : String :=
  number.signed number.shortest.inspected

end Number

end Lox
