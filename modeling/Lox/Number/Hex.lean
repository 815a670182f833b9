import Lox.Number.Basic

set_option autoImplicit false

namespace Lox

def hexDigit? (char : Char) : Option Nat :=
  if '0' ≤ char ∧ char ≤ '9' then some (char.toNat - '0'.toNat)
  else if 'a' ≤ char ∧ char ≤ 'f' then some (char.toNat - 'a'.toNat + 10)
  else if 'A' ≤ char ∧ char ≤ 'F' then some (char.toNat - 'A'.toNat + 10)
  else none

def hexValue? (digits : List Char) : Option Nat :=
  digits.foldlM (fun value char => (hexDigit? char).map (16 * value + ·)) 0

def Number.ofHex? (text : String) : Option Number :=
  let digits :=
    match text.toList with
    | '+' :: rest => rest
    | chars => chars
  if digits.isEmpty then none
  else
    match hexValue? digits with
    | some value => if value < 0x10000000000000000 then some ⟨value.toUInt64⟩ else none
    | none => none

def Number.hex (number : Number) : String :=
  let digits := Nat.toDigits 16 number.bits.toNat
  String.ofList (List.replicate (16 - digits.length) '0' ++ digits)

end Lox
