import Lox.Number.Hex
import Lox.Text.Json
import Mathlib.Algebra.Field.Rat
import Mathlib.Data.List.Basic

set_option autoImplicit false

/-!
# Reading JSON

A reader of JSON texts: values of every kind with blanks around them, numbers by their
exact value, and strings with all their escapes. It refuses what JSON does not allow,
such as control characters in strings, zeros in front of numbers, halves of surrogate
pairs and anything after the value. It reads every escaped string back, whatever its
characters are, and every natural number.
-/

namespace Lox

inductive Json where
  | null
  | bool (value : Bool)
  | number (value : ℚ)
  | string (value : String)
  | list (items : List Json)
  | object (members : List (String × Json))

namespace Json

def isBlank (char : Char) : Bool :=
  char = ' ' || char = '\t' || char = '\n' || char = '\r'

def skipBlanks (chars : List Char) : List Char :=
  chars.dropWhile isBlank

/-- What a string is written with: characters, and escaped units of sixteen bits. -/
inductive Piece where
  | char (char : Char)
  | unit (unit : Nat)

def shortEscape? : Char → Option Char
  | '"' => some '"'
  | '\\' => some '\\'
  | '/' => some '/'
  | 'b' => some '\x08'
  | 'f' => some '\x0c'
  | 'n' => some '\n'
  | 'r' => some '\r'
  | 't' => some '\t'
  | _ => none

def Piece.before (piece : Piece) (read : List Piece × List Char) : List Piece × List Char :=
  (piece :: read.1, read.2)

def readPieces? : List Char → Option (List Piece × List Char)
  | [] => none
  | '"' :: rest => some ([], rest)
  | '\\' :: rest =>
      match rest with
      | 'u' :: first :: second :: third :: fourth :: rest => do
          let unit ← hexValue? [first, second, third, fourth]
          (readPieces? rest).map (Piece.unit unit).before
      | escape :: rest => do
          let char ← shortEscape? escape
          (readPieces? rest).map (Piece.char char).before
      | [] => none
  | char :: rest =>
      if char.toNat < 0x20 then none else (readPieces? rest).map (Piece.char char).before

def joinPieces? : List Piece → Option (List Char)
  | [] => some []
  | .char char :: rest => (joinPieces? rest).map (char :: ·)
  | .unit unit :: rest =>
      if unit < 0xd800 ∨ 0xdfff < unit then (joinPieces? rest).map (Char.ofNat unit :: ·)
      else
        match rest with
        -- A character beyond sixteen bits takes a pair of units.
        | .unit low :: rest =>
            if unit < 0xdc00 ∧ 0xdc00 ≤ low ∧ low ≤ 0xdfff then
              (joinPieces? rest).map
                (Char.ofNat (0x10000 + 0x400 * (unit - 0xd800) + (low - 0xdc00)) :: ·)
            else none
        | _ => none

def readString? (chars : List Char) : Option (List Char × List Char) := do
  let (pieces, rest) ← readPieces? chars
  return (← joinPieces? pieces, rest)

def readDigits? (chars : List Char) : Option (List Char × List Char) :=
  let digits := chars.takeWhile Char.isDigit
  if digits = [] then none else some (digits, chars.dropWhile Char.isDigit)

def readFraction? : List Char → Option (List Char × List Char)
  | '.' :: rest => readDigits? rest
  | rest => some ([], rest)

def readExponent? (chars : List Char) : Option (ℤ × List Char) :=
  let signed (sign : ℤ) (chars : List Char) := do
    let (digits, rest) ← readDigits? chars
    return (sign * Nat.ofDigitChars 10 digits 0, rest)
  match chars with
  | [] => some (0, [])
  | mark :: rest =>
      if mark = 'e' ∨ mark = 'E' then
        match rest with
        | '-' :: rest => signed (-1) rest
        | '+' :: rest => signed 1 rest
        | rest => signed 1 rest
      else some (0, mark :: rest)

def readSize? (chars : List Char) : Option (ℚ × List Char) := do
  let (whole, rest) ← readDigits? chars
  guard (whole = ['0'] ∨ whole.head? ≠ some '0')
  let (fraction, rest) ← readFraction? rest
  let (exponent, rest) ← readExponent? rest
  return (Nat.ofDigitChars 10 (whole ++ fraction) 0 * 10 ^ (exponent - fraction.length), rest)

def readNumber? : List Char → Option (ℚ × List Char)
  | '-' :: rest => do
      let (size, rest) ← readSize? rest
      return (-size, rest)
  | rest => readSize? rest

mutual

/-- A value and what follows it; every item inside takes one from the bound. -/
def readValue? : Nat → List Char → Option (Json × List Char)
  | 0, _ => none
  | bound + 1, chars =>
      match skipBlanks chars with
      | 'n' :: 'u' :: 'l' :: 'l' :: rest => some (.null, rest)
      | 't' :: 'r' :: 'u' :: 'e' :: rest => some (.bool true, rest)
      | 'f' :: 'a' :: 'l' :: 's' :: 'e' :: rest => some (.bool false, rest)
      | '"' :: rest => do
          let (text, rest) ← readString? rest
          return (.string (String.ofList text), rest)
      | '[' :: rest =>
          match skipBlanks rest with
          | ']' :: rest => some (.list [], rest)
          | _ => do
              let (items, rest) ← readItems? bound rest
              return (.list items, rest)
      | '\x7b' :: rest =>
          match skipBlanks rest with
          | '\x7d' :: rest => some (.object [], rest)
          | _ => do
              let (members, rest) ← readMembers? bound rest
              return (.object members, rest)
      | rest => do
          let (value, rest) ← readNumber? rest
          return (.number value, rest)

def readItems? : Nat → List Char → Option (List Json × List Char)
  | 0, _ => none
  | bound + 1, chars => do
      let (item, rest) ← readValue? bound chars
      match skipBlanks rest with
      | ']' :: rest => return ([item], rest)
      | ',' :: rest =>
          let (items, rest) ← readItems? bound rest
          return (item :: items, rest)
      | _ => none

def readMember? : Nat → List Char → Option ((String × Json) × List Char)
  | 0, _ => none
  | bound + 1, chars =>
      match skipBlanks chars with
      | '"' :: rest => do
          let (name, rest) ← readString? rest
          match skipBlanks rest with
          | ':' :: rest =>
              let (value, rest) ← readValue? bound rest
              return ((String.ofList name, value), rest)
          | _ => none
      | _ => none

def readMembers? : Nat → List Char → Option (List (String × Json) × List Char)
  | 0, _ => none
  | bound + 1, chars => do
      let (member, rest) ← readMember? bound chars
      match skipBlanks rest with
      | '\x7d' :: rest => return ([member], rest)
      | ',' :: rest =>
          let (members, rest) ← readMembers? bound rest
          return (member :: members, rest)
      | _ => none

end

def read? (text : String) : Option Json := do
  let (value, rest) ← readValue? text.length text.toList
  if skipBlanks rest = [] then return value else none

example :
    ["\"\n\"", "\"\\ud800\"", "\"\\x\"", "01", "1.", ".5", "[1,]", "1 2", "\"", ""].all fun text =>
      (read? text).isNone := by
  decide +kernel

theorem hexDigit?_digitChar {digit : Nat} (bound : digit < 16) :
    hexDigit? digit.digitChar = some digit := by
  revert digit
  decide

theorem readPieces?_short {escape char : Char} (means : shortEscape? escape = some char)
    (rest : List Char) :
    readPieces? ('\\' :: escape :: rest) = (readPieces? rest).map (Piece.char char).before := by
  have short : escape ≠ 'u' := by
    rintro rfl
    simp [shortEscape?] at means
  simp [readPieces?, means, short]

theorem readPieces?_control {char : Char} (control : char.toNat < 0x20) (rest : List Char) :
    readPieces? (Text.escapeControl char ++ rest) =
      (readPieces? rest).map (Piece.unit char.toNat).before := by
  have high := hexDigit?_digitChar (show char.toNat / 16 < 16 by omega)
  have low := hexDigit?_digitChar (show char.toNat % 16 < 16 by omega)
  have zero : hexDigit? '0' = some 0 := by decide
  have unit : hexValue? ['0', '0', (char.toNat / 16).digitChar, (char.toNat % 16).digitChar] =
      some char.toNat := by
    simp [hexValue?, high, low, zero, Nat.div_add_mod]
  simp [Text.escapeControl, readPieces?, unit]

theorem readPieces?_raw {char : Char} (quote : char ≠ '"') (escape : char ≠ '\\')
    (printed : ¬ char.toNat < 0x20) (rest : List Char) :
    readPieces? (char :: rest) = (readPieces? rest).map (Piece.char char).before := by
  simp [readPieces?, printed]

theorem readString?_of_piece {chars rest : List Char} {piece : Piece} {char : Char}
    (reads : readPieces? chars = (readPieces? rest).map piece.before)
    (joins : ∀ pieces, joinPieces? (piece :: pieces) = (joinPieces? pieces).map (char :: ·)) :
    readString? chars = (readString? rest).map fun (chars, rest) => (char :: chars, rest) := by
  rw [readString?, readString?, reads]
  rcases readPieces? rest with _ | ⟨pieces, rest⟩
  · rfl
  · simp only [Option.map_some, Piece.before, Option.bind_eq_bind, Option.bind_some, joins]
    cases joinPieces? pieces <;> rfl

theorem joinPieces?_char (char : Char) (pieces : List Piece) :
    joinPieces? (.char char :: pieces) = (joinPieces? pieces).map (char :: ·) := by
  rw [joinPieces?]

theorem joinPieces?_unit {unit : Nat} (whole : unit < 0xd800) (pieces : List Piece) :
    joinPieces? (.unit unit :: pieces) = (joinPieces? pieces).map (Char.ofNat unit :: ·) := by
  rw [joinPieces?.eq_def]
  exact if_pos (.inl whole)

theorem readString?_escapeJson (char : Char) (rest : List Char) :
    readString? (Text.escapeJson char ++ rest) =
      (readString? rest).map fun (chars, rest) => (char :: chars, rest) := by
  unfold Text.escapeJson
  split
  case h_8 quote escape _ _ _ _ _ =>
      split
      · next control =>
          refine readString?_of_piece (readPieces?_control control rest) fun pieces => ?_
          rw [joinPieces?_unit (by omega), Char.ofNat_toNat]
      · next printed =>
          exact readString?_of_piece (readPieces?_raw quote escape printed rest)
            (joinPieces?_char char)
  all_goals exact readString?_of_piece (readPieces?_short rfl rest) (joinPieces?_char _)

theorem readString?_escaped (chars rest : List Char) :
    readString? (chars.flatMap Text.escapeJson ++ '"' :: rest) = some (chars, rest) := by
  induction chars with
  | nil => simp [readString?, readPieces?, joinPieces?]
  | cons char chars ih =>
      rw [List.flatMap_cons, List.append_assoc, readString?_escapeJson, ih, Option.map_some]

theorem head?_toDigits {number : Nat} (positive : 0 < number) :
    (Nat.toDigits 10 number).head? ≠ some '0' := by
  induction number using Nat.strongRecOn with
  | ind number ih =>
      rw [Nat.toDigits_eq_if (by decide)]
      split
      · next small =>
          have digit : ∀ digit < 10, 0 < digit → [Nat.digitChar digit].head? ≠ some '0' := by decide
          exact digit number small positive
      · next large =>
          rw [List.head?_append_of_ne_nil _ Nat.toDigits_ne_nil]
          exact ih (number / 10) (by omega) (by omega)

theorem readSize?_toDigits (number : Nat) (rest : List Char) :
    readSize? (Nat.toDigits 10 number ++ '\x7d' :: rest) = some ((number : ℚ), '\x7d' :: rest) := by
  have digits : ∀ char ∈ Nat.toDigits 10 number, char.isDigit :=
    fun _ => Nat.isDigit_of_mem_toDigits (by decide) (by decide)
  have brace : ¬ '\x7d'.isDigit := by decide
  have reads : readDigits? (Nat.toDigits 10 number ++ '\x7d' :: rest) =
      some (Nat.toDigits 10 number, '\x7d' :: rest) := by
    rw [readDigits?, List.takeWhile_append_of_pos digits, List.dropWhile_append_of_pos digits,
      List.takeWhile_cons_of_neg brace, List.dropWhile_cons_of_neg brace, List.append_nil,
      if_neg Nat.toDigits_ne_nil]
  have plain : Nat.toDigits 10 number = ['0'] ∨ (Nat.toDigits 10 number).head? ≠ some '0' := by
    rcases Nat.eq_zero_or_pos number with rfl | positive
    · exact .inl (Nat.toDigits_zero 10)
    · exact .inr (head?_toDigits positive)
  simp [readSize?, reads, plain, readFraction?, readExponent?, guard]

theorem skipBlanks_cons {char : Char} (printed : ¬ isBlank char) (rest : List Char) :
    skipBlanks (char :: rest) = char :: rest :=
  List.dropWhile_cons_of_neg printed

theorem jsonString_append (text : String) (rest : List Char) :
    (Text.jsonString text).toList ++ rest =
      '"' :: (text.toList.flatMap Text.escapeJson ++ '"' :: rest) := by
  simp [Text.jsonString]

theorem readValue?_jsonString (bound : Nat) (text : String) (rest : List Char) :
    readValue? (bound + 1) ((Text.jsonString text).toList ++ rest) =
      some (.string text, rest) := by
  rw [jsonString_append, readValue?, skipBlanks_cons (by decide)]
  simp [readString?_escaped]

theorem readValue?_digit {first : Char} (isDigit : first.isDigit) (bound : Nat)
    (rest : List Char) :
    readValue? (bound + 1) (first :: rest) =
      (readSize? (first :: rest)).map fun (value, rest) => (.number value, rest) := by
  have differs {mark : Char} {more : List Char} (other : ¬ mark.isDigit) :
      first :: rest ≠ mark :: more :=
    fun same => other ((List.cons.inj same).1 ▸ isDigit)
  have printed : ¬ isBlank first := by
    intro blank
    simp only [isBlank, Bool.or_eq_true, decide_eq_true_eq] at blank
    rcases blank with ((rfl | rfl) | rfl) | rfl <;> exact absurd isDigit (by decide)
  have unsigned : readNumber? (first :: rest) = readSize? (first :: rest) := by
    rw [readNumber?.eq_def]
    split
    · next same => exact absurd same (differs (by decide))
    · rfl
  rw [readValue?, skipBlanks_cons printed]
  split
  case h_7 =>
      rw [unsigned]
      cases readSize? (first :: rest) <;> rfl
  all_goals
    next same => exact absurd same (differs (by decide))

theorem readValue?_toString (bound number : Nat) (rest : List Char) :
    readValue? (bound + 1) ((toString number).toList ++ '\x7d' :: rest) =
      some (.number number, '\x7d' :: rest) := by
  have reads := readSize?_toDigits number rest
  obtain ⟨first, more, digits⟩ :=
    List.exists_cons_of_ne_nil (Nat.toDigits_ne_nil (n := number) (b := 10))
  have isDigit : first.isDigit := by
    refine Nat.isDigit_of_mem_toDigits (b := 10) (n := number) (by decide) (by decide) ?_
    rw [digits]
    exact List.mem_cons_self
  rw [digits, List.cons_append] at reads
  rw [Nat.toString_eq_ofList_toDigits, String.toList_ofList, digits, List.cons_append,
    readValue?_digit isDigit, reads, Option.map_some]

end Json

end Lox
