import Lox.Heap.Text
import Lox.Proofs.ShortestDecimal

set_option autoImplicit false

namespace Lox

/--
The exact value of a decimal without a sign: digits, and if there is a point, digits
on both sides of it.
-/
def readUnsigned? (chars : List Char) : Option ℚ :=
  let whole := chars.takeWhile Char.isDigit
  match chars.dropWhile Char.isDigit with
  | [] => if whole = [] then none else some (Nat.ofDigitChars 10 whole 0)
  | '.' :: fraction =>
      if whole = [] ∨ fraction = [] ∨ ¬ fraction.all Char.isDigit then none
      else some (Nat.ofDigitChars 10 (whole ++ fraction) 0 / 10 ^ fraction.length)
  | _ => none

def readDecimal? (text : String) : Option ℚ :=
  match text.toList with
  | '-' :: chars => (readUnsigned? chars).map (-·)
  | chars => readUnsigned? chars

theorem readDecimal?_minus (chars : List Char) :
    readDecimal? (String.ofList ('-' :: chars)) = (readUnsigned? chars).map (-·) := by
  rw [readDecimal?, String.toList_ofList]
  rfl

theorem readDecimal?_plain {chars : List Char} (noMinus : '-' ∉ chars) :
    readDecimal? (String.ofList chars) = readUnsigned? chars := by
  rw [readDecimal?, String.toList_ofList]
  split
  · exact absurd List.mem_cons_self noMinus
  · rfl

theorem readUnsigned?_point {whole fraction : List Char}
    (wholeDigits : ∀ char ∈ whole, char.isDigit)
    (fractionDigits : ∀ char ∈ fraction, char.isDigit)
    (before : whole ≠ []) (after : fraction ≠ []) :
    readUnsigned? (whole ++ '.' :: fraction) =
      some ((Nat.ofDigitChars 10 (whole ++ fraction) 0 : ℚ) / 10 ^ fraction.length) := by
  have point : ¬ '.'.isDigit := by decide
  rw [readUnsigned?, List.takeWhile_append_of_pos wholeDigits,
    List.dropWhile_append_of_pos wholeDigits, List.takeWhile_cons_of_neg point,
    List.dropWhile_cons_of_neg point, List.append_nil]
  simpa [before, after] using fractionDigits

namespace Decimal

variable (decimal : Decimal)

theorem isDigit_digits {char : Char} (listed : char ∈ decimal.digits) : char.isDigit :=
  Nat.isDigit_of_mem_toDigits (by decide) (by decide) listed

theorem isDigit_wholeDigits {char : Char} (listed : char ∈ decimal.wholeDigits) :
    char.isDigit := by
  simp only [wholeDigits] at listed
  split at listed
  · rw [List.mem_singleton.mp listed]
    rfl
  · rcases List.mem_append.mp listed with digit | zero
    · exact decimal.isDigit_digits (List.mem_of_mem_take digit)
    · rw [List.eq_of_mem_replicate zero]
      rfl

theorem isDigit_fractionDigits {char : Char} (listed : char ∈ decimal.fractionDigits) :
    char.isDigit := by
  unfold fractionDigits at listed
  split at listed
  · rcases List.mem_append.mp listed with zero | digit
    · rw [List.eq_of_mem_replicate zero]
      rfl
    · exact decimal.isDigit_digits (List.mem_of_mem_drop digit)
  · exact absurd listed List.not_mem_nil

theorem wholeDigits_ne_nil : decimal.wholeDigits ≠ [] := by
  have some : 0 < decimal.digits.length := Nat.length_toDigits_pos
  simp only [wholeDigits]
  split
  · simp
  · refine List.append_ne_nil_of_left_ne_nil (fun none => ?_) _
    rw [List.take_eq_nil_iff, ← List.length_eq_zero_iff] at none
    omega

variable {decimal} (fine : decimal.exponent < 0)

include fine

theorem length_fractionDigits : decimal.fractionDigits.length = (-decimal.exponent).toNat := by
  rw [fractionDigits, if_pos fine, List.length_append, List.length_replicate, List.length_drop]
  omega

theorem ofDigitChars_positional :
    Nat.ofDigitChars 10 (decimal.wholeDigits ++ decimal.fractionDigits) 0 = decimal.coefficient := by
  rw [wholeDigits, fractionDigits, if_pos fine]
  split
  · next small =>
      rw [Int.toNat_of_nonpos small, List.drop_zero, Nat.ofDigitChars_append,
        Nat.ofDigitChars_append, Nat.ofDigitChars_replicate_zero]
      exact Nat.ofDigitChars_ten_toDigits
  · next large =>
      have noZeros : (-(decimal.digits.length + decimal.exponent)).toNat = 0 := by omega
      rw [Int.toNat_of_nonpos fine.le, noZeros, List.replicate_zero, List.append_nil,
        List.nil_append, List.take_append_drop]
      exact Nat.ofDigitChars_ten_toDigits

theorem readUnsigned?_positional : readUnsigned? decimal.positional = some decimal.value := by
  have after : decimal.fractionDigits ≠ [] := by
    rw [← List.length_pos_iff, length_fractionDigits fine]
    omega
  rw [positional, readUnsigned?_point (fun _ => decimal.isDigit_wholeDigits)
    (fun _ => decimal.isDigit_fractionDigits) decimal.wholeDigits_ne_nil after,
    ofDigitChars_positional fine, length_fractionDigits fine, value,
    zpow_eq_div (by norm_num), Int.toNat_of_nonpos fine.le, pow_zero, mul_one_div]

end Decimal

namespace Number

variable {number : Number}

def unsignedText (number : Number) : List Char :=
  if number.magnitude.isWhole then Nat.toDigits 10 number.magnitude.whole
  else number.shortest.positional

theorem display_finite (finite : number.isFinite) :
    number.display = String.ofList
      (if number.isNegative then '-' :: number.unsignedText else number.unsignedText) := by
  simp [display, signed, not_isNaN_of_isFinite finite, finite, unsignedText]

theorem display_nan (nan : number.isNaN) : number.display = "NaN" := by
  simp [display, signed, nan]

theorem display_infinite (infinite : ¬ number.isFinite) (nan : ¬ number.isNaN) :
    number.display = if number.isNegative then "-inf" else "inf" := by
  simp only [display, signed, nan, infinite, Bool.false_eq_true, if_false]
  split <;> rfl

theorem mem_display (finite : number.isFinite) {char : Char} :
    char ∈ number.display.toList ↔
      (number.isNegative ∧ char = '-') ∨ char ∈ number.unsignedText := by
  rw [display_finite finite, String.toList_ofList]
  split <;> simp [*]

theorem mem_unsignedText {char : Char} (listed : char ∈ number.unsignedText) :
    char.isDigit ∨ char = '.' := by
  unfold unsignedText at listed
  split at listed
  · exact .inl (Nat.isDigit_of_mem_toDigits (by decide) (by decide) listed)
  · rcases List.mem_append.mp listed with digit | rest
    · exact .inl (Decimal.isDigit_wholeDigits _ digit)
    · rcases List.mem_cons.mp rest with point | digit
      · exact .inr point
      · exact .inl (Decimal.isDigit_fractionDigits _ digit)

theorem minus_notMem_unsignedText : '-' ∉ number.unsignedText := by
  intro listed
  rcases mem_unsignedText listed with digit | point
  · exact absurd digit (by decide)
  · exact absurd point (by decide)

theorem point_mem_unsignedText_iff : '.' ∈ number.unsignedText ↔ ¬ number.magnitude.isWhole := by
  unfold unsignedText
  split
  · next isWhole =>
      refine iff_of_false (fun listed => ?_) (not_not_intro isWhole)
      have digit := Nat.isDigit_of_mem_toDigits (by decide) (by decide) listed
      exact absurd digit (by decide)
  · next broken =>
      refine iff_of_true ?_ broken
      simp [Decimal.positional]

theorem readUnsigned?_unsignedText (broken : ¬ number.magnitude.isWhole) :
    readUnsigned? number.unsignedText = some number.shortest.value := by
  rw [unsignedText, if_neg broken]
  exact Decimal.readUnsigned?_positional (exponent_shortest_neg broken)

theorem readDecimal?_display (finite : number.isFinite) (broken : ¬ number.magnitude.isWhole) :
    readDecimal? number.display =
      some (if number.isNegative then -number.shortest.value else number.shortest.value) := by
  have reads := readUnsigned?_unsignedText broken
  rw [display_finite finite]
  split
  · rw [readDecimal?_minus, reads]
    rfl
  · rw [readDecimal?_plain minus_notMem_unsignedText, reads]

theorem roundsTo_display (finite : number.isFinite) (broken : ¬ number.magnitude.isWhole) :
    ∃ exact, readDecimal? number.display = some exact ∧ RoundsTo exact number := by
  obtain ⟨rank, place⟩ := exists_rank_of_not_whole broken
  have covers := covers_shortest broken
  have positive := pos_of_covers place covers
  refine ⟨_, readDecimal?_display finite broken, ?_⟩
  split
  · next negative =>
      refine roundsTo_of_covers finite place (iff_of_true negative (neg_neg_of_pos positive)) ?_
      rwa [abs_neg, abs_of_pos positive]
  · next unsigned =>
      refine roundsTo_of_covers finite place (iff_of_false unsigned (not_lt.mpr positive.le)) ?_
      rwa [abs_of_pos positive]

theorem display_whole (finite : number.isFinite) {whole : Nat} (exact : number.size = whole) :
    number.display = (if number.isNegative then "-" else "") ++ toString whole := by
  have isWhole := isWhole_iff.mpr ⟨whole, exact⟩
  have same : number.magnitude.whole = whole := by
    exact_mod_cast (size_eq_whole isWhole).symm.trans exact
  rw [display_finite finite, unsignedText, if_pos isWhole, same, Nat.toString_eq_ofList_toDigits]
  split
  · rw [← String.toList_inj]
    simp
  · simp

theorem isFinite_iff_plain :
    number.isFinite ↔ ∀ char ∈ number.display.toList, char.isDigit ∨ char = '.' ∨ char = '-' := by
  by_cases finite : number.isFinite
  · refine iff_of_true finite fun char listed => ?_
    rcases (mem_display finite).mp listed with ⟨-, minus⟩ | unsigned
    · exact .inr (.inr minus)
    · exact (mem_unsignedText unsigned).imp_right .inl
  · refine iff_of_false finite ?_
    intro plain
    by_cases nan : number.isNaN
    · rw [display_nan nan] at plain
      exact absurd (plain 'N' (by simp)) (by decide)
    · have listed : 'f' ∈ number.display.toList := by
        rw [display_infinite finite nan]
        split <;> simp
      exact absurd (plain 'f' listed) (by decide)

theorem isNaN_iff_display (infinite : ¬ number.isFinite) :
    number.isNaN ↔ number.display = "NaN" := by
  refine ⟨display_nan, fun text => ?_⟩
  by_contra nan
  rw [display_infinite infinite nan] at text
  split at text <;> simp at text

theorem unsignedText_eq_of_display {left right : Number} (leftFinite : left.isFinite)
    (rightFinite : right.isFinite) (same : left.display = right.display) :
    left.isNegative = right.isNegative ∧ left.unsignedText = right.unsignedText := by
  rw [display_finite leftFinite, display_finite rightFinite, String.ofList_inj] at same
  have noMinus := @minus_notMem_unsignedText left
  have otherNoMinus := @minus_notMem_unsignedText right
  grind

theorem eq_of_display_finite {left right : Number} (leftFinite : left.isFinite)
    (rightFinite : right.isFinite) (same : left.display = right.display) : left = right := by
  obtain ⟨sign, unsigned⟩ := unsignedText_eq_of_display leftFinite rightFinite same
  have alike : left.magnitude.isWhole ↔ right.magnitude.isWhole := by
    rw [← not_iff_not, ← point_mem_unsignedText_iff, unsigned, point_mem_unsignedText_iff]
  by_cases isWhole : left.magnitude.isWhole
  · -- Two whole numbers have the same digits, and the digits give the absolute value.
    have otherWhole := alike.mp isWhole
    rw [unsignedText, unsignedText, if_pos isWhole, if_pos otherWhole] at unsigned
    have digits := congrArg (Nat.ofDigitChars 10 · 0) unsigned
    simp only [Nat.ofDigitChars_ten_toDigits] at digits
    refine eq_of_rank sign (rank_eq_of_size ?_)
    rw [size_eq_whole isWhole, size_eq_whole otherWhole, digits]
  · -- Two others say the same decimal, which rounds to one number only.
    obtain ⟨exact, reads, rounds⟩ := roundsTo_display leftFinite isWhole
    obtain ⟨other, otherReads, otherRounds⟩ := roundsTo_display rightFinite (mt alike.mpr isWhole)
    have agree : exact = other := by
      rw [same, otherReads] at reads
      exact (Option.some.inj reads).symm
    exact rounds.unique (agree ▸ otherRounds)

theorem eq_of_display_infinite {left right : Number} (leftInfinite : ¬ left.isFinite)
    (rightInfinite : ¬ right.isFinite) (leftNumber : ¬ left.isNaN) (rightNumber : ¬ right.isNaN)
    (same : left.display = right.display) : left = right := by
  rw [display_infinite leftInfinite leftNumber, display_infinite rightInfinite rightNumber] at same
  refine eq_of_rank ?_ ?_
  · split at same <;> split at same <;> simp_all
  · rw [rank_infinite leftInfinite leftNumber, rank_infinite rightInfinite rightNumber]

theorem display_inj {left right : Number} :
    left.display = right.display ↔ left = right ∨ (left.isNaN ∧ right.isNaN) := by
  constructor
  · intro same
    have finites : left.isFinite ↔ right.isFinite := by
      rw [isFinite_iff_plain, isFinite_iff_plain, same]
    by_cases finite : left.isFinite
    · exact .inl (eq_of_display_finite finite (finites.mp finite) same)
    have infinite := mt finites.mpr finite
    have nans : left.isNaN ↔ right.isNaN := by
      rw [isNaN_iff_display finite, isNaN_iff_display infinite, same]
    by_cases nan : left.isNaN
    · exact .inr ⟨nan, nans.mp nan⟩
    · exact .inl (eq_of_display_infinite finite infinite nan (mt nans.mpr nan) same)
  · rintro (rfl | ⟨nan, otherNan⟩)
    · rfl
    · rw [display_nan nan, display_nan otherNan]

end Number

/--
The text of a number tells its bits, unless it is a NaN. Whole numbers show their digits,
and the others a decimal that rounds to them alone.
-/
theorem number_texts_faithful (heap : Heap) :
    (∀ left right : Number,
      heap.display (.number left) = heap.display (.number right) ↔
        left.bits = right.bits ∨ (left.isNaN ∧ right.isNaN)) ∧
    (∀ number : Number, number.isFinite → Int.fract number.value = 0 →
      ∃ whole : Nat, |number.value| = whole ∧
        heap.display (.number number) =
          (if number.isNegative then "-" else "") ++ toString whole) ∧
    (∀ number : Number, number.isFinite → Int.fract number.value ≠ 0 →
      let text := heap.display (.number number)
      '.' ∈ text.toList ∧
      (∀ char ∈ text.toList, char.isDigit ∨ char = '.' ∨ char = '-') ∧
      ∃ exact, readDecimal? text = some exact ∧ Number.RoundsTo exact number ∧
        ∀ other, Number.RoundsTo exact other → other = number) := by
  refine ⟨fun left right => ?_, fun number finite isWhole => ?_, fun number finite broken => ?_⟩
  · rw [Number.bits_inj]
    exact Number.display_inj
  · rw [← Number.isWhole_iff_fract, Number.isWhole_iff] at isWhole
    obtain ⟨whole, exact⟩ := isWhole
    exact ⟨whole, number.abs_value.trans exact, Number.display_whole finite exact⟩
  · rw [Ne, ← Number.isWhole_iff_fract] at broken
    obtain ⟨exact, reads, rounds⟩ := Number.roundsTo_display finite broken
    refine ⟨?_, Number.isFinite_iff_plain.mp finite, exact, reads, rounds, ?_⟩
    · exact (Number.mem_display finite).mpr (.inr (Number.point_mem_unsignedText_iff.mpr broken))
    · exact fun other also => also.unique rounds

theorem number_texts_faithful_tenth :
    let heap : Heap := {}
    let tenth : Number := ⟨0x3fb999999999999a⟩
    let negativeZero : Number := ⟨0x8000000000000000⟩
    heap.display (.number tenth) = "0.1" ∧ Number.RoundsTo (1 / 10) tenth ∧
      heap.display (.number negativeZero) = "-0" ∧
      heap.display (.number negativeZero) ≠ heap.display (.number ⟨0⟩) ∧
      heap.display (.number ⟨0x7ff8000000000000⟩) =
        heap.display (.number ⟨0xfff0000000000001⟩) := by
  intro heap tenth negativeZero
  obtain ⟨same, whole, broken⟩ := number_texts_faithful heap
  have text : heap.display (.number tenth) = "0.1" := by decide +kernel
  have reading : readDecimal? "0.1" = some (1 / 10) := by decide +kernel
  have fraction : Int.fract tenth.value ≠ 0 := by
    rw [Ne, ← Number.isWhole_iff_fract]
    decide +kernel
  obtain ⟨-, -, exact, reads, rounds, -⟩ := broken tenth (by decide) fraction
  rw [text, reading, Option.some_inj] at reads
  have noFraction : Int.fract negativeZero.value = 0 := by
    rw [← Number.isWhole_iff_fract]
    decide +kernel
  obtain ⟨digits, size, zeroText⟩ := whole negativeZero (by decide) noFraction
  have isZero : digits = 0 := by
    have none : negativeZero.magnitude.significand = 0 := by decide
    rw [Number.abs_value, Number.size, none, Nat.cast_zero, zero_mul] at size
    exact_mod_cast size.symm
  rw [isZero, if_pos (by decide)] at zeroText
  refine ⟨text, reads ▸ rounds, zeroText, ?_, ?_⟩
  · exact mt (same _ _).mp (by decide)
  · exact (same _ _).mpr (by decide)

end Lox
