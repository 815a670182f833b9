import Lox.Heap.Text
import Lox.Proofs.NumberLine

set_option autoImplicit false

/-!
# Equality as programs see it

Take from a value what does not count for its equality: the arity of a native function
and the sign of a zero. Of a NaN nothing remains. Two values are equal iff the same
remains of both, so equality is symmetric and transitive, and only a NaN does not equal
itself.
-/

namespace Lox

namespace Number

def essence? (number : Number) : Option Number :=
  if number.isNaN then none
  else if number.isZero then some ⟨0⟩
  else some number

theorem isZero_iff {number : Number} : number.isZero ↔ number.rank = 0 := by
  rw [isZero, exponentField_eq, fraction_eq]
  simp only [Bool.and_eq_true, decide_eq_true_eq]
  omega

theorem equals_iff_essence {left right : Number} :
    left.equals right ↔ left.essence?.isSome ∧ left.essence? = right.essence? := by
  have zero : isZero ⟨0⟩ := by decide
  cases leftNaN : left.isNaN <;> cases rightNaN : right.isNaN <;>
    cases leftZero : left.isZero <;> cases rightZero : right.isZero <;>
    simp [equals, essence?, bits_inj, *]
  all_goals grind

theorem equals_iff {left right : Number} :
    left.equals right ↔
      ¬ left.isNaN ∧ ¬ right.isNaN ∧
        (left.bits = right.bits ∨ (left.isZero ∧ right.isZero)) := by
  simp [equals, and_assoc]

theorem isZero_iff_bits {number : Number} :
    number.isZero ↔ number.bits = 0 ∨ number.bits = 0x8000000000000000 := by
  have bound := number.bits.toNat_lt
  rw [isZero_iff, rank, ← UInt64.toNat_inj, ← UInt64.toNat_inj]
  simp only [UInt64.reduceToNat]
  omega

theorem equals_iff_value {left right : Number} (leftFinite : left.isFinite)
    (rightFinite : right.isFinite) : left.equals right ↔ left.value = right.value := by
  rw [equals_iff, isZero_iff, isZero_iff]
  constructor
  · rintro ⟨-, -, same | ⟨leftZero, rightZero⟩⟩
    · rw [bits_inj.mp same]
    · simp [value, size_eq, leftZero, rightZero, Grid.point_zero]
  · intro same
    refine ⟨not_isNaN_of_isFinite leftFinite, not_isNaN_of_isFinite rightFinite, ?_⟩
    have ranks : left.rank = right.rank := by
      refine rank_eq_of_size ?_
      rw [← abs_value, ← abs_value, same]
    by_cases zero : left.rank = 0
    · exact .inr ⟨zero, ranks ▸ zero⟩
    · -- Numbers other than zero have their signs from their values.
      have positive : 0 < Grid.point left.rank := by
        rw [← Grid.point_zero]
        exact Grid.point_strictMono (Nat.pos_of_ne_zero zero)
      have signs : left.isNegative = right.isNegative := by
        unfold value at same
        rw [size_eq, size_eq, ← ranks] at same
        grind
      exact .inl (bits_inj.mpr (eq_of_rank signs ranks))

end Number

namespace Value

inductive Kind where
  | native
  | closure
  | cls
  | inst
  | number
  | text
  | bool
  | nil
  deriving DecidableEq, Repr

def kind : Value -> Kind
  | .native _ => .native
  | .closure _ => .closure
  | .cls _ => .cls
  | .inst _ => .inst
  | .number _ => .number
  | .text _ => .text
  | .bool _ => .bool
  | .nil => .nil

def essence? : Value -> Option Value
  | .native function => some (.native { function with arity := 0 })
  | .number value => value.essence?.map .number
  | value => some value

theorem equals_iff_essence {left right : Value} :
    left.equals right ↔ left.essence?.isSome ∧ left.essence? = right.essence? := by
  have numbers (left right : Option Number) : left.map number = right.map number ↔ left = right :=
    Option.map_inj_right fun _ _ => number.inj
  cases left <;> cases right <;> simp [equals, essence?, Number.equals_iff_essence, numbers]

theorem isSome_essence?_iff {value : Value} :
    value.essence?.isSome ↔ ¬ ∃ number : Number, value = .number number ∧ number.isNaN := by
  cases value with
  | number number =>
      by_cases nan : number.isNaN
      · simp [essence?, Number.essence?, nan]
      · by_cases zero : number.isZero <;> simp [essence?, Number.essence?, nan, zero]
  | _ => simp [essence?]

theorem kind_essence? {value essence : Value} (counts : value.essence? = some essence) :
    essence.kind = value.kind := by
  cases value with
  | number number =>
      obtain ⟨_, -, rfl⟩ := Option.map_eq_some_iff.mp counts
      rfl
  | _ =>
      obtain rfl := Option.some.inj counts
      rfl

theorem display_essence? (heap : Heap) {value essence : Value}
    (counts : value.essence? = some essence) (noNumber : value.kind ≠ .number) :
    heap.display value = heap.display essence := by
  cases value with
  | number number => exact absurd rfl noNumber
  | _ =>
      obtain rfl := Option.some.inj counts
      rfl

section Relation

variable {left middle right : Value}

theorem equals_symm (equal : left.equals right) : right.equals left := by
  rw [equals_iff_essence] at equal ⊢
  exact ⟨equal.2 ▸ equal.1, equal.2.symm⟩

theorem equals_trans (first : left.equals middle) (last : middle.equals right) :
    left.equals right := by
  rw [equals_iff_essence] at first last ⊢
  exact ⟨first.1, first.2.trans last.2⟩

theorem equals_self {value : Value} :
    value.equals value ↔ ¬ ∃ number : Number, value = .number number ∧ number.isNaN := by
  rw [equals_iff_essence, isSome_essence?_iff]
  exact and_iff_left rfl

theorem essence?_of_equals (equal : left.equals right) :
    ∃ essence, left.essence? = some essence ∧ right.essence? = some essence := by
  obtain ⟨counts, same⟩ := equals_iff_essence.mp equal
  obtain ⟨essence, counts⟩ := Option.isSome_iff_exists.mp counts
  exact ⟨essence, counts, same ▸ counts⟩

theorem kind_of_equals (equal : left.equals right) : left.kind = right.kind := by
  obtain ⟨essence, leftCounts, rightCounts⟩ := essence?_of_equals equal
  rw [← kind_essence? leftCounts, kind_essence? rightCounts]

theorem display_of_equals (heap : Heap) (equal : left.equals right)
    (noNumber : left.kind ≠ .number) : heap.display left = heap.display right := by
  obtain ⟨essence, leftCounts, rightCounts⟩ := essence?_of_equals equal
  rw [display_essence? heap leftCounts noNumber,
    display_essence? heap rightCounts (kind_of_equals equal ▸ noNumber)]

end Relation

end Value

/-- Equality is a partial equivalence that fails to be reflexive at NaNs only. -/
theorem equality_partial_equivalence :
    (∀ left right : Value, left.equals right → right.equals left) ∧
    (∀ left middle right : Value,
      left.equals middle → middle.equals right → left.equals right) ∧
    (∀ value : Value, value.equals value ↔
      ¬ ∃ number : Number, value = .number number ∧ number.isNaN) ∧
    (∀ left right : Value, left.kind ≠ right.kind → ¬ left.equals right) ∧
    (∀ left right, (Value.closure left).equals (.closure right) ↔ left = right) ∧
    (∀ left right, (Value.cls left).equals (.cls right) ↔ left = right) ∧
    (∀ left right, (Value.inst left).equals (.inst right) ↔ left = right) ∧
    (∀ left right, (Value.text left).equals (.text right) ↔ left = right) ∧
    (∀ left right, (Value.bool left).equals (.bool right) ↔ left = right) ∧
    (∀ left right, (Value.native left).equals (.native right) ↔
      left.name = right.name ∧ left.builtin = right.builtin) ∧
    (∀ left right, (Value.number left).equals (.number right) ↔
      ¬ left.isNaN ∧ ¬ right.isNaN ∧
        (left.bits = right.bits ∨ (left.isZero ∧ right.isZero))) ∧
    (∀ number : Number, number.isZero ↔ number.bits = 0 ∨ number.bits = 0x8000000000000000) ∧
    (∀ left right : Number, left.isFinite → right.isFinite →
      ((Value.number left).equals (.number right) ↔ left.value = right.value)) ∧
    (∀ (heap : Heap) (left right : Value), left.equals right →
      left.kind ≠ .number → right.kind ≠ .number → heap.display left = heap.display right) := by
  refine ⟨fun _ _ => Value.equals_symm, fun _ _ _ => Value.equals_trans,
    fun _ => Value.equals_self, fun _ _ => mt Value.kind_of_equals, ?_, ?_, ?_, ?_, ?_, ?_,
    fun _ _ => Number.equals_iff, fun _ => Number.isZero_iff_bits,
    fun _ _ => Number.equals_iff_value,
    fun heap _ _ equal noNumber _ => Value.display_of_equals heap equal noNumber⟩
  all_goals simp [Value.equals]

theorem equality_partial_equivalence_natives :
    let counter (arity : Nat) : Value := .native ⟨"count", arity, .count⟩
    let negativeZero : Number := ⟨0x8000000000000000⟩
    let nan : Number := ⟨0x7ff8000000000000⟩
    (counter 1).equals (counter 2) ∧
      (∀ heap : Heap, heap.display (counter 1) = heap.display (counter 2)) ∧
      (Value.number negativeZero).equals (.number ⟨0⟩) ∧ negativeZero.value = 0 ∧
      ¬ (Value.number nan).equals (.number nan) ∧
      ¬ (Value.inst ⟨0⟩).equals (.cls ⟨0⟩) := by
  intro counter negativeZero nan
  obtain ⟨-, -, self, kinds, -, -, -, -, -, natives, -, -, values, texts⟩ :=
    equality_partial_equivalence
  have counters : (counter 1).equals (counter 2) := (natives _ _).mpr ⟨rfl, rfl⟩
  have zeros : (Value.number negativeZero).equals (.number ⟨0⟩) := by decide
  have exact : Number.value ⟨0⟩ = 0 := by
    have none : (Number.mk 0).magnitude.significand = 0 := by decide
    simp [Number.value, Number.size, none]
  refine ⟨counters, fun heap => texts heap _ _ counters (by decide) (by decide), zeros, ?_, ?_, ?_⟩
  · rw [← exact]
    exact (values _ _ (by decide) (by decide)).mp zeros
  · exact mt (self _).mp (not_not_intro ⟨nan, rfl, by decide⟩)
  · exact kinds _ _ (by decide)

end Lox
