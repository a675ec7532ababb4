import Mathlib.Algebra.Order.Round
import Mathlib.Tactic

/-!
# Decimal rounding

Rounding to the nearest multiple of a power of ten; a value halfway between two multiples goes to
the even one.
-/

namespace Numeric

/-! ## Decimals -/

section

variable {K : Type} [Field K]

/-- A value with the given number of decimals. -/
def IsDecimal (digits : ℕ) (x : K) : Prop := ∃ z : ℤ, x = z / 10 ^ digits

theorem IsDecimal.add {digits : ℕ} {x y : K} (first : IsDecimal digits x)
    (second : IsDecimal digits y) : IsDecimal digits (x + y) := by
  obtain ⟨a, rfl⟩ := first
  obtain ⟨b, rfl⟩ := second
  exact ⟨a + b, by rw [Int.cast_add, add_div]⟩

theorem IsDecimal.mul_intCast {digits : ℕ} {x : K} (decimal : IsDecimal digits x) (z : ℤ) :
    IsDecimal digits (x * z) := by
  obtain ⟨a, rfl⟩ := decimal
  exact ⟨a * z, by rw [Int.cast_mul, div_mul_eq_mul_div]⟩

end

/-! ## Rounding -/

section

variable {K : Type} [Field K] [LinearOrder K] [FloorRing K]

/-- The nearest whole number, and the even one of two that are equally near. -/
def roundEven (x : K) : ℤ :=
  if Int.fract x < 1 / 2 then ⌊x⌋
  else if 1 / 2 < Int.fract x then ⌊x⌋ + 1
  else if Even ⌊x⌋ then ⌊x⌋ else ⌊x⌋ + 1

/-- `round` to the given number of decimals. -/
def roundTo (digits : ℕ) (x : K) : K := roundEven (x * 10 ^ digits) / 10 ^ digits

theorem isDecimal_roundTo (digits : ℕ) (x : K) : IsDecimal digits (roundTo digits x) :=
  ⟨roundEven (x * 10 ^ digits), rfl⟩

variable [IsStrictOrderedRing K]

@[simp]
theorem roundEven_intCast (z : ℤ) : roundEven (z : K) = z := by
  rw [roundEven, Int.fract_intCast, if_pos one_half_pos, Int.floor_intCast]

/-- Rounding moves a value by one half at most. -/
theorem abs_roundEven_sub_le (x : K) : |(roundEven x : K) - x| ≤ 1 / 2 := by
  have split := Int.floor_add_fract x
  have lower := Int.fract_nonneg x
  have upper := Int.fract_lt_one x
  have down : Int.fract x ≤ 1 / 2 → |((⌊x⌋ : ℤ) : K) - x| ≤ 1 / 2 := by
    intro small
    rw [abs_le]
    constructor <;> linarith
  have up : 1 / 2 ≤ Int.fract x → |((⌊x⌋ + 1 : ℤ) : K) - x| ≤ 1 / 2 := by
    intro large
    rw [abs_le]
    push_cast
    constructor <;> linarith
  unfold roundEven
  split_ifs with small large even
  · exact down small.le
  · exact up large.le
  · exact down (not_lt.mp large)
  · exact up (not_lt.mp small)

/-- Rounding to more decimals than a value has does not change it. -/
theorem IsDecimal.roundTo_eq {few many : ℕ} {x : K} (decimal : IsDecimal few x)
    (fewer : few ≤ many) : roundTo many x = x := by
  obtain ⟨z, rfl⟩ := decimal
  obtain ⟨more, rfl⟩ := Nat.exists_eq_add_of_le fewer
  have ten : (10 : K) ^ few ≠ 0 := by positivity
  have scaled : (z : K) / 10 ^ few * 10 ^ (few + more) = ((z * 10 ^ more : ℤ) : K) := by
    push_cast
    rw [pow_add, ← mul_assoc, div_mul_cancel₀ _ ten]
  rw [roundTo, scaled, roundEven_intCast, ← scaled]
  exact mul_div_cancel_right₀ _ (by positivity)

/-- Rounding moves a value by half a unit of the last place at most. -/
theorem abs_roundTo_sub_le (digits : ℕ) (x : K) : |roundTo digits x - x| ≤ 1 / 2 / 10 ^ digits := by
  have positive : (0 : K) < 10 ^ digits := by positivity
  have scaled : roundTo digits x - x =
      (roundEven (x * 10 ^ digits) - x * 10 ^ digits) / 10 ^ digits := by
    rw [roundTo, sub_div, mul_div_cancel_right₀ _ positive.ne']
  rw [scaled, abs_div, abs_of_pos positive]
  exact div_le_div_of_nonneg_right (abs_roundEven_sub_le _) positive.le

end

end Numeric
