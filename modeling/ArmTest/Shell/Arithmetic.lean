import Mathlib.Data.Int.Basic
import Mathlib.Algebra.Order.Ring.Nat
import Mathlib.Algebra.Order.Ring.Int

/-!
# Shell arithmetic

The numbers of the shell are signed and have 64 bits.  Results that do not fit wrap around.
-/

namespace Shell

/-- A result as the shell stores it. -/
def wrap (n : Int) : Int := n.bmod (2 ^ 64)

/-- `base**exponent`; a negative exponent is an error. -/
def power (base exponent : Int) : Option Int :=
  if exponent < 0 then none else some (wrap (base ^ exponent.toNat))

/-- Results that fit are kept. -/
theorem wrap_of_fits {n : Int} (low : -2 ^ 63 ≤ n) (high : n < 2 ^ 63) : wrap n = n := by
  apply Int.bmod_eq_of_le
  · exact low
  · exact high

theorem two_pow_fits {exponent : Nat} (small : exponent < 63) :
    (0 : Int) < 2 ^ exponent ∧ (2 : Int) ^ exponent < 2 ^ 63 :=
  ⟨Int.pow_pos (by omega), Int.pow_lt_pow_of_lt (by omega) small⟩

theorem power_two {exponent : Nat} (small : exponent < 63) :
    power 2 exponent = some (2 ^ exponent) := by
  obtain ⟨positive, bounded⟩ := two_pow_fits small
  rw [power, if_neg (by omega), Int.toNat_natCast, wrap_of_fits (by omega) bounded]

/-- The first power of two that does not fit is the least number. -/
theorem power_two_overflow : power 2 63 = some (-2 ^ 63) := rfl

end Shell
