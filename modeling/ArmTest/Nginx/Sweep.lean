import Mathlib.Data.Nat.Log
import Mathlib.Tactic.Ring

/-!
# The doubling loop

Both scripts walk through numbers of cores with `core=1; core<=count; core*=2` and run one more
point when the value left behind differs from twice the count.
-/

namespace Nginx

/-- Values seen by the body of the loop, and the value it leaves behind; the first number bounds
the iterations. -/
def coreLoop (count : Nat) : Nat → Nat → List Nat × Nat
  | 0, core => ([], core)
  | fuel + 1, core =>
      if core ≤ count then
        let rest := coreLoop count fuel (core * 2)
        (core :: rest.1, rest.2)
      else
        ([], core)

/-- The loop started at one core. -/
def coreSweep (count : Nat) : List Nat × Nat := coreLoop count (count + 1) 1

theorem enough_after_doubling {count fuel core : Nat} (enough : count < core * 2 ^ (fuel + 1)) :
    count < core * 2 * 2 ^ fuel := by
  rw [pow_succ] at enough
  calc
    count < core * (2 ^ fuel * 2) := enough
    _ = core * 2 * 2 ^ fuel := by ring

/-- Enough iterations run the loop to its end: it doubles its start until it exceeds the count. -/
theorem coreLoop_spec {count fuel core : Nat} (enough : count < core * 2 ^ fuel) :
    ∃ steps,
      coreLoop count fuel core =
        ((List.range steps).map fun i => core * 2 ^ i, core * 2 ^ steps) ∧
      (∀ i < steps, core * 2 ^ i ≤ count) ∧ count < core * 2 ^ steps := by
  induction fuel generalizing core with
  | zero => exact ⟨0, by simp [coreLoop], by simp, by simpa using enough⟩
  | succ fuel induction =>
      by_cases inside : core ≤ count
      · obtain ⟨steps, values, below, above⟩ := induction (enough_after_doubling enough)
        have shifted : ∀ i, core * 2 * 2 ^ i = core * 2 ^ (i + 1) := by
          intro i
          ring
        refine ⟨steps + 1, ?_, ?_, by rw [← shifted]; exact above⟩
        · rw [coreLoop, if_pos inside, values]
          simp [List.range_succ_eq_map, shifted, Function.comp_def]
        · intro i bound
          cases i with
          | zero => simpa using inside
          | succ i =>
              rw [← shifted]
              exact below i (by omega)
      · exact ⟨0, by simp [coreLoop, inside], by simp, by simpa using inside⟩

/-- The sweep visits the powers of two up to the count and leaves the next one behind. -/
theorem coreSweep_spec (count : Nat) :
    ∃ steps,
      coreSweep count = ((List.range steps).map fun i => 2 ^ i, 2 ^ steps) ∧
      (∀ i < steps, 2 ^ i ≤ count) ∧ count < 2 ^ steps := by
  have enough : count < 1 * 2 ^ (count + 1) := by
    rw [one_mul]
    exact (Nat.lt_succ_self count).trans (Nat.lt_two_pow_self)
  simpa [coreSweep] using coreLoop_spec enough

example : coreSweep 6 = ([1, 2, 4], 8) := by decide

/-- The numbers of cores of all test points of a sweep. -/
def sweepCores (count : Nat) : List Nat :=
  (coreSweep count).1 ++ if count * 2 ≠ (coreSweep count).2 then [(coreSweep count).2] else []

/-- On a power of two the sweep ends at the count itself. -/
theorem sweepCores_two_pow (exponent : Nat) :
    sweepCores (2 ^ exponent) = (List.range (exponent + 1)).map fun i => 2 ^ i := by
  obtain ⟨steps, sweep, below, above⟩ := coreSweep_spec (2 ^ exponent)
  have reached : exponent < steps := (Nat.pow_lt_pow_iff_right Nat.one_lt_two).mp above
  have stopped : steps ≤ exponent + 1 := by
    by_contra later
    have smaller := (Nat.pow_le_pow_iff_right Nat.one_lt_two).mp (below (exponent + 1) (by omega))
    omega
  have last : steps = exponent + 1 := by omega
  simp [sweepCores, sweep, last, pow_succ]

/-- On any other count the last point lies beyond it. -/
theorem exists_sweepCores_gt {count : Nat} (notPower : ∀ exponent, count ≠ 2 ^ exponent) :
    ∃ core ∈ sweepCores count, count < core := by
  obtain ⟨steps, sweep, -, above⟩ := coreSweep_spec count
  have another : count * 2 ≠ 2 ^ steps := by
    cases steps with
    | zero => omega
    | succ steps =>
        have differs := notPower steps
        rw [pow_succ]
        omega
  refine ⟨2 ^ steps, ?_, above⟩
  simp [sweepCores, sweep, another]

end Nginx
