import Mathlib.Algebra.Order.BigOperators.Group.List
import Mathlib.Algebra.BigOperators.Ring.List
import Mathlib.Tactic

/-!
# Samples

Mean and spread of a list of values, and the line of least squares through a list of points.  As
soon as two points differ in their position there is exactly one such line, and the normal
equations give it.
-/

namespace Numeric

/-! ## Lines and errors -/

/-- A line. -/
structure Line (K : Type) where
  /-- Its slope. -/
  slope : K
  /-- Its value at zero. -/
  intercept : K
  deriving DecidableEq

section

variable {K : Type} [Field K]

/-- The value of a line at a position. -/
def Line.value (line : Line K) (x : K) : K := line.slope * x + line.intercept

/-- The sum of the squared distances between points and a line. -/
def squaredError (points : List (K × K)) (line : Line K) : K :=
  (points.map fun point => (point.2 - line.value point.1) ^ 2).sum

/-- The sum of the squares of a line at the positions. -/
def squaredValue (points : List (K × K)) (line : Line K) : K :=
  (points.map fun point => line.value point.1 ^ 2).sum

/-- The mean of some values. -/
def mean (values : List K) : K := values.sum / values.length

/-- Halfway between two lines the error is below the mean of their errors. -/
theorem squaredError_midpoint (points : List (K × K)) (first second : Line K)
    (two : (2 : K) ≠ 0) :
    squaredError points ⟨(first.slope + second.slope) / 2, (first.intercept + second.intercept) / 2⟩
      = (squaredError points first + squaredError points second) / 2 -
        squaredValue points ⟨first.slope - second.slope, first.intercept - second.intercept⟩ / 4 := by
  have four : (4 : K) = 2 * 2 := by norm_num
  induction points with
  | nil => simp [squaredError, squaredValue]
  | cons point points induction =>
      simp only [squaredError, squaredValue, List.map_cons, List.sum_cons, Line.value]
        at induction ⊢
      rw [induction, four]
      field_simp
      ring

/-! ## Moments -/

/-- The sum of a quantity of the points. -/
def moment (points : List (K × K)) (quantity : K × K → K) : K := (points.map quantity).sum

/-- The determinant of the normal equations. -/
def determinant (points : List (K × K)) : K :=
  points.length * moment points (fun point => point.1 ^ 2) - moment points Prod.fst ^ 2

/-- The solution of the normal equations. -/
def fit (points : List (K × K)) : Line K where
  slope := (points.length * moment points (fun point => point.1 * point.2) -
    moment points Prod.fst * moment points Prod.snd) / determinant points
  intercept := (moment points (fun point => point.1 ^ 2) * moment points Prod.snd -
    moment points Prod.fst * moment points (fun point => point.1 * point.2)) / determinant points

theorem squaredValue_eq (points : List (K × K)) (line : Line K) :
    squaredValue points line =
      line.slope ^ 2 * moment points (fun point => point.1 ^ 2) +
        2 * line.slope * line.intercept * moment points Prod.fst +
        line.intercept ^ 2 * points.length := by
  induction points with
  | nil => simp [squaredValue, moment]
  | cons point points induction =>
      simp only [squaredValue, moment, List.map_cons, List.sum_cons, List.length_cons,
        Nat.cast_succ, Line.value] at induction ⊢
      rw [induction]
      ring

theorem squaredError_eq (points : List (K × K)) (line : Line K) :
    squaredError points line =
      moment points (fun point => point.2 ^ 2) -
        2 * line.slope * moment points (fun point => point.1 * point.2) -
        2 * line.intercept * moment points Prod.snd + squaredValue points line := by
  induction points with
  | nil => simp [squaredError, squaredValue, moment]
  | cons point points induction =>
      simp only [squaredError, squaredValue, moment, List.map_cons, List.sum_cons, Line.value]
        at induction ⊢
      rw [induction]
      ring

/-- The normal equation of the intercept. -/
theorem fit_balances {points : List (K × K)} (regular : determinant points ≠ 0) :
    (fit points).slope * moment points Prod.fst + (fit points).intercept * points.length =
      moment points Prod.snd := by
  rw [fit]
  field_simp
  rw [determinant]
  ring

/-- The normal equation of the slope. -/
theorem fit_correlates {points : List (K × K)} (regular : determinant points ≠ 0) :
    (fit points).slope * moment points (fun point => point.1 ^ 2) +
      (fit points).intercept * moment points Prod.fst =
      moment points (fun point => point.1 * point.2) := by
  rw [fit]
  field_simp
  rw [determinant]
  ring

/-- Any other line adds the squares of its distances to the error of the solution. -/
theorem squaredError_eq_fit_add {points : List (K × K)} (regular : determinant points ≠ 0)
    (line : Line K) :
    squaredError points line = squaredError points (fit points) +
      squaredValue points
        ⟨line.slope - (fit points).slope, line.intercept - (fit points).intercept⟩ := by
  have balances := fit_balances regular
  have correlates := fit_correlates regular
  rw [squaredError_eq, squaredError_eq, ← balances, ← correlates]
  simp only [squaredValue_eq]
  ring

end

/-! ## Least squares -/

section

variable {K : Type} [Field K] [LinearOrder K]

/-- No line has a smaller error. -/
def IsLeastSquares (points : List (K × K)) (line : Line K) : Prop :=
  ∀ other, squaredError points line ≤ squaredError points other

variable [IsStrictOrderedRing K]

theorem squaredValue_nonneg (points : List (K × K)) (line : Line K) :
    0 ≤ squaredValue points line := by
  apply List.sum_nonneg
  intro value member
  obtain ⟨point, -, rfl⟩ := List.mem_map.mp member
  exact sq_nonneg _

/-- A line whose squares sum up to nothing is zero at all positions. -/
theorem value_eq_zero {points : List (K × K)} {line : Line K}
    (none : squaredValue points line ≤ 0) {point : K × K} (member : point ∈ points) :
    line.value point.1 = 0 := by
  have below : line.value point.1 ^ 2 ≤ squaredValue points line := by
    apply List.single_le_sum
    · intro value inside
      obtain ⟨other, -, rfl⟩ := List.mem_map.mp inside
      exact sq_nonneg _
    · exact List.mem_map_of_mem member
  exact pow_eq_zero_iff two_ne_zero |>.mp (le_antisymm (below.trans none) (sq_nonneg _))

/-- A line that is zero at two positions is zero. -/
theorem slope_eq_zero {line : Line K} {x y : K} (differ : x ≠ y) (first : line.value x = 0)
    (second : line.value y = 0) : line.slope = 0 := by
  have product : line.slope * (x - y) = 0 := by
    rw [Line.value] at first second
    linear_combination first - second
  exact (mul_eq_zero.mp product).resolve_right (sub_ne_zero.mpr differ)

/-- There is one slope of least squares only. -/
theorem IsLeastSquares.slope_unique {points : List (K × K)} {first second : Line K}
    (best : IsLeastSquares points first) (alsoBest : IsLeastSquares points second)
    {p q : K × K} (left : p ∈ points) (right : q ∈ points) (differ : p.1 ≠ q.1) :
    first.slope = second.slope := by
  have middle := squaredError_midpoint points first second two_ne_zero
  have none : squaredValue points
      ⟨first.slope - second.slope, first.intercept - second.intercept⟩ ≤ 0 := by
    have same := le_antisymm (best second) (alsoBest first)
    have least := best
      ⟨(first.slope + second.slope) / 2, (first.intercept + second.intercept) / 2⟩
    rw [middle] at least
    linarith
  exact sub_eq_zero.mp (slope_eq_zero differ (value_eq_zero none left) (value_eq_zero none right))

theorem determinant_pos {points : List (K × K)} {p q : K × K} (left : p ∈ points)
    (right : q ∈ points) (differ : p.1 ≠ q.1) : 0 < determinant points := by
  have some : (0 : K) < points.length := by
    exact_mod_cast List.length_pos_of_mem left
  have product : squaredValue points ⟨points.length, -moment points Prod.fst⟩ =
      points.length * determinant points := by
    rw [squaredValue_eq, determinant]
    ring
  by_contra small
  have none : squaredValue points ⟨points.length, -moment points Prod.fst⟩ ≤ 0 := by
    rw [product]
    exact mul_nonpos_of_nonneg_of_nonpos some.le (not_lt.mp small)
  exact some.ne' (slope_eq_zero differ (value_eq_zero none left) (value_eq_zero none right))

/-- The solution of the normal equations is the line of least squares. -/
theorem isLeastSquares_fit {points : List (K × K)} {p q : K × K} (left : p ∈ points)
    (right : q ∈ points) (differ : p.1 ≠ q.1) : IsLeastSquares points (fit points) := by
  intro other
  rw [squaredError_eq_fit_add (determinant_pos left right differ).ne' other]
  exact le_add_of_nonneg_right (squaredValue_nonneg points _)

end

/-! ## Spread -/

section

variable {K : Type} [Field K] [LinearOrder K]

/-- The difference between the largest and the smallest value, if there are values. -/
def spread (values : List K) : Option K := do
  let high ← values.max?
  let low ← values.min?
  return high - low

theorem spread_eq_some {values : List K} {high low : K} (highest : high ∈ values)
    (lowest : low ∈ values) (between : ∀ value ∈ values, low ≤ value ∧ value ≤ high) :
    spread values = some (high - low) := by
  have max := List.max?_eq_some_iff.mpr ⟨highest, fun value member => (between value member).2⟩
  have min := List.min?_eq_some_iff.mpr ⟨lowest, fun value member => (between value member).1⟩
  rw [spread, max, min]
  rfl

variable [IsStrictOrderedRing K]

/-- The values of a line at successive positions are furthest apart at its ends. -/
theorem spread_line (line : Line K) (last : ℕ) :
    spread ((List.range (last + 1)).map fun i : ℕ => line.value ((i : K) + 1)) =
      some (|line.slope| * last) := by
  have member : ∀ i ≤ last, line.value ((i : K) + 1) ∈
      (List.range (last + 1)).map fun i : ℕ => line.value ((i : K) + 1) := by
    intro i bound
    exact List.mem_map.mpr ⟨i, List.mem_range.mpr (Nat.lt_succ_of_le bound), rfl⟩
  have start := member 0 (Nat.zero_le last)
  have stop := member last le_rfl
  rw [Nat.cast_zero, zero_add] at start
  have bounds : ∀ value ∈ (List.range (last + 1)).map fun i : ℕ => line.value ((i : K) + 1),
      ∃ x, 1 ≤ x ∧ x ≤ (last : K) + 1 ∧ value = line.value x := by
    intro value inside
    obtain ⟨i, bound, rfl⟩ := List.mem_map.mp inside
    have below : (i : K) ≤ last := Nat.cast_le.mpr (Nat.le_of_lt_succ (List.mem_range.mp bound))
    exact ⟨i + 1, le_add_of_nonneg_left i.cast_nonneg, add_le_add_left below 1, rfl⟩
  rcases le_total 0 line.slope with up | down
  · rw [spread_eq_some stop start, abs_of_nonneg up, Line.value, Line.value]
    · congr 1
      ring
    · intro value inside
      obtain ⟨x, above, below, rfl⟩ := bounds value inside
      exact ⟨add_le_add_left (mul_le_mul_of_nonneg_left above up) _,
        add_le_add_left (mul_le_mul_of_nonneg_left below up) _⟩
  · rw [spread_eq_some start stop, abs_of_nonpos down, Line.value, Line.value]
    · congr 1
      ring
    · intro value inside
      obtain ⟨x, above, below, rfl⟩ := bounds value inside
      exact ⟨add_le_add_left (mul_le_mul_of_nonpos_left below down) _,
        add_le_add_left (mul_le_mul_of_nonpos_left above down) _⟩

end

end Numeric
