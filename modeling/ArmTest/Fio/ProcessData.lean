import ArmTest.Numeric.Rounding
import ArmTest.Numeric.Sample

/-!
# The stability test

`process_data` fits a line through a window of results and compares the range of the results and
the range of the line with their average.  Slope, intercept, predictions and average are rounded on
the way.  The roundings move the two thresholds by half a unit of their last place at most.
-/

namespace Fio

open Numeric

/-! ## The program -/

/-- What `help.py` uses of its library, in exact arithmetic. -/
structure Numpy where
  /-- `np.polyfit` of degree one; no line if it raises an error. -/
  polyfit : List ℚ → List ℚ → Option (Line ℚ)
  /-- Points at two positions have a line of least squares. -/
  fits : ∀ xs ys, xs.length = ys.length → ∀ x ∈ xs, ∀ y ∈ xs, x ≠ y →
    ∃ line, polyfit xs ys = some line ∧ IsLeastSquares (xs.zip ys) line

/-- The variable `data_index`. -/
def dataIndex (data : List ℚ) : List ℚ := (List.range data.length).map fun i : ℕ => (i : ℚ) + 1

/-- The variable `predicted_values`. -/
def predictedValues (slope intercept : ℚ) (data : List ℚ) : List ℚ :=
  (List.range data.length).map fun i : ℕ => roundTo 3 (slope * ((i : ℚ) + 1) + intercept)

/-- The variable `predicted_range`. -/
def Numpy.predictedRange (np : Numpy) (data : List ℚ) : Option ℚ := do
  let line ← np.polyfit (dataIndex data) data
  let slope := roundTo 2 line.slope
  let intercept := roundTo 2 line.intercept
  spread (predictedValues slope intercept data)

/-- `process_data`: the word and the average that are printed, if no error is raised. -/
def Numpy.processData (np : Numpy) (values : List ℚ) (startIndex dataSize : ℕ) :
    Option (Bool × ℚ) := do
  let data := (values.drop startIndex).take dataSize
  let predictedRange ← np.predictedRange data
  let originalRange ← spread data
  let originalAverage := roundTo 2 (mean data)
  return (decide (originalRange < originalAverage * 0.2) &&
    decide (predictedRange < originalAverage * 0.1), originalAverage)

/-! ## The predicted range -/

theorem length_dataIndex (data : List ℚ) : (dataIndex data).length = data.length := by
  rw [dataIndex, List.length_map, List.length_range]

theorem mem_dataIndex {data : List ℚ} {i : ℕ} (bound : i < data.length) :
    (i : ℚ) + 1 ∈ dataIndex data :=
  List.mem_map.mpr ⟨i, List.mem_range.mpr bound, rfl⟩

/-- A position has a point. -/
theorem exists_point {data : List ℚ} {x : ℚ} (member : x ∈ dataIndex data) :
    ∃ point ∈ (dataIndex data).zip data, point.1 = x := by
  rw [← List.map_fst_zip (length_dataIndex data).le] at member
  exact List.mem_map.mp member

/-- The fit returns a line with the one slope of least squares. -/
theorem exists_polyfit (np : Numpy) {data : List ℚ} (two : 2 ≤ data.length) {line : Line ℚ}
    (best : IsLeastSquares ((dataIndex data).zip data) line) :
    ∃ found, np.polyfit (dataIndex data) data = some found ∧ found.slope = line.slope := by
  have first : ((0 : ℕ) : ℚ) + 1 ∈ dataIndex data := mem_dataIndex (by omega)
  have second : ((1 : ℕ) : ℚ) + 1 ∈ dataIndex data := mem_dataIndex (by omega)
  have differ : ((0 : ℕ) : ℚ) + 1 ≠ ((1 : ℕ) : ℚ) + 1 := by norm_num
  obtain ⟨found, fitted, alsoBest⟩ :=
    np.fits _ data (length_dataIndex data) _ first _ second differ
  obtain ⟨p, left, position⟩ := exists_point first
  obtain ⟨q, right, next⟩ := exists_point second
  refine ⟨found, fitted, alsoBest.slope_unique best left right ?_⟩
  rwa [position, next]

/-- Rounding to three decimals does not change a prediction. -/
theorem predictedValues_eq {slope intercept : ℚ} (steps : IsDecimal 2 slope)
    (start : IsDecimal 2 intercept) (data : List ℚ) :
    predictedValues slope intercept data =
      (List.range data.length).map fun i : ℕ => Line.value ⟨slope, intercept⟩ ((i : ℚ) + 1) := by
  apply List.map_congr_left
  intro i _
  have whole : (i : ℚ) + 1 = ((i + 1 : ℤ) : ℚ) := by push_cast; rfl
  have decimal : IsDecimal 2 (slope * ((i : ℚ) + 1) + intercept) := by
    rw [whole]
    exact (steps.mul_intCast _).add start
  exact decimal.roundTo_eq (by decide)

/-- The predicted range is the rounded slope times the number of steps. -/
theorem predictedRange_eq (np : Numpy) {data : List ℚ} (two : 2 ≤ data.length) {line : Line ℚ}
    (best : IsLeastSquares ((dataIndex data).zip data) line) :
    np.predictedRange data = some (|roundTo 2 line.slope| * (data.length - 1)) := by
  obtain ⟨found, fitted, slope⟩ := exists_polyfit np two best
  obtain ⟨last, length⟩ : ∃ last, data.length = last + 1 := ⟨data.length - 1, by omega⟩
  have range : spread (predictedValues (roundTo 2 found.slope) (roundTo 2 found.intercept) data) =
      some (|roundTo 2 line.slope| * (data.length - 1)) := by
    rw [predictedValues_eq (isDecimal_roundTo 2 _) (isDecimal_roundTo 2 _), length, spread_line,
      slope, Nat.cast_succ, add_sub_cancel_right]
  rw [Numpy.predictedRange, fitted]
  exact range

/-! ## The thresholds -/

theorem exists_spread {data : List ℚ} (two : 2 ≤ data.length) :
    ∃ range, spread data = some range := by
  have nonempty : data ≠ [] := by
    rintro rfl
    contradiction
  obtain ⟨high, max⟩ := Option.ne_none_iff_exists'.mp (mt List.max?_eq_none_iff.mp nonempty)
  obtain ⟨low, min⟩ := Option.ne_none_iff_exists'.mp (mt List.min?_eq_none_iff.mp nonempty)
  refine ⟨high - low, ?_⟩
  rw [spread, max, min]
  rfl

/-- The two comparisons of the test. -/
theorem processData_eq (np : Numpy) {values data : List ℚ} {startIndex dataSize : ℕ}
    {predicted range : ℚ} (window : data = (values.drop startIndex).take dataSize)
    (line : np.predictedRange data = some predicted) (original : spread data = some range) :
    np.processData values startIndex dataSize =
      some (decide (range < roundTo 2 (mean data) * 0.2) &&
        decide (predicted < roundTo 2 (mean data) * 0.1), roundTo 2 (mean data)) := by
  rw [Numpy.processData, ← window, line, original]
  rfl

/-- Two decimals are half a hundredth off at most. -/
theorem abs_roundTo_two_sub_le (x : ℚ) : |roundTo 2 x - x| ≤ 0.005 := by
  refine (abs_roundTo_sub_le 2 x).trans (le_of_eq ?_)
  norm_num

/-- The same for absolute values over a number of steps. -/
theorem abs_roundTo_mul_bounds (slope : ℚ) {steps : ℚ} (nonneg : 0 ≤ steps) :
    |slope| * steps - 0.005 * steps ≤ |roundTo 2 slope| * steps ∧
      |roundTo 2 slope| * steps ≤ |slope| * steps + 0.005 * steps := by
  have near := (abs_abs_sub_abs_le (roundTo 2 slope) slope).trans (abs_roundTo_two_sub_le slope)
  rw [abs_le] at near
  rw [← sub_mul, ← add_mul]
  constructor
  · exact mul_le_mul_of_nonneg_right (by linarith [near.1]) nonneg
  · exact mul_le_mul_of_nonneg_right (by linarith [near.2]) nonneg

/-- The test agrees with the exact criterion up to rounding: the predicted range is the rounded
slope times the number of steps, and a window that passes the test, or one that fails it, is near
the exact thresholds at most. -/
theorem processData_agrees (np : Numpy) (values : List ℚ) (startIndex dataSize : ℕ)
    (data : List ℚ) (window : data = (values.drop startIndex).take dataSize)
    (two : 2 ≤ data.length) (line : Line ℚ)
    (best : IsLeastSquares ((dataIndex data).zip data) line) :
    np.predictedRange data = some (|roundTo 2 line.slope| * (data.length - 1)) ∧
      ∃ pass range, spread data = some range ∧
        np.processData values startIndex dataSize = some (pass, roundTo 2 (mean data)) ∧
        (pass = true → range < 0.2 * (mean data + 0.005) ∧
          |line.slope| * (data.length - 1) <
            0.1 * (mean data + 0.005) + 0.005 * (data.length - 1)) ∧
        (range < 0.2 * (mean data - 0.005) →
          |line.slope| * (data.length - 1) + 0.005 * (data.length - 1) <
            0.1 * (mean data - 0.005) → pass = true) := by
  have predicted := predictedRange_eq np two best
  obtain ⟨range, original⟩ := exists_spread two
  have steps : (0 : ℚ) ≤ data.length - 1 := by
    rw [sub_nonneg, Nat.one_le_cast]
    omega
  obtain ⟨above, below⟩ := abs_roundTo_mul_bounds line.slope steps
  have average := abs_roundTo_two_sub_le (mean data)
  rw [abs_le] at average
  refine ⟨predicted, _, range, original, processData_eq np window predicted original, ?_, ?_⟩
  · intro pass
    rw [Bool.and_eq_true, decide_eq_true_eq, decide_eq_true_eq] at pass
    constructor
    · linarith
    · linarith
  · intro narrow flat
    rw [Bool.and_eq_true, decide_eq_true_eq, decide_eq_true_eq]
    constructor
    · linarith
    · linarith

/-- The library with the solution of the normal equations. -/
def exactNumpy : Numpy where
  polyfit xs ys := if xs = [] then none else some (fit (xs.zip ys))
  fits xs ys same x first y second differ := by
    refine ⟨fit (xs.zip ys), if_neg (List.ne_nil_of_mem first), ?_⟩
    have positions : (xs.zip ys).map Prod.fst = xs := List.map_fst_zip same.le
    rw [← positions] at first second
    obtain ⟨p, left, rfl⟩ := List.mem_map.mp first
    obtain ⟨q, right, rfl⟩ := List.mem_map.mp second
    exact isLeastSquares_fit left right differ

/-- Three results, of which the last two are looked at. -/
theorem processData_agrees_lastTwo : exactNumpy.predictedRange [1000, 1010] = some 10 := by
  have slope : (fit [((1 : ℚ), (1000 : ℚ)), (2, 1010)]).slope = 10 := by
    norm_num [fit, determinant, moment]
  have points : (dataIndex [1000, 1010]).zip [1000, 1010] = [((1 : ℚ), (1000 : ℚ)), (2, 1010)] := by
    norm_num [dataIndex, List.range_succ]
  have best : IsLeastSquares ((dataIndex [1000, 1010]).zip [1000, 1010])
      (fit [((1 : ℚ), (1000 : ℚ)), (2, 1010)]) := by
    rw [points]
    exact isLeastSquares_fit List.mem_cons_self (List.mem_cons_of_mem _ List.mem_cons_self)
      (by norm_num)
  have decimal : IsDecimal 2 (10 : ℚ) := ⟨1000, by norm_num⟩
  have range := (processData_agrees exactNumpy [990, 1000, 1010] 1 2 [1000, 1010] rfl (by decide) _
    best).1
  rw [slope, decimal.roundTo_eq le_rfl] at range
  rw [range]
  norm_num

end Fio
