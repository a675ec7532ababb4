import ArmTest.Numeric.Histogram
import Mathlib.Algebra.Order.Floor.Semiring
import Mathlib.Data.Rat.Floor

/-!
# The statistics of the load generator

The load generator keeps its samples as a histogram.  After the run it adds the requests that an
overdue response has held back, and prints mean, deviation and percentiles.  All of them are
statements about the sorted samples.
-/

namespace LoadGenerator

open Numeric

/-! ## The histogram -/

/-- `UINT64_MAX`. -/
def uint64Max : Nat := 2 ^ 64 - 1

/-- `stats`; outside of the allocated array `data` is 0. -/
structure Stats where
  count : Nat
  limit : Nat
  min : Nat
  max : Nat
  data : Nat → Nat

/-- `stats_alloc`. -/
def statsAlloc (max : Nat) : Stats where
  count := 0
  limit := max + 1
  min := uint64Max
  max := 0
  data := fun _ => 0

/-- `data[n] += count` together with the number of samples. -/
def Stats.add (stats : Stats) (n count : Nat) : Stats :=
  { stats with
    count := stats.count + count
    data := Function.update stats.data n (stats.data n + count) }

/-- `stats_record` in one thread; the flag is its result. -/
def Stats.record (stats : Stats) (n : Nat) : Stats × Bool :=
  if stats.limit ≤ n then (stats, false)
  else
    ({ stats.add n 1 with
        min := if n < stats.min then n else stats.min
        max := if stats.max < n then n else stats.max }, true)

/-- `for (i = min; i <= max; i++)`. -/
def Stats.indices (stats : Stats) : List Nat :=
  List.range' stats.min (stats.max + 1 - stats.min)

/-! ## What is printed -/

/-- `stats_mean`, before it is rounded; the sum is a `uint64_t`. -/
def Stats.mean (stats : Stats) : Rat :=
  if stats.count = 0 then 0
  else
    ((stats.indices.foldl (fun sum i => (sum + stats.data i * i) % 2 ^ 64) 0 : Nat) : Rat) /
      stats.count

/-- `stats_stdev` before the square root is taken. -/
def Stats.variance (stats : Stats) (mean : Rat) : Rat :=
  if stats.count < 2 then 0
  else
    stats.indices.foldl (fun sum i =>
      if stats.data i ≠ 0 then sum + ((i : Rat) - mean) ^ 2 * stats.data i else sum) 0 /
        ((stats.count - 1 : Nat) : Rat)

/-- The loop of `stats_percentile`. -/
def percentileLoop (data : Nat → Nat) (rank : Nat) : List Nat → Nat → Nat
  | [], _ => 0
  | i :: indices, total =>
      let total := total + data i
      if rank ≤ total then i else percentileLoop data rank indices total

/-- `round` of the C library, halves away from zero. -/
def round (x : Rat) : Int := if 0 ≤ x then ⌊x + 1 / 2⌋ else ⌈x - 1 / 2⌉

/-- The rank of `stats_percentile` without rounding errors. -/
def Stats.rank (stats : Stats) (p : Rat) : Nat := (round (p / 100 * stats.count + 1 / 2)).toNat

/-- `stats_percentile` for a rank, which the C code computes in floating-point arithmetic. -/
def Stats.percentile (stats : Stats) (rank : Nat) : Nat :=
  percentileLoop stats.data rank stats.indices 0

/-- `stats_popcount`. -/
def Stats.popcount (stats : Stats) : Nat :=
  stats.indices.foldl (fun count i => if stats.data i ≠ 0 then count + 1 else count) 0

/-- The loop of `stats_value_at`: the value and the number left in `count`. -/
def valueAtLoop (data : Nat → Nat) (index : Nat) : List Nat → Nat → Nat × Nat
  | [], count => (0, count)
  | i :: indices, count =>
      if data i = 0 then valueAtLoop data index indices count
      else if count = index then (i, data i)
      else valueAtLoop data index indices (count + 1)

/-- `stats_value_at`. -/
def Stats.valueAt (stats : Stats) (index : Nat) : Nat × Nat :=
  valueAtLoop stats.data index stats.indices 0

/-! ## The correction -/

/-- The inner loop of `stats_correct`, for at most `fuel` rounds. -/
def backfill (expected count : Nat) : Nat → Nat → Stats → Option Stats
  | 0, _, _ => none
  | fuel + 1, m, stats =>
      if count ≠ 0 ∧ expected < m then
        backfill expected count fuel (m - expected) (stats.add m count)
      else some stats

/-- `stats_correct`, each inner loop for at most `fuel` rounds. -/
def Stats.correct (fuel : Nat) (stats : Stats) (expected : Nat) : Option Stats :=
  (List.range' (expected * 2) (stats.max + 1 - expected * 2)).foldlM
    (fun stats n => backfill expected (stats.data n) fuel (n - expected) stats) stats

/-! ## Samples -/

/-- The histogram holds exactly these samples, and its upper bound is right. -/
structure Stats.Holds (stats : Stats) (values : List Nat) : Prop where
  data : ∀ i, stats.data i = values.count i
  count : stats.count = values.length
  upper : ∀ v ∈ values, v ≤ stats.max

/-- The samples that the loops over the histogram see, in increasing order. -/
def Stats.visible (stats : Stats) (values : List Nat) : List Nat :=
  (values.filter (stats.min ≤ ·)).mergeSort (· ≤ ·)

section

variable {stats : Stats} {values : List Nat}

theorem Stats.mem_indices {i : Nat} : i ∈ stats.indices ↔ stats.min ≤ i ∧ i ≤ stats.max := by
  rw [Stats.indices, List.mem_range'_1]
  omega

/-- One pass over the histogram passes over the visible samples. -/
theorem Stats.Holds.countOut (holds : stats.Holds values) :
    countOut stats.data stats.indices = stats.visible values := by
  have same : ∀ i ∈ stats.indices,
      stats.data i = (values.filter (stats.min ≤ ·)).count i := by
    intro i member
    rw [holds.data, List.count_filter (by simpa using (Stats.mem_indices.mp member).1)]
  rw [countOut_congr same]
  refine countOut_count List.pairwise_lt_range' fun v member => ?_
  obtain ⟨member, lower⟩ := List.mem_filter.mp member
  exact Stats.mem_indices.mpr ⟨by simpa using lower, holds.upper v member⟩

/-! ## Percentiles -/

theorem percentileLoop_eq (data : Nat → Nat) (indices : List Nat) {r total : Nat}
    (below : total ≤ r) :
    percentileLoop data (r + 1) indices total =
      (Numeric.countOut data indices)[r - total]?.getD 0 := by
  induction indices generalizing total with
  | nil => rfl
  | cons i indices induction =>
      rw [percentileLoop, getElem?_countOut_cons]
      by_cases reached : r + 1 ≤ total + data i
      · rw [if_pos reached, if_pos (by omega), Option.getD_some]
      · rw [if_neg reached, if_neg (by omega), induction (by omega), Nat.sub_add_eq]

theorem round_half {x : Rat} (nonneg : 0 ≤ x) : (round (x + 1 / 2)).toNat = ⌊x⌋₊ + 1 := by
  have moved : x + 1 / 2 + 1 / 2 = x + 1 := by ring
  rw [round, if_pos (by linarith), moved, Int.floor_toNat, Nat.floor_add_one nonneg]

/-- A percentile is the visible sample of its rank. -/
theorem Stats.Holds.percentile (holds : stats.Holds values) {rank : Nat} (positive : 0 < rank) :
    stats.percentile rank = (stats.visible values)[rank - 1]?.getD 0 := by
  obtain ⟨before, rfl⟩ := Nat.exists_eq_succ_of_ne_zero positive.ne'
  rw [Stats.percentile, percentileLoop_eq _ _ (Nat.zero_le _), holds.countOut, Nat.sub_zero]
  rfl

theorem Stats.Holds.rank (holds : stats.Holds values) {p : Rat} (nonneg : 0 ≤ p) :
    stats.rank p = ⌊p / 100 * values.length⌋₊ + 1 := by
  rw [Stats.rank, round_half (by positivity), holds.count]

/-! ## Mean and deviation -/

theorem foldl_sum_mod (f : Nat → Nat) (width : Nat) (indices : List Nat) (sum : Nat) :
    indices.foldl (fun sum i => (sum + f i) % width) (sum % width) =
      (sum + (indices.map f).sum) % width := by
  induction indices generalizing sum with
  | nil => rfl
  | cons i indices induction =>
      rw [List.foldl_cons, Nat.mod_add_mod, induction, List.map_cons, List.sum_cons, Nat.add_assoc]

theorem foldl_variance (data : Nat → Nat) (mean : Rat) (indices : List Nat) (sum : Rat) :
    indices.foldl (fun sum i =>
      if data i ≠ 0 then sum + ((i : Rat) - mean) ^ 2 * data i else sum) sum =
        sum + (indices.map fun i => (data i : Rat) * ((i : Rat) - mean) ^ 2).sum := by
  induction indices generalizing sum with
  | nil => simp
  | cons i indices induction =>
      rw [List.foldl_cons, induction, List.map_cons, List.sum_cons]
      split
      · ring
      next empty => simp [not_not.mp empty]

/-- The printed mean: the sum of the visible samples, modulo the width of its variable, divided by
the number of all samples. -/
theorem Stats.Holds.mean (holds : stats.Holds values) :
    stats.mean = ((stats.visible values).sum % 2 ^ 64 : Nat) / values.length := by
  have summed := sum_countOut stats.data id stats.indices
  rw [holds.countOut, List.map_id] at summed
  have folded := foldl_sum_mod (fun i => stats.data i * i) (2 ^ 64) stats.indices 0
  rw [Nat.zero_mod, Nat.zero_add] at folded
  rw [Stats.mean, folded, holds.count, summed]
  split
  next none => rw [none, Nat.cast_zero, div_zero]
  · rfl

/-- The printed deviation, before the square root. -/
theorem Stats.Holds.variance (holds : stats.Holds values) (several : 2 ≤ values.length)
    (mean : Rat) :
    stats.variance mean =
      ((stats.visible values).map fun v : Nat => ((v : Rat) - mean) ^ 2).sum /
        ((values.length - 1 : Nat) : Rat) := by
  have summed := sum_countOut stats.data (fun i => ((i : Rat) - mean) ^ 2) stats.indices
  rw [holds.countOut] at summed
  rw [Stats.variance, if_neg (by rw [holds.count]; omega), foldl_variance, zero_add, holds.count,
    summed]

/-! ## Reading the histogram back -/

theorem popcountLoop_eq (data : Nat → Nat) (indices : List Nat) (count : Nat) :
    indices.foldl (fun count i => if data i ≠ 0 then count + 1 else count) count =
      count + (indices.filter (data · ≠ 0)).length := by
  induction indices generalizing count with
  | nil => rfl
  | cons i indices induction =>
      rw [List.foldl_cons, induction, List.filter_cons]
      by_cases empty : data i = 0
      · simp [empty]
      · simp [empty]
        omega

theorem valueAtLoop_eq (data : Nat → Nat) (indices : List Nat) {index count : Nat}
    (seen : count ≤ index) (inside : index - count < (indices.filter (data · ≠ 0)).length) :
    valueAtLoop data index indices count =
      ((indices.filter (data · ≠ 0))[index - count],
        data (indices.filter (data · ≠ 0))[index - count]) := by
  induction indices generalizing count with
  | nil => simp at inside
  | cons i indices induction =>
      by_cases empty : data i = 0
      · simp only [List.filter_cons, empty, ne_eq, not_true_eq_false, decide_false,
          Bool.false_eq_true, if_false] at inside ⊢
        rw [valueAtLoop, if_pos empty]
        exact induction seen inside
      · simp only [List.filter_cons, empty, ne_eq, not_false_eq_true, decide_true, if_true]
          at inside ⊢
        rw [valueAtLoop, if_neg empty]
        rcases Nat.eq_or_lt_of_le seen with rfl | later
        · simp
        · have next : index - count = index - (count + 1) + 1 := by omega
          rw [if_neg (Nat.ne_of_lt later), induction later (by
            rw [List.length_cons, next] at inside
            exact Nat.lt_of_succ_lt_succ inside)]
          simp only [next, List.getElem_cons_succ]

theorem countOut_filter (data : Nat → Nat) (indices : List Nat) :
    Numeric.countOut data (indices.filter (data · ≠ 0)) = Numeric.countOut data indices := by
  induction indices with
  | nil => rfl
  | cons i indices induction =>
      rw [countOut_cons, List.filter_cons]
      by_cases empty : data i = 0
      · simpa [empty] using induction
      · simp only [empty, ne_eq, not_false_eq_true, decide_true, if_true]
        rw [countOut_cons, induction]

/-- A script that asks for every value and its number gets the visible samples back. -/
theorem Stats.Holds.valueAt (holds : stats.Holds values) :
    ((List.range stats.popcount).map stats.valueAt).flatMap (fun (v, n) => List.replicate n v) =
      stats.visible values := by
  have all : (List.range stats.popcount).map stats.valueAt =
      (stats.indices.filter (stats.data · ≠ 0)).map fun i => (i, stats.data i) := by
    rw [Stats.popcount, popcountLoop_eq, Nat.zero_add]
    refine List.ext_getElem (by simp) fun index inside _ => ?_
    rw [List.length_map, List.length_range] at inside
    rw [List.getElem_map, List.getElem_map, List.getElem_range, Stats.valueAt,
      valueAtLoop_eq _ _ (Nat.zero_le _) inside]
    rfl
  rw [all, List.flatMap_map, ← holds.countOut, ← countOut_filter]
  rfl

end

end LoadGenerator
