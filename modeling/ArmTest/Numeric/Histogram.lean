import Mathlib.Data.List.Sort
import Mathlib.Algebra.BigOperators.Ring.List

/-!
# Histograms

A histogram keeps how often each value occurs.  Counted out in increasing order it gives the
entries back, sorted; positions and sums of the sorted entries are then found by one pass over the
histogram.
-/

namespace Numeric

/-- Every index as often as the histogram says. -/
def countOut (data : Nat → Nat) (indices : List Nat) : List Nat :=
  indices.flatMap fun i => List.replicate (data i) i

theorem countOut_cons (data : Nat → Nat) (i : Nat) (indices : List Nat) :
    countOut data (i :: indices) = List.replicate (data i) i ++ countOut data indices :=
  List.flatMap_cons

theorem countOut_congr {data data' : Nat → Nat} {indices : List Nat}
    (same : ∀ i ∈ indices, data i = data' i) : countOut data indices = countOut data' indices := by
  induction indices with
  | nil => rfl
  | cons i indices induction =>
      rw [countOut_cons, countOut_cons, same i List.mem_cons_self,
        induction fun j member => same j (List.mem_cons_of_mem i member)]

/-- The entry at a position. -/
theorem getElem?_countOut_cons (data : Nat → Nat) (i r : Nat) (indices : List Nat) :
    (countOut data (i :: indices))[r]? =
      if r < data i then some i else (countOut data indices)[r - data i]? := by
  rw [countOut_cons, List.getElem?_append, List.length_replicate]
  split
  next inside => rw [List.getElem?_replicate, if_pos inside]
  · rfl

theorem mem_of_mem_countOut {data : Nat → Nat} {indices : List Nat} {v : Nat}
    (member : v ∈ countOut data indices) : v ∈ indices := by
  obtain ⟨i, listed, found⟩ := List.mem_flatMap.mp member
  rwa [List.eq_of_mem_replicate found]

theorem count_countOut (data : Nat → Nat) {indices : List Nat} (distinct : indices.Nodup)
    (v : Nat) : (countOut data indices).count v = if v ∈ indices then data v else 0 := by
  induction indices with
  | nil => rfl
  | cons i indices induction =>
      obtain ⟨fresh, distinct⟩ := List.nodup_cons.mp distinct
      rw [countOut_cons, List.count_append, List.count_replicate, induction distinct]
      rcases eq_or_ne i v with rfl | other
      · simp [fresh]
      · simp [other, other.symm]

theorem pairwise_countOut (data : Nat → Nat) {indices : List Nat}
    (increasing : indices.Pairwise (· < ·)) : (countOut data indices).Pairwise (· ≤ ·) := by
  induction increasing with
  | nil => exact .nil
  | @cons i indices above _ induction =>
      rw [countOut_cons, List.pairwise_append]
      refine ⟨List.pairwise_replicate.mpr (Or.inr le_rfl), induction, fun a first b second => ?_⟩
      rw [List.eq_of_mem_replicate first]
      exact (above b (mem_of_mem_countOut second)).le

/-- The counts of the entries, counted out, give the entries in increasing order. -/
theorem countOut_count {values indices : List Nat} (increasing : indices.Pairwise (· < ·))
    (complete : ∀ v ∈ values, v ∈ indices) :
    countOut (values.count ·) indices = values.mergeSort (· ≤ ·) := by
  have perm : (countOut (values.count ·) indices).Perm (values.mergeSort (· ≤ ·)) := by
    refine (List.perm_iff_count.mpr fun v => ?_).trans (List.mergeSort_perm values _).symm
    rw [count_countOut _ (increasing.imp Nat.ne_of_lt)]
    split
    · rfl
    next missing => exact (List.count_eq_zero.mpr (mt (complete v) missing)).symm
  exact perm.eq_of_pairwise (fun _ _ _ _ => Nat.le_antisymm) (pairwise_countOut _ increasing)
    (List.pairwise_mergeSort' (· ≤ ·) values)

/-- A sum over the entries is a weighted sum over the histogram. -/
theorem sum_countOut {R : Type} [Semiring R] (data : Nat → Nat) (f : Nat → R)
    (indices : List Nat) :
    ((countOut data indices).map f).sum = (indices.map fun i => (data i : R) * f i).sum := by
  induction indices with
  | nil => rfl
  | cons i indices induction =>
      rw [countOut_cons, List.map_append, List.sum_append, induction, List.map_replicate,
        List.sum_replicate, nsmul_eq_mul, List.map_cons, List.sum_cons]

end Numeric
