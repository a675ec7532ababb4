import ArmTest.Wrk.Stats
import Mathlib.Algebra.Group.Action.Defs

/-!
# Held back requests

A response that takes longer than the usual interval between requests has held back the requests
that would have been sent meanwhile.  The correction adds what they would have waited; percentiles
are then those of all requests, sent or held back.
-/

namespace LoadGenerator

open Numeric

/-- What the requests held back by a response of duration `n` would have waited. -/
def heldBack (expected n : Nat) : List Nat :=
  (List.range ((n - 1) / expected - 1)).map fun k => n - (k + 1) * expected

section

variable {expected : Nat}

theorem heldBack_of_le {n : Nat} (usual : n ≤ 2 * expected) : heldBack expected n = [] := by
  have none : (n - 1) / expected - 1 = 0 := by
    rcases Nat.eq_zero_or_pos expected with rfl | positive
    · simp
    · have few := (Nat.div_lt_iff_lt_mul positive).mpr (show n - 1 < 2 * expected by omega)
      omega
  rw [heldBack, none]
  rfl

theorem heldBack_of_lt (positive : 0 < expected) {n : Nat} (overdue : 2 * expected < n) :
    heldBack expected n = (n - expected) :: heldBack expected (n - expected) := by
  have split : (n - 1) / expected - 1 = (n - expected - 1) / expected - 1 + 1 := by
    have whole := Nat.sub_mul_div (n - 1) expected 1
    have several := (Nat.le_div_iff_mul_le positive).mpr (show 2 * expected ≤ n - 1 by omega)
    rw [Nat.mul_one, Nat.sub_right_comm] at whole
    omega
  rw [heldBack, split, List.range_succ_eq_map, List.map_cons, List.map_map, heldBack]
  congr 1
  · omega
  · refine List.map_congr_left fun k _ => ?_
    have next : (k + 1 + 1) * expected = (k + 1) * expected + expected := Nat.succ_mul _ _
    simp only [Function.comp_apply, Nat.succ_eq_add_one]
    omega

/-- The times that are added are shorter than the response, and longer than the interval. -/
theorem mem_heldBack {n v : Nat} (member : v ∈ heldBack expected n) :
    expected < v ∧ v + expected ≤ n := by
  obtain ⟨k, inside, rfl⟩ := List.mem_map.mp member
  have few : k + 2 ≤ (n - 1) / expected := by
    have := List.mem_range.mp inside
    omega
  have positive : 0 < expected := by
    by_contra zero
    simp only [not_lt, Nat.le_zero_eq] at zero
    simp [zero] at few
  have bound := (Nat.le_div_iff_mul_le positive).mp few
  have first : (k + 2) * expected = (k + 1) * expected + expected := Nat.succ_mul _ _
  have second : (k + 1) * expected = k * expected + expected := Nat.succ_mul _ _
  omega

/-- Exactly the multiples of the interval are taken off that leave more than one interval. -/
theorem mem_heldBack_iff (positive : 0 < expected) {n v : Nat} :
    v ∈ heldBack expected n ↔ expected < v ∧ ∃ k, 0 < k ∧ v + k * expected = n := by
  constructor
  · intro member
    obtain ⟨k, inside, rfl⟩ := List.mem_map.mp member
    obtain ⟨longer, -⟩ := mem_heldBack member
    exact ⟨longer, k + 1, Nat.succ_pos k, by omega⟩
  · rintro ⟨longer, k, some, rfl⟩
    refine List.mem_map.mpr ⟨k - 1, ?_, ?_⟩
    · rw [List.mem_range]
      have enough : k + 1 ≤ (v + k * expected - 1) / expected := by
        rw [Nat.le_div_iff_mul_le positive, Nat.succ_mul]
        omega
      omega
    · rw [Nat.sub_add_cancel some, Nat.add_sub_cancel]

theorem nodup_heldBack (positive : 0 < expected) (n : Nat) : (heldBack expected n).Nodup := by
  refine List.Nodup.map_on ?_ List.nodup_range
  intro i first j second same
  have inside : ∀ k ∈ List.range ((n - 1) / expected - 1), (k + 1) * expected < n := by
    intro k member
    have bound := mem_heldBack (List.mem_map_of_mem (f := fun k => n - (k + 1) * expected) member)
    omega
  have left := inside i first
  have right := inside j second
  have product : (i + 1) * expected = (j + 1) * expected := by omega
  have equal := Nat.eq_of_mul_eq_mul_right positive product
  omega

/-! ## The loops -/

/-- Samples added to the histogram, each `times` times. -/
def Stats.addAll (stats : Stats) (times : Nat) (added : List Nat) : Stats :=
  { stats with
    count := stats.count + times * added.length
    data := fun i => stats.data i + times * added.count i }

theorem Stats.addAll_nil (stats : Stats) (times : Nat) : stats.addAll times [] = stats := by
  simp [Stats.addAll]

theorem Stats.addAll_cons (stats : Stats) (times m : Nat) (added : List Nat) :
    (stats.add m times).addAll times added = stats.addAll times (m :: added) := by
  simp only [Stats.addAll, Stats.add, List.length_cons, Stats.mk.injEq, true_and]
  refine ⟨by ring, funext fun i => ?_⟩
  rcases eq_or_ne i m with rfl | other
  · rw [Function.update_self, List.count_cons_self]
    ring
  · rw [Function.update_of_ne other, List.count_cons_of_ne other.symm]

theorem Stats.addAll_zero (stats : Stats) (added : List Nat) : stats.addAll 0 added = stats := by
  simp [Stats.addAll]

/-- The inner loop adds what the response has held back, once for each response. -/
theorem backfill_eq (positive : 0 < expected) {n fuel : Nat} (enough : n < fuel) (count : Nat)
    (stats : Stats) :
    backfill expected count fuel (n - expected) stats =
      some (stats.addAll count (heldBack expected n)) := by
  induction fuel generalizing n stats with
  | zero => omega
  | succ fuel induction =>
      rw [backfill]
      by_cases none : count = 0
      · rw [if_neg (by simp [none]), none, Stats.addAll_zero]
      by_cases overdue : expected < n - expected
      · rw [if_pos ⟨none, overdue⟩, induction (by omega), Stats.addAll_cons,
          ← heldBack_of_lt positive (by omega)]
      · rw [if_neg (by simp [overdue]), heldBack_of_le (by omega), Stats.addAll_nil]

/-- The outer loop adds what the responses of its range have held back. -/
theorem correctLoop_eq (positive : 0 < expected) {fuel n left : Nat} (enough : n + left ≤ fuel)
    {values : List Nat} {stats : Stats} (ahead : ∀ j, n ≤ j → stats.data j = values.count j) :
    (List.range' n left).foldlM
      (fun stats n => backfill expected (stats.data n) fuel (n - expected) stats) stats =
        some (stats.addAll 1 ((countOut (values.count ·) (List.range' n left)).flatMap
          (heldBack expected))) := by
  induction left generalizing n stats with
  | zero => simp [countOut, Stats.addAll_nil]
  | succ left induction =>
      rw [List.range'_succ, List.foldlM_cons, ahead n le_rfl,
        backfill_eq positive (by omega), Option.bind_eq_bind, Option.bind_some]
      -- what is added lies behind the loop
      have behind : ∀ j, n + 1 ≤ j →
          (stats.addAll (values.count n) (heldBack expected n)).data j = values.count j := by
        intro j later
        have fresh : j ∉ heldBack expected n := fun member => by
          have bound := (mem_heldBack member).2
          omega
        simp only [Stats.addAll]
        rw [List.count_eq_zero.mpr fresh, Nat.mul_zero, Nat.add_zero, ahead j (by omega)]
      rw [induction (by omega) behind, countOut_cons, List.flatMap_append]
      congr 1
      simp only [Stats.addAll, List.length_append, List.count_append, Stats.mk.injEq, true_and,
        List.length_flatMap, List.count_flatMap, List.map_replicate, List.sum_replicate,
        smul_eq_mul, Function.comp_apply]
      exact ⟨by ring, funext fun i => by ring⟩

theorem Stats.addAll_perm (stats : Stats) (times : Nat) {added added' : List Nat}
    (perm : added.Perm added') : stats.addAll times added = stats.addAll times added' := by
  simp only [Stats.addAll, perm.length_eq, perm.count_eq]

/-- Responses within two intervals hold nothing back. -/
theorem flatMap_heldBack_filter (values : List Nat) :
    (values.filter (2 * expected ≤ ·)).flatMap (heldBack expected) =
      values.flatMap (heldBack expected) := by
  induction values with
  | nil => rfl
  | cons n values induction =>
      rw [List.filter_cons, List.flatMap_cons, ← induction]
      split
      · rfl
      next usual =>
        rw [heldBack_of_le (by simp only [decide_eq_true_eq] at usual; omega), List.nil_append]

/-! ## The corrected samples -/

/-- The samples together with those that they have held back. -/
def corrected (expected : Nat) (values : List Nat) : List Nat :=
  values ++ values.flatMap (heldBack expected)

/-- The correction adds exactly the requests held back, and changes neither bound. -/
theorem Stats.Holds.correct {stats : Stats} {values : List Nat} (holds : stats.Holds values)
    (positive : 0 < expected) {fuel : Nat} (enough : stats.max < fuel) :
    stats.correct fuel expected =
      some (stats.addAll 1 (values.flatMap (heldBack expected))) := by
  have upper : ∀ v ∈ values.filter (2 * expected ≤ ·),
      v ∈ List.range' (expected * 2) (stats.max + 1 - expected * 2) := by
    intro v member
    obtain ⟨member, overdue⟩ := List.mem_filter.mp member
    have bound := holds.upper v member
    simp only [decide_eq_true_eq] at overdue
    exact List.mem_range'_1.mpr (by omega)
  have same : ∀ n ∈ List.range' (expected * 2) (stats.max + 1 - expected * 2),
      values.count n = (values.filter (2 * expected ≤ ·)).count n := by
    intro n member
    have overdue := (List.mem_range'_1.mp member).1
    rw [List.count_filter (by simp only [decide_eq_true_eq]; omega)]
  rw [Stats.correct]
  rcases Nat.lt_or_ge stats.max (expected * 2) with usual | overdue
  · have none : ∀ v ∈ values, heldBack expected v = [] := fun v member =>
      heldBack_of_le (by have := holds.upper v member; omega)
    rw [Nat.sub_eq_zero_of_le usual, List.flatMap_eq_nil_iff.mpr none, Stats.addAll_nil]
    rfl
  · rw [correctLoop_eq positive (by omega) fun j _ => holds.data j, countOut_congr same,
      countOut_count List.pairwise_lt_range' upper, ← flatMap_heldBack_filter values]
    exact congrArg some (Stats.addAll_perm _ _ ((List.mergeSort_perm _ _).flatMap_right _))

/-- The corrected histogram holds the corrected samples. -/
theorem Stats.Holds.addAll {stats : Stats} {values : List Nat} (holds : stats.Holds values) :
    (stats.addAll 1 (values.flatMap (heldBack expected))).Holds (corrected expected values) where
  data := fun i => by
    simp only [corrected, List.count_append, ← holds.data, Stats.addAll, Nat.one_mul]
  count := by simp only [corrected, List.length_append, ← holds.count, Stats.addAll, Nat.one_mul]
  upper := by
    intro v member
    rcases List.mem_append.mp member with sent | added
    · exact holds.upper v sent
    · obtain ⟨n, sent, added⟩ := List.mem_flatMap.mp added
      have bound := (mem_heldBack added).2
      have longest := holds.upper n sent
      exact (show v ≤ stats.max by omega)

/-! ## An interval of 0 -/

theorem backfill_zero {count m : Nat} (overdue : count ≠ 0 ∧ 0 < m) (fuel : Nat) (stats : Stats) :
    backfill 0 count fuel m stats = none := by
  induction fuel generalizing stats with
  | zero => rfl
  | succ fuel induction =>
      rw [backfill, if_pos overdue, Nat.sub_zero]
      exact induction _

theorem correctLoop_zero {indices : List Nat} {stats : Stats} {n : Nat} (member : n ∈ indices)
    (overdue : stats.data n ≠ 0 ∧ 0 < n) (fuel : Nat) :
    indices.foldlM (fun stats n => backfill 0 (stats.data n) fuel (n - 0) stats) stats = none := by
  induction indices with
  | nil => simp at member
  | cons i indices induction =>
      rw [List.foldlM_cons, Nat.sub_zero]
      by_cases stuck : stats.data i ≠ 0 ∧ 0 < i
      · rw [backfill_zero stuck]
        rfl
      · cases fuel with
        | zero => rfl
        | succ fuel =>
            rcases List.mem_cons.mp member with rfl | later
            · exact absurd overdue stuck
            · rw [backfill, if_neg stuck, Option.bind_eq_bind, Option.bind_some]
              exact induction later

/-- With an interval of 0 the correction never ends, unless all samples are 0. -/
theorem Stats.Holds.correct_ends {stats : Stats} {values : List Nat} (holds : stats.Holds values) :
    (∃ fuel, (stats.correct fuel expected).isSome) ↔ 0 < expected ∨ ∀ v ∈ values, v = 0 := by
  constructor
  · rintro ⟨fuel, ends⟩
    by_contra endless
    simp only [not_or, not_lt, Nat.le_zero_eq, not_forall] at endless
    obtain ⟨rfl, v, member, positive⟩ := endless
    have inside : v ∈ List.range' (0 * 2) (stats.max + 1 - 0 * 2) :=
      List.mem_range'_1.mpr (by have := holds.upper v member; omega)
    have counted : stats.data v ≠ 0 := by
      rw [holds.data]
      exact (List.count_pos_iff.mpr member).ne'
    rw [Stats.correct, correctLoop_zero inside ⟨counted, Nat.pos_of_ne_zero positive⟩] at ends
    contradiction
  · rintro (positive | zero)
    · exact ⟨stats.max + 1, by rw [holds.correct positive (Nat.lt_succ_self _)]; rfl⟩
    · rcases Nat.eq_zero_or_pos expected with rfl | positive
      · refine ⟨1, ?_⟩
        have still : ∀ indices : List Nat,
            indices.foldlM (fun stats n => backfill 0 (stats.data n) 1 (n - 0) stats) stats =
              some stats := by
          intro indices
          induction indices with
          | nil => rfl
          | cons i indices induction =>
              have idle : ¬ (stats.data i ≠ 0 ∧ 0 < i - 0) := by
                rintro ⟨counted, later⟩
                rw [holds.data] at counted
                have := zero i (List.count_pos_iff.mp (Nat.pos_of_ne_zero counted))
                omega
              rw [List.foldlM_cons, backfill, if_neg idle]
              exact induction
        rw [Stats.correct, still]
        rfl
      · exact ⟨stats.max + 1, by rw [holds.correct positive (Nat.lt_succ_self _)]; rfl⟩

end

/-! ## Recording -/

/-- `stats_record` for one sample after the other. -/
def recordAll (stats : Stats) (samples : List Nat) : Stats :=
  samples.foldl (fun stats n => (stats.record n).1) stats

/-- The histogram before any correction: it holds the samples, and both bounds are exact. -/
structure Stats.Recorded (stats : Stats) (values : List Nat) : Prop where
  data : ∀ i, stats.data i = values.count i
  count : stats.count = values.length
  min : stats.min = values.foldl Min.min uint64Max
  max : stats.max = values.foldl Max.max 0

theorem le_foldl_max {values : List Nat} (start : Nat) :
    start ≤ values.foldl Max.max start ∧ ∀ v ∈ values, v ≤ values.foldl Max.max start := by
  induction values generalizing start with
  | nil => simp
  | cons n values induction =>
      obtain ⟨first, others⟩ := induction (Max.max start n)
      rw [List.foldl_cons]
      refine ⟨le_trans (le_max_left _ _) first, fun v member => ?_⟩
      rcases List.mem_cons.mp member with rfl | later
      · exact le_trans (le_max_right _ _) first
      · exact others v later

theorem foldl_min_le {values : List Nat} (start : Nat) :
    values.foldl Min.min start ≤ start ∧ ∀ v ∈ values, values.foldl Min.min start ≤ v := by
  induction values generalizing start with
  | nil => simp
  | cons n values induction =>
      obtain ⟨first, others⟩ := induction (Min.min start n)
      rw [List.foldl_cons]
      refine ⟨le_trans first (min_le_left _ _), fun v member => ?_⟩
      rcases List.mem_cons.mp member with rfl | later
      · exact le_trans first (min_le_right _ _)
      · exact others v later

theorem Stats.Recorded.holds {stats : Stats} {values : List Nat}
    (recorded : stats.Recorded values) : stats.Holds values where
  data := recorded.data
  count := recorded.count
  upper := fun v member => by
    rw [recorded.max]
    exact (le_foldl_max 0).2 v member

theorem recorded_alloc (limit : Nat) : (statsAlloc limit).Recorded [] :=
  ⟨fun _ => rfl, rfl, rfl, rfl⟩

theorem Stats.Recorded.record {stats : Stats} {values : List Nat} (recorded : stats.Recorded values)
    {n : Nat} (inside : n < stats.limit) : (stats.record n).1.Recorded (values ++ [n]) := by
  rw [Stats.record, if_neg (by omega)]
  constructor
  · intro i
    rw [List.count_append, ← recorded.data]
    rcases eq_or_ne i n with rfl | other
    · simp [Stats.add]
    · simp [Stats.add, Function.update_of_ne other, other.symm]
  · simp [Stats.add, recorded.count]
  · rw [List.foldl_append, ← recorded.min]
    simp only [List.foldl_cons, List.foldl_nil]
    split <;> omega
  · rw [List.foldl_append, ← recorded.max]
    simp only [List.foldl_cons, List.foldl_nil]
    split <;> omega

/-- Recording keeps the samples below the limit and refuses the others. -/
theorem recordAll_recorded {stats : Stats} {values : List Nat} (recorded : stats.Recorded values)
    (samples : List Nat) :
    (recordAll stats samples).Recorded (values ++ samples.filter (· < stats.limit)) ∧
      (recordAll stats samples).limit = stats.limit := by
  induction samples generalizing stats values with
  | nil => simpa [recordAll] using recorded
  | cons n samples induction =>
      rw [recordAll, List.foldl_cons, ← recordAll, List.filter_cons]
      by_cases inside : n < stats.limit
      · have limit : (stats.record n).1.limit = stats.limit := by
          rw [Stats.record, if_neg (by omega)]
          rfl
        obtain ⟨all, same⟩ := induction (recorded.record inside)
        rw [limit, List.append_assoc] at all
        simp only [inside, decide_true, if_true]
        exact ⟨all, same.trans limit⟩
      · have refused : (stats.record n).1 = stats := by rw [Stats.record, if_pos (by omega)]
        simp only [inside, decide_false, Bool.false_eq_true, if_false]
        rw [refused]
        exact induction recorded

/-- The histogram is determined by the samples in any order. -/
theorem Stats.Recorded.unique {stats stats' : Stats} {values values' : List Nat}
    (recorded : stats.Recorded values) (recorded' : stats'.Recorded values')
    (perm : values.Perm values') (limit : stats.limit = stats'.limit) : stats = stats' := by
  obtain ⟨data, count, min, max⟩ := recorded
  obtain ⟨data', count', min', max'⟩ := recorded'
  rw [perm.length_eq] at count
  rw [perm.foldl_eq] at min max
  cases stats
  cases stats'
  simp only [Stats.mk.injEq]
  exact ⟨count.trans count'.symm, limit, min.trans min'.symm, max.trans max'.symm,
    funext fun i => (data i).trans ((perm.count_eq i).trans (data' i).symm)⟩

end LoadGenerator
