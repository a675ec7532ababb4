import ArmTest.Wrk.Connection
import ArmTest.Wrk.Recording
import Mathlib.Algebra.Order.SuccPred
import Mathlib.Data.Nat.SuccPred

/-!
# The report of a run

After the run the main thread corrects the latencies and prints mean, deviation and percentiles.
They are those of the corrected samples, whatever the interleaving of the threads has been.
-/

namespace LoadGenerator

open Concurrency

/-- The correction in `main`; the interval is that between the requests of one connection. -/
def correctLatency (fuel : Nat) (latency : Stats) (runtimeUs complete connections : Nat) :
    Option Stats :=
  if 0 < complete / connections then
    latency.correct fuel (runtimeUs / (complete / connections))
  else some latency

/-- `main` comes to its report unless there were more requests on a connection than microseconds
and a sample above 0. -/
theorem correctLatency_ends (max runtimeUs complete connections : Nat) (samples : List Nat) :
    (∃ fuel, (correctLatency fuel (recordAll (statsAlloc max) samples) runtimeUs complete
      connections).isSome) ↔
        complete / connections ≤ runtimeUs ∨ ∀ v ∈ samples, v ≤ max → v = 0 := by
  have holds := (recordAll_recorded (recorded_alloc max) samples).1.holds
  have zero : (∀ v ∈ [] ++ samples.filter (· < (statsAlloc max).limit), v = 0) ↔
      ∀ v ∈ samples, v ≤ max → v = 0 := by
    simp [statsAlloc]
  by_cases busy : 0 < complete / connections
  · simp only [correctLatency, busy, if_true]
    rw [holds.correct_ends, zero, Nat.div_pos_iff]
    simp [busy]
  · simp only [correctLatency, busy, if_false]
    simp [Nat.eq_zero_of_not_pos busy]

section

variable {max count expected fuel : Nat} {samples : List (List Nat)} {last : Config Stats Recorder}

/-- The samples that are not longer than the timeout. -/
def keptSamples (max : Nat) (samples : List (List Nat)) : List Nat :=
  samples.flatten.filter (· ≤ max)

/-- The least sample, below which the report does not look. -/
def leastSample (max : Nat) (samples : List (List Nat)) : Nat :=
  (keptSamples max samples).foldl Min.min uint64Max

/-- The corrected samples at which the report looks, in increasing order. -/
def reported (expected max : Nat) (samples : List (List Nat)) : List Nat :=
  ((corrected expected (keptSamples max samples)).filter
    (leastSample max samples ≤ ·)).mergeSort (· ≤ ·)

/-- The histogram holds the corrected samples, and its loops see the reported ones. -/
theorem correct_of_steps (steps : Steps (Moves record) count (recorders max samples) last)
    (ended : last.Ended (Moves record)) (positive : 0 < expected) (enough : max < fuel) :
    ∃ stats : Stats, last.shared.correct fuel expected = some stats ∧
      stats.Holds (corrected expected (keptSamples max samples)) ∧
      stats.visible (corrected expected (keptSamples max samples)) =
        reported expected max samples := by
  obtain ⟨recorded, -⟩ := recordAll_recorded (recorded_alloc max) samples.flatten
  have kept : [] ++ samples.flatten.filter (· < (statsAlloc max).limit) =
      keptSamples max samples := by
    simp only [keptSamples, statsAlloc, Nat.lt_succ_iff, List.nil_append]
  rw [kept, ← (shared_of_steps steps ended).1] at recorded
  have upper : last.shared.max < fuel := by
    have sound := steps.invariant sound_step sound_recorders
    have below := sound.1.max
    omega
  refine ⟨_, recorded.holds.correct positive upper, recorded.holds.addAll, ?_⟩
  simp only [Stats.visible, Stats.addAll, reported, leastSample, recorded.min]
  rfl

/-- If no sample is shorter than the usual interval allows, nothing is left out of the report. -/
theorem reported_of_le (usual : leastSample max samples ≤ expected + 1) :
    reported expected max samples =
      (corrected expected (keptSamples max samples)).mergeSort (· ≤ ·) := by
  rw [reported, List.filter_eq_self.mpr fun v member => ?_]
  rw [decide_eq_true_eq]
  rcases List.mem_append.mp member with sent | added
  · exact (foldl_min_le uint64Max).2 v sent
  · obtain ⟨n, -, added⟩ := List.mem_flatMap.mp added
    exact usual.trans (mem_heldBack added).1

/-- The corrected histogram and its percentiles, whatever the interleaving.  The correction adds to a
sample exactly the multiples of the interval that it has held back, once each.  A percentile is the
reported sample of its rank, as it comes out of floating-point arithmetic, and the reported samples
are all corrected ones, unless every sample is longer than the interval. -/
theorem percentile_of_steps (steps : Steps (Moves record) count (recorders max samples) last)
    (ended : last.Ended (Moves record)) (positive : 0 < expected) (enough : max < fuel) :
    let all := corrected expected (keptSamples max samples)
    (∀ n, (heldBack expected n).Nodup ∧ ∀ v, v ∈ heldBack expected n ↔
      expected < v ∧ ∃ k, 0 < k ∧ v + k * expected = n) ∧
    ∃ stats : Stats, last.shared.correct fuel expected = some stats ∧
      stats.count = all.length ∧ (∀ v, stats.data v = all.count v) ∧
      (∀ rank, 0 < rank →
        stats.percentile rank = (reported expected max samples)[rank - 1]?.getD 0) ∧
      (∀ p : Rat, 0 ≤ p → stats.rank p = ⌊p / 100 * all.length⌋₊ + 1) ∧
      (leastSample max samples ≤ expected + 1 →
        reported expected max samples = all.mergeSort (· ≤ ·)) := by
  intro all
  refine ⟨fun n => ⟨nodup_heldBack positive n, fun v => mem_heldBack_iff positive⟩, ?_⟩
  obtain ⟨stats, done, holds, seen⟩ := correct_of_steps steps ended positive enough
  refine ⟨stats, done, holds.count, holds.data, fun rank some => ?_, fun p => holds.rank,
    reported_of_le⟩
  rw [holds.percentile some, seen]

/-- The printed mean and deviation and the histogram handed to a script come from the reported
samples, whatever the interleaving; the sum for the mean is taken modulo `2 ^ 64`. -/
theorem summary_of_steps (steps : Steps (Moves record) count (recorders max samples) last)
    (ended : last.Ended (Moves record)) (positive : 0 < expected) (enough : max < fuel) :
    let number := (corrected expected (keptSamples max samples)).length
    ∃ stats : Stats, last.shared.correct fuel expected = some stats ∧
      stats.mean = ((reported expected max samples).sum % 2 ^ 64 : Nat) / number ∧
      (2 ≤ number → ∀ mean, stats.variance mean =
        ((reported expected max samples).map fun v : Nat => ((v : Rat) - mean) ^ 2).sum /
          ((number - 1 : Nat) : Rat)) ∧
      ((List.range stats.popcount).map stats.valueAt).flatMap
        (fun (v, n) => List.replicate n v) = reported expected max samples := by
  obtain ⟨stats, done, holds, seen⟩ := correct_of_steps steps ended positive enough
  refine ⟨stats, done, ?_, fun several mean => ?_, ?_⟩
  · rw [holds.mean, seen]
  · rw [holds.variance several, seen]
  · rw [holds.valueAt, seen]

/-- Every response of every thread is a sample of the latency histogram or a timeout. -/
theorem complete_of_threads {plan : Plan} (undelayed : plan.delay = false)
    (single : plan.pipeline = 1) {threads : List (Config Thread Connection)}
    (ran : ∀ thread ∈ threads, ∃ events now opened,
      Steps (Serves plan) events (threadMain plan now opened) thread)
    (steps : Steps (Moves record) count
      (recorders max (threads.map fun thread => thread.shared.latencies)) last)
    (ended : last.Ended (Moves record)) :
    last.shared.count + (last.locals.map Recorder.timeouts).sum =
      (threads.map fun thread => thread.shared.complete).sum := by
  obtain ⟨shared, timeouts⟩ := shared_of_steps steps ended
  obtain ⟨recorded, -⟩ := recordAll_recorded (recorded_alloc max)
    (threads.map fun thread => thread.shared.latencies).flatten
  have complete : threads.map (fun thread => thread.shared.complete) =
      (threads.map fun thread => thread.shared.latencies).map List.length := by
    rw [List.map_map]
    refine List.map_congr_left fun thread member => ?_
    obtain ⟨events, now, opened, served⟩ := ran thread member
    exact (complete_of_steps undelayed served).2 single
  have split : ∀ lists : List (List Nat),
      (lists.flatten.filter (· < max + 1)).length +
        (lists.map fun own => own.countP (max < ·)).sum = (lists.map List.length).sum := by
    intro lists
    induction lists with
    | nil => rfl
    | cons own lists induction =>
        have each := List.length_eq_countP_add_countP (fun v : Nat => v < max + 1) (l := own)
        have others : own.countP (fun v => ¬ decide (v < max + 1) = true) = own.countP (max < ·) :=
          List.countP_congr fun v _ => by simp
        simp only [List.flatten_cons, List.filter_append, List.length_append, List.map_cons,
          List.sum_cons, ← List.countP_eq_length_filter] at induction ⊢
        omega
  rw [shared, recorded.count, timeouts, complete, List.nil_append]
  exact split (threads.map fun thread => thread.shared.latencies)

end

/-- The corrected report after two threads with a race on the bounds. -/
theorem percentile_of_steps_raced :
    ∃ stats : Stats, raced.shared.correct 11 1 = some stats ∧
      (∀ v, stats.data v = (corrected 1 (keptSamples 10 [[3, 99], [5]])).count v) ∧
      ∀ rank, 0 < rank →
        stats.percentile rank = (reported 1 10 [[3, 99], [5]])[rank - 1]?.getD 0 := by
  obtain ⟨-, stats, done, -, data, percentile, -⟩ :=
    percentile_of_steps steps_raced ended_raced Nat.one_pos (by decide : 10 < 11)
  exact ⟨stats, done, data, percentile⟩

/-- One thread records the latency of its only response. -/
theorem complete_of_threads_answeredOnce :
    let recorded : Config Stats Recorder :=
      ⟨⟨1, 11, 5, 5, Function.update (fun _ => 0) 5 1⟩, [⟨.call, [], 0⟩]⟩
    recorded.shared.count + (recorded.locals.map Recorder.timeouts).sum =
      ([answeredOnce].map fun thread => thread.shared.complete).sum := by
  intro recorded
  have schedule : [0, 0, 0, 0, 0, 0, 0, 0, 0, 0].foldlM (Config.act record)
      (recorders 10 ([answeredOnce].map fun thread => thread.shared.latencies)) =
        some recorded := rfl
  have ended : recorded.Ended (Moves record) := by
    intro l member
    simp only [recorded, List.mem_singleton] at member
    subst member
    exact fun _ _ move => by contradiction
  have undelayed : singleRequest.delay = false := rfl
  refine complete_of_threads undelayed rfl (fun thread member => ?_)
    (steps_of_schedule schedule) ended
  rw [List.mem_singleton.mp member]
  exact ⟨4, 0, [true], steps_answeredOnce⟩

theorem summary_of_steps_raced :
    let number := (corrected 1 (keptSamples 10 [[3, 99], [5]])).length
    ∃ stats : Stats, raced.shared.correct 11 1 = some stats ∧
      stats.mean = ((reported 1 10 [[3, 99], [5]]).sum % 2 ^ 64 : Nat) / number ∧
      (2 ≤ number → ∀ mean, stats.variance mean =
        ((reported 1 10 [[3, 99], [5]]).map fun v : Nat => ((v : Rat) - mean) ^ 2).sum /
          ((number - 1 : Nat) : Rat)) ∧
      ((List.range stats.popcount).map stats.valueAt).flatMap
        (fun (v, n) => List.replicate n v) = reported 1 10 [[3, 99], [5]] :=
  summary_of_steps steps_raced ended_raced Nat.one_pos (by decide)

end LoadGenerator
