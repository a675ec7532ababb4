import ArmTest.Concurrency.Threads
import ArmTest.Wrk.Correction
import Mathlib.Algebra.Order.SuccPred
import Mathlib.Data.List.Fold
import Mathlib.Data.Nat.SuccPred

/-!
# Recording without a lock

The threads of the load generator share their histograms and take no lock: counters are raised by
atomic additions, and the two bounds are moved by comparing and exchanging until they are right.
Every interleaving ends, and it ends with the histogram that recording the samples one after the
other gives.
-/

namespace LoadGenerator

open Concurrency

/-! ## One thread -/

/-- Where a thread stands in `stats_record`, with the local variables `n`, `min` and `max`. -/
inductive Point where
  | call
  | addCount (n : Nat)
  | loadMin (n : Nat)
  | loadMax (n min : Nat)
  | lowerMin (n min max : Nat)
  | raiseMax (n max : Nat)
  deriving DecidableEq

/-- A thread with the samples that it still has to record, and its `errors.timeout`. -/
structure Recorder where
  point : Point
  samples : List Nat
  timeouts : Nat
  deriving DecidableEq

/-- The next access of a thread in `stats_record`, or its next comparison. -/
def record : Recorder → Stats → Option (Recorder × Stats)
  | ⟨.call, [], _⟩, _ => none
  | ⟨.call, n :: samples, timeouts⟩, stats =>
      if stats.limit ≤ n then some (⟨.call, samples, timeouts + 1⟩, stats)
      else
        some (⟨.addCount n, samples, timeouts⟩,
          { stats with data := Function.update stats.data n (stats.data n + 1) })
  | ⟨.addCount n, samples, timeouts⟩, stats =>
      some (⟨.loadMin n, samples, timeouts⟩, { stats with count := stats.count + 1 })
  | ⟨.loadMin n, samples, timeouts⟩, stats =>
      some (⟨.loadMax n stats.min, samples, timeouts⟩, stats)
  | ⟨.loadMax n min, samples, timeouts⟩, stats =>
      some (⟨.lowerMin n min stats.max, samples, timeouts⟩, stats)
  | ⟨.lowerMin n min max, samples, timeouts⟩, stats =>
      if n < min then
        -- the exchange returns what it has found, and takes place if that is `min`
        some (⟨.lowerMin n stats.min max, samples, timeouts⟩,
          { stats with min := if stats.min = min then n else stats.min })
      else some (⟨.raiseMax n max, samples, timeouts⟩, stats)
  | ⟨.raiseMax n max, samples, timeouts⟩, stats =>
      if max < n then
        some (⟨.raiseMax n stats.max, samples, timeouts⟩,
          { stats with max := if stats.max = max then n else stats.max })
      else some (⟨.call, samples, timeouts⟩, stats)

/-- The steps of a thread, with what they do to the histogram. -/
inductive Access : Recorder → Stats → Recorder → Stats → Prop
  | refuse {n timeouts : Nat} {samples : List Nat} {stats : Stats} (overdue : stats.limit ≤ n) :
      Access ⟨.call, n :: samples, timeouts⟩ stats ⟨.call, samples, timeouts + 1⟩ stats
  | addData {n timeouts : Nat} {samples : List Nat} {stats : Stats} (inside : n < stats.limit) :
      Access ⟨.call, n :: samples, timeouts⟩ stats ⟨.addCount n, samples, timeouts⟩
        { stats with data := Function.update stats.data n (stats.data n + 1) }
  | addCount {n timeouts : Nat} {samples : List Nat} {stats : Stats} :
      Access ⟨.addCount n, samples, timeouts⟩ stats ⟨.loadMin n, samples, timeouts⟩
        { stats with count := stats.count + 1 }
  | loadMin {n timeouts : Nat} {samples : List Nat} {stats : Stats} :
      Access ⟨.loadMin n, samples, timeouts⟩ stats ⟨.loadMax n stats.min, samples, timeouts⟩ stats
  | loadMax {n min timeouts : Nat} {samples : List Nat} {stats : Stats} :
      Access ⟨.loadMax n min, samples, timeouts⟩ stats
        ⟨.lowerMin n min stats.max, samples, timeouts⟩ stats
  | lowerMin {n max timeouts : Nat} {samples : List Nat} {stats : Stats} (less : n < stats.min) :
      Access ⟨.lowerMin n stats.min max, samples, timeouts⟩ stats
        ⟨.lowerMin n stats.min max, samples, timeouts⟩ { stats with min := n }
  | missMin {n min max timeouts : Nat} {samples : List Nat} {stats : Stats} (less : n < min)
      (moved : stats.min ≠ min) :
      Access ⟨.lowerMin n min max, samples, timeouts⟩ stats
        ⟨.lowerMin n stats.min max, samples, timeouts⟩ stats
  | leaveMin {n min max timeouts : Nat} {samples : List Nat} {stats : Stats} (right : min ≤ n) :
      Access ⟨.lowerMin n min max, samples, timeouts⟩ stats ⟨.raiseMax n max, samples, timeouts⟩
        stats
  | raiseMax {n timeouts : Nat} {samples : List Nat} {stats : Stats} (more : stats.max < n) :
      Access ⟨.raiseMax n stats.max, samples, timeouts⟩ stats
        ⟨.raiseMax n stats.max, samples, timeouts⟩ { stats with max := n }
  | missMax {n max timeouts : Nat} {samples : List Nat} {stats : Stats} (more : max < n)
      (moved : stats.max ≠ max) :
      Access ⟨.raiseMax n max, samples, timeouts⟩ stats ⟨.raiseMax n stats.max, samples, timeouts⟩
        stats
  | leaveMax {n max timeouts : Nat} {samples : List Nat} {stats : Stats} (right : n ≤ max) :
      Access ⟨.raiseMax n max, samples, timeouts⟩ stats ⟨.call, samples, timeouts⟩ stats

section

variable {l l' : Recorder} {stats stats' : Stats}

theorem access_of_record (step : record l stats = some (l', stats')) :
    Access l stats l' stats' := by
  obtain ⟨point, samples, timeouts⟩ := l
  cases point with
  | call =>
      cases samples with
      | nil => contradiction
      | cons n samples =>
          rw [record] at step
          split at step
          next overdue =>
            cases step
            exact .refuse overdue
          next inside =>
            cases step
            exact .addData (Nat.lt_of_not_le inside)
  | addCount n =>
      cases step
      exact .addCount
  | loadMin n =>
      cases step
      exact .loadMin
  | loadMax n min =>
      cases step
      exact .loadMax
  | lowerMin n min max =>
      rw [record] at step
      split at step
      next less =>
        cases step
        split
        next same =>
          subst same
          exact .lowerMin less
        next moved => exact .missMin less moved
      next right =>
        cases step
        exact .leaveMin (Nat.le_of_not_lt right)
  | raiseMax n max =>
      rw [record] at step
      split at step
      next more =>
        cases step
        split
        next same =>
          subst same
          exact .raiseMax more
        next moved => exact .missMax more moved
      next right =>
        cases step
        exact .leaveMax (Nat.le_of_not_lt right)

/-! ## Local variables -/

/-- A local copy of a bound was right once, and the bounds only move apart. -/
def Recorder.Sound (stats : Stats) (l : Recorder) : Prop :=
  match l.point with
  | .call => True
  | .addCount n => n < stats.limit
  | .loadMin n => n < stats.limit
  | .loadMax n min => n < stats.limit ∧ stats.min ≤ min
  | .lowerMin n min max => n < stats.limit ∧ stats.min ≤ min ∧ max ≤ stats.max
  | .raiseMax n max => n < stats.limit ∧ stats.min ≤ n ∧ max ≤ stats.max

/-- What holds of the histogram at any time. -/
structure Stats.Sound (size : Nat) (stats : Stats) : Prop where
  limit : stats.limit = size
  min : stats.min ≤ uint64Max
  max : stats.max < size

theorem Recorder.Sound.mono (limit : stats'.limit = stats.limit) (lower : stats'.min ≤ stats.min)
    (upper : stats.max ≤ stats'.max) (sound : l.Sound stats) : l.Sound stats' := by
  obtain ⟨point, samples, timeouts⟩ := l
  cases point with
  | call => trivial
  | addCount n => exact lt_of_lt_of_eq sound limit.symm
  | loadMin n => exact lt_of_lt_of_eq sound limit.symm
  | loadMax n min => exact ⟨lt_of_lt_of_eq sound.1 limit.symm, lower.trans sound.2⟩
  | lowerMin n min max =>
      exact ⟨lt_of_lt_of_eq sound.1 limit.symm, lower.trans sound.2.1, sound.2.2.trans upper⟩
  | raiseMax n max =>
      exact ⟨lt_of_lt_of_eq sound.1 limit.symm, lower.trans sound.2.1, sound.2.2.trans upper⟩

/-- A step keeps the limit, and moves the bounds only apart. -/
theorem Access.bounds (access : Access l stats l' stats') :
    stats'.limit = stats.limit ∧ stats'.min ≤ stats.min ∧ stats.max ≤ stats'.max := by
  cases access with
  | lowerMin less => exact ⟨rfl, less.le, le_rfl⟩
  | raiseMax more => exact ⟨rfl, le_rfl, more.le⟩
  | _ => exact ⟨rfl, le_rfl, le_rfl⟩

theorem Access.sound {size : Nat} (access : Access l stats l' stats')
    (memory : stats.Sound size) (sound : l.Sound stats) :
    stats'.Sound size ∧ l'.Sound stats' := by
  obtain ⟨limited, lower, upper⟩ := memory
  cases access with
  | refuse => exact ⟨⟨limited, lower, upper⟩, trivial⟩
  | addData inside => exact ⟨⟨limited, lower, upper⟩, inside⟩
  | addCount => exact ⟨⟨limited, lower, upper⟩, sound⟩
  | loadMin => exact ⟨⟨limited, lower, upper⟩, sound, le_rfl⟩
  | loadMax => exact ⟨⟨limited, lower, upper⟩, sound.1, sound.2, le_rfl⟩
  | lowerMin less =>
      exact ⟨⟨limited, less.le.trans lower, upper⟩, sound.1, less.le, sound.2.2⟩
  | missMin => exact ⟨⟨limited, lower, upper⟩, sound.1, le_rfl, sound.2.2⟩
  | leaveMin right =>
      exact ⟨⟨limited, lower, upper⟩, sound.1, sound.2.1.trans right, sound.2.2⟩
  | raiseMax more =>
      exact ⟨⟨limited, lower, lt_of_lt_of_eq sound.1 limited⟩, sound.1, sound.2.1, more.le⟩
  | missMax => exact ⟨⟨limited, lower, upper⟩, sound.1, sound.2.1, le_rfl⟩
  | leaveMax => exact ⟨⟨limited, lower, upper⟩, trivial⟩

/-! ## What a thread still contributes -/

/-- The samples of which a thread has not yet raised `data`. -/
def Recorder.ahead (size : Nat) (l : Recorder) : List Nat := l.samples.filter (· < size)

/-- The samples of which a thread has not yet raised `count`. -/
def Recorder.uncounted (size : Nat) (l : Recorder) : Nat :=
  match l.point with
  | .addCount _ => (l.ahead size).length + 1
  | _ => (l.ahead size).length

/-- The samples of which a thread has not yet compared both bounds. -/
def Recorder.unbounded (size : Nat) (l : Recorder) : List Nat :=
  match l.point with
  | .call => l.ahead size
  | .addCount n => n :: l.ahead size
  | .loadMin n => n :: l.ahead size
  | .loadMax n _ => n :: l.ahead size
  | .lowerMin n _ _ => n :: l.ahead size
  | .raiseMax n _ => n :: l.ahead size

def Recorder.least (size : Nat) (l : Recorder) : Nat := (l.unbounded size).foldr min uint64Max

def Recorder.greatest (size : Nat) (l : Recorder) : Nat := (l.unbounded size).foldr max 0

variable {size : Nat}

theorem Access.data (access : Access l stats l' stats') (memory : stats.Sound size) :
    (fun v => (l'.ahead size).count v) + stats'.data =
      (fun v => (l.ahead size).count v) + stats.data := by
  cases access with
  | refuse overdue =>
      rw [memory.limit] at overdue
      simp [Recorder.ahead, Nat.not_lt.mpr overdue]
  | @addData n timeouts samples stats inside =>
      rw [memory.limit] at inside
      funext v
      simp only [Recorder.ahead, List.filter_cons, inside, decide_true, if_true, Pi.add_apply,
        List.count_cons, Function.update_apply]
      rcases eq_or_ne v n with rfl | other
      · simp only [BEq.rfl, if_true]
        omega
      · simp [other, other.symm]
  | _ => rfl

theorem Access.count (access : Access l stats l' stats') (memory : stats.Sound size) :
    l'.uncounted size + stats'.count = l.uncounted size + stats.count := by
  cases access with
  | refuse overdue =>
      rw [memory.limit] at overdue
      simp [Recorder.uncounted, Recorder.ahead, Nat.not_lt.mpr overdue]
  | addData inside =>
      rw [memory.limit] at inside
      simp [Recorder.uncounted, Recorder.ahead, inside]
  | addCount =>
      simp only [Recorder.uncounted, Recorder.ahead]
      omega
  | _ => rfl

theorem Access.least (access : Access l stats l' stats') (memory : stats.Sound size)
    (sound : l.Sound stats) : min (l'.least size) stats'.min = min (l.least size) stats.min := by
  cases access with
  | refuse overdue =>
      rw [memory.limit] at overdue
      simp [Recorder.least, Recorder.unbounded, Recorder.ahead, Nat.not_lt.mpr overdue]
  | addData inside =>
      rw [memory.limit] at inside
      simp [Recorder.least, Recorder.unbounded, Recorder.ahead, inside]
  | lowerMin less =>
      simp only [Recorder.least, Recorder.unbounded, List.foldr_cons]
      omega
  | leaveMax =>
      have lower := sound.2.1
      simp only [Recorder.least, Recorder.unbounded, Recorder.ahead, List.foldr_cons]
      omega
  | _ => rfl

theorem Access.greatest (access : Access l stats l' stats') (memory : stats.Sound size)
    (sound : l.Sound stats) :
    max (l'.greatest size) stats'.max = max (l.greatest size) stats.max := by
  cases access with
  | refuse overdue =>
      rw [memory.limit] at overdue
      simp [Recorder.greatest, Recorder.unbounded, Recorder.ahead, Nat.not_lt.mpr overdue]
  | addData inside =>
      rw [memory.limit] at inside
      simp [Recorder.greatest, Recorder.unbounded, Recorder.ahead, inside]
  | raiseMax more =>
      simp only [Recorder.greatest, Recorder.unbounded, List.foldr_cons]
      omega
  | leaveMax right =>
      have upper := sound.2.2
      simp only [Recorder.greatest, Recorder.unbounded, Recorder.ahead, List.foldr_cons]
      omega
  | _ => rfl

theorem Access.timeouts (access : Access l stats l' stats') (memory : stats.Sound size) :
    l'.timeouts + l'.samples.countP (size ≤ ·) = l.timeouts + l.samples.countP (size ≤ ·) := by
  cases access with
  | refuse overdue =>
      rw [memory.limit] at overdue
      simp only [List.countP_cons, overdue, decide_true, if_true]
      omega
  | addData inside =>
      rw [memory.limit] at inside
      simp [Nat.not_le.mpr inside]
  | _ => rfl

/-! ## Progress -/

/-- The steps of a thread until it ends, when no other thread moves a bound. -/
def Recorder.cost (stats : Stats) (l : Recorder) : Nat :=
  8 * l.samples.length + match l.point with
    | .call => 0
    | .addCount _ => 7
    | .loadMin _ => 6
    | .loadMax _ _ => 5
    | .lowerMin _ min _ => if stats.min = min then 3 else 4
    | .raiseMax _ max => if stats.max = max then 1 else 2

/-- How often a thread can still move a bound. -/
def Recorder.weight (stats : Stats) (l : Recorder) : Nat :=
  2 * l.samples.length + match l.point with
    | .call => 0
    | .lowerMin n _ _ => if n < stats.min then 2 else 1
    | .raiseMax n _ => if stats.max < n then 1 else 0
    | _ => 2

theorem Recorder.weight_le {stats stats' : Stats} (lower : stats'.min ≤ stats.min)
    (upper : stats.max ≤ stats'.max) (k : Recorder) : k.weight stats' ≤ k.weight stats := by
  obtain ⟨point, samples, timeouts⟩ := k
  cases point with
  | lowerMin n min max =>
      simp only [Recorder.weight]
      split <;> split <;> omega
  | raiseMax n max =>
      simp only [Recorder.weight]
      split <;> split <;> omega
  | _ => exact le_rfl

theorem Recorder.cost_le (stats stats' : Stats) (k : Recorder) :
    k.cost stats' ≤ k.cost stats + 1 := by
  obtain ⟨point, samples, timeouts⟩ := k
  cases point with
  | lowerMin n min max =>
      simp only [Recorder.cost]
      split <;> split <;> omega
  | raiseMax n max =>
      simp only [Recorder.cost]
      split <;> split <;> omega
  | _ => exact Nat.le_succ _

/-- A step brings its thread forward, or it moves a bound. -/
theorem Access.works (access : Access l stats l' stats') (sound : l.Sound stats) :
    (l'.weight stats' ≤ l.weight stats ∧ l'.cost stats' < l.cost stats ∧
      ∀ k : Recorder, k.cost stats' = k.cost stats) ∨
    (l'.weight stats' < l.weight stats ∧ l'.cost stats' ≤ l.cost stats + 1 ∧
      ∀ k : Recorder, k.cost stats' ≤ k.cost stats + 1) := by
  cases access with
  | lowerMin less =>
      refine Or.inr ⟨?_, Recorder.cost_le _ _ _, Recorder.cost_le _ _⟩
      simp only [Recorder.weight, less, if_true, lt_irrefl, if_false]
      omega
  | raiseMax more =>
      refine Or.inr ⟨?_, Recorder.cost_le _ _ _, Recorder.cost_le _ _⟩
      simp only [Recorder.weight, more, if_true, lt_irrefl, if_false]
      omega
  | refuse =>
      refine Or.inl ⟨?_, ?_, fun _ => rfl⟩
      · simp only [Recorder.weight, List.length_cons]
        omega
      · simp only [Recorder.cost, List.length_cons]
        omega
  | addData =>
      refine Or.inl ⟨?_, ?_, fun _ => rfl⟩
      · simp only [Recorder.weight, List.length_cons]
        omega
      · simp only [Recorder.cost, List.length_cons]
        omega
  | addCount => exact Or.inl ⟨le_rfl, Nat.lt_succ_self _, fun _ => rfl⟩
  | loadMin => exact Or.inl ⟨le_rfl, Nat.lt_succ_self _, fun _ => rfl⟩
  | loadMax =>
      refine Or.inl ⟨?_, ?_, fun _ => rfl⟩
      · simp only [Recorder.weight]
        split <;> omega
      · simp only [Recorder.cost]
        split <;> omega
  | missMin less moved =>
      refine Or.inl ⟨le_rfl, ?_, fun _ => rfl⟩
      simp only [Recorder.cost, moved, if_true, if_false]
      omega
  | leaveMin =>
      refine Or.inl ⟨?_, ?_, fun _ => rfl⟩
      · simp only [Recorder.weight]
        split <;> split <;> omega
      · simp only [Recorder.cost]
        split <;> split <;> omega
  | missMax more moved =>
      refine Or.inl ⟨le_rfl, ?_, fun _ => rfl⟩
      simp only [Recorder.cost, moved, if_true, if_false]
      omega
  | leaveMax =>
      refine Or.inl ⟨?_, ?_, fun _ => rfl⟩
      · simp only [Recorder.weight]
        split <;> omega
      · simp only [Recorder.cost]
        split <;> omega

end

/-! ## Interleavings -/

/-- The threads before the run, each with its samples. -/
def recorders (longest : Nat) (samples : List (List Nat)) : Config Stats Recorder where
  shared := statsAlloc longest
  locals := samples.map fun own => ⟨.call, own, 0⟩

section

variable {longest : Nat} {samples : List (List Nat)} {count : Nat} {last : Config Stats Recorder}

/-- What holds at any time of any interleaving. -/
def Sound (longest : Nat) (config : Config Stats Recorder) : Prop :=
  config.Each (Stats.Sound (longest + 1)) fun stats l => l.Sound stats

theorem sound_recorders : Sound longest (recorders longest samples) := by
  refine ⟨⟨rfl, le_rfl, Nat.succ_pos longest⟩, fun l member => ?_⟩
  obtain ⟨own, -, rfl⟩ := List.mem_map.mp member
  trivial

section

variable {before after : Config Stats Recorder} (step : Step (Moves record) before after)
  (sound : Sound longest before)

include step sound

theorem sound_step : Sound longest after :=
  step.each (fun access memory own => (access_of_record access).sound memory own)
    (fun access _ _ _ other =>
      have bounds := (access_of_record access).bounds
      other.mono bounds.1 bounds.2.1 bounds.2.2) sound

theorem total_step {M : Type} {op : M → M → M} [LeftCommutative op] {memory : Stats → M}
    {pending : Recorder → M}
    (same : ∀ {l stats l' stats'}, Access l stats l' stats' → stats.Sound (longest + 1) →
      l.Sound stats → op (pending l') (memory stats') = op (pending l) (memory stats)) :
    after.total op memory pending = before.total op memory pending :=
  step.total_eq (fun access memory own => same (access_of_record access) memory own) sound

theorem timeouts_step :
    after.locals.map (fun l => l.timeouts + l.samples.countP (longest + 1 ≤ ·)) =
      before.locals.map fun l => l.timeouts + l.samples.countP (longest + 1 ≤ ·) :=
  step.map_eq (fun access memory => (access_of_record access).timeouts memory) sound

theorem measure_step : after.measure Recorder.weight Recorder.cost <
    before.measure Recorder.weight Recorder.cost :=
  step.measure_lt (fun access _ own =>
    have bounds := (access_of_record access).bounds
    ⟨Recorder.weight_le bounds.2.1 bounds.2.2, (access_of_record access).works own⟩) sound

end

/-- No thread can hold another one up forever: the threads together take at most `2 * T + 10` steps
for each sample, where `T` is the number of threads. -/
theorem length_le_of_steps (steps : Steps (Moves record) count (recorders longest samples) last) :
    count ≤ (2 * samples.length + 10) * samples.flatten.length := by
  have bound := steps.length_le sound_step measure_step sound_recorders
  have start : ∀ (factor : Nat) (measured : Recorder → Nat),
      (∀ own, measured ⟨.call, own, 0⟩ = factor * own.length) →
        ((recorders longest samples).locals.map measured).sum =
          factor * samples.flatten.length := by
    intro factor measured each
    rw [recorders, List.map_map, List.length_flatten, ← List.sum_map_mul_left]
    exact congrArg List.sum (List.map_congr_left fun own _ => each own)
  have whole : (recorders longest samples).measure Recorder.weight Recorder.cost =
      (2 * samples.length + 10) * samples.flatten.length := by
    rw [Config.measure, start 2 _ fun _ => rfl, start 8 _ fun _ => rfl, recorders,
      List.length_map]
    ring
  omega

theorem ended_recorder {stats : Stats} {l : Recorder}
    (ended : ∀ l' stats', ¬ Moves record l stats l' stats') : l = ⟨.call, [], l.timeouts⟩ := by
  have ended : record l stats = none :=
    Option.eq_none_iff_forall_ne_some.mpr fun access => ended _ _
  obtain ⟨point, samples, timeouts⟩ := l
  cases point with
  | call =>
      cases samples with
      | nil => rfl
      | cons n samples =>
          rw [record] at ended
          split at ended <;> contradiction
  | addCount => contradiction
  | loadMin => contradiction
  | loadMax => contradiction
  | lowerMin =>
      rw [record] at ended
      split at ended <;> contradiction
  | raiseMax =>
      rw [record] at ended
      split at ended <;> contradiction

/-- Threads that have ended contribute nothing. -/
theorem total_ended {M : Type} {op : M → M → M} {memory : Stats → M} {pending : Recorder → M}
    {none : M} (neutral : ∀ timeouts, pending ⟨.call, [], timeouts⟩ = none)
    (ended : last.Ended (Moves record)) (idle : op none (memory last.shared) = memory last.shared) :
    last.total op memory pending = memory last.shared := by
  obtain ⟨stats, locals⟩ := last
  simp only [Config.total]
  simp only [Config.Ended] at ended
  induction locals with
  | nil => rfl
  | cons l locals induction =>
      have own := ended_recorder (ended l List.mem_cons_self)
      rw [List.map_cons, List.foldr_cons,
        induction (fun k member => ended k (List.mem_cons_of_mem l member)) idle, own, neutral]
      exact idle

/-- What all threads contribute at the start, when it is the contribution of each sample. -/
theorem total_recorders {M : Type} {op : M → M → M} {memory : Stats → M} {pending : Recorder → M}
    {gather : List Nat → M} (own : ∀ values, pending ⟨.call, values, 0⟩ = gather values)
    (nothing : gather [] = memory (statsAlloc longest))
    (joined : ∀ values others, op (gather values) (gather others) = gather (values ++ others)) :
    (recorders longest samples).total op memory pending = gather samples.flatten := by
  simp only [Config.total, recorders]
  induction samples with
  | nil => exact nothing.symm
  | cons values samples induction =>
      simp only [List.map_cons, List.foldr_cons, induction, own, joined, List.flatten_cons]

/-- What each sample contributes has reached the memory once all threads have ended. -/
theorem gathered_of_steps {M : Type} (op : M → M → M) [LeftCommutative op] (memory : Stats → M)
    (pending : Recorder → M) (gather : List Nat → M)
    (same : ∀ {l stats l' stats'}, Access l stats l' stats' → stats.Sound (longest + 1) →
      l.Sound stats → op (pending l') (memory stats') = op (pending l) (memory stats))
    (own : ∀ values timeouts, pending ⟨.call, values, timeouts⟩ = gather values)
    (nothing : gather [] = memory (statsAlloc longest))
    (idle : op (gather []) (memory last.shared) = memory last.shared)
    (joined : ∀ values others, op (gather values) (gather others) = gather (values ++ others))
    (steps : Steps (Moves record) count (recorders longest samples) last)
    (ended : last.Ended (Moves record)) :
    memory last.shared = gather samples.flatten := by
  have kept := steps.conserved sound_step (fun step sound => total_step step sound same)
    sound_recorders
  rw [total_ended (own []) ended idle, total_recorders (fun values => own values 0) nothing joined]
    at kept
  exact kept

theorem foldr_min_of_le (values : List Nat) {start : Nat} (small : start ≤ uint64Max) :
    values.foldr min start = min (values.foldr min uint64Max) start := by
  induction values with
  | nil => exact (min_eq_right small).symm
  | cons n values induction => rw [List.foldr_cons, List.foldr_cons, induction, min_assoc]

theorem foldr_max_eq (values : List Nat) (start : Nat) :
    values.foldr max start = max (values.foldr max 0) start := by
  induction values with
  | nil => exact (Nat.zero_max start).symm
  | cons n values induction => rw [List.foldr_cons, List.foldr_cons, induction, max_assoc]

theorem foldr_min_le (values : List Nat) : values.foldr min uint64Max ≤ uint64Max := by
  induction values with
  | nil => exact le_rfl
  | cons n values induction => exact (min_le_right _ _).trans induction

/-- However the threads are interleaved, once all have ended the histogram is the one that
recording all samples one after the other gives, and each thread has counted the samples refused
to it as timeouts. -/
theorem shared_of_steps (steps : Steps (Moves record) count (recorders longest samples) last)
    (ended : last.Ended (Moves record)) :
    last.shared = recordAll (statsAlloc longest) samples.flatten ∧
      last.locals.map Recorder.timeouts = samples.map fun own => own.countP (longest < ·) := by
  have sound := steps.invariant sound_step sound_recorders
  have data : last.shared.data =
      fun v => (samples.flatten.filter (· < longest + 1)).count v :=
    gathered_of_steps (fun f g : Nat → Nat => f + g) Stats.data
      (fun l v => (l.ahead (longest + 1)).count v)
      (fun values v => (values.filter (· < longest + 1)).count v)
      (fun access memory _ => access.data memory) (fun _ _ => rfl) rfl
      (by funext v; simp) (fun values others => by funext v; simp) steps ended
  have counted : last.shared.count = (samples.flatten.filter (· < longest + 1)).length :=
    gathered_of_steps (fun f g : Nat => f + g) Stats.count (Recorder.uncounted (longest + 1))
      (fun values => (values.filter (· < longest + 1)).length)
      (fun access memory _ => access.count memory) (fun _ _ => rfl) rfl (by simp)
      (fun values others => by simp) steps ended
  have lower : last.shared.min = (samples.flatten.filter (· < longest + 1)).foldr min uint64Max :=
    gathered_of_steps min Stats.min (Recorder.least (longest + 1))
      (fun values => (values.filter (· < longest + 1)).foldr min uint64Max)
      (fun access => access.least) (fun _ _ => rfl) rfl (min_eq_right sound.1.min)
      (fun values others => by
        rw [List.filter_append, List.foldr_append, ← foldr_min_of_le _ (foldr_min_le _)])
      steps ended
  have upper : last.shared.max = (samples.flatten.filter (· < longest + 1)).foldr max 0 :=
    gathered_of_steps max Stats.max (Recorder.greatest (longest + 1))
      (fun values => (values.filter (· < longest + 1)).foldr max 0)
      (fun access => access.greatest) (fun _ _ => rfl) rfl (Nat.zero_max _)
      (fun values others => by
        rw [List.filter_append, List.foldr_append, ← foldr_max_eq])
      steps ended
  constructor
  · obtain ⟨recorded, limit⟩ := recordAll_recorded (recorded_alloc longest) samples.flatten
    refine Stats.Recorded.unique ⟨fun i => by rw [data], counted, ?_, ?_⟩ recorded (.refl _)
      (sound.1.limit.trans limit.symm)
    · rw [lower, List.foldl_eq_foldr]
    · rw [upper, List.foldl_eq_foldr]
  · have kept := steps.conserved sound_step timeouts_step sound_recorders
    have idle : last.locals.map (fun l => l.timeouts + l.samples.countP (longest + 1 ≤ ·)) =
        last.locals.map Recorder.timeouts := by
      refine List.map_congr_left fun l member => ?_
      rw [ended_recorder (ended l member)]
      rfl
    rw [← idle, kept, recorders, List.map_map]
    refine List.map_congr_left fun own _ => ?_
    simp

end

/-- Two threads have compared their samples with the bounds at the same time. -/
def raced : Config Stats Recorder where
  shared := ⟨2, 11, 3, 5, Function.update (Function.update (fun _ => 0) 3 1) 5 1⟩
  locals := [⟨.call, [], 1⟩, ⟨.call, [], 0⟩]

theorem steps_raced : Steps (Moves record) 21 (recorders 10 [[3, 99], [5]]) raced := by
  have ran : [0, 1, 0, 1, 0, 1, 0, 1, 1, 0, 0, 0, 0, 1, 1, 1, 1, 0, 0, 0, 1].foldlM
      (Config.act record) (recorders 10 [[3, 99], [5]]) = some raced := rfl
  exact steps_of_schedule ran

theorem ended_raced : raced.Ended (Moves record) := by
  intro l member
  simp only [raced, List.mem_cons, List.not_mem_nil, or_false] at member
  rcases member with rfl | rfl <;> exact fun _ _ move => by contradiction

theorem length_le_of_steps_raced :
    21 ≤ (2 * [[3, 99], [5]].length + 10) * [[3, 99], [5]].flatten.length :=
  length_le_of_steps steps_raced

theorem shared_of_steps_raced :
    raced.shared = recordAll (statsAlloc 10) [[3, 99], [5]].flatten ∧
      raced.locals.map Recorder.timeouts = [[3, 99], [5]].map fun own => own.countP (10 < ·) :=
  shared_of_steps steps_raced ended_raced

end LoadGenerator
