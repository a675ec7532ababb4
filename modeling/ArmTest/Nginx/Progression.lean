import Mathlib.Order.Bounds.Basic
import ArmTest.Nginx.Points
import ArmTest.Shell.Arithmetic

/-!
# The numbers of processors of a sweep

The shell doubles 64-bit numbers.  On counts below 62 bits no doubling wraps around, the loop ends
at the least power of two above the count, and comparing it with twice the count tells whether one
more test point is due.  From 62 bits on the loop would pass through zero and stay there.
-/

namespace Nginx

open Shell

/-! ## The loop of the shell -/

/-- The doubling loop on the numbers of the shell: the values seen by its body and the value left
behind, if the given rounds suffice to end it. -/
def shellLoop (count : Int) : Nat → Int → Option (List Int × Int)
  | 0, core => if core ≤ count then none else some ([], core)
  | rounds + 1, core =>
      if core ≤ count then
        (shellLoop count rounds (wrap (core * 2))).map fun rest => (core :: rest.1, rest.2)
      else
        some ([], core)

/-- As long as the count has at most 62 bits, the shell computes the loop without wrapping. -/
theorem shellLoop_eq {count rounds core : Nat} (fits : count < 2 ^ 62)
    (enough : count < core * 2 ^ rounds) :
    shellLoop count rounds core =
      some ((coreLoop count rounds core).1.map fun value : Nat => (value : Int),
        ((coreLoop count rounds core).2 : Int)) := by
  induction rounds generalizing core with
  | zero =>
      have outside : ¬ (core : Int) ≤ count := by
        rw [pow_zero, mul_one] at enough
        omega
      rw [shellLoop, if_neg outside]
      rfl
  | succ rounds induction =>
      by_cases inside : core ≤ count
      · have doubled : wrap ((core : Int) * 2) = ((core * 2 : Nat) : Int) := by
          rw [wrap_of_fits (by omega) (by omega)]
          push_cast
          rfl
        rw [shellLoop, if_pos (by omega), doubled, induction (enough_after_doubling enough),
          coreLoop, if_pos inside]
        rfl
      · rw [shellLoop, if_neg (by omega), coreLoop, if_neg inside]
        rfl

/-- A loop that never leaves the values up to the count never ends. -/
theorem shellLoop_eq_none {count : Int} {Visited : Int → Prop}
    (below : ∀ core, Visited core → core ≤ count)
    (kept : ∀ core, Visited core → Visited (wrap (core * 2))) (rounds : Nat) {core : Int}
    (visited : Visited core) : shellLoop count rounds core = none := by
  induction rounds generalizing core with
  | zero => rw [shellLoop, if_pos (below core visited)]
  | succ rounds induction =>
      rw [shellLoop, if_pos (below core visited), induction (kept core visited)]
      rfl

/-- The values that doubling leads to when nothing stops it. -/
def DoubledForever (core : Int) : Prop :=
  (∃ exponent : Nat, exponent < 63 ∧ core = 2 ^ exponent) ∨ core = -2 ^ 63 ∨ core = 0

/-- Counts of 63 bits keep the loop running: the power of two above them does not fit. -/
theorem shellLoop_wide {count : Int} (wide : 2 ^ 62 ≤ count) (rounds : Nat) :
    shellLoop count rounds 1 = none := by
  have start : DoubledForever 1 := Or.inl ⟨0, by omega, rfl⟩
  refine shellLoop_eq_none ?_ ?_ rounds start
  · rintro core (⟨exponent, small, rfl⟩ | rfl | rfl)
    · have bounded : (2 : Int) ^ exponent ≤ 2 ^ 62 := pow_le_pow_right₀ one_le_two (by omega)
      omega
    · omega
    · omega
  · rintro core (⟨exponent, small, rfl⟩ | rfl | rfl)
    · by_cases last : exponent = 62
      · subst last
        exact Or.inr (Or.inl (by decide))
      · obtain ⟨positive, bounded⟩ := two_pow_fits (show exponent + 1 < 63 by omega)
        refine Or.inl ⟨exponent + 1, by omega, ?_⟩
        rw [← pow_succ, wrap_of_fits (by omega) bounded]
    · exact Or.inr (Or.inr (by decide))
    · exact Or.inr (Or.inr (by decide))

/-! ## The value left behind -/

/-- The number of doublings is determined by the count. -/
theorem steps_unique {count steps others : Nat} (below : ∀ i < steps, 2 ^ i ≤ count)
    (above : count < 2 ^ steps) (belowOthers : ∀ i < others, 2 ^ i ≤ count)
    (aboveOthers : count < 2 ^ others) : steps = others := by
  rcases Nat.lt_trichotomy steps others with less | same | more
  · have reached := belowOthers steps less
    omega
  · exact same
  · have reached := below others more
    omega

/-- Rounds that suffice give the result of the sweep. -/
theorem coreLoop_eq_coreSweep {count rounds : Nat} (enough : count < 2 ^ rounds) :
    coreLoop count rounds 1 = coreSweep count := by
  have started : count < 1 * 2 ^ rounds := by rwa [one_mul]
  obtain ⟨steps, loop, below, above⟩ := coreLoop_spec started
  obtain ⟨others, sweep, belowOthers, aboveOthers⟩ := coreSweep_spec count
  simp only [one_mul] at loop below above
  rw [loop, sweep, steps_unique below above belowOthers aboveOthers]

/-- Twice the count is the value left behind exactly if the count is a power of two. -/
theorem double_eq_left_iff (count : Nat) :
    count * 2 = (coreSweep count).2 ↔ count.isPowerOfTwo := by
  obtain ⟨steps, sweep, below, above⟩ := coreSweep_spec count
  rw [sweep]
  constructor
  · intro same
    cases steps with
    | zero => omega
    | succ steps => exact ⟨steps, by rw [pow_succ] at same; omega⟩
  · rintro ⟨exponent, rfl⟩
    have next : ∀ i < exponent + 1, 2 ^ i ≤ 2 ^ exponent := by
      intro i bound
      exact Nat.pow_le_pow_right Nat.two_pos (by omega)
    have beyond : 2 ^ exponent < 2 ^ (exponent + 1) :=
      Nat.pow_lt_pow_right Nat.one_lt_two (Nat.lt_succ_self exponent)
    rw [steps_unique below above next beyond, pow_succ]

/-- What the loop and the test behind it do on a count. -/
structure Doubles (count : Nat) : Prop where
  /-- The loop ends and sees the values of the sweep. -/
  ends : ∀ rounds, 62 ≤ rounds → shellLoop count rounds 1 =
    some ((coreSweep count).1.map fun value : Nat => (value : Int), ((coreSweep count).2 : Int))
  /-- It leaves the least power of two above the count behind. -/
  least : IsLeast {core : Nat | core.isPowerOfTwo ∧ count < core} (coreSweep count).2
  /-- The test succeeds on the counts that are not powers of two. -/
  test : wrap ((count : Int) * 2) ≠ ((coreSweep count).2 : Int) ↔ ¬ count.isPowerOfTwo

theorem doubles_of_fits {count : Nat} (fits : count < 2 ^ 62) : Doubles count := by
  refine ⟨fun rounds wide => ?_, ⟨?_, ?_⟩, ?_⟩
  · have enough : count < 2 ^ rounds :=
      fits.trans_le (Nat.pow_le_pow_right Nat.two_pos wide)
    have started : count < 1 * 2 ^ rounds := by rwa [one_mul]
    have looped := shellLoop_eq fits started
    rwa [coreLoop_eq_coreSweep enough] at looped
  · obtain ⟨steps, sweep, -, above⟩ := coreSweep_spec count
    rw [sweep]
    exact ⟨⟨steps, rfl⟩, above⟩
  · rintro core ⟨⟨exponent, rfl⟩, larger⟩
    obtain ⟨steps, sweep, below, -⟩ := coreSweep_spec count
    rw [sweep]
    by_contra smaller
    have less : exponent < steps := (Nat.pow_lt_pow_iff_right Nat.one_lt_two).mp (not_le.mp smaller)
    have reached := below exponent less
    omega
  · rw [wrap_of_fits (by omega) (by omega), ← double_eq_left_iff]
    omega

/-! ## The masks of a sweep -/

/-- The masks in a configuration. -/
def masks (conf : List Text) : List Text := (directiveArgs "worker_cpu_affinity" conf).flatten

/-- The numbers of masks at the points of a sweep. -/
def maskCounts (points : List (Nat × List Text)) : List Nat :=
  points.map fun point => (masks point.2).length

/-- The powers of two up to a positive count. -/
def powersUpTo (count : Nat) : List Nat := (List.range (Nat.log 2 count + 1)).map fun i => 2 ^ i

/-- The points of a sweep take ever more processors of the list, and all of them at the end. -/
structure Progresses (cpus : List Nat) (points : List (Nat × List Text)) : Prop where
  /-- The masks are those of the first processors. -/
  first : ∀ point ∈ points, masks point.2 = (cpus.take (masks point.2).length).map mask
  /-- On a power of two the numbers are the powers of two. -/
  power : cpus.length.isPowerOfTwo → maskCounts points = powersUpTo cpus.length
  /-- On other counts the whole list follows them. -/
  other : ¬ cpus.length.isPowerOfTwo →
    maskCounts points = powersUpTo cpus.length ++ [cpus.length]
  /-- The numbers increase. -/
  increasing : (maskCounts points).Pairwise (· < ·)
  /-- The last number is that of the whole list. -/
  last : (maskCounts points).getLast? = some cpus.length

theorem masks_point (mode : Mode) (cpus : List Nat) (core : Nat) :
    masks (render ⟨mode.gzip, .count core, some (.cpus (cpus.take core))⟩) =
      (cpus.take core).map mask := by
  rw [masks, directiveArgs_masks rfl rfl, List.flatten_singleton]

theorem maskCounts_sweepPoints (mode : Mode) (cpus : List Nat) :
    maskCounts (sweepPoints mode cpus) =
      (sweepCores cpus.length).map fun core => min core cpus.length := by
  simp only [maskCounts, sweepPoints, List.map_map, Function.comp_def, masks_point,
    List.length_map, List.length_take]

theorem coreSweep_of_pos {count : Nat} (positive : 1 ≤ count) :
    coreSweep count = (powersUpTo count, 2 ^ (Nat.log 2 count + 1)) := by
  obtain ⟨steps, sweep, below, above⟩ := coreSweep_spec count
  have reached : ∀ i < Nat.log 2 count + 1, 2 ^ i ≤ count := by
    intro i bound
    exact Nat.pow_le_of_le_log (by omega) (by omega)
  have beyond : count < 2 ^ (Nat.log 2 count + 1) := Nat.lt_pow_succ_log_self Nat.one_lt_two count
  rw [sweep, steps_unique below above reached beyond]
  rfl

theorem le_of_mem_powersUpTo {count core : Nat} (positive : 1 ≤ count)
    (member : core ∈ powersUpTo count) : core ≤ count := by
  obtain ⟨i, inside, rfl⟩ := List.mem_map.mp member
  have bound := List.mem_range.mp inside
  exact Nat.pow_le_of_le_log (by omega) (by omega)

/-- The powers of two are visited as they are, and a last point takes all processors. -/
theorem min_sweepCores {count : Nat} (positive : 1 ≤ count) :
    ((sweepCores count).map fun core => min core count) =
      powersUpTo count ++ if count * 2 ≠ (coreSweep count).2 then [count] else [] := by
  have sweep := coreSweep_of_pos positive
  have kept : ((powersUpTo count).map fun core => min core count) = powersUpTo count := by
    nth_rewrite 2 [← List.map_id (powersUpTo count)]
    apply List.map_congr_left
    intro core member
    exact min_eq_left (le_of_mem_powersUpTo positive member)
  have beyond : count ≤ 2 ^ (Nat.log 2 count + 1) :=
    (Nat.lt_pow_succ_log_self Nat.one_lt_two count).le
  rw [sweepCores, List.map_append, sweep, kept]
  split
  · rw [List.map_singleton, min_eq_right beyond]
  · rfl

theorem pairwise_powersUpTo (count : Nat) : (powersUpTo count).Pairwise (· < ·) := by
  rw [powersUpTo, List.pairwise_map]
  exact List.pairwise_lt_range.imp fun less => Nat.pow_lt_pow_right Nat.one_lt_two less

theorem getLast?_powersUpTo (count : Nat) :
    (powersUpTo count).getLast? = some (2 ^ Nat.log 2 count) := by
  rw [powersUpTo, List.range_succ, List.map_append, List.map_singleton, List.getLast?_concat]

/-- The points of a sweep over a nonempty list. -/
theorem progresses_sweepPoints (mode : Mode) {cpus : List Nat} (positive : 1 ≤ cpus.length) :
    Progresses cpus (sweepPoints mode cpus) := by
  have counts := (maskCounts_sweepPoints mode cpus).trans (min_sweepCores positive)
  have first : ∀ point ∈ sweepPoints mode cpus,
      masks point.2 = (cpus.take (masks point.2).length).map mask := by
    intro point member
    obtain ⟨core, -, rfl⟩ := List.mem_map.mp member
    rw [masks_point, List.length_map, List.length_take, ← List.take_eq_take_min]
  by_cases isPower : cpus.length.isPowerOfTwo
  · have visited : maskCounts (sweepPoints mode cpus) = powersUpTo cpus.length := by
      rw [counts, if_neg (not_not.mpr ((double_eq_left_iff _).mpr isPower)), List.append_nil]
    refine ⟨first, fun _ => visited, fun none => absurd isPower none, ?_, ?_⟩
    · rw [visited]
      exact pairwise_powersUpTo _
    · obtain ⟨exponent, same⟩ := isPower
      rw [visited, getLast?_powersUpTo, same, Nat.log_pow Nat.one_lt_two]
  · have visited : maskCounts (sweepPoints mode cpus) =
        powersUpTo cpus.length ++ [cpus.length] := by
      rw [counts, if_pos fun same => isPower ((double_eq_left_iff _).mp same)]
    refine ⟨first, fun some => absurd some isPower, fun _ => visited, ?_, ?_⟩
    · rw [visited, List.pairwise_append]
      refine ⟨pairwise_powersUpTo _, List.pairwise_singleton _ _, ?_⟩
      intro core member whole last
      rw [List.mem_singleton.mp last]
      have below := le_of_mem_powersUpTo positive member
      obtain ⟨i, -, rfl⟩ := List.mem_map.mp member
      exact lt_of_le_of_ne below fun same => isPower ⟨i, same.symm⟩
    · rw [visited, List.getLast?_concat]

/-- The doubling loop ends at the least power of two above the count, its test tells the counts
that are not powers of two, and a sweep takes the powers of two and then all processors. -/
theorem sweep_progression {count : Nat} (fits : count < 2 ^ 62) :
    Doubles count ∧
      (1 ≤ count → ∀ (topology : Topology) (place : Place) (mode : Mode) (state : ServerState),
        place.Present topology → (place.cpus topology).length = count →
          Progresses (place.cpus topology) (sweepConfs topology place mode state)) := by
  refine ⟨doubles_of_fits fits, ?_⟩
  rintro positive topology place mode state present rfl
  rw [sweepConfs_eq present]
  exact progresses_sweepPoints mode positive

theorem sweep_progression_threeCpus :
    Doubles 3 ∧ Progresses [0, 1, 2]
      (sweepConfs (oneNode [0, 1, 2]) (.node 0) .httpshort ⟨nginxConf, none⟩) := by
  have fits : 3 < 2 ^ 62 := by decide
  obtain ⟨doubles, sweeps⟩ := sweep_progression fits
  exact ⟨doubles, sweeps (by decide) (oneNode [0, 1, 2]) (.node 0) .httpshort _ Nat.one_pos rfl⟩

end Nginx
