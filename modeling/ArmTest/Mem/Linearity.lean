import ArmTest.Shell.Arithmetic
import ArmTest.Shell.Text
import Mathlib.Data.List.Range

/-!
# The linearity loop

`stream.sh` measures growing numbers of threads.  The loop has no bound of its own: the size is a
power of two as long as that power is below sixteen, and grows by four from then on.
-/

namespace Mem

open Shell

/-! ## The program -/

/-- The variable `THREAD_SIZE` behind the first test, or an error. -/
def nextThreadSize (i threadSize : Int) : Option Int := do
  let limit ← power 2 i
  if limit < 16 then power 2 i else some (wrap (threadSize + 4))

/-- The sizes that the loop runs, and whether it ends with `break` rather than with an error.
There is no result while the rounds do not suffice. -/
def linearity (numCores : Nat) : Nat → Int → Int → Option (List Int × Bool)
  | 0, _, _ => none
  | rounds + 1, i, threadSize =>
      match nextThreadSize i threadSize with
      | none => some ([], false)
      | some threadSize =>
          if threadSize > numCores then some ([], true)
          else
            (linearity numCores rounds (wrap (i + 1)) threadSize).map fun rest =>
              (threadSize :: rest.1, rest.2)

/-- The sizes that the loop is meant to run. -/
def expectedSizes (numCores : Nat) : List Int :=
  ([1, 2, 4, 8].filter fun size => size ≤ (numCores : Int)) ++
    (List.range' 3 (numCores / 4 - 2)).map fun k : Nat => 4 * (k : Int)

/-- The loop ends with `break` and has run the sizes that it is meant to run. -/
def CoversSizes (numCores : Nat) : Prop :=
  ∃ rounds, linearity numCores rounds 0 0 = some (expectedSizes numCores, true)

/-! ## Rounds -/

theorem nextThreadSize_doubling {i : Nat} (threadSize : Int) (small : i < 4) :
    nextThreadSize i threadSize = some (2 ^ i) := by
  have low : (2 : Int) ^ i < 2 ^ 4 := Int.pow_lt_pow_of_lt (by omega) small
  rw [nextThreadSize, power_two (by omega)]
  exact if_pos low

theorem nextThreadSize_adding {i : Nat} {threadSize : Int} (large : 4 ≤ i) (fits : i < 63)
    (low : 0 ≤ threadSize) (high : threadSize < 2 ^ 62) :
    nextThreadSize i threadSize = some (threadSize + 4) := by
  have bound : (2 : Int) ^ 4 ≤ 2 ^ i := pow_le_pow_right₀ (by omega) large
  have limit : ¬ (2 : Int) ^ i < 16 := by omega
  have kept : wrap (threadSize + 4) = threadSize + 4 := wrap_of_fits (by omega) (by omega)
  rw [nextThreadSize, power_two fits]
  refine (if_neg limit).trans ?_
  rw [kept]

/-- The round in which the power does not fit. -/
theorem nextThreadSize_overflow (threadSize : Int) :
    nextThreadSize 63 threadSize = some (-2 ^ 63) := by
  rw [nextThreadSize, power_two_overflow]
  rfl

variable {numCores : Nat}

theorem linearity_break {i threadSize size : Int} (next : nextThreadSize i threadSize = some size)
    (enough : (numCores : Int) < size) (rounds : Nat) :
    linearity numCores (rounds + 1) i threadSize = some ([], true) := by
  rw [linearity, next]
  exact if_pos enough

theorem linearity_round {i : Nat} {threadSize size : Int}
    (next : nextThreadSize i threadSize = some size) (left : size ≤ numCores) (fits : i < 64)
    (rounds : Nat) :
    linearity numCores (rounds + 1) i threadSize =
      (linearity numCores rounds ((i + 1 : Nat) : Int) size).map fun rest =>
        (size :: rest.1, rest.2) := by
  have counted : wrap ((i : Int) + 1) = ((i + 1 : Nat) : Int) := by
    rw [wrap_of_fits (by omega) (by omega)]
    rfl
  rw [linearity, next]
  simp only [if_neg (not_lt.mpr left), counted]

/-! ## Steps of four -/

/-- As long as no power overflows, the loop adds four until the size is too large. -/
theorem linearity_adding (bounded : numCores ≤ 243) (count : Nat) {k : Nat} (large : 3 ≤ k)
    (below : k ≤ 61) (left : numCores / 4 + 1 - k = count) :
    linearity numCores (count + 1) ((k + 1 : Nat) : Int) (4 * (k : Int) - 4) =
      some ((List.range' k count).map fun k : Nat => 4 * (k : Int), true) := by
  have next : nextThreadSize ((k + 1 : Nat) : Int) (4 * (k : Int) - 4) =
      some (4 * (k : Int)) := by
    rw [nextThreadSize_adding (by omega) (by omega) (by omega) (by omega)]
    exact congrArg some (by omega)
  induction count generalizing k with
  | zero => exact linearity_break next (by omega) 0
  | succ count induction =>
      have following := induction (k := k + 1) (by omega) (by omega) (by omega) (by
        rw [nextThreadSize_adding (by omega) (by omega) (by omega) (by omega)]
        exact congrArg some (by omega))
      have size : 4 * ((k + 1 : Nat) : Int) - 4 = 4 * (k : Int) := by omega
      rw [size] at following
      rw [linearity_round next (by omega) (by omega), following, List.range'_succ]
      rfl

/-- The first four rounds double the size. -/
theorem linearity_doubling (enough : 8 ≤ numCores) (rounds : Nat) :
    linearity numCores (rounds + 4) 0 0 =
      (linearity numCores rounds ((4 : Nat) : Int) 8).map fun rest =>
        (1 :: 2 :: 4 :: 8 :: rest.1, rest.2) := by
  have first : linearity numCores (rounds + 4) 0 0 =
      (linearity numCores (rounds + 3) 1 1).map fun rest => (1 :: rest.1, rest.2) :=
    linearity_round (nextThreadSize_doubling (i := 0) 0 (by omega)) (by omega) (by omega) _
  have second : linearity numCores (rounds + 3) 1 1 =
      (linearity numCores (rounds + 2) 2 2).map fun rest => (2 :: rest.1, rest.2) :=
    linearity_round (nextThreadSize_doubling (i := 1) 1 (by omega)) (by omega) (by omega) _
  have third : linearity numCores (rounds + 2) 2 2 =
      (linearity numCores (rounds + 1) 3 4).map fun rest => (4 :: rest.1, rest.2) :=
    linearity_round (nextThreadSize_doubling (i := 2) 2 (by omega)) (by omega) (by omega) _
  have fourth : linearity numCores (rounds + 1) 3 4 =
      (linearity numCores rounds 4 8).map fun rest => (8 :: rest.1, rest.2) :=
    linearity_round (nextThreadSize_doubling (i := 3) 4 (by omega)) (by omega) (by omega) _
  rw [first, second, third, fourth]
  simp only [Option.map_map]
  rfl

/-- A socket with fewer than eight processors ends the loop while it doubles. -/
theorem coversSizes_few (populated : 1 ≤ numCores) (few : numCores < 8) : CoversSizes numCores := by
  have cases : numCores = 1 ∨ numCores = 2 ∨ numCores = 3 ∨ numCores = 4 ∨ numCores = 5 ∨
      numCores = 6 ∨ numCores = 7 := by omega
  rcases cases with rfl | rfl | rfl | rfl | rfl | rfl | rfl
  · exact ⟨2, rfl⟩
  · exact ⟨3, rfl⟩
  · exact ⟨3, rfl⟩
  · exact ⟨4, rfl⟩
  · exact ⟨4, rfl⟩
  · exact ⟨4, rfl⟩
  · exact ⟨4, rfl⟩

theorem coversSizes_many (enough : 8 ≤ numCores) (bounded : numCores ≤ 243) :
    CoversSizes numCores := by
  have adding := linearity_adding bounded (numCores / 4 - 2) (Nat.le_refl 3) (by omega) (by omega)
  have doubled : [1, 2, 4, 8].filter (fun size => size ≤ (numCores : Int)) = [1, 2, 4, 8] := by
    simp only [List.filter_eq_self, List.forall_mem_cons, decide_eq_true_eq]
    refine ⟨by omega, by omega, by omega, by omega, fun _ nothing => ?_⟩
    exact absurd nothing List.not_mem_nil
  refine ⟨numCores / 4 - 2 + 1 + 4, ?_⟩
  rw [linearity_doubling enough, expectedSizes, doubled]
  exact congrArg (Option.map _) adding

/-! ## Overflow -/

/-- A round before the overflow, when a socket has more than 243 processors. -/
theorem nextThreadSize_early (large : 244 ≤ numCores) {i : Nat} {threadSize : Int} (early : i < 63)
    (before : 4 ≤ i → threadSize = 4 * (i : Int) - 8) :
    ∃ size : Int, nextThreadSize i threadSize = some size ∧ size ≤ numCores ∧
      (4 ≤ i + 1 → size = 4 * ((i + 1 : Nat) : Int) - 8) := by
  by_cases doubling : i < 4
  · refine ⟨2 ^ i, nextThreadSize_doubling threadSize doubling, ?_, ?_⟩
    · have low : (2 : Int) ^ i < 2 ^ 4 := Int.pow_lt_pow_of_lt (by omega) doubling
      omega
    · intro last
      have three : i = 3 := by omega
      subst three
      rfl
  · have size := before (by omega)
    refine ⟨threadSize + 4, nextThreadSize_adding (by omega) early (by omega) (by omega), ?_, ?_⟩
    · omega
    · omega

/-- When a socket has more than 243 processors, the loop runs a negative size. -/
theorem exists_negative (large : 244 ≤ numCores) {rounds i : Nat} {threadSize : Int}
    (early : i ≤ 63) (before : 4 ≤ i → threadSize = 4 * (i : Int) - 8) {sizes : List Int}
    {ended : Bool} (run : linearity numCores rounds i threadSize = some (sizes, ended)) :
    ∃ size ∈ sizes, size < 0 := by
  induction rounds generalizing i threadSize sizes ended with
  | zero => contradiction
  | succ rounds induction =>
      by_cases last : i = 63
      · have overflow : nextThreadSize i threadSize = some (-2 ^ 63) := by
          rw [last]
          exact nextThreadSize_overflow threadSize
        rw [linearity_round overflow (by omega) (by omega)] at run
        obtain ⟨rest, -, same⟩ := Option.map_eq_some_iff.mp run
        obtain ⟨rfl, -⟩ := Prod.mk.inj same
        exact ⟨-2 ^ 63, List.mem_cons_self, by omega⟩
      · obtain ⟨size, next, left, after⟩ :=
          nextThreadSize_early large (Nat.lt_of_le_of_ne early last) before
        rw [linearity_round next left (by omega)] at run
        obtain ⟨⟨rest, status⟩, later, same⟩ := Option.map_eq_some_iff.mp run
        obtain ⟨rfl, -⟩ := Prod.mk.inj same
        obtain ⟨negative, member, sign⟩ := induction (by omega) after later
        exact ⟨negative, List.mem_cons_of_mem size member, sign⟩

theorem expectedSizes_positive {size : Int} (member : size ∈ expectedSizes numCores) :
    0 < size := by
  rcases List.mem_append.mp member with doubled | added
  · obtain ⟨listed, -⟩ := List.mem_filter.mp doubled
    simp only [List.mem_cons, List.not_mem_nil, or_false] at listed
    omega
  · obtain ⟨k, inside, rfl⟩ := List.mem_map.mp added
    have start := (List.mem_range'_1.mp inside).1
    omega

theorem not_coversSizes (large : 244 ≤ numCores) : ¬ CoversSizes numCores := by
  rintro ⟨rounds, run⟩
  obtain ⟨size, member, sign⟩ := exists_negative large (i := 0) (by omega) (by omega) run
  exact absurd (expectedSizes_positive member) (by omega)

/-- The loop ends with the sizes that it is meant to run exactly when a socket has at
most 243 processors. -/
theorem coversSizes_iff (populated : 1 ≤ numCores) : CoversSizes numCores ↔ numCores ≤ 243 := by
  constructor
  · intro covers
    by_contra large
    exact not_coversSizes (by omega) covers
  · intro bounded
    by_cases few : numCores < 8
    · exact coversSizes_few populated few
    · exact coversSizes_many (by omega) bounded

/-- A socket with 64 processors. -/
theorem coversSizes_64 : CoversSizes 64 ↔ 64 ≤ 243 := coversSizes_iff (by omega)

/-- A socket with 384 processors. -/
theorem not_coversSizes_384 : ¬ CoversSizes 384 := not_coversSizes (by omega)

end Mem
