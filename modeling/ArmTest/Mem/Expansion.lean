import ArmTest.Linux.Rendering
import ArmTest.Mem.Multicore
import ArmTest.Shell.Arithmetic

/-!
# Expansion of a rendering

`set_multicore` reads the rendering of the processors of node 0 back with a loop over each range.
The loop counts with the 64-bit numbers of the shell, and ends unless a range ends with the greatest
of them.
-/

namespace Mem

open Shell Linux

/-! ## The loop of the shell -/

/-- The loop over a range, with what it appends to `node_arr`.  There is no result while the rounds
do not suffice. -/
def rangeLoop (last : Int) : Nat → Int → Option (List Text)
  | 0, i => if i ≤ last then none else some []
  | rounds + 1, i =>
      if i ≤ last then
        (rangeLoop last rounds (wrap (i + 1))).map fun rest => integer i :: rest
      else
        some []

/-- What an entry of `ranges` appends. -/
def shellRange (rounds : Nat) (range : Text) : Option (List Text) :=
  if '-' ∈ range then
    let first := wrap (shellNat (beforeLast '-' range))
    let last := wrap (shellNat (behindFirst '-' range))
    rangeLoop last rounds first
  else some [range]

/-- The loop over `ranges`. -/
def shellRanges (rounds : Nat) : List Text → Option (List Text)
  | [] => some []
  | range :: ranges => do
      let front ← shellRange rounds range
      let back ← shellRanges rounds ranges
      return front ++ back

/-- The array `node_arr`, when a loop over a range has the given rounds. -/
def shellNodeArr (rounds : Nat) (cpulist : Text) : Option (List Text) :=
  if cpulist = [] then some [] else shellRanges rounds (cpulist.splitOn ',')

/-- Numbers below the greatest number of the shell are counted through. -/
theorem rangeLoop_eq {first last rounds : Nat} (fits : last < 2 ^ 63 - 1)
    (enough : last + 1 - first ≤ rounds) :
    rangeLoop last rounds first = some ((List.range' first (last + 1 - first)).map decimal) := by
  induction rounds generalizing first with
  | zero =>
      have outside : ¬ (first : Int) ≤ last := by omega
      have none_left : last + 1 - first = 0 := by omega
      rw [rangeLoop, if_neg outside, none_left]
      rfl
  | succ rounds induction =>
      by_cases inside : first ≤ last
      · have next : wrap ((first : Int) + 1) = ((first + 1 : Nat) : Int) := by
          rw [wrap_of_fits (by omega) (by omega)]
          rfl
        have size : last + 1 - first = last + 1 - (first + 1) + 1 := by omega
        rw [rangeLoop, if_pos (by omega), next, induction (by omega), size, List.range'_succ]
        rfl
      · have none_left : last + 1 - first = 0 := by omega
        rw [rangeLoop, if_neg (by omega), none_left]
        rfl

/-- No number is behind the greatest one. -/
theorem rangeLoop_greatest {first : Int} (fits : first < 2 ^ 63) (rounds : Nat) :
    rangeLoop (2 ^ 63 - 1) rounds first = none := by
  induction rounds generalizing first with
  | zero => rw [rangeLoop, if_pos (by omega)]
  | succ rounds induction =>
      have wrapped : wrap (first + 1) < 2 ^ 63 := Int.bmod_lt (by omega)
      rw [rangeLoop, if_pos (by omega), induction wrapped]
      rfl

theorem shellRange_text {segment : Segment} {rounds : Nat} (long : segment.Long)
    (fits : segment.last < 2 ^ 63 - 1) (enough : segment.last < rounds) :
    shellRange rounds segment.text = some (segment.list.map decimal) := by
  cases segment with
  | one cpu => exact if_neg (not_mem_decimal rfl)
  | range first last =>
      have order : first < last := long
      have small : last < 2 ^ 63 - 1 := fits
      have bound : last < rounds := enough
      rw [shellRange, if_pos (Segment.dash_mem_text_range first last), beforeLast_dash,
        behindFirst_dash, shellNat_decimal, shellNat_decimal,
        wrap_of_fits (by omega) (by omega), wrap_of_fits (by omega) (by omega)]
      exact rangeLoop_eq small (by omega)

theorem shellRanges_text {segments : List Segment} {rounds : Nat}
    (long : ∀ segment ∈ segments, segment.Long)
    (fits : ∀ segment ∈ segments, segment.last < 2 ^ 63 - 1)
    (enough : ∀ segment ∈ segments, segment.last < rounds) :
    shellRanges rounds (segments.map Segment.text) = some ((listed segments).map decimal) := by
  induction segments with
  | nil => rfl
  | cons segment segments induction =>
      rw [List.forall_mem_cons] at long fits enough
      have here := shellRange_text long.1 fits.1 enough.1
      have later := induction long.2 fits.2 enough.2
      rw [List.map_cons, shellRanges, here, later, listed_cons, List.map_append]
      rfl

/-! ## Sets of processors -/

/-- The processors of a set in increasing order, each once. -/
def Lists (set : Finset Nat) (array : List Text) : Prop :=
  ∃ cpus : List Nat,
    array = cpus.map decimal ∧ cpus.Pairwise (· < ·) ∧ ∀ cpu, cpu ∈ cpus ↔ cpu ∈ set

section

variable {set : Finset Nat} {segments : List Segment}

theorem ne_nil_of_renders (nonempty : set.Nonempty) (renders : Renders set segments) :
    segments ≠ [] := by
  rintro rfl
  obtain ⟨cpu, inside⟩ := nonempty
  obtain ⟨segment, member, -⟩ := (renders.covers cpu).mpr inside
  exact List.not_mem_nil member

/-- The last processor of an entry belongs to the set. -/
theorem last_mem (renders : Renders set segments) {segment : Segment}
    (member : segment ∈ segments) : segment.last ∈ set := by
  have order := (renders.long segment member).first_le_last
  exact (renders.covers _).mp ⟨segment, member, Segment.mem_cpus.mpr ⟨order, Nat.le_refl _⟩⟩

theorem lists_nodeArr (nonempty : set.Nonempty) (renders : Renders set segments) :
    Lists set (nodeArr (cpuString segments)) := by
  refine ⟨listed segments, nodeArr_cpuString (ne_nil_of_renders nonempty renders),
    listed_increasing renders.increasing, fun cpu => ?_⟩
  rw [mem_listed, renders.covers]

/-- On processors below the greatest number the shell computes the array. -/
theorem shellNodeArr_eq (nonempty : set.Nonempty) (renders : Renders set segments)
    (fits : ∀ cpu ∈ set, cpu < 2 ^ 63 - 1) {rounds : Nat} (enough : ∀ cpu ∈ set, cpu < rounds) :
    shellNodeArr rounds (cpuString segments) = some (nodeArr (cpuString segments)) := by
  have some_entry := ne_nil_of_renders nonempty renders
  rw [nodeArr_cpuString some_entry, shellNodeArr, if_neg (cpuString_ne_nil some_entry),
    splitOn_cpuString some_entry]
  exact shellRanges_text renders.long (fun _ member => fits _ (last_mem renders member))
    fun _ member => enough _ (last_mem renders member)

/-- A set of processors has one rendering, and the range loop expands it to the processors of the
set in increasing order; on 64-bit numbers the loop ends with them. -/
theorem expands_rendering (nonempty : set.Nonempty) :
    (∃! segments, Renders set segments) ∧
      ∀ segments, Renders set segments →
        Lists set (nodeArr (cpuString segments)) ∧
          ((∀ cpu ∈ set, cpu < 2 ^ 63 - 1) → ∃ enough, ∀ rounds, enough ≤ rounds →
            shellNodeArr rounds (cpuString segments) = some (nodeArr (cpuString segments))) := by
  refine ⟨existsUnique_renders set, fun segments renders => ?_⟩
  refine ⟨lists_nodeArr nonempty renders, fun fits => ⟨set.max' nonempty + 1, ?_⟩⟩
  intro rounds large
  apply shellNodeArr_eq nonempty renders fits
  intro cpu inside
  exact (Nat.lt_succ_of_le (set.le_max' cpu inside)).trans_le large

end

/-- Three processors, a gap and one more. -/
theorem renders_gap : Renders {0, 1, 2, 5} [.range 0 2, .one 5] := by
  refine Canonical.renders ⟨?_, ?_⟩ fun cpu => ?_
  · simp [Segment.Long]
  · simp [Segment.last, Segment.first]
  · rw [← mem_listed]
    simp [listed, Segment.list, List.range']

theorem expands_rendering_gap :
    Lists {0, 1, 2, 5} (nodeArr "0-2,5") ∧ ∃ enough, ∀ rounds, enough ≤ rounds →
      shellNodeArr rounds "0-2,5" = some ["0".toList, "1".toList, "2".toList, "5".toList] := by
  have nonempty : Finset.Nonempty {0, 1, 2, 5} := ⟨0, by simp⟩
  have text : cpuString [.range 0 2, .one 5] = "0-2,5".toList := rfl
  obtain ⟨-, expands⟩ := expands_rendering nonempty
  obtain ⟨lists, ends⟩ := expands _ renders_gap
  rw [text] at lists ends
  exact ⟨lists, ends (by simp)⟩

end Mem
