import ArmTest.Linux.Runs
import Mathlib.Data.Finset.Sort
import Mathlib.Data.List.Sort

/-!
# Renderings of sets

A rendering of a set lists its maximal runs in increasing order.  Every set has one rendering, which
consists of the runs of its sorted list.
-/

namespace Linux

/-! ## Bounds of an entry -/

/-- The last processor of an entry. -/
def Segment.last : Segment → Nat
  | .one cpu => cpu
  | .range _ last => last

/-- A range has at least two processors. -/
def Segment.Long : Segment → Prop
  | .one _ => True
  | .range first last => first < last

theorem Segment.Long.first_le_last {segment : Segment} (long : segment.Long) :
    segment.first ≤ segment.last := by
  cases segment with
  | one cpu => exact Nat.le_refl cpu
  | range first last => exact Nat.le_of_lt long

theorem Segment.mem_list {segment : Segment} {cpu : Nat} :
    cpu ∈ segment.list ↔ segment.first ≤ cpu ∧ cpu ≤ segment.last := by
  cases segment with
  | one other =>
      rw [Segment.list, Segment.first, Segment.last, List.mem_singleton]
      omega
  | range first last =>
      rw [Segment.list, Segment.first, Segment.last, List.mem_range'_1]
      omega

theorem Segment.mem_cpus {segment : Segment} {cpu : Nat} :
    cpu ∈ segment.cpus ↔ segment.first ≤ cpu ∧ cpu ≤ segment.last := by
  cases segment with
  | one other =>
      rw [Segment.cpus, Segment.first, Segment.last, Set.mem_singleton_iff]
      omega
  | range first last => exact Set.mem_Icc

/-- The order of a list does not change its set. -/
theorem mem_listed {segments : List Segment} {cpu : Nat} :
    cpu ∈ listed segments ↔ cpu ∈ cpus segments := by
  rw [listed, List.mem_flatMap]
  constructor
  · rintro ⟨segment, member, inside⟩
    exact ⟨segment, member, Segment.mem_cpus.mpr (Segment.mem_list.mp inside)⟩
  · rintro ⟨segment, member, inside⟩
    exact ⟨segment, member, Segment.mem_list.mpr (Segment.mem_cpus.mp inside)⟩

theorem first_mem_listed {segments : List Segment} {segment : Segment}
    (member : segment ∈ segments) (long : segment.Long) : segment.first ∈ listed segments :=
  List.mem_flatMap.mpr
    ⟨segment, member, Segment.mem_list.mpr ⟨Nat.le_refl _, long.first_le_last⟩⟩

/-! ## Order -/

theorem Segment.list_increasing (segment : Segment) : segment.list.Pairwise (· < ·) := by
  cases segment with
  | one cpu => exact List.pairwise_singleton _ _
  | range first last => exact List.pairwise_lt_range'

/-- Entries in increasing order list their processors in increasing order. -/
theorem listed_increasing {segments : List Segment}
    (increasing : segments.Pairwise fun segment other => segment.last < other.first) :
    (listed segments).Pairwise (· < ·) := by
  rw [listed, List.pairwise_flatMap]
  refine ⟨fun segment _ => segment.list_increasing, increasing.imp ?_⟩
  intro segment other before cpu inside cpu' inside'
  calc
    cpu ≤ segment.last := (Segment.mem_list.mp inside).2
    _ < other.first := before
    _ ≤ cpu' := (Segment.mem_list.mp inside').1

/-! ## Canonical lists -/

/-- A processor between two entries is missing. -/
def Segment.ApartFrom (segment other : Segment) : Prop :=
  segment.last + 1 < other.first ∨ other.last + 1 < segment.first

instance : Std.Symm Segment.ApartFrom := ⟨fun _ _ => Or.symm⟩

/-- Between two entries a processor is missing. -/
structure Canonical (segments : List Segment) : Prop where
  /-- Ranges have at least two processors. -/
  long : ∀ segment ∈ segments, segment.Long
  /-- Entries neither overlap nor touch. -/
  apart : segments.Pairwise fun segment other => segment.last + 1 < other.first

theorem Canonical.tail {segment : Segment} {segments : List Segment}
    (canonical : Canonical (segment :: segments)) : Canonical segments :=
  ⟨fun other member => canonical.long other (List.mem_cons_of_mem segment member),
    canonical.apart.of_cons⟩

theorem Canonical.increasing {segments : List Segment} (canonical : Canonical segments) :
    segments.Pairwise fun segment other => segment.last < other.first :=
  canonical.apart.imp fun gap => by omega

/-- A processor that the next run does not continue is a run of its own. -/
theorem runs_cons_far {cpu : Nat} {cpus : List Nat}
    (far : ∀ segment ∈ (runs cpus).head?, segment.first ≠ cpu + 1) :
    runs (cpu :: cpus) = .one cpu :: runs cpus := by
  rw [runs]
  cases rest : runs cpus with
  | nil => rfl
  | cons segment segments =>
      rw [rest] at far
      exact if_neg (far segment rfl)

/-- A processor that the next run continues joins it. -/
theorem runs_cons_near {cpu : Nat} {cpus : List Nat} {segment : Segment}
    {segments : List Segment} (rest : runs cpus = segment :: segments)
    (near : segment.first = cpu + 1) : runs (cpu :: cpus) = segment.extend cpu :: segments := by
  rw [runs, rest]
  exact if_pos near

/-- At least two consecutive processors that the next run does not continue. -/
theorem runs_range'_append {first count : Nat} {cpus : List Nat}
    (far : ∀ segment ∈ (runs cpus).head?, segment.first ≠ first + count + 2) :
    runs (List.range' first (count + 2) ++ cpus) =
      .range first (first + count + 1) :: runs cpus := by
  induction count generalizing first with
  | zero =>
      have alone : runs ((first + 1) :: cpus) = .one (first + 1) :: runs cpus := runs_cons_far far
      exact runs_cons_near alone rfl
  | succ count induction =>
      have later : ∀ segment ∈ (runs cpus).head?, segment.first ≠ first + 1 + count + 2 := by
        intro segment member
        have differs := far segment member
        omega
      have joined := runs_cons_near (induction later) rfl
      rw [List.range'_succ, List.cons_append, joined, Segment.extend]
      congr 2
      omega

theorem runs_list_append {segment : Segment} {cpus : List Nat} (long : segment.Long)
    (far : ∀ other ∈ (runs cpus).head?, other.first ≠ segment.last + 1) :
    runs (segment.list ++ cpus) = segment :: runs cpus := by
  cases segment with
  | one cpu => exact runs_cons_far far
  | range first last =>
      obtain ⟨count, rfl⟩ : ∃ count, last = first + count + 1 := by
        have order : first < last := long
        exact ⟨last - first - 1, by omega⟩
      have size : first + count + 1 + 1 - first = count + 2 := by omega
      rw [Segment.list, size]
      exact runs_range'_append far

/-- Runs of an expanded list are its entries. -/
theorem runs_listed {segments : List Segment} (canonical : Canonical segments) :
    runs (listed segments) = segments := by
  induction segments with
  | nil => rfl
  | cons segment segments induction =>
      have rest := induction canonical.tail
      have far : ∀ other ∈ (runs (listed segments)).head?, other.first ≠ segment.last + 1 := by
        intro other member
        rw [rest] at member
        have gap := (List.pairwise_cons.mp canonical.apart).1 other (List.mem_of_mem_head? member)
        omega
      rw [listed_cons, runs_list_append (canonical.long segment List.mem_cons_self) far, rest]

theorem Segment.last_extend (segment : Segment) (cpu : Nat) :
    (segment.extend cpu).last = segment.last := by
  cases segment <;> rfl

theorem Segment.long_extend {segment : Segment} {cpu : Nat} (long : segment.Long)
    (near : segment.first = cpu + 1) : (segment.extend cpu).Long := by
  have order := long.first_le_last
  cases segment with
  | one other =>
      have behind : other = cpu + 1 := near
      exact (by omega : cpu < other)
  | range first last =>
      have start : first = cpu + 1 := near
      have order : first ≤ last := order
      exact (by omega : cpu < last)

/-- The runs of an increasing list are a canonical list. -/
theorem canonical_runs {cpus : List Nat} (increasing : cpus.Pairwise (· < ·)) :
    Canonical (runs cpus) := by
  induction cpus with
  | nil => exact ⟨fun _ member => absurd member List.not_mem_nil, List.Pairwise.nil⟩
  | cons cpu cpus induction =>
      obtain ⟨least, increasing⟩ := List.pairwise_cons.mp increasing
      have rest := induction increasing
      have behind : ∀ other ∈ runs cpus, cpu < other.first := by
        intro other member
        apply least
        rw [← listed_runs cpus]
        exact first_mem_listed member (rest.long other member)
      cases split : runs cpus with
      | nil =>
          rw [runs, split]
          exact ⟨List.forall_mem_singleton.mpr trivial, List.pairwise_singleton _ _⟩
      | cons segment segments =>
          rw [split] at rest behind
          obtain ⟨gaps, apart⟩ := List.pairwise_cons.mp rest.apart
          have long := rest.long segment List.mem_cons_self
          by_cases near : segment.first = cpu + 1
          · rw [runs_cons_near split near]
            refine ⟨List.forall_mem_cons.mpr ⟨Segment.long_extend long near, rest.tail.long⟩, ?_⟩
            rw [List.pairwise_cons, Segment.last_extend]
            exact ⟨gaps, apart⟩
          · have far : ∀ other ∈ (runs cpus).head?, other.first ≠ cpu + 1 := by
              intro other member
              rw [split, List.head?_cons, Option.mem_some_iff] at member
              rwa [← member]
            rw [runs_cons_far far, split]
            refine ⟨List.forall_mem_cons.mpr ⟨trivial, rest.long⟩, ?_⟩
            refine List.pairwise_cons.mpr ⟨?_, rest.apart⟩
            have start := behind segment List.mem_cons_self
            have order := long.first_le_last
            intro other member
            rcases List.mem_cons.mp member with rfl | later
            · exact (by omega : cpu + 1 < other.first)
            · have gap := gaps other later
              exact (by omega : cpu + 1 < other.first)

/-! ## Renderings -/

/-- The entries are the maximal runs of a set in increasing order. -/
structure Renders (set : Finset Nat) (segments : List Segment) : Prop where
  /-- A run of one processor is not printed as a range. -/
  long : ∀ segment ∈ segments, segment.Long
  /-- Entries stand in increasing order. -/
  increasing : segments.Pairwise fun segment other => segment.last < other.first
  /-- The entries make up the set. -/
  covers : ∀ cpu, cpu ∈ cpus segments ↔ cpu ∈ set
  /-- The processors around an entry are missing. -/
  maximal : ∀ segment ∈ segments, segment.last + 1 ∉ set ∧ ∀ cpu ∈ set, cpu + 1 ≠ segment.first

section

variable {set : Finset Nat} {segments : List Segment}

theorem Renders.canonical (renders : Renders set segments) : Canonical segments := by
  refine ⟨renders.long, List.Pairwise.imp_of_mem ?_ renders.increasing⟩
  intro segment other member member' before
  have inside : other.first ∈ set := by
    rw [← renders.covers, ← mem_listed]
    exact first_mem_listed member' (renders.long other member')
  have missing := (renders.maximal segment member).1
  have differs : other.first ≠ segment.last + 1 := fun same => missing (same ▸ inside)
  omega

/-- Different entries of a canonical list are apart. -/
theorem Canonical.apart_of_mem (canonical : Canonical segments) {segment other : Segment}
    (member : segment ∈ segments) (member' : other ∈ segments) (different : segment ≠ other) :
    segment.ApartFrom other := by
  have apart : segments.Pairwise Segment.ApartFrom := canonical.apart.imp fun gap => Or.inl gap
  exact apart.forall member member' different

/-- Around an entry of a canonical list the processors are missing. -/
theorem Canonical.renders (canonical : Canonical segments)
    (covers : ∀ cpu, cpu ∈ cpus segments ↔ cpu ∈ set) : Renders set segments := by
  refine ⟨canonical.long, canonical.increasing, covers, ?_⟩
  intro segment member
  have order := (canonical.long segment member).first_le_last
  refine ⟨?_, ?_⟩
  · intro inside
    obtain ⟨other, member', inside'⟩ := (covers _).mpr inside
    have bounds := Segment.mem_cpus.mp inside'
    by_cases same : segment = other
    · subst same
      omega
    · rcases canonical.apart_of_mem member member' same with before | behind <;> omega
  · intro cpu inside next
    obtain ⟨other, member', inside'⟩ := (covers _).mpr inside
    have bounds := Segment.mem_cpus.mp inside'
    by_cases same : segment = other
    · subst same
      omega
    · rcases canonical.apart_of_mem member member' same with before | behind <;> omega

/-- A set has one rendering: the runs of its increasing list. -/
theorem renders_iff : Renders set segments ↔ segments = runs set.sort := by
  have increasing : set.sort.Pairwise (· < ·) := set.sortedLT_sort.pairwise
  constructor
  · intro renders
    have sorted : listed segments = set.sort := by
      refine (listed_increasing renders.increasing).eq_of_mem_iff increasing ?_
      intro cpu
      rw [mem_listed, renders.covers, Finset.mem_sort]
    rw [← sorted, runs_listed renders.canonical]
  · rintro rfl
    refine (canonical_runs increasing).renders ?_
    intro cpu
    rw [← mem_listed, listed_runs, Finset.mem_sort]

theorem existsUnique_renders (set : Finset Nat) : ∃! segments, Renders set segments :=
  ⟨runs set.sort, renders_iff.mpr rfl, fun _ renders => renders_iff.mp renders⟩

end

end Linux
