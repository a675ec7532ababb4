import ArmTest.Linux.CpuList

/-!
# Processor lists that the kernel prints

The kernel prints a set of processors as its maximal runs.  A run of one processor is printed as
the processor, a longer run as its first and last processor.
-/

namespace Linux

open Shell

/-! ## Entries -/

/-- The processors of an entry in their order. -/
def Segment.list : Segment → List Nat
  | .one cpu => [cpu]
  | .range first last => List.range' first (last + 1 - first)

/-- The processors of a list in the order of its entries. -/
def listed (segments : List Segment) : List Nat := segments.flatMap Segment.list

theorem listed_cons (segment : Segment) (segments : List Segment) :
    listed (segment :: segments) = segment.list ++ listed segments :=
  List.flatMap_cons

/-- The first processor is not behind the last. -/
def Segment.Ordered : Segment → Prop
  | .one _ => True
  | .range first last => first ≤ last

/-- An entry with the processor in front of it. -/
def Segment.extend (cpu : Nat) : Segment → Segment
  | .one other => .range cpu other
  | .range _ last => .range cpu last

theorem Segment.ordered_extend {segment : Segment} {cpu : Nat} (ordered : segment.Ordered)
    (next : segment.first = cpu + 1) : (segment.extend cpu).Ordered := by
  cases segment with
  | one other =>
      have behind : other = cpu + 1 := next
      exact (by omega : cpu ≤ other)
  | range first last =>
      have start : first = cpu + 1 := next
      have order : first ≤ last := ordered
      exact (by omega : cpu ≤ last)

theorem Segment.list_extend {segment : Segment} {cpu : Nat} (ordered : segment.Ordered)
    (next : segment.first = cpu + 1) : (segment.extend cpu).list = cpu :: segment.list := by
  cases segment with
  | one other =>
      have behind : other = cpu + 1 := next
      have count : other + 1 - cpu = 2 := by omega
      rw [Segment.extend, Segment.list, Segment.list, count, behind]
      rfl
  | range first last =>
      have start : first = cpu + 1 := next
      have order : first ≤ last := ordered
      have count : last + 1 - cpu = last + 1 - first + 1 := by omega
      rw [Segment.extend, Segment.list, Segment.list, count, List.range'_succ, start]

/-! ## Runs -/

/-- Maximal runs. -/
def runs : List Nat → List Segment
  | [] => []
  | cpu :: cpus =>
      match runs cpus with
      | [] => [.one cpu]
      | segment :: segments =>
          if segment.first = cpu + 1 then segment.extend cpu :: segments
          else .one cpu :: segment :: segments

/-- The text of a set of processors, given by its increasing list. -/
def cpulist (cpus : List Nat) : Text := cpuString (runs cpus)

/-- Runs are ordered, and expanding them gives the list back. -/
theorem runs_expand (cpus : List Nat) :
    (∀ segment ∈ runs cpus, segment.Ordered) ∧ listed (runs cpus) = cpus := by
  induction cpus with
  | nil => exact ⟨fun _ member => absurd member List.not_mem_nil, rfl⟩
  | cons cpu cpus induction =>
      rw [runs]
      cases rest : runs cpus with
      | nil =>
          rw [rest] at induction
          have empty : cpus = [] := induction.2.symm
          subst empty
          refine ⟨?_, rfl⟩
          intro segment member
          rw [List.mem_singleton.mp member]
          trivial
      | cons segment segments =>
          rw [rest] at induction
          obtain ⟨ordered, expanded⟩ := induction
          have here := ordered segment List.mem_cons_self
          have later : ∀ other ∈ segments, other.Ordered :=
            fun other member => ordered other (List.mem_cons_of_mem segment member)
          dsimp only
          split
          · rename_i next
            refine ⟨?_, ?_⟩
            · rw [List.forall_mem_cons]
              exact ⟨Segment.ordered_extend here next, later⟩
            · rw [listed_cons, Segment.list_extend here next, ← expanded]
              rfl
          · refine ⟨?_, ?_⟩
            · rw [List.forall_mem_cons]
              exact ⟨trivial, ordered⟩
            · rw [listed_cons, expanded]
              rfl

theorem listed_runs (cpus : List Nat) : listed (runs cpus) = cpus := (runs_expand cpus).2

theorem runs_ne_nil {cpus : List Nat} (nonempty : cpus ≠ []) : runs cpus ≠ [] := by
  intro none
  apply nonempty
  rw [← listed_runs cpus, none]
  rfl

theorem Segment.text_ne_nil (segment : Segment) : segment.text ≠ [] := by
  cases segment with
  | one cpu => exact decimal_ne_nil cpu
  | range first last =>
      intro none
      exact decimal_ne_nil first (List.append_eq_nil_iff.mp (List.append_eq_nil_iff.mp none).1).1

theorem cpuString_ne_nil {segments : List Segment} (nonempty : segments ≠ []) :
    cpuString segments ≠ [] := by
  intro none
  have split := splitOn_cpuString nonempty
  rw [none] at split
  have member : [] ∈ segments.map Segment.text := by
    rw [← split]
    exact List.mem_singleton_self []
  obtain ⟨segment, -, empty⟩ := List.mem_map.mp member
  exact segment.text_ne_nil empty

end Linux
