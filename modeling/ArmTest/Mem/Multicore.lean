import ArmTest.Linux.Runs
import ArmTest.Shell.Filter
import Mathlib.Data.List.Nodup
import Mathlib.Tactic.Ring

/-!
# Processors of the multi-core memory test

`set_multicore` walks the processors of node 0 and collects the threads of their cores.  It counts
two processors for every step, whatever the step has added.
-/

namespace Mem

open Shell Linux

/-! ## The program -/

/-- What `set_multicore` reads. -/
structure Sysfs where
  /-- The variable `architecture`. -/
  architecture : Text
  /-- The file `node0/cpulist`. -/
  nodeCpulist : Text
  /-- The files `topology/core_cpus_list` of the processors. -/
  coreCpusList : Text → Text

/-- The processors of an entry of `ranges`. -/
def expandRange (range : Text) : List Text :=
  if '-' ∈ range then
    let first := shellNat (beforeLast '-' range)
    let last := shellNat (behindFirst '-' range)
    (List.range' first (last + 1 - first)).map decimal
  else [range]

/-- The array `node_arr`. -/
def nodeArr (cpulist : Text) : List Text :=
  if cpulist = [] then [] else (cpulist.splitOn ',').flatMap expandRange

/-- The value of a text such as `32-1-1` in a numeric test. -/
def difference (text : Text) : Int :=
  match text.splitOn '-' with
  | [] => 0
  | first :: rest => rest.foldl (fun value word => value - shellNat word) (shellNat first)

/-- The variable `count` behind a step. -/
def countDown (architecture count : Text) : Text :=
  let count := count ++ "-1"
  if architecture = "x86_64".toList then count ++ "-1" else count

/-- The loop over `node_arr`, with the array `cpu_arr`. -/
def cpuArr (sysfs : Sysfs) : Text → List Text → List Text
  | _, [] => []
  | count, i :: nodeArr =>
      let count := countDown sysfs.architecture count
      words (sysfs.coreCpusList i) ++
        if difference count ≤ 0 then [] else cpuArr sysfs count nodeArr

/-- `printf "%s,"` prints a comma when there are no words. -/
def printfCommas (words : List Text) : Text :=
  if words = [] then [','] else words.flatMap fun word => word ++ [',']

/-- The expansion `${name%,}`. -/
def withoutComma (text : Text) : Text :=
  if text.getLast? = some ',' then text.dropLast else text

/-- The variable `multicpu` behind `set_multicore`. -/
def setMulticore (sysfs : Sysfs) : Text :=
  withoutComma (printfCommas (cpuArr sysfs "32" (nodeArr sysfs.nodeCpulist)))

/-! ## Machines -/

/-- Node 0 of a machine with one or two threads on a core. -/
structure Topology where
  /-- The processors of node 0. -/
  node : List Nat
  /-- The threads of the core of a processor. -/
  siblings : Nat → List Nat
  /-- Processors are listed in increasing order. -/
  increasing : node.Pairwise (· < ·)
  /-- Threads are listed in increasing order. -/
  sorted : ∀ cpu ∈ node, (siblings cpu).Pairwise (· < ·)
  /-- A processor is a thread of its core. -/
  own : ∀ cpu ∈ node, cpu ∈ siblings cpu
  /-- Threads of one core have the same threads. -/
  shared : ∀ cpu ∈ node, ∀ other ∈ siblings cpu, siblings other = siblings cpu
  /-- The threads of a core are on one node. -/
  inside : ∀ cpu ∈ node, ∀ other ∈ siblings cpu, other ∈ node
  /-- A core has one or two threads. -/
  threads : ∀ cpu ∈ node, (siblings cpu).length = 1 ∨ (siblings cpu).length = 2

/-- The files describe the machine. -/
structure Sysfs.Describes (sysfs : Sysfs) (topology : Topology) : Prop where
  /-- The processors of node 0. -/
  node : sysfs.nodeCpulist = cpulist topology.node
  /-- The threads of the cores. -/
  cores : ∀ cpu ∈ topology.node,
    sysfs.coreCpusList (decimal cpu) = cpulist (topology.siblings cpu)

/-- A list of 32 different processors of node 0 with whole cores. -/
structure SelectsCores (topology : Topology) (segments : List Segment) : Prop where
  /-- The number of processors. -/
  count : (listed segments).length = 32
  /-- No processor is listed twice. -/
  distinct : (listed segments).Nodup
  /-- The processors are on node 0. -/
  inside : ∀ cpu ∈ listed segments, cpu ∈ topology.node
  /-- All threads of a core are listed. -/
  closed : ∀ cpu ∈ listed segments, ∀ other ∈ topology.siblings cpu, other ∈ listed segments

/-! ## Expanding a list -/

theorem beforeLast_dash (first last : Nat) :
    beforeLast '-' (Segment.range first last).text = decimal first := by
  rw [Segment.text_range, beforeLast_append _ (not_mem_decimal rfl)]

theorem behindFirst_dash (first last : Nat) :
    behindFirst '-' (Segment.range first last).text = decimal last := by
  rw [Segment.text_range, behindFirst_append _ (not_mem_decimal rfl)]

theorem expandRange_text (segment : Segment) :
    expandRange segment.text = segment.list.map decimal := by
  cases segment with
  | one cpu => exact if_neg (not_mem_decimal rfl)
  | range first last =>
      rw [expandRange, if_pos (Segment.dash_mem_text_range first last), beforeLast_dash,
        behindFirst_dash, shellNat_decimal, shellNat_decimal]
      rfl

/-- The range loop lists the processors of the entries. -/
theorem nodeArr_cpuString {segments : List Segment} (nonempty : segments ≠ []) :
    nodeArr (cpuString segments) = (listed segments).map decimal := by
  rw [nodeArr, if_neg (cpuString_ne_nil nonempty), splitOn_cpuString nonempty, List.flatMap_map,
    listed, List.map_flatMap]
  simp only [expandRange_text]

/-! ## Counting -/

theorem difference_append_one (text : Text) : difference (text ++ "-1") = difference text - 1 := by
  have split : (text ++ "-1".toList).splitOn '-' = text.splitOn '-' ++ ["1".toList] :=
    List.splitOnP_append_cons text "1".toList (beq_self_eq_true '-')
  obtain ⟨first, rest, pieces⟩ :=
    List.exists_cons_of_ne_nil (List.splitOnP_ne_nil (· == '-') text)
  have whole : text.splitOn '-' = first :: rest := pieces
  rw [difference, difference, split, whole, List.cons_append]
  simp only [List.foldl_append]
  rfl

/-- How much a step takes off. -/
def stepSize (architecture : Text) : Nat := if architecture = "x86_64".toList then 2 else 1

theorem difference_countDown (architecture count : Text) :
    difference (countDown architecture count) = difference count - stepSize architecture := by
  rw [countDown, stepSize]
  split
  · rw [difference_append_one, difference_append_one]
    omega
  · rw [difference_append_one]
    rfl

/-- The loop makes as many steps as the count has room for. -/
theorem cpuArr_eq (sysfs : Sysfs) {count : Text} {steps : Nat} (positive : 1 ≤ steps)
    (room : difference count = steps * stepSize sysfs.architecture) (nodeArr : List Text) :
    cpuArr sysfs count nodeArr =
      (nodeArr.take steps).flatMap fun i => words (sysfs.coreCpusList i) := by
  have size : 1 ≤ stepSize sysfs.architecture := by
    rw [stepSize]
    split <;> omega
  induction nodeArr generalizing count steps with
  | nil => rw [cpuArr, List.take_nil, List.flatMap_nil]
  | cons i nodeArr induction =>
      obtain ⟨later, rfl⟩ : ∃ later, steps = later + 1 := ⟨steps - 1, by omega⟩
      have left : difference (countDown sysfs.architecture count) =
          later * stepSize sysfs.architecture := by
        rw [difference_countDown, room]
        push_cast
        ring
      rw [cpuArr, List.take_succ_cons, List.flatMap_cons]
      by_cases last : later = 0
      · subst last
        have ended : difference (countDown sysfs.architecture count) ≤ 0 := by
          rw [left]
          simp
        simp only [if_pos ended, List.take_zero, List.flatMap_nil]
      · have going : ¬ difference (countDown sysfs.architecture count) ≤ 0 := by
          rw [left, not_le]
          exact_mod_cast Nat.mul_pos (Nat.pos_of_ne_zero last) size
        simp only [if_neg going, induction (Nat.pos_of_ne_zero last) left]

/-! ## Printing -/

theorem withoutComma_printf {words : List Text} (nonempty : words ≠ []) :
    withoutComma (printfCommas words) = joinWith ',' words := by
  have ended : ∀ items : List Text, items ≠ [] →
      (items.flatMap fun word => word ++ [',']) = joinWith ',' items ++ [','] := by
    intro items
    induction items with
    | nil => exact fun none => absurd rfl none
    | cons word items induction =>
        intro _
        cases items with
        | nil => simp [joinWith]
        | cons next items =>
            rw [List.flatMap_cons, induction (List.cons_ne_nil next items), joinWith_cons_cons]
            simp
  rw [printfCommas, if_neg nonempty, ended words nonempty, withoutComma, if_pos (by simp),
    List.dropLast_concat]

theorem words_cpulist {cpus : List Nat} (nonempty : cpus ≠ []) :
    words (cpulist cpus) = [cpulist cpus] := by
  apply words_word (cpuString_ne_nil (runs_ne_nil nonempty))
  intro c member
  by_contra blank
  simp only [isBlank, Bool.not_eq_false, Bool.or_eq_true, beq_iff_eq] at blank
  rcases blank with (rfl | rfl) | rfl
  · exact not_mem_cpuString _ rfl (by decide) (by decide) member
  · exact not_mem_cpuString _ rfl (by decide) (by decide) member
  · exact not_mem_cpuString _ rfl (by decide) (by decide) member

section

variable {sysfs : Sysfs} {topology : Topology}

theorem siblings_ne_nil {cpu : Nat} (member : cpu ∈ topology.node) : topology.siblings cpu ≠ [] :=
  List.ne_nil_of_mem (topology.own cpu member)

/-- On x86 the list consists of the cores of the first sixteen processors of the node. -/
theorem setMulticore_eq (describes : sysfs.Describes topology)
    (x86 : sysfs.architecture = "x86_64".toList) (populated : topology.node ≠ []) :
    setMulticore sysfs =
      cpuString ((topology.node.take 16).flatMap fun cpu => runs (topology.siblings cpu)) := by
  have room : difference "32" = (16 : Nat) * stepSize sysfs.architecture := by
    rw [x86]
    rfl
  have array : nodeArr sysfs.nodeCpulist = topology.node.map decimal := by
    rw [describes.node, cpulist, nodeArr_cpuString (runs_ne_nil populated), listed_runs]
  have collected : cpuArr sysfs "32" (topology.node.map decimal) =
      (topology.node.take 16).map fun cpu => cpulist (topology.siblings cpu) := by
    rw [cpuArr_eq sysfs (by omega) room, ← List.map_take, List.flatMap_map, List.map_eq_flatMap]
    apply List.flatMap_congr
    intro cpu visited
    have member := List.mem_of_mem_take visited
    rw [describes.cores cpu member, words_cpulist (siblings_ne_nil member)]
  have nonempty :
      (topology.node.take 16).map (fun cpu => cpulist (topology.siblings cpu)) ≠ [] := by
    obtain ⟨cpu, rest, first⟩ := List.exists_cons_of_ne_nil populated
    rw [first, List.take_succ_cons, List.map_cons]
    exact List.cons_ne_nil _ _
  rw [setMulticore, array, collected, withoutComma_printf nonempty, cpuString, List.map_flatMap]
  apply joinWith_flatMap
  intro cpu visited none
  exact runs_ne_nil (siblings_ne_nil (List.mem_of_mem_take visited)) (List.map_eq_nil_iff.mp none)

/-- The processors on the list. -/
theorem listed_siblings (cpus : List Nat) :
    listed (cpus.flatMap fun cpu => runs (topology.siblings cpu)) =
      cpus.flatMap topology.siblings := by
  rw [listed, List.flatMap_assoc]
  apply List.flatMap_congr
  intro cpu _
  exact listed_runs (topology.siblings cpu)

/-! ## Whole cores -/

theorem length_flatMap_le {X Y : Type} {f : X → List Y} {items : List X}
    (few : ∀ entry ∈ items, (f entry).length ≤ 2) :
    (items.flatMap f).length ≤ 2 * items.length := by
  induction items with
  | nil => exact Nat.zero_le _
  | cons entry items induction =>
      have here := few entry List.mem_cons_self
      have later := induction fun other member => few other (List.mem_cons_of_mem entry member)
      rw [List.flatMap_cons, List.length_append, List.length_cons]
      omega

/-- Lists of at most two entries make up twice their number only if all of them have two. -/
theorem length_flatMap_iff {X Y : Type} {f : X → List Y} {items : List X}
    (few : ∀ entry ∈ items, (f entry).length ≤ 2) :
    (items.flatMap f).length = 2 * items.length ↔ ∀ entry ∈ items, (f entry).length = 2 := by
  induction items with
  | nil => simp
  | cons entry items induction =>
      have here := few entry List.mem_cons_self
      have others : ∀ other ∈ items, (f other).length ≤ 2 :=
        fun other member => few other (List.mem_cons_of_mem entry member)
      have bound := length_flatMap_le others
      rw [List.forall_mem_cons, ← induction others, List.flatMap_cons, List.length_append,
        List.length_cons]
      omega

/-- Cores are different when none has a thread of another. -/
theorem nodup_siblings_iff {cpus : List Nat} (known : ∀ cpu ∈ cpus, cpu ∈ topology.node) :
    (cpus.flatMap topology.siblings).Nodup ↔
      cpus.Pairwise fun cpu other => other ∉ topology.siblings cpu := by
  rw [List.nodup_flatMap]
  have own : ∀ cpu ∈ cpus, (topology.siblings cpu).Nodup :=
    fun cpu member => (topology.sorted cpu (known cpu member)).imp Nat.ne_of_lt
  have cores : cpus.Pairwise (Function.onFun List.Disjoint topology.siblings) ↔
      cpus.Pairwise fun cpu other => other ∉ topology.siblings cpu := by
    apply List.Pairwise.iff_of_mem
    intro cpu other member member'
    constructor
    · intro apart thread
      exact apart thread (topology.own other (known other member'))
    · intro apart thread inFirst inSecond
      apply apart
      rw [← topology.shared cpu (known cpu member) thread inFirst,
        topology.shared other (known other member') thread inSecond]
      exact topology.own other (known other member')
  rw [cores]
  exact and_iff_right own

/-- The cores of the first sixteen processors. -/
theorem selects_visited_iff (large : 32 ≤ topology.node.length) :
    SelectsCores topology
        ((topology.node.take 16).flatMap fun cpu => runs (topology.siblings cpu)) ↔
      (∀ cpu ∈ topology.node.take 16, (topology.siblings cpu).length = 2) ∧
        (topology.node.take 16).Pairwise fun cpu other => other ∉ topology.siblings cpu := by
  have known : ∀ cpu ∈ topology.node.take 16, cpu ∈ topology.node := fun _ => List.mem_of_mem_take
  have visited : (topology.node.take 16).length = 16 := by
    rw [List.length_take]
    omega
  have few : ∀ cpu ∈ topology.node.take 16, (topology.siblings cpu).length ≤ 2 := by
    intro cpu member
    have threads := topology.threads cpu (known cpu member)
    omega
  rw [← length_flatMap_iff few, visited, ← nodup_siblings_iff known]
  constructor
  · intro selects
    have count := selects.count
    have distinct := selects.distinct
    rw [listed_siblings] at count distinct
    exact ⟨count, distinct⟩
  · rintro ⟨count, distinct⟩
    refine ⟨?_, ?_, ?_, ?_⟩
    · rw [listed_siblings]
      exact count
    · rw [listed_siblings]
      exact distinct
    · rw [listed_siblings]
      intro cpu member
      obtain ⟨core, step, thread⟩ := List.mem_flatMap.mp member
      exact topology.inside core (known core step) cpu thread
    · rw [listed_siblings]
      intro cpu member other thread
      obtain ⟨core, step, inside⟩ := List.mem_flatMap.mp member
      rw [topology.shared core (known core step) cpu inside] at thread
      exact List.mem_flatMap.mpr ⟨core, step, thread⟩

/-- The list of a machine, as it is read back. -/
theorem parse_setMulticore (describes : sysfs.Describes topology)
    (x86 : sysfs.architecture = "x86_64".toList) (populated : topology.node ≠ []) :
    parseCpuList (setMulticore sysfs) =
      some ((topology.node.take 16).flatMap fun cpu => runs (topology.siblings cpu)) := by
  rw [setMulticore_eq describes x86 populated]
  apply parseCpuList_cpuString
  obtain ⟨cpu, rest, first⟩ := List.exists_cons_of_ne_nil populated
  have member : cpu ∈ topology.node := by
    rw [first]
    exact List.mem_cons_self
  rw [first, List.take_succ_cons, List.flatMap_cons]
  exact List.append_ne_nil_of_left_ne_nil (runs_ne_nil (siblings_ne_nil member)) _

/-- `set_multicore` selects 32 processors with whole cores exactly when the first
sixteen processors of node 0 are on different cores that have two threads. -/
theorem selectsCores_iff (describes : sysfs.Describes topology)
    (x86 : sysfs.architecture = "x86_64".toList) (large : 32 ≤ topology.node.length) :
    (∃ segments, parseCpuList (setMulticore sysfs) = some segments ∧
      SelectsCores topology segments) ↔
      (∀ cpu ∈ topology.node.take 16, (topology.siblings cpu).length = 2) ∧
        (topology.node.take 16).Pairwise fun cpu other => other ∉ topology.siblings cpu := by
  have populated : topology.node ≠ [] := List.ne_nil_of_length_pos (by omega)
  rw [parse_setMulticore describes x86 populated, ← selects_visited_iff large]
  constructor
  · rintro ⟨segments, read, selects⟩
    rwa [← Option.some.inj read] at selects
  · exact fun selects => ⟨_, rfl, selects⟩

end

/-! ## Two numberings -/

/-- The files of a machine with x86 processors. -/
def Topology.sysfs (topology : Topology) : Sysfs :=
  { architecture := "x86_64", nodeCpulist := cpulist topology.node,
    coreCpusList := fun i => cpulist (topology.siblings (shellNat i)) }

theorem sysfs_describes (topology : Topology) : topology.sysfs.Describes topology where
  node := rfl
  cores := by
    intro cpu _
    exact congrArg (fun number => cpulist (topology.siblings number)) (shellNat_decimal cpu)

/-- Sixteen cores whose second threads are numbered behind all first threads. -/
def splitThreads : Topology where
  node := List.range 32
  siblings cpu := [cpu % 16, cpu % 16 + 16]
  increasing := List.pairwise_lt_range
  sorted := by simp
  own := by
    intro cpu member
    rw [List.mem_range] at member
    simp only [List.mem_cons, List.not_mem_nil, or_false]
    omega
  shared := by
    intro cpu _ other thread
    simp only [List.mem_cons, List.not_mem_nil, or_false] at thread
    have same : other % 16 = cpu % 16 := by omega
    rw [same]
  inside := by
    intro cpu _ other thread
    simp only [List.mem_cons, List.not_mem_nil, or_false] at thread
    rw [List.mem_range]
    omega
  threads := fun _ _ => Or.inr rfl

/-- Sixteen cores whose threads are numbered one behind the other. -/
def adjacentThreads : Topology where
  node := List.range 32
  siblings cpu := [2 * (cpu / 2), 2 * (cpu / 2) + 1]
  increasing := List.pairwise_lt_range
  sorted := by simp
  own := by
    intro cpu _
    simp only [List.mem_cons, List.not_mem_nil, or_false]
    omega
  shared := by
    intro cpu _ other thread
    simp only [List.mem_cons, List.not_mem_nil, or_false] at thread
    have same : other / 2 = cpu / 2 := by omega
    rw [same]
  inside := by
    intro cpu member other thread
    rw [List.mem_range] at member
    simp only [List.mem_cons, List.not_mem_nil, or_false] at thread
    rw [List.mem_range]
    omega
  threads := fun _ _ => Or.inr rfl

/-- Second threads behind all first threads. -/
theorem selectsCores_splitThreads :
    (∃ segments, parseCpuList (setMulticore splitThreads.sysfs) = some segments ∧
      SelectsCores splitThreads segments) ↔
      (∀ cpu ∈ splitThreads.node.take 16, (splitThreads.siblings cpu).length = 2) ∧
        (splitThreads.node.take 16).Pairwise fun cpu other => other ∉ splitThreads.siblings cpu :=
  selectsCores_iff (sysfs_describes splitThreads) rfl (Nat.le_refl 32)

/-- Adjacent threads are listed twice, and half of the processors is missing. -/
theorem adjacentThreads_repeat :
    ¬ ∃ segments, parseCpuList (setMulticore adjacentThreads.sysfs) = some segments ∧
      SelectsCores adjacentThreads segments := by
  rintro ⟨segments, read, selects⟩
  rw [parse_setMulticore (sysfs_describes adjacentThreads) rfl (List.cons_ne_nil 0 _)] at read
  have large : 32 ≤ adjacentThreads.node.length := Nat.le_refl 32
  rw [← Option.some.inj read, selects_visited_iff large] at selects
  have neighbours := (List.pairwise_cons.mp selects.2).1 1 List.mem_cons_self
  exact neighbours (List.mem_cons_of_mem 0 List.mem_cons_self)

end Mem
