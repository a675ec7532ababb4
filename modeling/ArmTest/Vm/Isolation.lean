import ArmTest.Vm.Layout
import Mathlib.Data.List.Nodup

/-!
# Isolation of the chosen processors

The kernel parameters written by `help.py` split the processors of the machine into those of the
virtual machine and all others, and the helper threads of the virtual machine run on two of the
others.
-/

namespace Vm

open Shell Linux

/-! ## What the file should say -/

/-- One range, or two ranges with a gap between them. -/
inductive NodeRanges : List Segment → Prop
  | one {a b : Nat} (ordered : a ≤ b) : NodeRanges [.range a b]
  | two {a b c d : Nat} (first : a ≤ b) (gap : b + 1 < c) (second : c ≤ d) :
      NodeRanges [.range a b, .range c d]

/-- The chosen processors stay inside the ranges. -/
def Fits (startIndex vcpuNum : Nat) : List Segment → Prop
  | [.range a b] => startIndex + vcpuNum ≤ b + 1 - a
  | [.range a b, .range c d] =>
      startIndex + vcpuNum / 2 ≤ b + 1 - a ∧ startIndex + vcpuNum / 2 ≤ d + 1 - c
  | _ => False

/-- A parameter lists proper ranges that make up the given set. -/
def ParamDenotes (bound : Nat) (cmdline key : Text) (set : Set Nat) : Prop :=
  ∃ segments, (kernelParam key cmdline).bind parseCpuList = some segments ∧
    Proper bound segments ∧ cpus segments = set

/-- The file describes a partition of the processors. -/
def Isolated (allCpuNum vcpuNum : Nat) (segments : List Segment) (file : CpuListFile) : Prop :=
  ∃ vcpus cmdline emu io,
    (file.lookup .vmCpuList).bind (readNumbers ' ') = some vcpus ∧
    vcpus.length = vcpuNum ∧ vcpus.Nodup ∧
    file.lookup .isolationCpuCmdline = some cmdline ∧
    ParamDenotes allCpuNum cmdline "isolcpus" { cpu | cpu ∈ vcpus } ∧
    ParamDenotes allCpuNum cmdline "rcu_nocbs" { cpu | cpu ∈ vcpus } ∧
    ParamDenotes allCpuNum cmdline "kthread_cpus" { cpu | cpu < allCpuNum ∧ cpu ∉ vcpus } ∧
    ParamDenotes allCpuNum cmdline "irqaffinity" { cpu | cpu < allCpuNum ∧ cpu ∉ vcpus } ∧
    (file.lookup .vmEmuPinCpu).bind parseNat? = some emu ∧
    (file.lookup .vmIoPinCpu).bind parseNat? = some io ∧
    emu ≠ io ∧
    (emu < allCpuNum ∧ emu ∉ vcpus ∧ emu ∈ cpus segments) ∧
    (io < allCpuNum ∧ io ∉ vcpus ∧ io ∈ cpus segments)

/-! ## The parameters -/

/-- The parameters of `isolation_cmdline_str`. -/
def isolationParams (isolcpuStr restcpuStr : Text) : List (Text × Text) :=
  [("isolcpus", isolcpuStr), ("rcu_nocbs", isolcpuStr), ("kthread_cpus", restcpuStr),
    ("irqaffinity", restcpuStr)]

theorem isolationCmdlineStr_eq (isolcpuStr restcpuStr : Text) :
    isolationCmdlineStr isolcpuStr restcpuStr =
      paramString (isolationParams isolcpuStr restcpuStr) := by
  have first : ("isolcpus=" : Text) = "isolcpus" ++ "=" := rfl
  have second : (" rcu_nocbs=" : Text) = [' '] ++ ("rcu_nocbs" ++ "=") := rfl
  have third : (" kthread_cpus=" : Text) = [' '] ++ ("kthread_cpus" ++ "=") := rfl
  have fourth : (" irqaffinity=" : Text) = [' '] ++ ("irqaffinity" ++ "=") := rfl
  unfold isolationCmdlineStr paramString isolationParams
  rw [first, second, third, fourth]
  simp only [joinWith, List.map_cons, List.map_nil, List.intercalate_cons_cons,
    List.intercalate_singleton, List.append_assoc]

/-- A parameter of the written command line is read back. -/
theorem paramDenotes_of_mem {bound : Nat} {isolated rest segments : List Segment} {key : Text}
    (member : (key, cpuString segments) ∈
      isolationParams (cpuString isolated) (cpuString rest))
    (nonempty : segments ≠ []) (proper : Proper bound segments) :
    ParamDenotes bound (isolationCmdlineStr (cpuString isolated) (cpuString rest)) key
      (cpus segments) := by
  have free : ∀ segments, ' ' ∉ cpuString segments := fun segments =>
    not_mem_cpuString segments rfl (by decide) (by decide)
  have found : kernelParam key (isolationCmdlineStr (cpuString isolated) (cpuString rest)) =
      some (cpuString segments) := by
    rw [isolationCmdlineStr_eq]
    apply kernelParam_paramString member
    · exact (by decide : [("isolcpus" : Text), "rcu_nocbs", "kthread_cpus", "irqaffinity"].Nodup)
    · simp [isolationParams, free]
  refine ⟨segments, ?_, proper, rfl⟩
  rw [found, Option.bind_some, parseCpuList_cpuString nonempty]

/-- The processors behind the last chosen one. -/
def tailSegments (last allCpuNum : Nat) : List Segment :=
  if last + 1 < allCpuNum then [.range (last + 1) (allCpuNum - 1)] else []

theorem cpuString_one (first last : Nat) :
    cpuString [.range first last] = decimal first ++ "-" ++ decimal last := by
  simp [cpuString, joinWith, Segment.text]

theorem cpuString_append_range {segments : List Segment} (nonempty : segments ≠ [])
    (first last : Nat) :
    cpuString (segments ++ [.range first last]) =
      cpuString segments ++ "," ++ decimal first ++ "-" ++ decimal last := by
  induction segments with
  | nil => contradiction
  | cons segment segments induction =>
      cases segments with
      | nil => simp [cpuString, joinWith, Segment.text]
      | cons next segments =>
          have tail := induction (List.cons_ne_nil _ _)
          simp only [cpuString, joinWith, List.cons_append, List.map_cons,
            List.intercalate_cons_cons, List.append_assoc] at tail ⊢
          rw [tail]

theorem cpuString_two (a b c d : Nat) :
    cpuString [.range a b, .range c d] =
      decimal a ++ "-" ++ decimal b ++ "," ++ decimal c ++ "-" ++ decimal d := by
  have appended := cpuString_append_range (List.cons_ne_nil (.range a b) []) c d
  rw [cpuString_one] at appended
  exact appended

theorem zero_dash : ("0-" : Text) = decimal 0 ++ "-" := by decide

theorem withTail_cpuString {segments : List Segment} (nonempty : segments ≠ [])
    {last allCpuNum : Nat} (inside : last < allCpuNum) :
    withTail (cpuString segments) last allCpuNum =
      cpuString (segments ++ tailSegments last allCpuNum) := by
  by_cases more : last + 1 < allCpuNum
  · have total : (allCpuNum : Int) - 1 = ((allCpuNum - 1 : Nat) : Int) := by omega
    rw [withTail, if_pos (by omega), tailSegments, if_pos more, total, integer_natCast,
      cpuString_append_range nonempty]
  · rw [withTail, if_neg (by omega), tailSegments, if_neg more, List.append_nil]

/-! ## The layouts -/

/-- A plan with the entries of its two kinds of parameters and the two pinned processors. -/
structure Splits (plan : Plan) (allCpuNum : Nat) (segments isolated rest : List Segment)
    (emu io : Nat) : Prop where
  /-- The chosen processors differ. -/
  distinct : plan.vcpuArray.Nodup
  /-- The entries are those of the command line. -/
  cmdline : plan.isolationCmdline = isolationCmdlineStr (cpuString isolated) (cpuString rest)
  /-- Some processor is isolated. -/
  isolatedNonempty : isolated ≠ []
  /-- Some processor is not. -/
  restNonempty : rest ≠ []
  /-- The isolated ranges are in order. -/
  isolatedProper : Proper allCpuNum isolated
  /-- The other ranges are in order. -/
  restProper : Proper allCpuNum rest
  /-- The isolated processors are the chosen ones. -/
  memIsolated : ∀ cpu, cpu ∈ cpus isolated ↔ cpu ∈ plan.vcpuArray
  /-- The others are all others of the machine. -/
  memRest : ∀ cpu, cpu ∈ cpus rest ↔ cpu < allCpuNum ∧ cpu ∉ plan.vcpuArray
  /-- The second pinned processor. -/
  ioPin : plan.ioPinCpu = io
  /-- The pinned processors differ. -/
  apart : emu ≠ io
  /-- Neither pinned processor is isolated. -/
  outside : emu ∈ cpus rest ∧ io ∈ cpus rest
  /-- Both pinned processors belong to the node. -/
  node : emu ∈ cpus segments ∧ io ∈ cpus segments

theorem isolated_of_splits {plan : Plan} {allCpuNum vcpuNum emu io : Nat}
    {segments isolated rest : List Segment} (more : CpuListFile)
    (splits : Splits plan allCpuNum segments isolated rest emu io)
    (nonempty : plan.vcpuArray ≠ []) (count : plan.vcpuArray.length = vcpuNum) :
    Isolated allCpuNum vcpuNum segments (plan.tuneLines (emu + 1) ++ more) := by
  have emuText : integer (((emu + 1 : Nat) : Int) - 1) = decimal emu := by
    rw [← integer_natCast]
    congr 1
    omega
  have inside : cpus isolated = { cpu | cpu ∈ plan.vcpuArray } := Set.ext splits.memIsolated
  have others : cpus rest = { cpu | cpu < allCpuNum ∧ cpu ∉ plan.vcpuArray } :=
    Set.ext splits.memRest
  obtain ⟨emuOutside, ioOutside⟩ := splits.outside
  rw [splits.memRest] at emuOutside ioOutside
  refine ⟨plan.vcpuArray, plan.isolationCmdline, emu, io, ?_, count, splits.distinct, rfl,
    ?_, ?_, ?_, ?_, ?_, ?_, splits.apart, ⟨emuOutside.1, emuOutside.2, splits.node.1⟩,
    ⟨ioOutside.1, ioOutside.2, splits.node.2⟩⟩
  · exact readNumbers_joinWith nonempty rfl
  · rw [splits.cmdline, ← inside]
    exact paramDenotes_of_mem (by simp [isolationParams]) splits.isolatedNonempty
      splits.isolatedProper
  · rw [splits.cmdline, ← inside]
    exact paramDenotes_of_mem (by simp [isolationParams]) splits.isolatedNonempty
      splits.isolatedProper
  · rw [splits.cmdline, ← others]
    exact paramDenotes_of_mem (by simp [isolationParams]) splits.restNonempty splits.restProper
  · rw [splits.cmdline, ← others]
    exact paramDenotes_of_mem (by simp [isolationParams]) splits.restNonempty splits.restProper
  · change parseNat? (integer (((emu + 1 : Nat) : Int) - 1)) = some emu
    rw [emuText, parseNat?_decimal]
  · change parseNat? (integer plan.ioPinCpu) = some io
    rw [splits.ioPin, integer_natCast, parseNat?_decimal]

theorem mem_placement {startIndex vcpuNum cpu : Nat} {segments : List Segment} :
    cpu ∈ placement startIndex segments vcpuNum ↔
      ∃ vcpu < vcpuNum, hostCpu startIndex segments vcpu = cpu := by
  simp [placement]

theorem mem_cpus_tailSegments {last allCpuNum cpu : Nat} :
    cpu ∈ cpus (tailSegments last allCpuNum) ↔ last < cpu ∧ cpu < allCpuNum := by
  unfold tailSegments
  split
  · simp only [cpus, List.mem_singleton, exists_eq_left, Segment.cpus, Set.mem_ofPred_eq,
      Set.mem_Icc]
    omega
  · simp only [cpus, List.not_mem_nil, false_and, exists_false, Set.mem_ofPred_eq, false_iff]
    omega

theorem mem_cpus_append {front back : List Segment} {cpu : Nat} :
    cpu ∈ cpus (front ++ back) ↔ cpu ∈ cpus front ∨ cpu ∈ cpus back := by
  simp [cpus, or_and_right, exists_or]

theorem mem_cpus_one {first last cpu : Nat} :
    cpu ∈ cpus [.range first last] ↔ first ≤ cpu ∧ cpu ≤ last := by
  simp [cpus, Segment.cpus]

theorem mem_cpus_two {a b c d cpu : Nat} :
    cpu ∈ cpus [.range a b, .range c d] ↔ (a ≤ cpu ∧ cpu ≤ b) ∨ (c ≤ cpu ∧ cpu ≤ d) := by
  simp [cpus, Segment.cpus]

theorem proper_tailSegments (last allCpuNum : Nat) :
    Proper allCpuNum (tailSegments last allCpuNum) := by
  intro segment member
  unfold tailSegments at member
  split at member
  · rw [List.mem_singleton] at member
    exact ⟨_, _, member, by omega, by omega⟩
  · simp at member

theorem proper_cons {bound first last : Nat} {segments : List Segment} (ordered : first ≤ last)
    (inside : last < bound) (others : Proper bound segments) :
    Proper bound (.range first last :: segments) := by
  intro segment member
  rcases List.mem_cons.mp member with rfl | later
  · exact ⟨first, last, rfl, ordered, inside⟩
  · exact others segment later

theorem proper_nil (bound : Nat) : Proper bound [] := by
  intro segment member
  simp at member

theorem nodup_placement {startIndex vcpuNum : Nat} {segments : List Segment}
    (injective : ∀ i < vcpuNum, ∀ j < vcpuNum,
      hostCpu startIndex segments i = hostCpu startIndex segments j → i = j) :
    (placement startIndex segments vcpuNum).Nodup := by
  apply List.Nodup.map_on _ List.nodup_range
  intro i first j second
  exact injective i (List.mem_range.mp first) j (List.mem_range.mp second)

/-- Processors behind the one that the emulator is pinned to. -/
theorem hostCpu_one {a b startIndex emu : Nat} (isEmu : a + startIndex = emu + 1) (vcpu : Nat) :
    hostCpu startIndex [.range a b] vcpu = emu + 1 + vcpu := by
  rw [← isEmu]
  rfl

theorem mem_placement_one {a b startIndex vcpuNum emu cpu : Nat}
    (isEmu : a + startIndex = emu + 1) :
    cpu ∈ placement startIndex [.range a b] vcpuNum ↔
      emu + 1 ≤ cpu ∧ cpu ≤ emu + vcpuNum := by
  simp only [mem_placement, hostCpu_one isEmu]
  constructor
  · rintro ⟨vcpu, small, rfl⟩
    omega
  · intro bounds
    exact ⟨cpu - (emu + 1), by omega, by omega⟩

theorem splits_one {a b startIndex vcpuNum allCpuNum emu : Nat} (positive : 0 < vcpuNum)
    (start : 2 ≤ startIndex) (machine : b < allCpuNum)
    (fits : startIndex + vcpuNum ≤ b + 1 - a) (isEmu : a + startIndex = emu + 1) :
    Splits (onePlan (.range a b) startIndex vcpuNum allCpuNum) allCpuNum [.range a b]
      [.range (emu + 1) (emu + vcpuNum)]
      ([.range 0 emu] ++ tailSegments (emu + vcpuNum) allCpuNum) emu (emu - 1) := by
  have host : ∀ vcpu, hostCpu startIndex [.range a b] vcpu = emu + 1 + vcpu := hostCpu_one isEmu
  have last : emu + 1 + (vcpuNum - 1) = emu + vcpuNum := by omega
  have below : ((emu + 1 : Nat) : Int) - 1 = (emu : Nat) := by omega
  have array : (onePlan (.range a b) startIndex vcpuNum allCpuNum).vcpuArray =
      placement startIndex [.range a b] vcpuNum := rfl
  refine {
    distinct := ?_
    cmdline := ?_
    isolatedNonempty := List.cons_ne_nil _ _
    restNonempty := List.cons_ne_nil _ _
    isolatedProper := proper_cons (by omega) (by omega) (proper_nil _)
    restProper := proper_cons (Nat.zero_le _) (by omega) (proper_tailSegments _ _)
    memIsolated := ?_
    memRest := ?_
    ioPin := ?_
    apart := by omega
    outside := ?_
    node := ?_ }
  · apply nodup_placement
    intro i _ j _ same
    rw [host, host] at same
    omega
  · change isolationCmdlineStr _ (withTail _ _ _) = _
    simp only [host, last, Nat.add_zero, below, integer_natCast]
    rw [← withTail_cpuString (List.cons_ne_nil _ _) (by omega), cpuString_one, cpuString_one,
      zero_dash]
  · intro cpu
    rw [array, mem_placement_one isEmu, mem_cpus_one]
  · intro cpu
    rw [array, mem_placement_one isEmu, mem_cpus_append, mem_cpus_one, mem_cpus_tailSegments]
    omega
  · change ((hostCpu startIndex [.range a b] 0 : Nat) : Int) - 2 = _
    rw [host]
    omega
  · simp only [mem_cpus_append, mem_cpus_one, mem_cpus_tailSegments]
    omega
  · simp only [mem_cpus_one]
    omega

/-- Even processors go to the first range, odd ones to the second. -/
theorem hostCpu_two {a b c d startIndex emu io : Nat} (isEmu : a + startIndex = emu + 1)
    (isIo : c + startIndex = io + 1) (vcpu : Nat) :
    hostCpu startIndex [.range a b, .range c d] vcpu =
      if vcpu % 2 = 0 then emu + 1 + vcpu / 2 else io + 1 + vcpu / 2 := by
  rw [← isEmu, ← isIo]
  rfl

theorem mem_placement_two {a b c d startIndex half emu io cpu : Nat}
    (isEmu : a + startIndex = emu + 1) (isIo : c + startIndex = io + 1) :
    cpu ∈ placement startIndex [.range a b, .range c d] (2 * half) ↔
      (emu + 1 ≤ cpu ∧ cpu ≤ emu + half) ∨ (io + 1 ≤ cpu ∧ cpu ≤ io + half) := by
  simp only [mem_placement, hostCpu_two isEmu isIo]
  constructor
  · rintro ⟨vcpu, small, rfl⟩
    split <;> omega
  · rintro (bounds | bounds)
    · exact ⟨2 * (cpu - (emu + 1)), by omega, by rw [if_pos (by omega)]; omega⟩
    · exact ⟨2 * (cpu - (io + 1)) + 1, by omega, by rw [if_neg (by omega)]; omega⟩

theorem splits_two {a b c d startIndex half allCpuNum emu io : Nat} (positive : 0 < half)
    (start : 1 ≤ startIndex) (gap : b + 1 < c) (machine : d < allCpuNum)
    (fitsFirst : startIndex + half ≤ b + 1 - a) (fitsSecond : startIndex + half ≤ d + 1 - c)
    (isEmu : a + startIndex = emu + 1) (isIo : c + startIndex = io + 1) :
    Splits (twoPlan (.range a b) (.range c d) startIndex (2 * half) allCpuNum) allCpuNum
      [.range a b, .range c d]
      [.range (emu + 1) (emu + half), .range (io + 1) (io + half)]
      ([.range 0 emu, .range (emu + half + 1) io] ++ tailSegments (io + half) allCpuNum)
      emu io := by
  have host : ∀ vcpu, hostCpu startIndex [.range a b, .range c d] vcpu =
      if vcpu % 2 = 0 then emu + 1 + vcpu / 2 else io + 1 + vcpu / 2 := hostCpu_two isEmu isIo
  have hostFirst : hostCpu startIndex [.range a b, .range c d] 0 = emu + 1 := by
    rw [host, if_pos (by decide)]
  have hostSecond : hostCpu startIndex [.range a b, .range c d] 1 = io + 1 := by
    rw [host, if_neg (by decide)]
  have firstLast : hostCpu startIndex [.range a b, .range c d] (2 * half - 2) = emu + half := by
    rw [host, if_pos (by omega)]
    omega
  have secondLast : hostCpu startIndex [.range a b, .range c d] (2 * half - 1) = io + half := by
    rw [host, if_neg (by omega)]
    omega
  have belowFirst : ((emu + 1 : Nat) : Int) - 1 = (emu : Nat) := by omega
  have belowSecond : ((io + 1 : Nat) : Int) - 1 = (io : Nat) := by omega
  have array : (twoPlan (.range a b) (.range c d) startIndex (2 * half) allCpuNum).vcpuArray =
      placement startIndex [.range a b, .range c d] (2 * half) := rfl
  refine {
    distinct := ?_
    cmdline := ?_
    isolatedNonempty := List.cons_ne_nil _ _
    restNonempty := List.cons_ne_nil _ _
    isolatedProper :=
      proper_cons (by omega) (by omega) (proper_cons (by omega) (by omega) (proper_nil _))
    restProper := proper_cons (Nat.zero_le _) (by omega)
      (proper_cons (by omega) (by omega) (proper_tailSegments _ _))
    memIsolated := ?_
    memRest := ?_
    ioPin := ?_
    apart := by omega
    outside := ?_
    node := ?_ }
  · apply nodup_placement
    intro i first j second same
    rw [host, host] at same
    split at same <;> split at same <;> omega
  · change isolationCmdlineStr _ (withTail _ _ _) = _
    simp only [hostFirst, hostSecond, firstLast, secondLast, belowFirst, belowSecond,
      integer_natCast]
    rw [← withTail_cpuString (List.cons_ne_nil _ _) (by omega), cpuString_two, cpuString_two,
      zero_dash]
  · intro cpu
    rw [array, mem_placement_two isEmu isIo, mem_cpus_two]
  · intro cpu
    rw [array, mem_placement_two isEmu isIo, mem_cpus_append, mem_cpus_two, mem_cpus_tailSegments]
    omega
  · change ((hostCpu startIndex [.range a b, .range c d] 1 : Nat) : Int) - 1 = _
    rw [hostSecond, belowSecond]
  · simp only [mem_cpus_append, mem_cpus_two, mem_cpus_tailSegments]
    omega
  · simp only [mem_cpus_two]
    omega

/-- Every supported node list yields a partition of the processors of the machine. -/
theorem generated_list_isolates {segments : List Segment}
    (startIndex vcpuNum allCpuNum fioStartIndex : Nat) (ranges : NodeRanges segments)
    (even : vcpuNum % 2 = 0) (positive : 2 ≤ vcpuNum) (start : 2 ≤ startIndex)
    (machine : ∀ cpu ∈ cpus segments, cpu < allCpuNum) (fits : Fits startIndex vcpuNum segments) :
    ∃ file,
      (generateVmCpuList (cpuString segments) startIndex vcpuNum allCpuNum fioStartIndex).file =
        some file ∧
      Isolated allCpuNum vcpuNum segments file := by
  have supported : Supported segments := by
    cases ranges <;> exact ⟨List.cons_ne_nil _ _, by simp⟩
  have length : (placement startIndex segments vcpuNum).length = vcpuNum := by simp [placement]
  have nonempty : placement startIndex segments vcpuNum ≠ [] := by
    intro empty
    rw [empty, List.length_nil] at length
    omega
  rw [generateVmCpuList_supported supported _ _ _ (by omega) even]
  obtain ⟨more, written⟩ := file_writeVmCpuTune
    ((congrArg List.head? (vcpuArray_planOf supported startIndex vcpuNum allCpuNum)).trans
      (head?_placement segments (by omega))) startIndex fioStartIndex
  refine ⟨_, written, ?_⟩
  cases ranges with
  | @one a b ordered =>
      have last := machine b (mem_cpus_one.mpr ⟨ordered, le_rfl⟩)
      have isEmu : a + startIndex = a + startIndex - 1 + 1 := by omega
      have splits := splits_one (by omega) start last fits isEmu
      have first : hostCpu startIndex [.range a b] 0 = a + startIndex - 1 + 1 := isEmu
      rw [first]
      exact isolated_of_splits more splits nonempty length
  | @two a b c d firstOrdered gap secondOrdered =>
      obtain ⟨half, rfl⟩ : ∃ half, vcpuNum = 2 * half := ⟨vcpuNum / 2, by omega⟩
      have last := machine d (mem_cpus_two.mpr (Or.inr ⟨secondOrdered, le_rfl⟩))
      have isEmu : a + startIndex = a + startIndex - 1 + 1 := by omega
      have isIo : c + startIndex = c + startIndex - 1 + 1 := by omega
      have halved : 2 * half / 2 = half := by omega
      obtain ⟨fitsFirst, fitsSecond⟩ := fits
      rw [halved] at fitsFirst fitsSecond
      have splits := splits_two (by omega) (by omega) gap last fitsFirst fitsSecond isEmu isIo
      have first : hostCpu startIndex [.range a b, .range c d] 0 = a + startIndex - 1 + 1 := isEmu
      rw [first]
      exact isolated_of_splits more splits nonempty length

theorem generated_list_isolates_twoRanges :
    ∃ file,
      (generateVmCpuList (cpuString [.range 0 31, .range 64 95]) 8 32 128 8).file = some file ∧
      Isolated 128 32 [.range 0 31, .range 64 95] file :=
  generated_list_isolates 8 32 128 8 (.two (by decide) (by decide) (by decide)) (by decide)
    (by decide) (by decide)
    (fun cpu member => by
      rw [mem_cpus_two] at member
      omega)
    ⟨by decide, by decide⟩

end Vm
