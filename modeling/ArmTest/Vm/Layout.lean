import ArmTest.Vm.CpuTune

/-!
# Where the virtual processors run

The two layouts of `help.py` place virtual processor `i` on one processor of the host each.  This
file states the placement as a function and shows that the array built by the script lists its
values.
-/

namespace Vm

open Shell Linux

/-- The host processor of a virtual processor. -/
def hostCpu (startIndex : Nat) : List Segment → Nat → Nat
  | [], _ => 0
  | [segment], vcpu => segment.first + startIndex + vcpu
  | segment₀ :: segment₁ :: _, vcpu =>
      if vcpu % 2 = 0 then segment₀.first + startIndex + vcpu / 2
      else segment₁.first + startIndex + vcpu / 2

/-- The host processors of all virtual processors. -/
def placement (startIndex : Nat) (segments : List Segment) (vcpuNum : Nat) : List Nat :=
  (List.range vcpuNum).map (hostCpu startIndex segments)

theorem getElem?_placement (startIndex : Nat) (segments : List Segment) (vcpuNum i : Nat) :
    (placement startIndex segments vcpuNum)[i]? =
      if i < vcpuNum then some (hostCpu startIndex segments i) else none := by
  rw [placement, List.getElem?_map]
  by_cases inside : i < vcpuNum
  · rw [List.getElem?_range inside, if_pos inside]
    rfl
  · rw [List.getElem?_eq_none (by simpa using inside), if_neg inside]
    rfl

theorem head?_placement {startIndex vcpuNum : Nat} (segments : List Segment)
    (positive : 0 < vcpuNum) :
    (placement startIndex segments vcpuNum).head? = some (hostCpu startIndex segments 0) := by
  rw [List.head?_eq_getElem?, getElem?_placement, if_pos positive]

/-- The interleaving loop lists the placement of its two entries. -/
theorem interleave_eq_placement (startIndex half : Nat) (segment₀ segment₁ : Segment) :
    ((List.range half).flatMap fun i =>
      [segment₀.first + startIndex + i, segment₁.first + startIndex + i]) =
      placement startIndex [segment₀, segment₁] (2 * half) := by
  induction half with
  | zero => rfl
  | succ half induction =>
      have even : hostCpu startIndex [segment₀, segment₁] (2 * half) =
          segment₀.first + startIndex + half := by
        rw [hostCpu, if_pos (by omega)]
        omega
      have odd : hostCpu startIndex [segment₀, segment₁] (2 * half + 1) =
          segment₁.first + startIndex + half := by
        rw [hostCpu, if_neg (by omega)]
        omega
      rw [List.range_succ, List.flatMap_append, induction, placement, placement,
        show 2 * (half + 1) = 2 * half + 1 + 1 by omega, List.range_succ, List.range_succ]
      simp [even, odd]

theorem startCpu_segment (segment : Segment) (startIndex : Nat) :
    startCpu segment.text startIndex = some (segment.first + startIndex) := by
  rw [startCpu, pyInt, splitOn_segment_headD, parseNat?_decimal]
  rfl

/-- The plan of the layout with one entry. -/
def onePlan (segment : Segment) (startIndex vcpuNum allCpuNum : Nat) : Plan :=
  let host := hostCpu startIndex [segment]
  { vcpuListSecondStart := "none"
    ioPinCpu := host 0 - 2
    isolationCmdline := isolationCmdlineStr
      (decimal (host 0) ++ "-" ++ decimal (host (vcpuNum - 1)))
      (withTail ("0-" ++ integer (host 0 - 1)) (host (vcpuNum - 1)) allCpuNum)
    vcpuArray := placement startIndex [segment] vcpuNum }

/-- The plan of the layout with two entries. -/
def twoPlan (segment₀ segment₁ : Segment) (startIndex vcpuNum allCpuNum : Nat) : Plan :=
  let host := hostCpu startIndex [segment₀, segment₁]
  { vcpuListSecondStart := decimal (host 1)
    ioPinCpu := host 1 - 1
    isolationCmdline := isolationCmdlineStr
      (decimal (host 0) ++ "-" ++ decimal (host (vcpuNum - 2)) ++ "," ++
        decimal (host 1) ++ "-" ++ decimal (host (vcpuNum - 1)))
      (withTail ("0-" ++ integer (host 0 - 1) ++ "," ++ decimal (host (vcpuNum - 2) + 1) ++ "-" ++
        integer (host 1 - 1)) (host (vcpuNum - 1)) allCpuNum)
    vcpuArray := placement startIndex [segment₀, segment₁] vcpuNum }

theorem oneSegmentPlan_eq {vcpuNum : Nat} (segment : Segment) (startIndex allCpuNum : Nat)
    (positive : 0 < vcpuNum) :
    oneSegmentPlan segment.text startIndex vcpuNum allCpuNum =
      some (onePlan segment startIndex vcpuNum allCpuNum) := by
  have array : ((List.range vcpuNum).map (segment.first + startIndex + ·)) =
      placement startIndex [segment] vcpuNum := rfl
  simp only [oneSegmentPlan, startCpu_segment, Option.bind_eq_bind, Option.bind_some, array,
    getElem?_placement, if_pos positive, if_pos (Nat.sub_lt positive Nat.one_pos)]
  rfl

theorem twoSegmentPlan_eq {vcpuNum : Nat} (segment₀ segment₁ : Segment)
    (startIndex allCpuNum : Nat) (positive : 0 < vcpuNum) (even : vcpuNum % 2 = 0) :
    twoSegmentPlan segment₀.text segment₁.text startIndex vcpuNum allCpuNum =
      some (twoPlan segment₀ segment₁ startIndex vcpuNum allCpuNum) := by
  have array : ((List.range (vcpuNum / 2)).flatMap fun i =>
      [segment₀.first + startIndex + i, segment₁.first + startIndex + i]) =
        placement startIndex [segment₀, segment₁] vcpuNum := by
    rw [interleave_eq_placement]
    congr 1
    omega
  simp only [twoSegmentPlan, startCpu_segment, Option.bind_eq_bind, Option.bind_some, array,
    getElem?_placement, if_pos positive, if_pos (Nat.sub_lt positive Nat.one_pos),
    if_pos (Nat.sub_lt positive Nat.two_pos), if_pos (show 1 < vcpuNum by omega)]
  rfl

theorem oneSegmentPlan_zero (segment : Segment) (startIndex allCpuNum : Nat) :
    oneSegmentPlan segment.text startIndex 0 allCpuNum = none := by
  simp [oneSegmentPlan, startCpu_segment]

theorem twoSegmentPlan_zero (segment₀ segment₁ : Segment) (startIndex allCpuNum : Nat) :
    twoSegmentPlan segment₀.text segment₁.text startIndex 0 allCpuNum = none := by
  simp [twoSegmentPlan, startCpu_segment]

/-! ## The whole call -/

/-- The plan of a list with one or two entries. -/
def planOf (segments : List Segment) (startIndex vcpuNum allCpuNum : Nat) : Plan :=
  match segments with
  | segment₀ :: segment₁ :: _ => twoPlan segment₀ segment₁ startIndex vcpuNum allCpuNum
  | segments => onePlan (segments.headD (.one 0)) startIndex vcpuNum allCpuNum

/-- A list has one or two entries. -/
def Supported (segments : List Segment) : Prop := segments ≠ [] ∧ segments.length ≤ 2

theorem supported_cases {segments : List Segment} (supported : Supported segments) :
    (∃ segment, segments = [segment]) ∨ ∃ segment₀ segment₁, segments = [segment₀, segment₁] := by
  obtain ⟨nonempty, short⟩ := supported
  match segments with
  | [] => contradiction
  | [segment] => exact Or.inl ⟨segment, rfl⟩
  | [segment₀, segment₁] => exact Or.inr ⟨segment₀, segment₁, rfl⟩
  | _ :: _ :: _ :: _ => simp at short

theorem vcpuArray_planOf {segments : List Segment} (supported : Supported segments)
    (startIndex vcpuNum allCpuNum : Nat) :
    (planOf segments startIndex vcpuNum allCpuNum).vcpuArray =
      placement startIndex segments vcpuNum := by
  rcases supported_cases supported with ⟨segment, rfl⟩ | ⟨segment₀, segment₁, rfl⟩ <;> rfl

/-- With a positive even number of virtual processors the script reaches the file. -/
theorem generateVmCpuList_supported {segments : List Segment} {vcpuNum : Nat}
    (supported : Supported segments) (startIndex allCpuNum fioStartIndex : Nat)
    (positive : 0 < vcpuNum) (even : vcpuNum % 2 = 0) :
    generateVmCpuList (cpuString segments) startIndex vcpuNum allCpuNum fioStartIndex =
      writeVmCpuTune startIndex (planOf segments startIndex vcpuNum allCpuNum) fioStartIndex := by
  rw [generateVmCpuList, if_neg (by omega), splitOn_cpuString supported.1]
  rcases supported_cases supported with ⟨segment, rfl⟩ | ⟨segment₀, segment₁, rfl⟩
  · simp only [List.map_cons, List.map_nil, oneSegmentPlan_eq segment startIndex allCpuNum positive]
    rfl
  · simp only [List.map_cons, List.map_nil,
      twoSegmentPlan_eq segment₀ segment₁ startIndex allCpuNum positive even]
    rfl

theorem generateVmCpuList_odd (cpuStr : Text) {vcpuNum : Nat}
    (startIndex allCpuNum fioStartIndex : Nat) (odd : vcpuNum % 2 ≠ 0) :
    generateVmCpuList cpuStr startIndex vcpuNum allCpuNum fioStartIndex = .failed := by
  rw [generateVmCpuList, if_pos odd]

theorem generateVmCpuList_zero {segments : List Segment} (supported : Supported segments)
    (startIndex allCpuNum fioStartIndex : Nat) :
    generateVmCpuList (cpuString segments) startIndex 0 allCpuNum fioStartIndex = .failed := by
  rw [generateVmCpuList, if_neg (by decide), splitOn_cpuString supported.1]
  rcases supported_cases supported with ⟨segment, rfl⟩ | ⟨segment₀, segment₁, rfl⟩
  · simp only [List.map_cons, List.map_nil, oneSegmentPlan_zero]
  · simp only [List.map_cons, List.map_nil, twoSegmentPlan_zero]

/-- A missing node has an empty list, on which `int` fails. -/
theorem generateVmCpuList_nil {vcpuNum : Nat} (startIndex allCpuNum fioStartIndex : Nat)
    (even : vcpuNum % 2 = 0) :
    generateVmCpuList (cpuString []) startIndex vcpuNum allCpuNum fioStartIndex = .failed := by
  rw [generateVmCpuList, if_neg (by omega)]
  rfl

/-- Three entries or more end the call successfully without a file. -/
theorem generateVmCpuList_many {segments : List Segment} {vcpuNum : Nat}
    (startIndex allCpuNum fioStartIndex : Nat) (even : vcpuNum % 2 = 0)
    (many : 3 ≤ segments.length) :
    generateVmCpuList (cpuString segments) startIndex vcpuNum allCpuNum fioStartIndex =
      { status := 0, file := none } := by
  match segments with
  | segment₀ :: segment₁ :: segment₂ :: rest =>
      rw [generateVmCpuList, if_neg (by omega), splitOn_cpuString (List.cons_ne_nil _ _)]
      rfl

/-- Every file starts with the lines of the plan. -/
theorem file_writeVmCpuTune {plan : Plan} {first : Nat} (head : plan.vcpuArray.head? = some first)
    (startIndex fioStartIndex : Nat) :
    ∃ more, (writeVmCpuTune startIndex plan fioStartIndex).file =
      some (plan.tuneLines first ++ more) := by
  simp only [writeVmCpuTune, head]
  cases (plan.fioHostCpuList fioStartIndex).head? with
  | none => exact ⟨[], by simp⟩
  | some hostFirst => exact ⟨_, rfl⟩

end Vm
