import ArmTest.Vm.Layout

/-!
# Pinning of the benchmarks

The lists of host and guest processors for the storage benchmark stand in the same file as the
pinning table of the virtual machine.  This file reads all three back and compares them.
-/

namespace Vm

open Shell Linux

/-! ## The pinning table -/

/-- The numbers between quotation marks, two for each element of the table. -/
def readPins : List Text → Option (List (Nat × Nat))
  | _ :: vcpu :: _ :: cpuset :: rest =>
      (parseNat? vcpu).bind fun vcpu =>
        (parseNat? cpuset).bind fun cpuset =>
          (readPins rest).map fun pins => (vcpu, cpuset) :: pins
  | _ => some []

/-- The pairs of virtual and host processors in `VM_CPU_TUNE`. -/
def vcpuPins (tune : Text) : Option (List (Nat × Nat)) := readPins (tune.splitOn '\'')

theorem splitOn_vcpupin {before : Text} (plain : '\'' ∉ before) (vcpu cpuset : Nat)
    (after : Text) :
    (before ++ (vcpupin vcpu cpuset ++ after)).splitOn '\'' =
      (before ++ "    <vcpupin vcpu=") :: decimal vcpu :: " cpuset=" :: decimal cpuset ::
        ("/>\\n" ++ after).splitOn '\'' := by
  have quotes : before ++ (vcpupin vcpu cpuset ++ after) =
      (before ++ "    <vcpupin vcpu=") ++ '\'' :: (decimal vcpu ++ '\'' ::
        (" cpuset=" ++ '\'' :: (decimal cpuset ++ '\'' :: ("/>\\n" ++ after)))) := by
    have first : ("    <vcpupin vcpu='" : Text) = "    <vcpupin vcpu=" ++ ['\''] := rfl
    have second : ("' cpuset='" : Text) = '\'' :: (" cpuset=" ++ ['\'']) := rfl
    have third : ("'/>\\n" : Text) = '\'' :: "/>\\n" := rfl
    unfold vcpupin
    rw [first, second, third]
    simp only [List.append_assoc, List.cons_append, List.nil_append]
  have opening : '\'' ∉ before ++ ("    <vcpupin vcpu=" : Text) := by
    simp [plain]
  have middle : '\'' ∉ (" cpuset=" : Text) := by
    simp
  rw [quotes, List.splitOn_append_cons_self_of_not_mem opening,
    List.splitOn_append_cons_self_of_not_mem (not_mem_decimal rfl),
    List.splitOn_append_cons_self_of_not_mem middle,
    List.splitOn_append_cons_self_of_not_mem (not_mem_decimal rfl)]

theorem readPins_table (array : List Nat) (offset : Nat) {before : Text}
    (plain : '\'' ∉ before) :
    readPins ((before ++ (array.zipIdx offset).flatMap fun entry =>
      vcpupin entry.2 entry.1).splitOn '\'') =
        some ((array.zipIdx offset).map Prod.swap) := by
  induction array generalizing offset before with
  | nil =>
      have whole : before.splitOn '\'' = [before] := List.splitOn_eq_singleton plain
      simp [whole, readPins]
  | cons cpuset array induction =>
      have closing : '\'' ∉ ("/>\\n" : Text) := by
        simp
      rw [List.zipIdx_cons, List.flatMap_cons, splitOn_vcpupin plain, readPins,
        parseNat?_decimal, parseNat?_decimal, induction (offset + 1) closing]
      rfl

/-- The table lists every entry of the array with its index. -/
theorem vcpuPins_vcpuTune (array : List Nat) :
    vcpuPins (vcpuTune array) = some (array.zipIdx.map Prod.swap) := by
  have plain : '\'' ∉ ([] : Text) := List.not_mem_nil
  exact readPins_table array 0 plain

theorem lookup_pins_offset (array : List Nat) (offset vcpu : Nat) :
    ((array.zipIdx offset).map Prod.swap).lookup (offset + vcpu) = array[vcpu]? := by
  induction array generalizing offset vcpu with
  | nil => rfl
  | cons cpuset array induction =>
      rw [List.zipIdx_cons, List.map_cons, Prod.swap_prod_mk, List.lookup_cons]
      cases vcpu with
      | zero => simp
      | succ vcpu =>
          have later : (offset + (vcpu + 1) == offset) = false := by
            rw [beq_eq_false_iff_ne]
            omega
          have shifted : offset + (vcpu + 1) = offset + 1 + vcpu := by omega
          rw [later, shifted]
          simpa using induction (offset + 1) vcpu

theorem lookup_pins (array : List Nat) (vcpu : Nat) :
    (array.zipIdx.map Prod.swap).lookup vcpu = array[vcpu]? := by
  simpa using lookup_pins_offset array 0 vcpu

/-! ## Host and guest lists -/

/-- The lists of the file name the same processors from both sides. -/
def SamePlaces (vcpuNum : Nat) (file : CpuListFile) : Prop :=
  ∃ host guest hostFirst guestFirst pins,
    (file.lookup .testHostList8).bind (readNumbers ',') = some host ∧
    (file.lookup .testGuestList8).bind (readNumbers ',') = some guest ∧
    (file.lookup .testHostList1).bind parseNat? = some hostFirst ∧
    (file.lookup .testGuestList1).bind parseNat? = some guestFirst ∧
    (file.lookup .vmCpuTune).bind vcpuPins = some pins ∧
    host.length = 8 ∧ guest.length = 8 ∧ (∀ vcpu ∈ guest, vcpu < vcpuNum) ∧
    (∀ (i : Nat) vcpu cpu, guest[i]? = some vcpu → host[i]? = some cpu →
      pins.lookup vcpu = some cpu) ∧
    pins.lookup guestFirst = some hostFirst

variable {segments : List Segment} {startIndex vcpuNum allCpuNum fioStartIndex : Nat}

theorem getElem?_fioHostCpuList (supported : Supported segments)
    (room : fioStartIndex + 8 ≤ vcpuNum) {i : Nat} (small : i < 8) :
    ((planOf segments startIndex vcpuNum allCpuNum).fioHostCpuList fioStartIndex)[i]? =
      some (hostCpu startIndex segments (fioStartIndex + i)) := by
  rw [Plan.fioHostCpuList, vcpuArray_planOf supported, List.getElem?_take, if_pos small,
    List.getElem?_drop, getElem?_placement, if_pos (by omega)]

theorem getElem?_fioGuestCpuList {i : Nat} (small : i < 8) :
    (fioGuestCpuList startIndex)[i]? = some (startIndex + i) := by
  rw [fioGuestCpuList, List.getElem?_map, List.getElem?_range small]
  rfl

/-- With room for eight processors the whole file is written. -/
theorem generateVmCpuList_room (supported : Supported segments) (even : vcpuNum % 2 = 0)
    (room : fioStartIndex + 8 ≤ vcpuNum) :
    generateVmCpuList (cpuString segments) startIndex vcpuNum allCpuNum fioStartIndex =
      let plan := planOf segments startIndex vcpuNum allCpuNum
      { status := 0
        file := some (plan.tuneLines (hostCpu startIndex segments 0) ++
          plan.testLines startIndex fioStartIndex
            (hostCpu startIndex segments fioStartIndex)) } := by
  have first : (planOf segments startIndex vcpuNum allCpuNum).vcpuArray.head? =
      some (hostCpu startIndex segments 0) := by
    rw [vcpuArray_planOf supported, head?_placement segments (by omega)]
  have hostFirst :
      ((planOf segments startIndex vcpuNum allCpuNum).fioHostCpuList fioStartIndex).head? =
        some (hostCpu startIndex segments fioStartIndex) := by
    rw [List.head?_eq_getElem?, getElem?_fioHostCpuList supported room (by decide), Nat.add_zero]
  rw [generateVmCpuList_supported supported _ _ _ (by omega) even, writeVmCpuTune]
  simp only [first, hostFirst]

theorem hostCpu_shift_eq {segment₀ segment₁ : Segment} {i j : Nat}
    (first : hostCpu startIndex [segment₀, segment₁] i =
      hostCpu startIndex [segment₀, segment₁] j)
    (second : hostCpu startIndex [segment₀, segment₁] (i + 1) =
      hostCpu startIndex [segment₀, segment₁] (j + 1)) : i = j := by
  simp only [hostCpu] at first second
  split at first <;> split at first <;> split at second <;> split at second <;> omega

/-- Two consecutive virtual processors on the processors of two others are these. -/
theorem eq_of_hostCpu_eq (supported : Supported segments) {i j : Nat}
    (first : hostCpu startIndex segments i = hostCpu startIndex segments j)
    (second : hostCpu startIndex segments (i + 1) = hostCpu startIndex segments (j + 1)) :
    i = j := by
  rcases supported_cases supported with ⟨segment, rfl⟩ | ⟨segment₀, segment₁, rfl⟩
  · simp only [hostCpu] at first
    omega
  · exact hostCpu_shift_eq first second

theorem length_fioHostCpuList (supported : Supported segments)
    (room : fioStartIndex + 8 ≤ vcpuNum) :
    ((planOf segments startIndex vcpuNum allCpuNum).fioHostCpuList fioStartIndex).length = 8 := by
  simp only [Plan.fioHostCpuList, vcpuArray_planOf supported, placement, List.length_take,
    List.length_drop, List.length_map, List.length_range]
  omega

/-- The host list is read back as it was computed. -/
theorem readNumbers_fioHostCpuList (supported : Supported segments)
    (room : fioStartIndex + 8 ≤ vcpuNum) :
    readNumbers ',' (joinWith ',' (((planOf segments startIndex vcpuNum allCpuNum).fioHostCpuList
        fioStartIndex).map decimal)) =
      some ((planOf segments startIndex vcpuNum allCpuNum).fioHostCpuList fioStartIndex) := by
  apply readNumbers_joinWith _ rfl
  intro empty
  have length : ((planOf segments startIndex vcpuNum allCpuNum).fioHostCpuList
      fioStartIndex).length = 8 := length_fioHostCpuList supported room
  rw [empty] at length
  contradiction

/-- The pinning table sends every virtual processor to its place. -/
theorem lookup_placement (startIndex : Nat) (segments : List Segment) (vcpuNum vcpu : Nat) :
    ((placement startIndex segments vcpuNum).zipIdx.map Prod.swap).lookup vcpu =
      if vcpu < vcpuNum then some (hostCpu startIndex segments vcpu) else none := by
  rw [lookup_pins, getElem?_placement]

/-- What `SamePlaces` says about the file of a call with room for eight processors. -/
theorem samePlaces_iff (supported : Supported segments) (room : fioStartIndex + 8 ≤ vcpuNum) :
    SamePlaces vcpuNum
        ((planOf segments startIndex vcpuNum allCpuNum).tuneLines (hostCpu startIndex segments 0) ++
          (planOf segments startIndex vcpuNum allCpuNum).testLines startIndex fioStartIndex
            (hostCpu startIndex segments fioStartIndex)) ↔
      startIndex + 8 ≤ vcpuNum ∧ ∀ i < 8, hostCpu startIndex segments (startIndex + i) =
        hostCpu startIndex segments (fioStartIndex + i) := by
  let plan := planOf segments startIndex vcpuNum allCpuNum
  have hostLength : (plan.fioHostCpuList fioStartIndex).length = 8 :=
    length_fioHostCpuList supported room
  have readHost : readNumbers ',' (joinWith ',' ((plan.fioHostCpuList fioStartIndex).map decimal)) =
      some (plan.fioHostCpuList fioStartIndex) := readNumbers_fioHostCpuList supported room
  have readGuest : readNumbers ',' (joinWith ',' ((fioGuestCpuList startIndex).map decimal)) =
      some (fioGuestCpuList startIndex) :=
    readNumbers_joinWith (List.cons_ne_nil _ _) rfl
  have readTune : vcpuPins (vcpuTune plan.vcpuArray) =
      some ((placement startIndex segments vcpuNum).zipIdx.map Prod.swap) := by
    rw [vcpuPins_vcpuTune, vcpuArray_planOf supported]
  constructor
  · rintro ⟨host, guest, hostFirst, guestFirst, pins, hostText, guestText, -, -, tuneText, -, -,
      below, same, -⟩
    cases readHost.symm.trans hostText
    cases readGuest.symm.trans guestText
    cases readTune.symm.trans tuneText
    have inside : ∀ i < 8, startIndex + i < vcpuNum := by
      intro i small
      exact below _ (List.mem_of_getElem? (getElem?_fioGuestCpuList small))
    refine ⟨inside 7 (by decide), fun i small => ?_⟩
    have agree := same i _ _ (getElem?_fioGuestCpuList small)
      (getElem?_fioHostCpuList supported room small)
    rw [lookup_placement, if_pos (inside i small)] at agree
    exact Option.some.inj agree
  · rintro ⟨guestRoom, same⟩
    refine ⟨_, _, hostCpu startIndex segments fioStartIndex, startIndex, _, readHost, readGuest,
      parseNat?_decimal _, parseNat?_decimal _, readTune, hostLength, rfl, ?_, ?_, ?_⟩
    · intro vcpu member
      obtain ⟨i, small, rfl⟩ := List.mem_map.mp member
      rw [List.mem_range] at small
      omega
    · intro i vcpu cpu guestEntry hostEntry
      have small : i < 8 := by
        rw [← hostLength]
        exact (List.getElem?_eq_some_iff.mp hostEntry).1
      rw [getElem?_fioGuestCpuList small] at guestEntry
      rw [getElem?_fioHostCpuList supported room small] at hostEntry
      cases guestEntry
      cases hostEntry
      rw [lookup_placement, if_pos (by omega), same i small]
    · have first := same 0 (by decide)
      rw [Nat.add_zero, Nat.add_zero] at first
      rw [lookup_placement, if_pos (by omega), first]

/-- Host and guest lists name the same processors exactly when both indices agree. -/
theorem samePlaces_iff_sameStart (segments : List Segment)
    (startIndex vcpuNum allCpuNum fioStartIndex : Nat) (supported : Supported segments)
    (even : vcpuNum % 2 = 0) (room : fioStartIndex + 8 ≤ vcpuNum) :
    (∃ file,
      (generateVmCpuList (cpuString segments) startIndex vcpuNum allCpuNum fioStartIndex).file =
        some file ∧ SamePlaces vcpuNum file) ↔
      startIndex = fioStartIndex := by
  rw [generateVmCpuList_room supported even room]
  simp only [Option.some.injEq, exists_eq_left', samePlaces_iff supported room]
  constructor
  · rintro ⟨-, same⟩
    have first := same 0 (by decide)
    have second := same 1 (by decide)
    rw [Nat.add_zero, Nat.add_zero] at first
    exact eq_of_hostCpu_eq supported first second
  · rintro rfl
    exact ⟨room, fun i _ => rfl⟩

theorem samePlaces_shippedIndices :
    ∃ file, (generateVmCpuList (cpuString [.range 0 63]) 8 32 128 8).file = some file ∧
      SamePlaces 32 file :=
  (samePlaces_iff_sameStart [.range 0 63] 8 32 128 8 ⟨List.cons_ne_nil _ _, by decide⟩
    (by decide) (by decide)).mpr rfl

/-- With another index for the benchmark the guest list still starts at the first one. -/
theorem differentIndices_differ :
    ∃ file, generateVmCpuList (cpuString [.range 0 63]) 8 32 128 0 =
        { status := 0, file := some file } ∧
      (file.lookup .testHostList1).bind parseNat? = some 8 ∧
      (file.lookup .testGuestList1).bind parseNat? = some 8 ∧
      ((file.lookup .vmCpuTune).bind vcpuPins).bind (List.lookup 8) = some 16 ∧
      ¬ SamePlaces 32 file := by
  have supported : Supported [Segment.range 0 63] := ⟨List.cons_ne_nil _ _, by decide⟩
  refine ⟨_, generateVmCpuList_room supported (by decide) (by decide), parseNat?_decimal 8,
    parseNat?_decimal 8, ?_, ?_⟩
  · change (vcpuPins (vcpuTune _)).bind (List.lookup 8) = some 16
    rw [vcpuPins_vcpuTune, Option.bind_some, lookup_pins]
    rfl
  · rw [samePlaces_iff supported (by decide)]
    rintro ⟨-, same⟩
    exact absurd (same 0 (by decide)) (by decide)

end Vm
