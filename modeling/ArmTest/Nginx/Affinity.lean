import ArmTest.Nginx.Placement
import ArmTest.Shell.Filter

/-!
# From a processor list to masks and back

`cpu_str_to_affinity` works on words: it pads a zero to the width of the processor number.  The
masks it writes are those of the processors, and the web server decodes them one by one to the
processors they were made from.
-/

namespace Nginx

open Shell

/-! ## The words of the script -/

/-- `printf "%0<width>d"` of a natural number. -/
def printfZero (width value : Nat) : Text :=
  List.replicate (width - (decimal value).length) '0' ++ decimal value

/-- The word appended for a processor. -/
def maskWord (cpu : Text) : Text :=
  if shellNat cpu = 0 then "1" else '1' :: printfZero (shellNat cpu) 0

/-- The loop of `cpu_str_to_affinity` over the words not yet visited. -/
def cpuStrLoop (nbCore : Nat) : Nat → List Text → Text → Text
  | _, [], affinity => affinity
  | cnt, cpu :: rest, affinity =>
      if nbCore ≤ cnt then affinity
      else cpuStrLoop nbCore (cnt + 1) rest (affinity ++ " " ++ maskWord cpu)

/-- The variable `cpu_affinity` after `cpu_str_to_affinity`. -/
def cpuAffinity (cpuStr : Text) (nbCore : Nat) : Text := cpuStrLoop nbCore 0 (words cpuStr) []

example : cpuAffinity " 0 3 1" 2 = " 1 1000".toList := by decide

/-- A zero padded to a positive width is a run of zeros. -/
theorem printfZero_zero {width : Nat} (positive : 0 < width) :
    printfZero width 0 = List.replicate width '0' := by
  have zero : decimal 0 = ['0'] := rfl
  have split : width = (width - 1) + 1 := by omega
  rw [printfZero, zero, List.length_singleton]
  nth_rewrite 2 [split]
  rw [List.replicate_succ']

theorem maskWord_decimal (cpu : Nat) : maskWord (decimal cpu) = mask cpu := by
  rw [maskWord, shellNat_decimal, mask]
  split
  · rfl
  · rw [printfZero_zero (by omega)]

theorem cpuStrLoop_decimal (nbCore cnt : Nat) (cpus : List Nat) (affinity : Text) :
    cpuStrLoop nbCore cnt (cpus.map decimal) affinity = affinityLoop nbCore cnt cpus affinity := by
  induction cpus generalizing cnt affinity with
  | nil => rfl
  | cons cpu cpus induction =>
      rw [List.map_cons, cpuStrLoop, affinityLoop, maskWord_decimal, induction]

/-- On the words of a processor list the script writes the masks of the first processors. -/
theorem cpuAffinity_eq {cpuStr : Text} {cpus : List Nat} (listed : words cpuStr = cpus.map decimal)
    (nbCore : Nat) : cpuAffinity cpuStr nbCore = maskList (cpus.take nbCore) := by
  rw [cpuAffinity, listed, cpuStrLoop_decimal]
  exact cpuStrToAffinity_eq cpus nbCore

/-! ## Back to processors -/

theorem words_maskList (cpus : List Nat) : words (maskList cpus) = cpus.map mask := by
  apply words_blank_words
  · exact fun cpu _ => mask_ne_nil cpu
  · intro cpu _ c member
    rcases mem_mask member with rfl | rfl <;> decide

/-- The masks of a processor list are accepted and decode to its first processors, one each. -/
theorem affinity_roundTrip {cpuStr : Text} {cpus : List Nat} {nbCore : Nat}
    (listed : words cpuStr = cpus.map decimal) (nonempty : cpus ≠ [])
    (bound : ∀ cpu ∈ cpus, cpu < 1024) (positive : 1 ≤ nbCore) :
    ∃ sets, ngxSetCpuAffinity (words (cpuAffinity cpuStr nbCore)) = some sets ∧
      sets = (cpus.take nbCore).map (fun cpu => [cpu]) ∧
      sets.length = min nbCore cpus.length := by
  have some_cpu : cpus.take nbCore ≠ [] := by
    intro empty
    have none := congrArg List.length empty
    have counted := List.length_pos_of_ne_nil nonempty
    simp only [List.length_take, List.length_nil] at none
    omega
  refine ⟨_, ?_, rfl, by rw [List.length_map, List.length_take]⟩
  rw [cpuAffinity_eq listed, words_maskList]
  exact ngxSetCpuAffinity_masks some_cpu fun cpu member => bound cpu (List.mem_of_mem_take member)

theorem affinity_roundTrip_threeCpus :
    ∃ sets, ngxSetCpuAffinity (words (cpuAffinity " 0 64 1023" 2)) = some sets ∧
      sets = [[0], [64]] ∧ sets.length = 2 := by
  have listed : words " 0 64 1023" = [0, 64, 1023].map decimal := by decide
  have positive : 1 ≤ 2 := by decide
  exact affinity_roundTrip listed (by decide) (by decide) positive

end Nginx
