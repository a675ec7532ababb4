import ArmTest.Nginx.Handshake

/-!
# Placement of the workers

The configuration written for a test point is read back the way the web server reads it, and the
processors its workers are bound to are compared with the number of cores in the label.
-/

namespace Nginx

open Shell

/-! ## Reading the worker directives -/

/-- `ngx_atoi`: decimal digits only, and no overflow. -/
def ngxAtoi (value : Text) : Option Nat :=
  (parseNat? value).bind fun n => if n ≤ 2 ^ 63 - 1 then some n else none

/-- `ngx_set_worker_processes` on the arguments of its directive. -/
def ngxSetWorkerProcesses (ngxNcpu : Nat) : List Text → Option Nat
  | [value] => if value = "auto" then some ngxNcpu else ngxAtoi value
  | _ => none

/-- The mask loop of `ngx_set_cpu_affinity`, from the right end of the mask. -/
def scanMask : Nat → Text → Option (List Nat)
  | _, [] => some []
  | i, c :: cs =>
      if c = ' ' then scanMask i cs
      else if c = '0' then scanMask (i + 1) cs
      else if c = '1' then (scanMask (i + 1) cs).map fun set => i :: set
      else none

/-- Processors of one mask, limited to `CPU_SETSIZE` characters. -/
def decodeMask (value : Text) : Option (List Nat) :=
  if 1024 < value.length then none else scanMask 0 value.reverse

/-- `ngx_set_cpu_affinity` on explicit masks; the scripts never write `auto` here. -/
def ngxSetCpuAffinity (args : List Text) : Option (List (List Nat)) :=
  if args = [] then none else args.mapM decodeMask

/-- The fields of `ngx_core_conf_t` set by the two directives. -/
structure CoreConf where
  /-- Number of workers. -/
  workerProcesses : Nat
  /-- Processor sets, in the order of the masks. -/
  cpuAffinity : List (List Nat)
  deriving DecidableEq

/-- Read a directive that may stand at most once. -/
def readOnce {α : Type} (default : α) (set : List Text → Option α) : List (List Text) → Option α
  | [] => some default
  | [args] => set args
  | _ => none

/-- Read both directives. -/
def readCore (ngxNcpu : Nat) (conf : List Text) : Option CoreConf :=
  (readOnce 1 (ngxSetWorkerProcesses ngxNcpu) (directiveArgs "worker_processes" conf)).bind
    fun count =>
      (readOnce [] ngxSetCpuAffinity (directiveArgs "worker_cpu_affinity" conf)).map
        fun sets => ⟨count, sets⟩

/-- `ngx_get_cpu_affinity`: workers beyond the last mask share it. -/
def CoreConf.ngxGetCpuAffinity (ccf : CoreConf) (n : Nat) : Option (List Nat) :=
  if n < ccf.cpuAffinity.length then ccf.cpuAffinity[n]? else ccf.cpuAffinity.getLast?

theorem scanMask_zeros (count i : Nat) (rest : Text) :
    scanMask i (List.replicate count '0' ++ rest) = scanMask (i + count) rest := by
  induction count generalizing i with
  | zero => rfl
  | succ count induction =>
      rw [List.replicate_succ, List.cons_append, scanMask, if_neg (by decide), if_pos rfl,
        induction]
      congr 1
      omega

/-- A mask written by the script is read back as its processor. -/
theorem decodeMask_mask {cpu : Nat} (bound : cpu < 1024) : decodeMask (mask cpu) = some [cpu] := by
  by_cases zero : cpu = 0
  · subst zero
    decide
  · have length : (mask cpu).length = cpu + 1 := by simp [mask, zero]
    rw [decodeMask, if_neg (by omega), mask, if_neg zero, List.reverse_cons,
      List.reverse_replicate, scanMask_zeros]
    simp [scanMask]

theorem ngxSetCpuAffinity_masks {cpus : List Nat} (nonempty : cpus ≠ [])
    (bound : ∀ cpu ∈ cpus, cpu < 1024) :
    ngxSetCpuAffinity (cpus.map mask) = some (cpus.map fun cpu => [cpu]) := by
  rw [ngxSetCpuAffinity, if_neg (by simpa using nonempty)]
  clear nonempty
  induction cpus with
  | nil => rfl
  | cons cpu cpus induction =>
      have first := decodeMask_mask (bound cpu List.mem_cons_self)
      have rest := induction fun other member => bound other (List.mem_cons_of_mem cpu member)
      simp [List.mapM_cons, first, rest]

/-! ## Words of the edited lines -/

/-- Characters that neither end a word nor start a comment. -/
def wordChar (c : Char) : Bool := c != ' ' && c != '\t' && c != ';' && c != '#'

theorem readWords_append {word : Text} (before rest : Text)
    (plain : ∀ c ∈ word, wordChar c = true) :
    readWords before (word ++ rest) = readWords (before ++ word) rest := by
  induction word generalizing before with
  | nil => simp
  | cons c word induction =>
      have head := plain c List.mem_cons_self
      simp only [wordChar, Bool.and_eq_true, bne_iff_ne] at head
      obtain ⟨⟨⟨notBlank, notTab⟩, notEnd⟩, notComment⟩ := head
      rw [List.cons_append, readWords, if_neg (by simp [notBlank, notTab]), if_neg notEnd,
        if_neg (by simp [notComment]),
        induction (before ++ [c]) fun d member => plain d (List.mem_cons_of_mem c member)]
      simp

theorem readWords_maskList (word : Text) (cpus : List Nat) :
    readWords word (maskList cpus ++ ";") =
      (if word = [] then [] else [word]) ++ cpus.map mask := by
  induction cpus generalizing word with
  | nil => simp [maskList, readWords]
  | cons cpu cpus induction =>
      have plain : ∀ c ∈ mask cpu, wordChar c = true := by
        intro c member
        rcases mem_mask member with rfl | rfl <;> decide
      have split : maskList (cpu :: cpus) ++ ";" = ' ' :: (mask cpu ++ (maskList cpus ++ ";")) := by
        simp [maskList]
      rw [split, readWords, if_pos (Or.inl rfl), readWords_append [] _ plain, List.nil_append,
        induction, if_neg (mask_ne_nil cpu)]
      rfl

theorem readWords_workers (core : Nat) :
    readWords [] ("worker_processes " ++ (Workers.count core).text) =
      [("worker_processes" : Text), decimal core] := by
  have plain : ∀ c ∈ decimal core, wordChar c = true := by
    intro c member
    have digit := isDigit_of_mem_decimal member
    simp only [wordChar, Bool.and_eq_true, bne_iff_ne]
    refine ⟨⟨⟨?_, ?_⟩, ?_⟩, ?_⟩ <;> rintro rfl <;> simp at digit
  have line : ("worker_processes " : Text) ++ (Workers.count core).text =
      "worker_processes" ++ (' ' :: (decimal core ++ ";")) := by
    simp [Workers.text]
  have directive : ∀ c ∈ ("worker_processes" : Text), wordChar c = true := by
    simp [wordChar]
  rw [line, readWords_append [] _ directive, readWords, if_pos (Or.inl rfl),
    readWords_append [] _ plain]
  simp [readWords, decimal_ne_nil]

theorem readWords_affinity (ids : List Nat) :
    readWords [] ("worker_cpu_affinity " ++ (Affinity.cpus ids).text) =
      ("worker_cpu_affinity" : Text) :: ids.map mask := by
  have line : ("worker_cpu_affinity " : Text) ++ (Affinity.cpus ids).text =
      "worker_cpu_affinity" ++ (' ' :: (maskList ids ++ ";")) := by
    simp [Affinity.text]
  have directive : ∀ c ∈ ("worker_cpu_affinity" : Text), wordChar c = true := by
    simp [wordChar]
  rw [line, readWords_append [] _ directive, readWords, if_pos (Or.inl rfl),
    readWords_maskList]
  simp

theorem lineArgs_eq {directive line word : Text} {args : List Text}
    (words : readWords [] line = word :: args) :
    lineArgs directive line = if word = directive then some args else none := by
  rw [lineArgs, words]

/-- A directive is read from its own line only. -/
theorem directiveArgs_render {directive : Text} (settings : Settings)
    (frame : ∀ line ∈ confHead ++ confMiddle ++ confTail, lineArgs directive line = none)
    (gzipLine : lineArgs directive ("    gzip " ++ settings.gzip.text) = none) :
    directiveArgs directive (render settings) =
      (lineArgs directive ("worker_processes " ++ settings.workers.text)).toList ++
        (affinityLines settings.affinity).filterMap (lineArgs directive) := by
  have skip : ∀ lines : List Text, (∀ line ∈ lines, line ∈ confHead ++ confMiddle ++ confTail) →
      lines.filterMap (lineArgs directive) = [] := by
    intro lines inside
    rw [List.filterMap_eq_nil_iff]
    exact fun line member => frame line (inside line member)
  have head := skip confHead fun line member => by simp [member]
  have middle := skip confMiddle fun line member => by simp [member]
  have tail := skip confTail fun line member => by simp [member]
  simp only [directiveArgs, render, List.filterMap_append, head, middle, tail,
    List.filterMap_cons, List.filterMap_nil, gzipLine, List.nil_append, List.append_nil]
  cases lineArgs directive ("worker_processes " ++ settings.workers.text) <;> rfl

theorem frame_lineArgs {line : Text} (member : line ∈ confHead ++ confMiddle ++ confTail) :
    lineArgs "worker_processes" line = none ∧ lineArgs "worker_cpu_affinity" line = none := by
  have silent := bystander_of_mem member
  simp only [bystander, Bool.and_eq_true, Option.isNone_iff_eq_none] at silent
  exact ⟨silent.1.2, silent.2⟩

/-- The arguments of the mask line are the masks of its processors. -/
theorem directiveArgs_masks {core : Nat} {ids : List Nat} {settings : Settings}
    (workers : settings.workers = .count core) (affinity : settings.affinity = some (.cpus ids)) :
    directiveArgs "worker_cpu_affinity" (render settings) = [ids.map mask] := by
  have workersDiffer : ("worker_processes" : Text) ≠ "worker_cpu_affinity" := by decide
  rw [directiveArgs_render settings (fun line member => (frame_lineArgs member).2)
    (by cases settings.gzip <;> decide), workers, affinity, affinityLines,
    lineArgs_eq (readWords_workers core), if_neg workersDiffer, List.filterMap_cons,
    lineArgs_eq (readWords_affinity ids), if_pos rfl]
  rfl

/-- The web server reads back exactly what the script wrote for a test point. -/
theorem readCore_render {ngxNcpu core : Nat} {ids : List Nat} {settings : Settings}
    (workers : settings.workers = .count core) (affinity : settings.affinity = some (.cpus ids))
    (small : core ≤ 2 ^ 63 - 1) (nonempty : ids ≠ []) (bound : ∀ cpu ∈ ids, cpu < 1024) :
    readCore ngxNcpu (render settings) = some ⟨core, ids.map fun cpu => [cpu]⟩ := by
  have workersDiffer : ("worker_processes" : Text) ≠ "worker_cpu_affinity" := by decide
  have workerArgs : directiveArgs "worker_processes" (render settings) = [[decimal core]] := by
    rw [directiveArgs_render settings (fun line member => (frame_lineArgs member).1)
      (by cases settings.gzip <;> decide), workers, affinity, affinityLines,
      lineArgs_eq (readWords_workers core), if_pos rfl, List.filterMap_cons,
      lineArgs_eq (readWords_affinity ids), if_neg workersDiffer.symm]
    rfl
  have count : ngxSetWorkerProcesses ngxNcpu [decimal core] = some core := by
    have notAuto : decimal core ≠ "auto" := by
      intro auto
      have digit : 'a'.isDigit = true := isDigit_of_mem_decimal (by rw [auto]; decide)
      simp at digit
    rw [ngxSetWorkerProcesses, if_neg notAuto, ngxAtoi, parseNat?_decimal, Option.bind_some,
      if_pos small]
  rw [readCore, workerArgs, directiveArgs_masks workers affinity, readOnce, count, readOnce,
    ngxSetCpuAffinity_masks nonempty bound]
  rfl

end Nginx
