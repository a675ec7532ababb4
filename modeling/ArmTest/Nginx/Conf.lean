import ArmTest.Nginx.Template

/-!
# Contents of the configuration file

The values the server script writes into the three edited lines, and the effect of each edit on a
file with given values: it changes its own line and leaves the rest of the file alone.
-/

namespace Nginx

open Shell

/-! ## Masks -/

/-- The mask of one processor: a one followed by as many zeros as the processor number. -/
def mask (cpu : Nat) : Text :=
  if cpu = 0 then "1" else '1' :: List.replicate cpu '0'

/-- The loop of `cpu_str_to_affinity` over the processors not yet visited. -/
def affinityLoop (nbCore : Nat) : Nat → List Nat → Text → Text
  | _, [], affinity => affinity
  | cnt, cpu :: rest, affinity =>
      if nbCore ≤ cnt then affinity
      else affinityLoop nbCore (cnt + 1) rest (affinity ++ " " ++ mask cpu)

/-- Masks of the first `nbCore` processors of a list, each after a blank. -/
def cpuStrToAffinity (cpuStr : List Nat) (nbCore : Nat) : Text :=
  affinityLoop nbCore 0 cpuStr []

/-- Masks of a list of processors, each after a blank. -/
def maskList (cpus : List Nat) : Text := cpus.flatMap fun cpu => ' ' :: mask cpu

theorem affinityLoop_eq (nbCore cnt : Nat) (cpus : List Nat) (affinity : Text) :
    affinityLoop nbCore cnt cpus affinity = affinity ++ maskList (cpus.take (nbCore - cnt)) := by
  induction cpus generalizing cnt affinity with
  | nil => simp [affinityLoop, maskList]
  | cons cpu cpus induction =>
      by_cases full : nbCore ≤ cnt
      · simp [affinityLoop, maskList, full]
      · have room : nbCore - cnt = (nbCore - (cnt + 1)) + 1 := by omega
        simp only [affinityLoop, full, if_false]
        rw [induction, room]
        simp [maskList]

theorem cpuStrToAffinity_eq (cpuStr : List Nat) (nbCore : Nat) :
    cpuStrToAffinity cpuStr nbCore = maskList (cpuStr.take nbCore) := by
  simp [cpuStrToAffinity, affinityLoop_eq]

theorem mask_ne_nil (cpu : Nat) : mask cpu ≠ [] := by
  rw [mask]
  split <;> simp

theorem mem_mask {cpu : Nat} {c : Char} (member : c ∈ mask cpu) : c = '1' ∨ c = '0' := by
  unfold mask at member
  split at member
  · left
    simpa using member
  · rcases List.mem_cons.mp member with one | zero
    · exact Or.inl one
    · exact Or.inr (List.eq_of_mem_replicate zero)

theorem mem_maskList {cpus : List Nat} {c : Char} (member : c ∈ maskList cpus) :
    c = ' ' ∨ c = '1' ∨ c = '0' := by
  obtain ⟨cpu, -, inside⟩ := List.mem_flatMap.mp member
  rcases List.mem_cons.mp inside with blank | digit
  · exact Or.inl blank
  · exact Or.inr (mem_mask digit)

/-! ## The edited lines -/

/-- Values of the compression switch. -/
inductive Gzip where
  | shipped
  | off
  | on
  deriving DecidableEq

/-- Values of the worker count. -/
inductive Workers where
  | shipped
  | count (core : Nat)
  | auto
  deriving DecidableEq

/-- Values of the mask list. -/
inductive Affinity where
  | shipped
  | cpus (ids : List Nat)
  deriving DecidableEq

/-- Text behind `gzip` and a blank. -/
def Gzip.text : Gzip → Text
  | .shipped => " off;"
  | .off => "off;"
  | .on => "on;"

/-- Text behind `worker_processes` and a blank. -/
def Workers.text : Workers → Text
  | .shipped => " 1;"
  | .count core => decimal core ++ ";"
  | .auto => "auto;"

/-- Text behind `worker_cpu_affinity` and a blank. -/
def Affinity.text : Affinity → Text
  | .shipped => "1;"
  | .cpus ids => maskList ids ++ ";"

/-- The contents of the three edited lines; the mask line may be missing. -/
structure Settings where
  /-- Compression switch. -/
  gzip : Gzip
  /-- Number of worker processes. -/
  workers : Workers
  /-- Masks of the workers. -/
  affinity : Option Affinity
  deriving DecidableEq

/-- The shipped values. -/
def Settings.shipped : Settings where
  gzip := .shipped
  workers := .shipped
  affinity := some .shipped

/-- The mask line, if there is one. -/
def affinityLines : Option Affinity → List Text
  | none => []
  | some affinity => ["worker_cpu_affinity " ++ affinity.text]

/-- The file with the given values in its three edited lines. -/
def render (settings : Settings) : List Text :=
  confHead ++ ["worker_processes " ++ settings.workers.text] ++ affinityLines settings.affinity ++
    confMiddle ++ ["    gzip " ++ settings.gzip.text] ++ confTail

/-- The file `nginx.conf` of the repository. -/
def nginxConf : List Text := render .shipped

theorem not_mem_workers {workers : Workers} {c : Char} (notDigit : c.isDigit = false)
    (fresh : c ∉ " 1;auto;".toList) : c ∉ workers.text := by
  cases workers with
  | shipped =>
      simp only [Workers.text]
      simp_all
  | count core =>
      simp only [Workers.text, List.mem_append, not_or]
      refine ⟨not_mem_decimal notDigit, ?_⟩
      simp_all
  | auto =>
      simp only [Workers.text]
      simp_all

theorem not_mem_affinity {affinity : Affinity} {c : Char} (fresh : c ∉ " 10;".toList) :
    c ∉ affinity.text := by
  cases affinity with
  | shipped =>
      simp only [Affinity.text]
      simp_all
  | cpus ids =>
      simp only [Affinity.text, List.mem_append, not_or]
      refine ⟨fun member => ?_, by simp_all⟩
      rcases mem_maskList member with rfl | rfl | rfl <;> simp at fresh

theorem setDirective_workers (value : Text) (workers : Workers) :
    setDirective "worker_processes" value ("worker_processes " ++ workers.text) =
      "worker_processes " ++ value := by
  simp [setDirective]

theorem setDirective_affinity (value : Text) (affinity : Affinity) :
    setDirective "worker_cpu_affinity" value ("worker_cpu_affinity " ++ affinity.text) =
      "worker_cpu_affinity " ++ value := by
  simp [setDirective]

theorem setDirective_gzip (value : Text) (gzip : Gzip) :
    setDirective "gzip" value ("    gzip " ++ gzip.text) = "    gzip " ++ value := by
  simp [setDirective]

/-- An edit that leaves the frame alone acts on the three edited lines only. -/
theorem map_render (edit : Text → Text) (settings : Settings)
    (frame : ∀ line ∈ confHead ++ confMiddle ++ confTail, edit line = line) :
    (render settings).map edit =
      confHead ++ [edit ("worker_processes " ++ settings.workers.text)] ++
        (affinityLines settings.affinity).map edit ++
          confMiddle ++ [edit ("    gzip " ++ settings.gzip.text)] ++ confTail := by
  have keep : ∀ lines : List Text, (∀ line ∈ lines, line ∈ confHead ++ confMiddle ++ confTail) →
      lines.map edit = lines := by
    intro lines inside
    simpa using List.map_congr_left fun line member => frame line (inside line member)
  have head := keep confHead fun line member => by simp [member]
  have middle := keep confMiddle fun line member => by simp [member]
  have tail := keep confTail fun line member => by simp [member]
  simp only [render, List.map_append, List.map_cons, List.map_nil, head, middle, tail]

theorem bystander_of_mem {line : Text} (member : line ∈ confHead ++ confMiddle ++ confTail) :
    bystander line = true :=
  List.all_eq_true.mp frame_bystander line member

theorem frame_setWorkers (value : Text) :
    ∀ line ∈ confHead ++ confMiddle ++ confTail,
      setDirective "worker_processes" value line = line := by
  intro line member
  have silent := bystander_of_mem member
  simp only [bystander, Bool.and_eq_true, Bool.not_eq_true'] at silent
  exact setDirective_of_not_mentions value silent.1.1.1.1.1

theorem frame_setAffinity (value : Text) :
    ∀ line ∈ confHead ++ confMiddle ++ confTail,
      setDirective "worker_cpu_affinity" value line = line := by
  intro line member
  have silent := bystander_of_mem member
  simp only [bystander, Bool.and_eq_true, Bool.not_eq_true'] at silent
  exact setDirective_of_not_mentions value silent.1.1.1.1.2

theorem frame_setGzip (value : Text) :
    ∀ line ∈ confHead ++ confMiddle ++ confTail, setDirective "gzip" value line = line := by
  intro line member
  have silent := bystander_of_mem member
  simp only [bystander, Bool.and_eq_true, Bool.not_eq_true'] at silent
  exact setDirective_of_not_mentions value silent.1.1.1.2

theorem mentions_own (directive value : Text) (nonempty : directive ≠ []) (indent : Nat) :
    mentions directive (List.replicate indent ' ' ++ (directive ++ " " ++ value)) = true := by
  induction indent with
  | zero =>
      cases directive with
      | nil => contradiction
      | cons c cs => simp [mentions]
  | succ indent induction =>
      rw [List.replicate_succ, List.cons_append, mentions, induction, Bool.or_true]

theorem mentions_workers_own (workers : Workers) :
    mentions "worker_processes" ("worker_processes " ++ workers.text) = true :=
  mentions_own "worker_processes" workers.text (by decide) 0

theorem mentions_affinity_own (affinity : Affinity) :
    mentions "worker_cpu_affinity" ("worker_cpu_affinity " ++ affinity.text) = true :=
  mentions_own "worker_cpu_affinity" affinity.text (by decide) 0

theorem mentions_gzip_own (gzip : Gzip) : mentions "gzip" ("    gzip " ++ gzip.text) = true :=
  mentions_own "gzip" gzip.text (by decide) 4

theorem mentions_workers_affinity (affinity : Affinity) :
    mentions "worker_processes" ("worker_cpu_affinity " ++ affinity.text) = false := by
  have silent : mentions "worker_processes" affinity.text = false :=
    mentions_of_not_mem (not_mem_affinity (by decide))
  simpa [mentions, List.isPrefixOf] using silent

theorem mentions_workers_gzip (gzip : Gzip) :
    mentions "worker_processes" ("    gzip " ++ gzip.text) = false := by
  cases gzip <;> decide

theorem mentions_affinity_workers (workers : Workers) :
    mentions "worker_cpu_affinity" ("worker_processes " ++ workers.text) = false := by
  have silent : mentions "worker_cpu_affinity" workers.text = false :=
    mentions_of_not_mem (not_mem_workers (by decide) (by decide))
  simpa [mentions, List.isPrefixOf] using silent

theorem mentions_affinity_gzip (gzip : Gzip) :
    mentions "worker_cpu_affinity" ("    gzip " ++ gzip.text) = false := by
  cases gzip <;> decide

theorem mentions_gzip_workers (workers : Workers) :
    mentions "gzip" ("worker_processes " ++ workers.text) = false := by
  have silent : mentions "gzip" workers.text = false :=
    mentions_of_not_mem (not_mem_workers (by decide) (by decide))
  simpa [mentions, List.isPrefixOf] using silent

theorem mentions_gzip_affinity (affinity : Affinity) :
    mentions "gzip" ("worker_cpu_affinity " ++ affinity.text) = false := by
  have silent : mentions "gzip" affinity.text = false :=
    mentions_of_not_mem (not_mem_affinity (by decide))
  simpa [mentions, List.isPrefixOf] using silent

theorem setDirective_affinityLines {directive : Text} (value : Text) {affinity : Option Affinity}
    (silent : ∀ present, mentions directive ("worker_cpu_affinity " ++ Affinity.text present) = false) :
    (affinityLines affinity).map (setDirective directive value) = affinityLines affinity := by
  cases affinity with
  | none => rfl
  | some affinity =>
      simp only [affinityLines, List.map_cons, List.map_nil,
        setDirective_of_not_mentions value (silent affinity)]

/-- Setting the worker count changes the worker line only. -/
theorem render_setWorkers (settings : Settings) (workers : Workers) :
    (render settings).map (setDirective "worker_processes" workers.text) =
      render { settings with workers := workers } := by
  rw [map_render _ settings (frame_setWorkers workers.text), setDirective_workers,
    setDirective_affinityLines _ mentions_workers_affinity,
    setDirective_of_not_mentions _ (mentions_workers_gzip _)]
  rfl

/-- Setting the masks changes the mask line only, provided there is one. -/
theorem render_setAffinity {settings : Settings} {before : Affinity}
    (present : settings.affinity = some before) (affinity : Affinity) :
    (render settings).map (setDirective "worker_cpu_affinity" affinity.text) =
      render { settings with affinity := some affinity } := by
  rw [map_render _ settings (frame_setAffinity affinity.text),
    setDirective_of_not_mentions _ (mentions_affinity_workers _),
    setDirective_of_not_mentions _ (mentions_affinity_gzip _), present]
  simp only [affinityLines, List.map_cons, List.map_nil, setDirective_affinity]
  rfl

/-- Without a mask line there is nothing to set. -/
theorem render_setAffinity_absent {settings : Settings} (absent : settings.affinity = none)
    (value : Text) :
    (render settings).map (setDirective "worker_cpu_affinity" value) = render settings := by
  rw [map_render _ settings (frame_setAffinity value),
    setDirective_of_not_mentions _ (mentions_affinity_workers _),
    setDirective_of_not_mentions _ (mentions_affinity_gzip _), render, absent]
  rfl

/-- Switching compression changes the compression line only. -/
theorem render_setGzip (settings : Settings) (gzip : Gzip) :
    (render settings).map (setDirective "gzip" gzip.text) =
      render { settings with gzip := gzip } := by
  rw [map_render _ settings (frame_setGzip gzip.text), setDirective_gzip,
    setDirective_of_not_mentions _ (mentions_gzip_workers _),
    setDirective_affinityLines _ mentions_gzip_affinity]
  rfl

/-- Deleting the masks removes the mask line only. -/
theorem render_deleteAffinity (settings : Settings) :
    deleteLines "worker_cpu_affinity" (render settings) =
      render { settings with affinity := none } := by
  have frame : ∀ line ∈ confHead ++ confMiddle ++ confTail,
      grepQ "worker_cpu_affinity" line = false := by
    intro line member
    have silent := bystander_of_mem member
    simp only [bystander, Bool.and_eq_true, Bool.not_eq_true'] at silent
    exact silent.1.1.2
  have keep : ∀ lines : List Text, (∀ line ∈ lines, line ∈ confHead ++ confMiddle ++ confTail) →
      deleteLines "worker_cpu_affinity" lines = lines := by
    intro lines inside
    rw [deleteLines, List.filter_eq_self]
    intro line member
    rw [frame line (inside line member)]
    rfl
  have head := keep confHead fun line member => by simp [member]
  have middle := keep confMiddle fun line member => by simp [member]
  have tail := keep confTail fun line member => by simp [member]
  have workersLine :
      grepQ "worker_cpu_affinity" ("worker_processes " ++ settings.workers.text) = false := by
    apply grepQ_eq_false (c := 'y') (by decide)
    have fresh : 'y' ∉ settings.workers.text := not_mem_workers (by decide) (by decide)
    simpa using fresh
  have gzipLine : grepQ "worker_cpu_affinity" ("    gzip " ++ settings.gzip.text) = false := by
    apply grepQ_eq_false (c := 'w') (by decide)
    cases settings.gzip <;> decide
  have affinityGone :
      deleteLines "worker_cpu_affinity" (affinityLines settings.affinity) = [] := by
    cases settings.affinity with
    | none => rfl
    | some affinity =>
        have found :
            grepQ "worker_cpu_affinity" ("worker_cpu_affinity " ++ affinity.text) = true :=
          grepQ_append_right [] "worker_cpu_affinity" (' ' :: affinity.text)
        simp only [affinityLines, deleteLines, List.filter_cons, found]
        rfl
  simp only [deleteLines] at head middle tail affinityGone
  simp only [render, deleteLines, List.filter_append, head, middle, tail, affinityGone,
    List.filter_cons, workersLine, gzipLine, List.filter_nil]
  rfl

end Nginx
