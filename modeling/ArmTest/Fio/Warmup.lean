import ArmTest.Fio.Job
import ArmTest.Shell.Command
import ArmTest.Shell.ErrExit

/-!
# Warm-up

`warmup` formats the disk and starts the benchmark on it twice.  Its command line has no blank
between the program and the job file, so both make one word, and that word names no benchmark.
-/

namespace Fio

open Shell

/-! ## Job files of the warm-up -/

/-- The word of a test type. -/
def FioTest.text : FioTest → Text
  | .iops => "iops"
  | .bw => "bw"

/-- The name of the job file. -/
def warmFile (test : FioTest) : Text := test.text ++ "-warm.fio"

/-- The job file of the warm-up as it is shipped.  The one of `iops` names a disk of its own. -/
def shippedWarm : FioTest → List Text
  | .iops =>
      ["[global]", "filename=/dev/nvme0n1", "rw=write", "ioengine=libaio", "direct=1", "iodepth=32",
        "thread", "numjobs=8", "bs=128k", "group_reporting", "", "[iops-warmup]"]
  | .bw =>
      ["[global]", "filename=/dev/DEVICE", "rw=write", "ioengine=libaio", "direct=1", "iodepth=32",
        "thread", "numjobs=2", "bs=1m", "group_reporting", "", "[throughout-warmup]"]

/-- The variable `FIO_BIN`. -/
def fioBin : Text := "/home/virt-test/benchmark/fio/bin/fio"

/-! ## Commands -/

/-- The job files of the warm-up, the disks that were formatted and what the benchmark has read. -/
structure Warm where
  /-- The job file of each test type. -/
  job : FioTest → List Text
  /-- Disks in the order in which they were formatted. -/
  formatted : List Text
  /-- What each start of the benchmark has read. -/
  launches : List (List Text)

/-- The file with the given name. -/
def Warm.read (warm : Warm) (name : Text) : List Text :=
  if name = warmFile .iops then warm.job .iops
  else if name = warmFile .bw then warm.job .bw
  else []

/-- Commands of `warmup`. -/
inductive WarmCommand where
  | format (disk : Text)
  | sed (test : FioTest) (line : Nat) (pattern replacement : Text)
  | start (line : Text)
  | sleep
  deriving DecidableEq

section

variable (installed : Text → Bool)

/-- Start a program.  The benchmark reads the job files it is given and succeeds; the argument
`installed` says where else there are programs that succeed. -/
def spawn : List Text → Warm → Warm × Bool
  | [], warm => (warm, true)
  | program :: arguments, warm =>
      if program = fioBin then
        ({ warm with launches := warm.launches ++ [arguments.flatMap warm.read] }, true)
      else (warm, installed program)

/-- A command and whether it succeeds. -/
def warmStep : WarmCommand → Warm → Warm × Bool
  | .format disk, warm => ({ warm with formatted := warm.formatted ++ [disk] }, true)
  | .sed test line pattern replacement, warm =>
      ({ warm with
        job := Function.update warm.job test
          (editLine line (substitute pattern replacement) (warm.job test)) }, true)
  | .start line, warm => spawn installed (shellWords line) warm
  | .sleep, warm => (warm, true)

/-- The line that starts the benchmark. -/
def warmLine (test : FioTest) : Text := fioBin ++ warmFile test

/-- The commands of `warmup`. -/
def warmCommands (disk : Text) (test : FioTest) : List WarmCommand :=
  [.format disk, .sed test 2 "DEVICE" disk] ++
    (List.range 2).flatMap (fun _ => [.start (warmLine test), .sleep]) ++
    [.sed test 2 disk "DEVICE"]

/-- `warmup` from the shipped job files, and whether it completes. -/
def warmup (disk : Text) (test : FioTest) : Warm × Bool :=
  attempt (warmStep installed) (warmCommands disk test) ⟨shippedWarm, [], []⟩

/-- The warm-up completes, the benchmark has written twice to the disk that was formatted, and the
job files are as they were. -/
structure WarmsUp (disk : Text) (test : FioTest) : Prop where
  /-- The script goes on. -/
  completes : (warmup installed disk test).2 = true
  /-- Only the disk of the run is formatted. -/
  formatted : (warmup installed disk test).1.formatted = [disk]
  /-- The benchmark is started twice. -/
  twice : (warmup installed disk test).1.launches.length = 2
  /-- It writes to the disk of the run. -/
  target : ∀ job ∈ (warmup installed disk test).1.launches,
    job[1]? = some ("filename=/dev" ++ '/' :: disk)
  /-- The job files. -/
  restored : (warmup installed disk test).1.job = shippedWarm

/-! ## The word that is started -/

/-- The line is one word. -/
theorem shellWords_warmLine (test : FioTest) :
    shellWords (warmLine test) = [fioBin ++ warmFile test] := by
  cases test
  · decide
  · decide

theorem warmFile_ne_nil (test : FioTest) : warmFile test ≠ [] := by
  cases test
  · decide
  · decide

/-- The word is not the name of the benchmark. -/
theorem spawn_warmLine (test : FioTest) (warm : Warm) :
    spawn installed (shellWords (warmLine test)) warm =
      (warm, installed (fioBin ++ warmFile test)) := by
  rw [shellWords_warmLine, spawn, if_neg]
  intro same
  exact warmFile_ne_nil test (List.append_right_eq_self.mp same)

/-- No command of `warmup` starts the benchmark. -/
theorem launches_warmStep {disk : Text} {test : FioTest} {command : WarmCommand}
    (member : command ∈ warmCommands disk test) (warm : Warm) :
    (warmStep installed command warm).1.launches = warm.launches := by
  cases command with
  | format | sed | sleep => rfl
  | start line =>
      have same : line = warmLine test := by
        simpa [warmCommands, List.range_succ] using member
      rw [same, warmStep, spawn_warmLine]

/-- The benchmark is not started at all. -/
theorem launches_warmup (disk : Text) (test : FioTest) :
    (warmup installed disk test).1.launches = [] := by
  apply attempt_keeps (I := fun warm : Warm => warm.launches = [])
  · intro command member warm none
    rw [launches_warmStep installed member, none]
  · rfl

/-! ## Where the script stops -/

/-- Without a program under the odd name the script ends at its first start, and the job file keeps
the disk. -/
theorem warmup_aborts {disk : Text} {test : FioTest}
    (missing : installed (fioBin ++ warmFile test) = false) :
    warmup installed disk test =
      (⟨Function.update shippedWarm test
        (editLine 2 (substitute "DEVICE" disk) (shippedWarm test)), [disk], []⟩, false) := by
  have fails : ∀ warm, warmStep installed (.start (warmLine test)) warm = (warm, false) := by
    intro warm
    rw [warmStep, spawn_warmLine, missing]
  rw [warmup, warmCommands, List.append_assoc, List.cons_append,
    attempt_cons_succeeds _ rfl, List.cons_append, attempt_cons_succeeds _ rfl, List.range_succ,
    List.range_succ, List.range_zero]
  exact (attempt_cons_fails _ (congrArg Prod.snd (fails _)) _).trans
    (congrArg (fun result => (result.1, false)) (fails _))

/-- The substitution does not find a placeholder in the job file of `iops`. -/
theorem fill_iops_warm (disk : Text) :
    editLine 2 (substitute "DEVICE" disk) (shippedWarm .iops) = shippedWarm .iops := by
  have kept : substitute "DEVICE" disk "filename=/dev/nvme0n1" = "filename=/dev/nvme0n1" := by
    apply substitute_absent
    · exact fun c member => (replaceable_device.literal c member).1
    · decide
  simp only [editLine, shippedWarm, Nat.reduceSub, List.modify_succ_cons, List.modify_zero_cons,
    kept]

/-- The job file of `iops` goes on to name the disk it is shipped with. -/
theorem job_warmup_iops {disk : Text} (missing : installed (fioBin ++ warmFile .iops) = false) :
    (warmup installed disk .iops).1.job = shippedWarm := by
  rw [warmup_aborts installed missing, fill_iops_warm]
  exact Function.update_eq_self FioTest.iops shippedWarm

/-- Whatever the disk and the test type are, and whatever programs there are on the machine, the
warm-up does not write to the disk it has formatted. -/
theorem warmup_never_writes (disk : Text) (test : FioTest) :
    ¬ WarmsUp installed disk test := by
  intro warms
  have twice := warms.twice
  rw [launches_warmup] at twice
  contradiction

end

/-- On a machine with the benchmark and nothing beside it, the warm-up of a disk fails. -/
theorem nvme1n1_not_warm : ¬ WarmsUp (fun _ => false) "nvme1n1" .iops := by
  intro warms
  have completes := warms.completes
  rw [warmup_aborts (fun _ => false) rfl] at completes
  contradiction

end Fio
