import ArmTest.Fio.Job
import ArmTest.Shell.ErrExit

/-!
# The performance test

`performance_test` fills in the device once, and the access mode and the processors around every
start of the benchmark.  Each of its commands may fail and end the script, which leaves the job
file as it is at that moment.
-/

namespace Fio

open Shell

/-! ## Runs and their state -/

/-- What a run puts into the job files: a disk and a list of processors. -/
structure Setup where
  /-- The variable `FIO_TEST_DISK`. -/
  disk : Text
  /-- A disk has a name. -/
  disk_ne_nil : disk ≠ []
  /-- Names of disks with a device directory consist of letters and digits. -/
  disk_alphanum : ∀ c ∈ disk, c.isAlphanum = true
  /-- No disk is called like a part of the line it is written to. -/
  disk_absent : ¬ disk <:+: "filename=/dev"
  /-- The processors in `CPU_LIST`. -/
  cpus : List Nat
  /-- There is a processor. -/
  cpus_ne_nil : cpus ≠ []

/-- The variable `CPU_LIST`. -/
def Setup.cpuList (setup : Setup) : Text := joinWith ',' (setup.cpus.map decimal)

/-- The first disk of a machine, and two processors. -/
def firstDisk : Setup where
  disk := "nvme0n1"
  disk_ne_nil := by decide
  disk_alphanum := by simp
  disk_absent := by decide
  cpus := [8, 9]
  cpus_ne_nil := by decide

/-- What a start of the benchmark reports: the units and the converted result. -/
structure Report where
  /-- The variable `units`. -/
  units : Text
  /-- The variable `result` when it is appended. -/
  result : Text

/-- One start of the benchmark, with the job file it reads. -/
structure Launch where
  /-- The disk of the run. -/
  disk : Text
  /-- The processors of the run. -/
  cpuList : Text
  /-- The mode whose results it belongs to. -/
  mode : RwMode
  /-- The number of its log. -/
  sequence : Nat
  /-- The job file. -/
  job : List Text
  deriving DecidableEq

/-- The job file says what the launch is for. -/
def Launch.Faithful (launch : Launch) : Prop :=
  launch.job[1]? = some ("filename=/dev" ++ '/' :: launch.disk) ∧
    launch.job[2]? = some ("rw" ++ '=' :: launch.mode.text) ∧
    launch.job[11]? = some ("cpus_allowed" ++ '=' :: launch.cpuList)

instance (launch : Launch) : Decidable launch.Faithful :=
  inferInstanceAs (Decidable (_ ∧ _ ∧ _))

/-- The job files, all launches so far and the result files. -/
structure World where
  /-- The job file of each test type. -/
  job : FioTest → List Text
  /-- Launches in their order. -/
  launches : List Launch
  /-- Lines of the result file of each mode. -/
  data : RwMode → List Text

/-! ## Commands -/

/-- Commands of `performance_test`. -/
inductive Command where
  | sed (test : FioTest) (line : Nat) (pattern replacement : Text)
  | echo
  | fio (test : FioTest) (mode : RwMode) (sequence : Nat)
  | grep
  | bc
  | append (mode : RwMode) (result : Text)
  | sleep
  deriving DecidableEq

/-- Effect of a command that succeeds. -/
def perform (setup : Setup) : Command → World → World
  | .sed test line pattern replacement, world =>
      { world with
        job := Function.update world.job test
          (editLine line (substitute pattern replacement) (world.job test)) }
  | .fio test mode sequence, world =>
      { world with
        launches := world.launches ++
          [⟨setup.disk, setup.cpuList, mode, sequence, world.job test⟩] }
  | .append mode result, world =>
      { world with
        data := Function.update world.data mode (world.data mode ++ [result]) }
  | .echo, world | .grep, world | .bc, world | .sleep, world => world

/-- Effect of a command that fails: the benchmark has read its job file, `sed` changes nothing. -/
def fail (setup : Setup) : Command → World → World
  | .fio test mode sequence, world => perform setup (.fio test mode sequence) world
  | _, world => world

/-- The body of the inner loop. -/
def measure (setup : Setup) (reports : RwMode → Nat → Report) (test : FioTest) (sequence : Nat)
    (mode : RwMode) : List Command :=
  let report := reports mode sequence
  [.sed test 3 "RWMODE" mode.text, .sed test 12 "CPU_LIST" setup.cpuList, .echo,
    .fio test mode sequence, .grep] ++
  (if test = .bw ∧ report.units = "KiB" then [.bc] else []) ++
  [.append mode report.result, .sleep, .sed test 12 setup.cpuList "CPU_LIST",
    .sed test 3 mode.text "RWMODE"]

/-- The loops of `performance_test`, over the modes in `TEST_ARRAY`. -/
def measurements (setup : Setup) (reports : RwMode → Nat → Report) (test : FioTest)
    (modes : List RwMode) (testTimes alreadyExeTimes : Nat) : List Command :=
  (List.range testTimes).flatMap fun i =>
    modes.flatMap (measure setup reports test (i + 1 + alreadyExeTimes))

/-- `performance_test`. -/
def performanceTest (setup : Setup) (reports : RwMode → Nat → Report) (test : FioTest)
    (modes : List RwMode) (testTimes alreadyExeTimes : Nat) : List Command :=
  .sed test 2 "DEVICE" setup.disk ::
    (measurements setup reports test modes testTimes alreadyExeTimes ++
      [.sed test 2 setup.disk "DEVICE"])

/-! ## Values of a setup -/

theorem replaceable_disk (setup : Setup) : Replaceable "filename=/dev" '/' setup.disk where
  nonempty := setup.disk_ne_nil
  literal c member := literal_of_isAlphanum (setup.disk_alphanum c member)
  separate := by
    intro slash
    have letter := setup.disk_alphanum '/' slash
    simp at letter
  absent := setup.disk_absent

theorem mem_cpuList {setup : Setup} {c : Char} (member : c ∈ setup.cpuList) :
    c.isDigit = true ∨ c = ',' := by
  rcases mem_joinWith member with comma | ⟨word, inside, digit⟩
  · exact Or.inr comma
  · obtain ⟨cpu, -, rfl⟩ := List.mem_map.mp inside
    exact Or.inl (isDigit_of_mem_decimal digit)

theorem cpuList_ne_nil (setup : Setup) : setup.cpuList ≠ [] := by
  intro empty
  have read : readNumbers ',' (joinWith ',' (setup.cpus.map decimal)) = some setup.cpus :=
    readNumbers_joinWith setup.cpus_ne_nil rfl
  rw [← Setup.cpuList, empty] at read
  simp [readNumbers] at read

theorem replaceable_cpus (setup : Setup) : Replaceable "cpus_allowed" '=' setup.cpuList where
  nonempty := cpuList_ne_nil setup
  literal c member := by
    rcases mem_cpuList member with digit | rfl
    · exact literal_of_isDigit digit
    · exact ⟨rfl, rfl⟩
  separate := by
    intro equals
    rcases mem_cpuList equals with digit | comma
    · simp at digit
    · contradiction
  absent := by
    intro inside
    obtain ⟨c, member⟩ := List.exists_mem_of_ne_nil _ (cpuList_ne_nil setup)
    have letters : ("cpus_allowed" : Text).all (fun c => !(c.isDigit || c == ',')) = true := rfl
    have neither := List.all_eq_true.mp letters c (inside.subset member)
    rcases mem_cpuList member with digit | comma
    · rw [digit] at neither
      contradiction
    · rw [comma] at neither
      contradiction

/-- Commands that succeed keep the launches that there are. -/
theorem mem_launches_finish {setup : Setup} {launch : Launch} (commands : List Command)
    {world : World} (member : launch ∈ world.launches) :
    launch ∈ (finish (perform setup) commands world).launches := by
  induction commands generalizing world with
  | nil => exact member
  | cons command commands induction =>
      apply induction
      cases command with
      | fio => exact List.mem_append_left _ member
      | sed | echo | grep | bc | append | sleep => exact member

/-! ## Filling and emptying a job file -/

theorem fill_device (setup : Setup) (test : FioTest) (rw cpus : Text) :
    editLine 2 (substitute "DEVICE" setup.disk) (jobFile test "DEVICE" rw cpus) =
      jobFile test setup.disk rw cpus := by
  apply editLine_device
  apply replaceable_device.substitute
  exact fun c member => ((replaceable_disk setup).literal c member).2

theorem empty_device (setup : Setup) (test : FioTest) (rw cpus : Text) :
    editLine 2 (substitute setup.disk "DEVICE") (jobFile test setup.disk rw cpus) =
      jobFile test "DEVICE" rw cpus := by
  apply editLine_device
  apply (replaceable_disk setup).substitute
  exact fun c member => (replaceable_device.literal c member).2

theorem fill_mode (mode : RwMode) (test : FioTest) (device cpus : Text) :
    editLine 3 (substitute "RWMODE" mode.text) (jobFile test device "RWMODE" cpus) =
      jobFile test device mode.text cpus := by
  apply editLine_mode
  apply replaceable_rwmode.substitute
  exact fun c member => ((replaceable_mode mode).literal c member).2

theorem empty_mode (mode : RwMode) (test : FioTest) (device cpus : Text) :
    editLine 3 (substitute mode.text "RWMODE") (jobFile test device mode.text cpus) =
      jobFile test device "RWMODE" cpus := by
  apply editLine_mode
  apply (replaceable_mode mode).substitute
  exact fun c member => (replaceable_rwmode.literal c member).2

theorem fill_cpus (setup : Setup) (test : FioTest) (device rw : Text) :
    editLine 12 (substitute "CPU_LIST" setup.cpuList) (jobFile test device rw "CPU_LIST") =
      jobFile test device rw setup.cpuList := by
  apply editLine_cpus
  apply replaceable_cpuList.substitute
  exact fun c member => ((replaceable_cpus setup).literal c member).2

theorem empty_cpus (setup : Setup) (test : FioTest) (device rw : Text) :
    editLine 12 (substitute setup.cpuList "CPU_LIST") (jobFile test device rw setup.cpuList) =
      jobFile test device rw "CPU_LIST" := by
  apply editLine_cpus
  apply (replaceable_cpus setup).substitute
  exact fun c member => (replaceable_cpuList.literal c member).2

/-- A substitution in the job file of one test type, seen from the job files at another time. -/
theorem job_sed {setup : Setup} {test : FioTest} {base : FioTest → List Text} {world : World}
    {line : Nat} {pattern replacement : Text} {file file' : List Text}
    (before : world.job = Function.update base test file)
    (edited : editLine line (substitute pattern replacement) file = file') :
    (perform setup (.sed test line pattern replacement) world).job =
      Function.update base test file' := by
  change Function.update world.job test _ = _
  rw [before, Function.update_self, edited, Function.update_idem]

/-- A job file with the values of the launch says what the launch is for. -/
theorem faithful_jobFile (setup : Setup) (test : FioTest) (mode : RwMode) (sequence : Nat) :
    Launch.Faithful ⟨setup.disk, setup.cpuList, mode, sequence,
      jobFile test setup.disk mode.text setup.cpuList⟩ :=
  ⟨rfl, rfl, rfl⟩

end Fio
