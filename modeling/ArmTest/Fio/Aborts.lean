import ArmTest.Fio.PerformanceTest

/-!
# Aborted runs

A run that ends between two calls of `performance_test` leaves the job files as they are shipped.
A run that ends inside a call leaves its disk in the job file, where the next run does not find the
placeholder any more and measures the old disk under the name of the new one.
-/

namespace Fio

open Shell

/-! ## Runs -/

/-- A call of `performance_test` with the modes of its test type. -/
structure Call where
  /-- The variable `fio_test`. -/
  test : FioTest
  /-- The variable `test_times`. -/
  testTimes : Nat
  /-- The variable `ALREADY_EXE_TIMES`. -/
  alreadyExeTimes : Nat

/-- A run of the script: the calls it comes to, and the number of the command that fails.  Commands
outside of `performance_test` do not touch the job files, so a run that ends at one of them has no
further calls. -/
structure FioRun where
  /-- Disk and processors. -/
  setup : Setup
  /-- What the benchmark reports. -/
  reports : RwMode → Nat → Report
  /-- The calls of `performance_test`. -/
  calls : List Call
  /-- The command that fails, if there are that many. -/
  stop : Nat

/-- The commands of one call. -/
def FioRun.body (run : FioRun) (call : Call) : List Command :=
  performanceTest run.setup run.reports call.test (testArray call.test) call.testTimes
    call.alreadyExeTimes

/-- The commands of all calls. -/
def FioRun.commands (run : FioRun) : List Command := run.calls.flatMap run.body

/-- The world after the run. -/
def FioRun.apply (run : FioRun) (world : World) : World :=
  execute (perform run.setup) (fail run.setup) run.commands run.stop world

/-- The world after several runs. -/
def afterRuns (runs : List FioRun) (world : World) : World :=
  runs.foldl (fun world run => run.apply world) world

/-- The job files as they are shipped, and no launch yet. -/
def shippedWorld : World := ⟨shipped, [], fun _ => []⟩

/-- The run succeeds, or it ends at the first command of a call. -/
def FioRun.EndsBetweenCalls (run : FioRun) : Prop :=
  run.commands.length ≤ run.stop ∨
    ∃ done, done <+: run.calls ∧ run.stop = (done.flatMap run.body).length

/-! ## Job files between and inside calls -/

/-- Every launch so far has read a job file that says what the launch is for. -/
def AllFaithful (world : World) : Prop := ∀ launch ∈ world.launches, launch.Faithful

instance (world : World) : Decidable (AllFaithful world) :=
  inferInstanceAs (Decidable (∀ launch ∈ world.launches, launch.Faithful))

/-- The job files are as shipped. -/
structure Intact (world : World) : Prop where
  /-- The job files. -/
  job : world.job = shipped
  /-- The launches. -/
  faithful : AllFaithful world

/-- The job file of the test type holds the given values, the other one is as shipped. -/
structure Holding (setup : Setup) (test : FioTest) (rw cpus : Text) (world : World) : Prop where
  /-- The job files. -/
  job : world.job = Function.update shipped test (jobFile test setup.disk rw cpus)
  /-- The launches. -/
  faithful : AllFaithful world

/-- The job file of the test type holds the disk. -/
def Filled (setup : Setup) (test : FioTest) (world : World) : Prop :=
  ∃ rw cpus, Holding setup test rw cpus world

/-! ## One call -/

section

variable (setup : Setup) (test : FioTest)

/-- A substitution that changes the job file from one value to another. -/
theorem triple_sed {line : Nat} {pattern replacement rw cpus rw' cpus' : Text}
    (edited : editLine line (substitute pattern replacement) (jobFile test setup.disk rw cpus) =
      jobFile test setup.disk rw' cpus') :
    Triple (perform setup) (fail setup) (Holding setup test rw cpus)
      [.sed test line pattern replacement] (Holding setup test rw' cpus') (Filled setup test) := by
  apply Triple.single
  · exact fun world holding => ⟨job_sed holding.job edited, holding.faithful⟩
  · exact fun world holding => ⟨rw, cpus, holding⟩

/-- A command that touches neither the job files nor the launches. -/
theorem triple_idle {command : Command} {rw cpus : Text}
    (succeeds : ∀ world, (perform setup command world).job = world.job ∧
      (perform setup command world).launches = world.launches)
    (fails : ∀ world, fail setup command world = world) :
    Triple (perform setup) (fail setup) (Holding setup test rw cpus) [command]
      (Holding setup test rw cpus) (Filled setup test) := by
  apply Triple.single
  · intro world holding
    refine ⟨(succeeds world).1.trans holding.job, ?_⟩
    rw [AllFaithful, (succeeds world).2]
    exact holding.faithful
  · intro world holding
    rw [fails]
    exact ⟨rw, cpus, holding⟩

/-- A launch with the right job file, whether it succeeds or not. -/
theorem triple_fio (mode : RwMode) (sequence : Nat) :
    Triple (perform setup) (fail setup) (Holding setup test mode.text setup.cpuList)
      [.fio test mode sequence] (Holding setup test mode.text setup.cpuList)
      (Filled setup test) := by
  have launched : ∀ world, Holding setup test mode.text setup.cpuList world →
      Holding setup test mode.text setup.cpuList
        (perform setup (.fio test mode sequence) world) := by
    intro world holding
    refine ⟨holding.job, ?_⟩
    intro launch member
    rcases List.mem_append.mp member with before | now
    · exact holding.faithful launch before
    · rw [List.mem_singleton.mp now, holding.job, Function.update_self]
      exact faithful_jobFile setup test mode sequence
  apply Triple.single launched
  exact fun world holding => ⟨mode.text, setup.cpuList, launched world holding⟩

/-- One measurement fills in the mode and the processors and empties them again. -/
theorem triple_measure (reports : RwMode → Nat → Report) (sequence : Nat) (mode : RwMode) :
    Triple (perform setup) (fail setup) (Holding setup test "RWMODE" "CPU_LIST")
      (measure setup reports test sequence mode) (Holding setup test "RWMODE" "CPU_LIST")
      (Filled setup test) := by
  have idle : ∀ command : Command, command = .echo ∨ command = .grep ∨ command = .bc ∨
      command = .sleep ∨ command = .append mode (reports mode sequence).result →
      Triple (perform setup) (fail setup) (Holding setup test mode.text setup.cpuList) [command]
        (Holding setup test mode.text setup.cpuList) (Filled setup test) := by
    rintro command (rfl | rfl | rfl | rfl | rfl) <;>
      exact triple_idle setup test (fun world => ⟨rfl, rfl⟩) fun world => rfl
  have conversion : Triple (perform setup) (fail setup)
      (Holding setup test mode.text setup.cpuList)
      (if test = .bw ∧ (reports mode sequence).units = "KiB" then [Command.bc] else [])
      (Holding setup test mode.text setup.cpuList) (Filled setup test) := by
    split
    · exact idle .bc (by simp)
    · exact .nil
  have fill := Triple.cons (triple_sed setup test (fill_mode mode test setup.disk "CPU_LIST"))
    (triple_sed setup test (fill_cpus setup test setup.disk mode.text))
  have launch := Triple.cons (idle .echo (by simp))
    (Triple.cons (triple_fio setup test mode sequence) (idle .grep (by simp)))
  have record := Triple.cons (idle (.append mode (reports mode sequence).result) (by simp))
    (idle .sleep (by simp))
  have empty := Triple.cons (triple_sed setup test (empty_cpus setup test setup.disk mode.text))
    (triple_sed setup test (empty_mode mode test setup.disk "CPU_LIST"))
  exact ((fill.append launch).append conversion).append (record.append empty)

/-- What follows the first command of a call restores the job file, if it is not stopped. -/
theorem triple_tail (reports : RwMode → Nat → Report) (modes : List RwMode)
    (testTimes alreadyExeTimes : Nat) :
    Triple (perform setup) (fail setup) (Holding setup test "RWMODE" "CPU_LIST")
      (measurements setup reports test modes testTimes alreadyExeTimes ++
        [.sed test 2 setup.disk "DEVICE"]) Intact (Filled setup test) := by
  apply Triple.append
  · apply Triple.flatMap
    intro i _
    apply Triple.flatMap
    intro mode _
    exact triple_measure setup test reports (i + 1 + alreadyExeTimes) mode
  · apply Triple.single
    · intro world holding
      refine ⟨?_, holding.faithful⟩
      rw [job_sed holding.job (empty_device setup test "RWMODE" "CPU_LIST"), ← shipped]
      exact Function.update_eq_self test shipped
    · exact fun world holding => ⟨"RWMODE", "CPU_LIST", holding⟩

theorem Intact.fill {world : World} (intact : Intact world) :
    Holding setup test "RWMODE" "CPU_LIST"
      (perform setup (.sed test 2 "DEVICE" setup.disk) world) := by
  refine ⟨job_sed ?_ (fill_device setup test "RWMODE" "CPU_LIST"), intact.faithful⟩
  rw [intact.job, ← shipped, Function.update_eq_self]

end

/-! ## Whole runs -/

theorem intact_body {run : FioRun} {world : World} (intact : Intact world) (call : Call) :
    Intact (finish (perform run.setup) (run.body call) world) :=
  (triple_tail run.setup call.test run.reports (testArray call.test) call.testTimes
    call.alreadyExeTimes).finishes _ (intact.fill run.setup call.test)

/-- Calls that succeed leave the job files as shipped. -/
theorem intact_calls {run : FioRun} (calls : List Call) {world : World} (intact : Intact world) :
    Intact (finish (perform run.setup) (calls.flatMap run.body) world) := by
  induction calls generalizing world with
  | nil => exact intact
  | cons call calls induction =>
      rw [List.flatMap_cons, finish_append]
      exact induction (intact_body intact call)

/-- A call that fails behind its first command leaves the disk in the job file. -/
theorem filled_body {run : FioRun} {call : Call} {world : World} (intact : Intact world)
    {later : Nat} (inside : later + 1 < (run.body call).length) :
    Filled run.setup call.test
      (execute (perform run.setup) (fail run.setup) (run.body call) (later + 1) world) :=
  (triple_tail run.setup call.test run.reports (testArray call.test) call.testTimes
    call.alreadyExeTimes).stops _ (intact.fill run.setup call.test) later
    (Nat.lt_of_succ_lt_succ inside)

/-- A run that ends between two calls leaves the job files as shipped. -/
theorem FioRun.EndsBetweenCalls.intact {run : FioRun} (between : run.EndsBetweenCalls)
    {world : World} (intact : Intact world) : Intact (run.apply world) := by
  rcases between with all | ⟨done, ⟨rest, calls⟩, stop⟩
  · rw [FioRun.apply, execute_of_length_le _ _ all]
    exact intact_calls run.calls intact
  · rw [FioRun.apply, FioRun.commands, ← calls, List.flatMap_append, stop, ← Nat.add_zero
      (List.length _), execute_append_right]
    cases rest with
    | nil => exact intact_calls done intact
    | cons call rest => exact intact_calls done intact

/-- A run that ends inside a call leaves its disk in a job file. -/
theorem filled_of_not_between {run : FioRun} (inside : ¬ run.EndsBetweenCalls) {world : World}
    (intact : Intact world) : ∃ test, Filled run.setup test (run.apply world) := by
  rcases stop_flatMap run.body run.calls run.stop with all | ⟨done, call, rest, within, calls,
    early, stop⟩
  · exact absurd (Or.inl all) inside
  · cases within with
    | zero => exact absurd (Or.inr ⟨done, ⟨call :: rest, calls.symm⟩, stop⟩) inside
    | succ later =>
        refine ⟨call.test, ?_⟩
        rw [FioRun.apply, FioRun.commands, calls, stop, execute_flatMap _ _ _ rest early]
        exact filled_body (intact_calls done intact) early

/-- Whatever becomes of a run, its launches have read the right job files. -/
theorem faithful_apply (run : FioRun) {world : World} (intact : Intact world) :
    AllFaithful (run.apply world) := by
  by_cases between : run.EndsBetweenCalls
  · exact (between.intact intact).faithful
  · obtain ⟨test, rw, cpus, holding⟩ := filled_of_not_between between intact
    exact holding.faithful

/-- Runs that end between two calls leave the job files as shipped. -/
theorem intact_afterRuns {runs : List FioRun} (between : ∀ run ∈ runs, run.EndsBetweenCalls)
    {world : World} (intact : Intact world) : Intact (afterRuns runs world) := by
  induction runs generalizing world with
  | nil => exact intact
  | cons run runs induction =>
      apply induction fun other member => between other (List.mem_cons_of_mem run member)
      exact (between run List.mem_cons_self).intact intact

/-! ## The run behind an aborted one -/

/-- A disk in the place of the placeholder stays there. -/
theorem keep_device {disk : Text} (plain : ¬ "DEVICE" <:+: disk) (replacement : Text)
    (test : FioTest) (rw cpus : Text) :
    editLine 2 (substitute "DEVICE" replacement) (jobFile test disk rw cpus) =
      jobFile test disk rw cpus := by
  apply editLine_device
  apply substitute_absent
  · exact fun c member => (replaceable_device.literal c member).1
  · exact not_infix_separated replaceable_device.separate replaceable_device.absent plain

/-- Edits of later lines leave the line of the device alone. -/
theorem getElem?_one_editLine {number : Nat} (below : 2 < number) (edit : Text → Text)
    (lines : List Text) : (editLine number edit lines)[1]? = lines[1]? := by
  apply List.getElem?_modify_ne
  omega

/-- The start of a call up to its first launch. -/
def opening (setup : Setup) (test : FioTest) (mode : RwMode) (sequence : Nat) : List Command :=
  [.sed test 2 "DEVICE" setup.disk, .sed test 3 "RWMODE" mode.text,
    .sed test 12 "CPU_LIST" setup.cpuList, .echo, .fio test mode sequence]

theorem opening_prefix_body (run : FioRun) (test : FioTest) (testTimes alreadyExeTimes : Nat) :
    ∃ mode, opening run.setup test mode (0 + 1 + alreadyExeTimes) <+:
      run.body ⟨test, testTimes + 1, alreadyExeTimes⟩ := by
  obtain ⟨mode, modes, array⟩ : ∃ mode modes, testArray test = mode :: modes := by
    cases test
    · exact ⟨_, _, rfl⟩
    · exact ⟨_, _, rfl⟩
  refine ⟨mode, ?_⟩
  rw [FioRun.body, performanceTest, measurements, array, List.range_succ_eq_map,
    List.flatMap_cons, List.flatMap_cons, measure]
  exact List.prefix_append _ _

/-- The first launch of a call reads the disk that another run has left in the job file. -/
theorem opening_mislabelled {setup other : Setup} {test : FioTest} {world : World}
    (filled : Filled other test world) (plain : ¬ "DEVICE" <:+: other.disk)
    (differs : setup.disk ≠ other.disk) (mode : RwMode) (sequence : Nat) :
    ∃ launch ∈ (finish (perform setup) (opening setup test mode sequence) world).launches,
      ¬ launch.Faithful := by
  obtain ⟨rw, cpus, holding⟩ := filled
  refine ⟨_, List.mem_append_right _ (List.mem_singleton.mpr rfl), ?_⟩
  intro faithful
  have device := faithful.1
  simp only [perform, Function.update_self, holding.job, keep_device plain] at device
  rw [getElem?_one_editLine (by omega), getElem?_one_editLine (by omega)] at device
  have same : "filename=/dev" ++ '/' :: other.disk = "filename=/dev" ++ '/' :: setup.disk :=
    Option.some.inj device
  exact differs (List.cons.inj (List.append_cancel_left same)).2.symm

/-- A run that starts with the disk of another run in its job file measures that disk. -/
theorem mislabelled {other : Setup} {test : FioTest} {world : World}
    (filled : Filled other test world) (plain : ¬ "DEVICE" <:+: other.disk) {next : FioRun}
    (differs : next.setup.disk ≠ other.disk) {testTimes alreadyExeTimes : Nat} {calls : List Call}
    (called : next.calls = ⟨test, testTimes + 1, alreadyExeTimes⟩ :: calls)
    (succeeds : next.commands.length ≤ next.stop) : ¬ AllFaithful (next.apply world) := by
  obtain ⟨mode, commands, body⟩ := opening_prefix_body next test testTimes alreadyExeTimes
  obtain ⟨launch, member, wrong⟩ := opening_mislabelled filled plain differs mode
    (0 + 1 + alreadyExeTimes)
  rw [FioRun.apply, execute_of_length_le _ _ succeeds, FioRun.commands, called, List.flatMap_cons,
    ← body, List.append_assoc, finish_append]
  exact fun faithful => wrong (faithful launch (mem_launches_finish _ member))

/-! ## Sequences of runs -/

/-- The second disk of a machine, and two other processors. -/
def secondDisk : Setup where
  disk := "nvme1n1"
  disk_ne_nil := by decide
  disk_alphanum := by simp
  disk_absent := by decide
  cpus := [10, 11]
  cpus_ne_nil := by decide

/-- One measurement of the test type that is stopped at the given command. -/
def oneCall (setup : Setup) (test : FioTest) (stop : Nat) : FioRun where
  setup := setup
  reports := fun _ _ => ⟨"", "1000"⟩
  calls := [⟨test, 1, 0⟩]
  stop := stop

theorem exists_other_disk (disk : Text) : ∃ setup : Setup, setup.disk ≠ disk := by
  by_cases same : disk = firstDisk.disk
  · refine ⟨secondDisk, ?_⟩
    rw [same]
    decide
  · exact ⟨firstDisk, Ne.symm same⟩

theorem intact_shippedWorld : Intact shippedWorld :=
  ⟨rfl, fun _ impossible => absurd impossible List.not_mem_nil⟩

theorem afterRuns_append (runs more : List FioRun) (world : World) :
    afterRuns (runs ++ more) world = afterRuns more (afterRuns runs world) :=
  List.foldl_append

/-- As long as runs end between calls only, every launch reads the disk, the mode and the processors
it is for, also in a run that is stopped elsewhere.  Behind such a run there is one that succeeds
and measures a wrong disk. -/
theorem launches_faithful (runs : List FioRun) (last : FioRun)
    (between : ∀ run ∈ runs, run.EndsBetweenCalls) :
    AllFaithful (afterRuns (runs ++ [last]) shippedWorld) ∧
      (¬ last.EndsBetweenCalls → ¬ "DEVICE" <:+: last.setup.disk →
        ∃ next : FioRun, next.commands.length ≤ next.stop ∧
          ¬ AllFaithful (afterRuns (runs ++ [last, next]) shippedWorld)) := by
  have intact := intact_afterRuns between intact_shippedWorld
  constructor
  · rw [afterRuns_append]
    exact faithful_apply last intact
  · intro inside plain
    obtain ⟨test, filled⟩ := filled_of_not_between inside intact
    obtain ⟨setup, differs⟩ := exists_other_disk last.setup.disk
    let next := oneCall setup test (oneCall setup test 0).commands.length
    refine ⟨next, le_rfl, ?_⟩
    have wrong : ¬ AllFaithful (next.apply _) := mislabelled filled plain differs rfl le_rfl
    rwa [afterRuns_append]

/-- A run that succeeds, and one whose benchmark fails. -/
theorem launches_faithful_benchmarkFails :
    AllFaithful (afterRuns ([oneCall firstDisk .iops 20] ++ [oneCall secondDisk .iops 4])
      shippedWorld) := by
  refine (launches_faithful [oneCall firstDisk .iops 20] (oneCall secondDisk .iops 4) ?_).1
  intro run member
  rw [List.mem_singleton.mp member]
  exact Or.inl (by decide)

/-- The benchmark fails once, and the next run measures the disk of the failed one and records the
result as its own. -/
theorem failed_benchmark_mislabels :
    ¬ AllFaithful (afterRuns [oneCall firstDisk .iops 4, oneCall secondDisk .iops 20]
        shippedWorld) ∧
      (afterRuns [oneCall firstDisk .iops 4, oneCall secondDisk .iops 20] shippedWorld).data
        .randread = ["1000"] := by
  decide +kernel

end Fio
