import ArmTest.Fio.PerformanceTest

/-!
# The job file behind a performance test

A call of `performance_test` whose commands all succeed puts every placeholder back.  The text that
is replaced on the way back is the one that was filled in, and it stands nowhere else on its line.
-/

namespace Fio

open Shell

/-! ## Disks with a number -/

/-- A name with a digit is no part of the text in front of it. -/
theorem not_infix_of_digit {disk : Text} (digit : ∃ c ∈ disk, c.isDigit = true) :
    ¬ disk <:+: "filename=/dev" := by
  intro inside
  obtain ⟨c, member, number⟩ := digit
  have letters : ("filename=/dev" : Text).all (fun c => !c.isDigit) = true := rfl
  have none := List.all_eq_true.mp letters c (inside.subset member)
  rw [number] at none
  contradiction

/-- A disk whose name consists of letters and digits and contains a digit, and the processors. -/
def numberedDisk (disk : Text) (alphanum : ∀ c ∈ disk, c.isAlphanum = true)
    (digit : ∃ c ∈ disk, c.isDigit = true) (cpus : List Nat) (nonempty : cpus ≠ []) : Setup where
  disk := disk
  disk_ne_nil := by
    obtain ⟨c, member, -⟩ := digit
    exact List.ne_nil_of_mem member
  disk_alphanum := alphanum
  disk_absent := not_infix_of_digit digit
  cpus := cpus
  cpus_ne_nil := nonempty

/-! ## Stages of a call -/

/-- The launch of a measurement, with the template filled in. -/
def filledLaunch (setup : Setup) (test : FioTest) (sequence : Nat) (mode : RwMode) : Launch :=
  ⟨setup.disk, setup.cpuList, mode, sequence, jobFile test setup.disk mode.text setup.cpuList⟩

/-- The launches of a call in their order. -/
def filledLaunches (setup : Setup) (test : FioTest) (modes : List RwMode)
    (testTimes alreadyExeTimes : Nat) : List Launch :=
  (List.range testTimes).flatMap fun i =>
    modes.map (filledLaunch setup test (i + 1 + alreadyExeTimes))

/-- A call that began in the world `start` has made the given launches, and the job file holds the
disk and the given values. -/
structure Stage (setup : Setup) (test : FioTest) (start : World) (rw cpus : Text)
    (made : List Launch) (world : World) : Prop where
  /-- The job files. -/
  job : world.job = Function.update start.job test (jobFile test setup.disk rw cpus)
  /-- The launches. -/
  launches : world.launches = start.launches ++ made

section

variable {setup : Setup} {test : FioTest} {start world : World} {made : List Launch}

theorem Stage.sed {line : Nat} {pattern replacement rw cpus rw' cpus' : Text}
    (stage : Stage setup test start rw cpus made world)
    (edited : editLine line (substitute pattern replacement) (jobFile test setup.disk rw cpus) =
      jobFile test setup.disk rw' cpus') :
    Stage setup test start rw' cpus' made
      (perform setup (.sed test line pattern replacement) world) :=
  ⟨job_sed stage.job edited, stage.launches⟩

theorem Stage.fio {mode : RwMode}
    (stage : Stage setup test start mode.text setup.cpuList made world) (sequence : Nat) :
    Stage setup test start mode.text setup.cpuList (made ++ [filledLaunch setup test sequence mode])
      (perform setup (.fio test mode sequence) world) := by
  refine ⟨stage.job, ?_⟩
  change world.launches ++ [_] = _
  rw [stage.launches, stage.job, Function.update_self, List.append_assoc, filledLaunch]

/-- The result file is not part of a stage. -/
theorem Stage.append {rw cpus : Text} (stage : Stage setup test start rw cpus made world)
    (mode : RwMode) (result : Text) :
    Stage setup test start rw cpus made (perform setup (.append mode result) world) :=
  ⟨stage.job, stage.launches⟩

/-- One measurement makes one launch, with the template filled in. -/
theorem Stage.measure (reports : RwMode → Nat → Report) (sequence : Nat) (mode : RwMode)
    (stage : Stage setup test start "RWMODE" "CPU_LIST" made world) :
    Stage setup test start "RWMODE" "CPU_LIST" (made ++ [filledLaunch setup test sequence mode])
      (finish (perform setup) (measure setup reports test sequence mode) world) := by
  have filled := (stage.sed (fill_mode mode test setup.disk "CPU_LIST")).sed
    (fill_cpus setup test setup.disk mode.text)
  have recorded := (filled.fio sequence).append mode (reports mode sequence).result
  have emptied := (recorded.sed (empty_cpus setup test setup.disk mode.text)).sed
    (empty_mode mode test setup.disk "CPU_LIST")
  rw [Fio.measure, finish_append, finish_append]
  split
  · exact emptied
  · exact emptied

/-- The modes of one round, in their order. -/
theorem Stage.modes (reports : RwMode → Nat → Report) (sequence : Nat) (modes : List RwMode)
    (stage : Stage setup test start "RWMODE" "CPU_LIST" made world) :
    Stage setup test start "RWMODE" "CPU_LIST"
      (made ++ modes.map (filledLaunch setup test sequence))
      (finish (perform setup) (modes.flatMap (Fio.measure setup reports test sequence)) world) := by
  apply finish_flatMap (I := fun done => Stage setup test start "RWMODE" "CPU_LIST"
    (made ++ done.map (filledLaunch setup test sequence))) (perform setup) _ modes []
  · rwa [List.map_nil, List.append_nil]
  · intro done mode world stage
    rw [List.map_append, ← List.append_assoc]
    exact stage.measure reports sequence mode

/-- All rounds. -/
theorem Stage.measurements (reports : RwMode → Nat → Report) (modes : List RwMode)
    (testTimes alreadyExeTimes : Nat)
    (stage : Stage setup test start "RWMODE" "CPU_LIST" [] world) :
    Stage setup test start "RWMODE" "CPU_LIST"
      (filledLaunches setup test modes testTimes alreadyExeTimes)
      (finish (perform setup)
        (Fio.measurements setup reports test modes testTimes alreadyExeTimes) world) := by
  apply finish_flatMap (I := fun done => Stage setup test start "RWMODE" "CPU_LIST"
    (done.flatMap fun i => modes.map (filledLaunch setup test (i + 1 + alreadyExeTimes))))
    (perform setup) _ (List.range testTimes) [] stage
  intro done i world stage
  rw [List.flatMap_append, List.flatMap_singleton]
  exact stage.modes reports (i + 1 + alreadyExeTimes) modes

end

/-! ## Whole calls -/

/-- A call that finds its job file as shipped leaves all job files as they were, and its launches
have read the template with the three placeholders replaced. -/
theorem performanceTest_restores (disk : Text) (alphanum : ∀ c ∈ disk, c.isAlphanum = true)
    (digit : ∃ c ∈ disk, c.isDigit = true) (cpus : List Nat) (nonempty : cpus ≠ [])
    (reports : RwMode → Nat → Report) (test : FioTest) (modes : List RwMode)
    (testTimes alreadyExeTimes : Nat) (world : World) (template : world.job test = shipped test) :
    let setup := numberedDisk disk alphanum digit cpus nonempty
    let after := finish (perform setup)
      (performanceTest setup reports test modes testTimes alreadyExeTimes) world
    after.job = world.job ∧
      after.launches = world.launches ++
        (List.range testTimes).flatMap fun i => modes.map fun mode =>
          ⟨disk, joinWith ',' (cpus.map decimal), mode, i + 1 + alreadyExeTimes,
            jobFile test disk mode.text (joinWith ',' (cpus.map decimal))⟩ := by
  intro setup after
  have filled : Stage setup test world "RWMODE" "CPU_LIST" []
      (perform setup (.sed test 2 "DEVICE" setup.disk) world) := by
    refine ⟨job_sed ?_ (fill_device setup test "RWMODE" "CPU_LIST"), (List.append_nil _).symm⟩
    rw [← shipped, ← template, Function.update_eq_self]
  have measured := filled.measurements reports modes testTimes alreadyExeTimes
  have last : after = perform setup (.sed test 2 setup.disk "DEVICE")
      (finish (perform setup) (measurements setup reports test modes testTimes alreadyExeTimes)
        (perform setup (.sed test 2 "DEVICE" setup.disk) world)) :=
    finish_append (perform setup) _ _ _
  rw [last]
  refine ⟨?_, measured.launches⟩
  rw [job_sed measured.job (empty_device setup test "RWMODE" "CPU_LIST"), ← shipped, ← template,
    Function.update_eq_self]

/-- Two rounds over the two modes of the bandwidth test. -/
theorem performanceTest_restores_nvme0n1 :
    let setup := numberedDisk "nvme0n1" (by simp) ⟨'0', by decide, rfl⟩ [8, 9] (by decide)
    (finish (perform setup) (performanceTest setup (fun _ _ => ⟨"KiB", "1000"⟩) .bw [.read, .write]
      2 5) ⟨shipped, [], fun _ => []⟩).job = shipped :=
  (performanceTest_restores "nvme0n1" (by simp) ⟨'0', by decide, rfl⟩ [8, 9] (by decide)
    (fun _ _ => ⟨"KiB", "1000"⟩) .bw [.read, .write] 2 5 ⟨shipped, [], fun _ => []⟩ rfl).1

end Fio
