import ArmTest.Fio.Results

/-!
# The stability loop

`periodic_test` measures one window of results and then checks whether the latest window is stable.
As long as it is not, one more measurement moves the window on.  The index of the loop, the numbers
of the logs and the lengths of the result files stay aligned, and the final result belongs to the
first window that all files accept.
-/

namespace Fio

open Shell

/-! ## The checks of one iteration -/

/-- What `periodic_test` works on for one test type.  The program `help.py` computes in floating
point; its answers and the averages it prints are parameters. -/
structure PeriodicTest where
  /-- Disk and processors. -/
  setup : Setup
  /-- The variable `fio_test_type`. -/
  fioTestType : FioTest
  /-- The variable `TIMES_A_CYCLE`. -/
  timesACycle : Nat
  /-- What the benchmark reports. -/
  reports : RwMode → Nat → Report
  /-- Whether a file is stable in an iteration, or no answer if `help.py` fails. -/
  answer : Nat → RwMode → Option Bool
  /-- The average of some results. -/
  average : List Text → Text
  /-- An average is a number. -/
  average_plain : ∀ results, '=' ∉ average results

/-- The name of a result file. -/
def RwMode.fileName (mode : RwMode) : Text := mode.text ++ ".data"

/-- The word for an answer. -/
def answerText : Bool → Text
  | true => "true"
  | false => "false"

/-- The slice of the results that `process_data` takes. -/
def window (start size : Nat) (results : List Text) : List Text := (results.drop start).take size

/-- The output of `help.py`. -/
def PeriodicTest.help (periodic : PeriodicTest) (k : Nat) (file : RwMode) (results : List Text) :
    Text :=
  match periodic.answer k file with
  | some stable =>
      answerText stable ++ '=' :: periodic.average (window k periodic.timesACycle results)
  | none => []

/-- The line of a file in the final result. -/
def PeriodicTest.line (periodic : PeriodicTest) (k : Nat) (data : RwMode → List Text)
    (file : RwMode) : Text :=
  file.fileName ++ (": " ++ periodic.average (window k periodic.timesACycle (data file)))

/-- The command `>>` on a file that need not exist. -/
def appendLine (file : Option (List Text)) (line : Text) : Option (List Text) :=
  some (file.getD [] ++ [line])

/-- The loop over the result files: the variable `pass` and the final result after it. -/
def PeriodicTest.checkFiles (periodic : PeriodicTest) (k : Nat) (data : RwMode → List Text) :
    List RwMode → Text → Option (List Text) → Text × Option (List Text)
  | [], pass, finalResult => (pass, finalResult)
  | file :: files, _, finalResult =>
      let averageStr := periodic.help k file (data file)
      let pass := beforeLast '=' averageStr
      let average := behindFirst '=' averageStr
      if pass = "false" then (pass, none)
      else if pass = "true" then
        periodic.checkFiles k data files pass
          (appendLine finalResult (file.fileName ++ (": " ++ average)))
      else (pass, finalResult)

theorem pass_help {periodic : PeriodicTest} {k : Nat} {file : RwMode} {stable : Bool}
    (answered : periodic.answer k file = some stable) (results : List Text) :
    beforeLast '=' (periodic.help k file results) = answerText stable := by
  rw [PeriodicTest.help, answered]
  exact beforeLast_append _ (periodic.average_plain _)

theorem average_help {periodic : PeriodicTest} {k : Nat} {file : RwMode} {stable : Bool}
    (answered : periodic.answer k file = some stable) (results : List Text) :
    behindFirst '=' (periodic.help k file results) =
      periodic.average (window k periodic.timesACycle results) := by
  rw [PeriodicTest.help, answered]
  apply behindFirst_append
  cases stable <;> simp [answerText]

section

variable {periodic : PeriodicTest} {k : Nat} (data : RwMode → List Text) {file : RwMode}
  {files : List RwMode} (pass : Text) (finalResult : Option (List Text))

theorem checkFiles_stable (answered : periodic.answer k file = some true) :
    periodic.checkFiles k data (file :: files) pass finalResult =
      periodic.checkFiles k data files "true"
        (appendLine finalResult (periodic.line k data file)) := by
  rw [PeriodicTest.checkFiles]
  simp only [pass_help answered, average_help answered]
  rw [if_neg (by decide)]
  exact if_pos rfl

theorem checkFiles_unstable (answered : periodic.answer k file = some false) :
    periodic.checkFiles k data (file :: files) pass finalResult = ("false".toList, none) := by
  rw [PeriodicTest.checkFiles]
  simp only [pass_help answered]
  exact if_pos rfl

/-- If all files are stable, each of them gets its line. -/
theorem checkFiles_accepts
    (accepted : ∀ other ∈ file :: files, periodic.answer k other = some true) :
    periodic.checkFiles k data (file :: files) pass finalResult =
      ("true".toList, some (finalResult.getD [] ++ (file :: files).map (periodic.line k data))) := by
  induction files generalizing file pass finalResult with
  | nil => exact checkFiles_stable data pass finalResult (accepted file List.mem_cons_self)
  | cons next files induction =>
      rw [checkFiles_stable data pass finalResult (accepted file List.mem_cons_self),
        induction _ _ fun later member => accepted later (List.mem_cons_of_mem file member)]
      simp [appendLine]

theorem checkFiles_fails (failed : periodic.answer k file = none) :
    periodic.checkFiles k data (file :: files) pass finalResult = ([], finalResult) := by
  rw [PeriodicTest.checkFiles, PeriodicTest.help, failed]
  rfl

/-- Files in front of another one add their lines. -/
theorem checkFiles_behind {front : List RwMode}
    (accepted : ∀ other ∈ front, periodic.answer k other = some true) :
    periodic.checkFiles k data (front ++ file :: files) pass finalResult =
      periodic.checkFiles k data (file :: files) pass
        (front.foldl (fun result other => appendLine result (periodic.line k data other))
          finalResult) := by
  induction front generalizing pass finalResult with
  | nil => rfl
  | cons other front induction =>
      rw [List.cons_append, checkFiles_stable data pass finalResult
        (accepted other List.mem_cons_self), induction _ _ fun later member =>
        accepted later (List.mem_cons_of_mem other member)]
      rfl

/-- If a file is not stable, there is no final result, whatever the files before it added. -/
theorem checkFiles_rejects {front : List RwMode}
    (accepted : ∀ other ∈ front, periodic.answer k other = some true)
    (unstable : periodic.answer k file = some false) :
    periodic.checkFiles k data (front ++ file :: files) pass finalResult =
      ("false".toList, none) := by
  rw [checkFiles_behind data pass finalResult accepted]
  exact checkFiles_unstable data pass _ unstable

end

/-! ## The loop -/

/-- The variables and files of the loop. -/
structure Progress where
  /-- Job files, launches and results. -/
  world : World
  /-- The file `final-result`, if it exists. -/
  finalResult : Option (List Text)
  /-- The variable `ALREADY_EXE_TIMES`. -/
  alreadyExeTimes : Nat

/-- The output of `ls` in the result directory. -/
def World.files (world : World) : List RwMode :=
  [.randread, .randwrite, .read, .write].filter fun mode => world.data mode ≠ []

/-- How an iteration ends. -/
inductive Outcome where
  | leave (progress : Progress)
  | again (progress : Progress)

/-- A call of `performance_test` whose commands all succeed. -/
def PeriodicTest.measure (periodic : PeriodicTest) (testTimes alreadyExeTimes : Nat)
    (world : World) : World :=
  finish (perform periodic.setup) (performanceTest periodic.setup periodic.reports
    periodic.fioTestType (testArray periodic.fioTestType) testTimes alreadyExeTimes) world

/-- One iteration of the check loop. -/
def PeriodicTest.iteration (periodic : PeriodicTest) (k : Nat) (progress : Progress) : Outcome :=
  let (pass, finalResult) := periodic.checkFiles k progress.world.data progress.world.files []
    progress.finalResult
  if pass = "true" then
    .leave { progress with
      finalResult := appendLine finalResult ("start from " ++ decimal (k + 1)) }
  else if pass = "false" then
    if k = 20 then .leave { progress with finalResult := finalResult }
    else
      .again {
        world := periodic.measure 1 progress.alreadyExeTimes progress.world
        finalResult := finalResult
        alreadyExeTimes := progress.alreadyExeTimes + 1 }
  else .again { progress with finalResult := finalResult }

/-- The check loop with the given number of iterations left. -/
def PeriodicTest.checkLoop (periodic : PeriodicTest) : Nat → Nat → Progress → Progress
  | 0, _, progress => progress
  | left + 1, k, progress =>
      match periodic.iteration k progress with
      | .leave progress => progress
      | .again progress => periodic.checkLoop left (k + 1) progress

/-- The state before the loop: one window in fresh directories. -/
def PeriodicTest.start (periodic : PeriodicTest) (job : FioTest → List Text) : Progress where
  world := periodic.measure periodic.timesACycle 0 ⟨job, [], fun _ => []⟩
  finalResult := none
  alreadyExeTimes := periodic.timesACycle

/-- `periodic_test` for one test type. -/
def PeriodicTest.run (periodic : PeriodicTest) (job : FioTest → List Text) : Progress :=
  periodic.checkLoop 21 0 (periodic.start job)

/-- The states at the start of the iterations. -/
inductive PeriodicTest.Reaches (periodic : PeriodicTest) (job : FioTest → List Text) :
    Nat → Progress → Prop where
  | start : periodic.Reaches job 0 (periodic.start job)
  | again {k : Nat} {progress next : Progress} (before : periodic.Reaches job k progress)
      (more : k < 20) (step : periodic.iteration k progress = .again next) :
      periodic.Reaches job (k + 1) next

/-- The run goes on from every state it reaches. -/
theorem run_of_reaches {periodic : PeriodicTest} {job : FioTest → List Text} {k : Nat}
    {progress : Progress} (reaches : periodic.Reaches job k progress) :
    ∃ left, k + left = 20 ∧ periodic.run job = periodic.checkLoop (left + 1) k progress := by
  induction reaches with
  | start => exact ⟨20, rfl, rfl⟩
  | @again k progress next before more step induction =>
      obtain ⟨left, total, run⟩ := induction
      obtain ⟨fewer, rfl⟩ : ∃ fewer, left = fewer + 1 := ⟨left - 1, by omega⟩
      refine ⟨fewer, by omega, ?_⟩
      rw [run, PeriodicTest.checkLoop, step]

section

variable {periodic : PeriodicTest} {job : FioTest → List Text} {k : Nat} {progress : Progress}

theorem run_of_leave {final : Progress} (reaches : periodic.Reaches job k progress)
    (step : periodic.iteration k progress = .leave final) : periodic.run job = final := by
  obtain ⟨left, -, run⟩ := run_of_reaches reaches
  rw [run, PeriodicTest.checkLoop, step]

theorem run_of_last {final : Progress} (reaches : periodic.Reaches job 20 progress)
    (step : periodic.iteration 20 progress = .again final) : periodic.run job = final := by
  obtain ⟨left, total, run⟩ := run_of_reaches reaches
  obtain rfl : left = 0 := by omega
  rw [run, PeriodicTest.checkLoop, step]
  rfl

/-- Every loop comes to an iteration that leaves it or to the last one. -/
theorem exists_last_iteration (left : Nat) (total : k + left = 20)
    (reaches : periodic.Reaches job k progress) :
    ∃ index before, periodic.Reaches job index before ∧
      (periodic.iteration index before = .leave (periodic.run job) ∨
        index = 20 ∧ periodic.iteration index before = .again (periodic.run job)) := by
  induction left generalizing k progress with
  | zero =>
      obtain rfl : k = 20 := total
      refine ⟨20, progress, reaches, ?_⟩
      cases step : periodic.iteration 20 progress with
      | leave final =>
          left
          rw [run_of_leave reaches step]
      | again final =>
          right
          rw [run_of_last reaches step]
          exact ⟨rfl, rfl⟩
  | succ left induction =>
      cases step : periodic.iteration k progress with
      | leave final =>
          refine ⟨k, progress, reaches, Or.inl ?_⟩
          rw [run_of_leave reaches step, step]
      | again next => exact induction (by omega) (reaches.again (by omega) step)

end

/-! ## Alignment -/

/-- The results of a mode in the first repetitions. -/
def PeriodicTest.results (periodic : PeriodicTest) (mode : RwMode) (times : Nat) : List Text :=
  (List.range times).map fun i => (periodic.reports mode (i + 1)).result

@[simp]
theorem length_results (periodic : PeriodicTest) (mode : RwMode) (times : Nat) :
    (periodic.results mode times).length = times := by
  simp [PeriodicTest.results]

theorem results_succ (periodic : PeriodicTest) (mode : RwMode) (times : Nat) :
    periodic.results mode (times + 1) =
      periodic.results mode times ++ [(periodic.reports mode (times + 1)).result] := by
  simp [PeriodicTest.results, List.range_succ]

/-- The loop has its index, its counter and its files in step. -/
structure Aligned (periodic : PeriodicTest) (k : Nat) (progress : Progress) : Prop where
  /-- Result files. -/
  data : ∀ mode, progress.world.data mode =
    if mode ∈ testArray periodic.fioTestType then
      periodic.results mode (periodic.timesACycle + k) else []
  /-- Numbers of the logs. -/
  sequences : ∀ mode ∈ testArray periodic.fioTestType,
    progress.world.sequences mode = List.range' 1 (periodic.timesACycle + k)
  /-- The counter of repetitions. -/
  alreadyExeTimes : progress.alreadyExeTimes = periodic.timesACycle + k
  /-- No final result. -/
  finalResult : progress.finalResult = none

theorem count_testArray (test : FioTest) (mode : RwMode) :
    (testArray test).count mode = if mode ∈ testArray test then 1 else 0 := by
  cases test <;> cases mode <;> rfl

theorem data_measure (periodic : PeriodicTest) (testTimes alreadyExeTimes : Nat) (world : World)
    (mode : RwMode) :
    (periodic.measure testTimes alreadyExeTimes world).data mode = world.data mode ++
      if mode ∈ testArray periodic.fioTestType then
        (List.range testTimes).map fun i =>
          (periodic.reports mode (i + 1 + alreadyExeTimes)).result
      else [] := by
  rw [PeriodicTest.measure, data_performanceTest, count_testArray]
  split
  · rw [List.map_eq_flatMap]
    rfl
  · simp

theorem sequences_measure (periodic : PeriodicTest) (testTimes alreadyExeTimes : Nat)
    (world : World) {mode : RwMode} (member : mode ∈ testArray periodic.fioTestType) :
    (periodic.measure testTimes alreadyExeTimes world).sequences mode =
      world.sequences mode ++ (List.range testTimes).map fun i => i + 1 + alreadyExeTimes := by
  rw [PeriodicTest.measure, sequences_performanceTest, count_testArray, if_pos member,
    List.map_eq_flatMap]
  rfl

theorem aligned_start (periodic : PeriodicTest) (job : FioTest → List Text) :
    Aligned periodic 0 (periodic.start job) where
  data mode := by
    rw [PeriodicTest.start, data_measure]
    rfl
  sequences mode member := by
    rw [PeriodicTest.start, sequences_measure _ _ _ _ member, List.range'_eq_map_range]
    apply List.map_congr_left
    intro i _
    exact Nat.add_comm i 1
  alreadyExeTimes := rfl
  finalResult := rfl

/-- One more measurement moves every file on by one result. -/
theorem Aligned.measure {periodic : PeriodicTest} {k : Nat} {progress : Progress}
    (aligned : Aligned periodic k progress) :
    Aligned periodic (k + 1) {
      world := periodic.measure 1 progress.alreadyExeTimes progress.world
      finalResult := none
      alreadyExeTimes := progress.alreadyExeTimes + 1 } where
  data mode := by
    rw [data_measure, aligned.data, aligned.alreadyExeTimes]
    split
    · rw [← Nat.add_assoc, results_succ]
      simp [Nat.add_comm 1]
    · rfl
  sequences mode member := by
    rw [sequences_measure _ _ _ _ member, aligned.sequences mode member, aligned.alreadyExeTimes,
      ← Nat.add_assoc, List.range'_concat]
    simp
  alreadyExeTimes := by rw [aligned.alreadyExeTimes, Nat.add_assoc]
  finalResult := rfl

theorem Aligned.length_data {periodic : PeriodicTest} {k : Nat} {progress : Progress}
    (aligned : Aligned periodic k progress) {mode : RwMode}
    (member : mode ∈ testArray periodic.fioTestType) :
    (progress.world.data mode).length = periodic.timesACycle + k := by
  rw [aligned.data, if_pos member, length_results]

/-- The files of an aligned state are those of the modes. -/
theorem Aligned.files {periodic : PeriodicTest} {k : Nat} {progress : Progress}
    (aligned : Aligned periodic k progress) (positive : 1 ≤ periodic.timesACycle) :
    progress.world.files = testArray periodic.fioTestType := by
  have exists_iff : ∀ mode, progress.world.data mode ≠ [] ↔
      mode ∈ testArray periodic.fioTestType := by
    intro mode
    by_cases member : mode ∈ testArray periodic.fioTestType
    · have length := aligned.length_data member
      refine iff_of_true ?_ member
      intro empty
      rw [empty, List.length_nil] at length
      omega
    · rw [aligned.data, if_neg member]
      exact iff_of_false (fun nonempty => nonempty rfl) member
  rw [World.files]
  simp only [exists_iff]
  cases periodic.fioTestType <;> rfl

/-! ## Runs of the loop -/

/-- All files accept the window of an iteration. -/
def PeriodicTest.Accepts (periodic : PeriodicTest) (k : Nat) : Prop :=
  ∀ file ∈ testArray periodic.fioTestType, periodic.answer k file = some true

/-- `help.py` answers for every file in every iteration. -/
def PeriodicTest.Answers (periodic : PeriodicTest) : Prop :=
  ∀ k ≤ 20, ∀ file ∈ testArray periodic.fioTestType, (periodic.answer k file).isSome

/-- The final result for an accepted window. -/
def PeriodicTest.report (periodic : PeriodicTest) (k : Nat) (data : RwMode → List Text) :
    List Text :=
  (testArray periodic.fioTestType).map (periodic.line k data) ++
    ["start from " ++ decimal (k + 1)]

section

variable {periodic : PeriodicTest} {k : Nat} {progress : Progress}

/-- An iteration leaves the loop with the final result when all files are stable. -/
theorem iteration_accepts (positive : 1 ≤ periodic.timesACycle)
    (aligned : Aligned periodic k progress) (accepts : periodic.Accepts k) :
    periodic.iteration k progress =
      .leave { progress with finalResult := some (periodic.report k progress.world.data) } := by
  obtain ⟨file, files, array⟩ : ∃ file files, testArray periodic.fioTestType = file :: files := by
    cases periodic.fioTestType
    · exact ⟨_, _, rfl⟩
    · exact ⟨_, _, rfl⟩
  have checked := checkFiles_accepts progress.world.data [] progress.finalResult
    (fun other member => accepts other (array ▸ member))
  rw [PeriodicTest.iteration, aligned.files positive, array, checked, aligned.finalResult]
  dsimp only
  rw [if_pos rfl, PeriodicTest.report, array]
  rfl

/-- A file that is not stable asks for one more measurement, unless the iteration is the last. -/
theorem iteration_unstable (positive : 1 ≤ periodic.timesACycle)
    (aligned : Aligned periodic k progress) {front back : List RwMode} {file : RwMode}
    (array : testArray periodic.fioTestType = front ++ file :: back)
    (accepted : ∀ other ∈ front, periodic.answer k other = some true)
    (unstable : periodic.answer k file = some false) :
    periodic.iteration k progress =
      if k = 20 then .leave progress
      else .again {
        world := periodic.measure 1 progress.alreadyExeTimes progress.world
        finalResult := none
        alreadyExeTimes := progress.alreadyExeTimes + 1 } := by
  have unchanged : { progress with finalResult := none } = progress := by
    rw [← aligned.finalResult]
  rw [PeriodicTest.iteration, aligned.files positive, array,
    checkFiles_rejects progress.world.data [] progress.finalResult accepted unstable]
  dsimp only
  rw [if_neg (by decide), if_pos rfl, unchanged]

/-- A window that is not accepted has a first file that does not accept it. -/
theorem exists_first_rejection (rejects : ¬ periodic.Accepts k) :
    ∃ front file back, testArray periodic.fioTestType = front ++ file :: back ∧
      (∀ other ∈ front, periodic.answer k other = some true) ∧
      periodic.answer k file ≠ some true := by
  cases found : (testArray periodic.fioTestType).find? fun file =>
      decide (periodic.answer k file ≠ some true) with
  | none =>
      have accepted := List.find?_eq_none.mp found
      simp only [ne_eq, decide_eq_true_eq, Decidable.not_not] at accepted
      exact absurd accepted rejects
  | some file =>
      obtain ⟨rejected, front, back, array, accepted⟩ := List.find?_eq_some_iff_append.mp found
      simp only [ne_eq, decide_eq_true_eq, Bool.not_eq_true', decide_eq_false_iff_not,
        Decidable.not_not] at rejected accepted
      exact ⟨front, file, back, array, accepted, rejected⟩

/-- Otherwise it goes on with one more measurement, unless it was the last one. -/
theorem iteration_rejects (positive : 1 ≤ periodic.timesACycle) (answers : periodic.Answers)
    (last : k ≤ 20) (aligned : Aligned periodic k progress) (rejects : ¬ periodic.Accepts k) :
    periodic.iteration k progress =
      if k = 20 then .leave progress
      else .again {
        world := periodic.measure 1 progress.alreadyExeTimes progress.world
        finalResult := none
        alreadyExeTimes := progress.alreadyExeTimes + 1 } := by
  obtain ⟨front, file, back, array, accepted, rejected⟩ := exists_first_rejection rejects
  have member : file ∈ testArray periodic.fioTestType := by
    rw [array]
    exact List.mem_append_right front List.mem_cons_self
  obtain ⟨stable, answer⟩ := Option.isSome_iff_exists.mp (answers k last file member)
  cases stable with
  | true => exact absurd answer rejected
  | false => exact iteration_unstable positive aligned array accepted answer

/-- If iterations that go on keep the alignment, all iterations start aligned, and no window before
them has been accepted. -/
theorem aligned_of_step {job : FioTest → List Text} (positive : 1 ≤ periodic.timesACycle)
    (kept : ∀ k progress next, k < 20 → Aligned periodic k progress →
      (∀ earlier < k, ¬ periodic.Accepts earlier) → ¬ periodic.Accepts k →
      periodic.iteration k progress = .again next → Aligned periodic (k + 1) next)
    (reaches : periodic.Reaches job k progress) :
    k ≤ 20 ∧ Aligned periodic k progress ∧ ∀ earlier < k, ¬ periodic.Accepts earlier := by
  induction reaches with
  | start => exact ⟨Nat.zero_le 20, aligned_start periodic job, fun _ impossible => by omega⟩
  | @again k progress next before more step induction =>
      obtain ⟨last, aligned, rejected⟩ := induction
      have rejects : ¬ periodic.Accepts k := by
        intro accepts
        rw [iteration_accepts positive aligned accepts] at step
        contradiction
      refine ⟨more, kept k progress next more aligned rejected rejects step, ?_⟩
      intro earlier bound
      rcases Nat.lt_succ_iff_lt_or_eq.mp bound with smaller | rfl
      · exact rejected earlier smaller
      · exact rejects

/-- With answers for all files, iterations that go on have made one more measurement. -/
theorem reaches_aligned {job : FioTest → List Text} (positive : 1 ≤ periodic.timesACycle)
    (answers : periodic.Answers) (reaches : periodic.Reaches job k progress) :
    k ≤ 20 ∧ Aligned periodic k progress ∧ ∀ earlier < k, ¬ periodic.Accepts earlier := by
  apply aligned_of_step positive _ reaches
  intro k progress next more aligned _ rejects step
  rw [iteration_rejects positive answers more.le aligned rejects, if_neg (Nat.ne_of_lt more)]
    at step
  obtain rfl := Outcome.again.inj step
  exact aligned.measure

end

/-- What an iteration that leaves the loop leaves behind. -/
theorem leave_cases {periodic : PeriodicTest} {k : Nat} {progress final : Progress}
    (positive : 1 ≤ periodic.timesACycle) (answers : periodic.Answers) (last : k ≤ 20)
    (aligned : Aligned periodic k progress)
    (step : periodic.iteration k progress = .leave final) :
    final.world = progress.world ∧
      (periodic.Accepts k ∧ final.finalResult = some (periodic.report k final.world.data) ∨
        ¬ periodic.Accepts k ∧ k = 20 ∧ final.finalResult = none) := by
  by_cases accepts : periodic.Accepts k
  · rw [iteration_accepts positive aligned accepts] at step
    obtain rfl := Outcome.leave.inj step
    exact ⟨rfl, Or.inl ⟨accepts, rfl⟩⟩
  · rw [iteration_rejects positive answers last aligned accepts] at step
    by_cases final : k = 20
    · rw [if_pos final] at step
      obtain rfl := Outcome.leave.inj step
      exact ⟨rfl, Or.inr ⟨accepts, final, aligned.finalResult⟩⟩
    · rw [if_neg final] at step
      contradiction

/-- The loop ends at the first window that all files accept, or after the last iteration. -/
theorem run_cases {periodic : PeriodicTest} (job : FioTest → List Text)
    (positive : 1 ≤ periodic.timesACycle) (answers : periodic.Answers) :
    ∃ k progress, k ≤ 20 ∧ Aligned periodic k progress ∧
      (∀ earlier < k, ¬ periodic.Accepts earlier) ∧
      (periodic.run job).world = progress.world ∧
      (periodic.Accepts k ∧ (periodic.run job).finalResult =
          some (periodic.report k (periodic.run job).world.data) ∨
        ¬ periodic.Accepts k ∧ k = 20 ∧ (periodic.run job).finalResult = none) := by
  have initially : periodic.Reaches job 0 (periodic.start job) := .start
  obtain ⟨k, progress, reaches, outcome⟩ :=
    exists_last_iteration 20 (Nat.zero_add 20) initially
  obtain ⟨last, aligned, rejected⟩ := reaches_aligned positive answers reaches
  have leaves : periodic.iteration k progress = .leave (periodic.run job) := by
    rcases outcome with leaves | ⟨rfl, again⟩
    · exact leaves
    · by_cases accepts : periodic.Accepts 20
      · rw [iteration_accepts positive aligned accepts] at again
        contradiction
      · rw [iteration_rejects positive answers last aligned accepts, if_pos rfl] at again
        contradiction
  exact ⟨k, progress, last, aligned, rejected, leave_cases positive answers last aligned leaves⟩

/-- The last results of a file. -/
def latest (size : Nat) (results : List Text) : List Text := results.drop (results.length - size)

/-- In an aligned state the window of an iteration is the latest one. -/
theorem Aligned.window_eq_latest {periodic : PeriodicTest} {k : Nat} {progress : Progress}
    (aligned : Aligned periodic k progress) {mode : RwMode}
    (member : mode ∈ testArray periodic.fioTestType) :
    window k periodic.timesACycle (progress.world.data mode) =
      latest periodic.timesACycle (progress.world.data mode) := by
  have length := aligned.length_data member
  rw [window, latest, length, Nat.add_sub_cancel_left]
  apply List.take_of_length_le
  rw [List.length_drop, length, Nat.add_sub_cancel]

/-- Every iteration checks the latest window of files that hold exactly the results so far, and the
loop ends with the final result of the first window that all files accept, or with none. -/
theorem sliding_window (periodic : PeriodicTest) (job : FioTest → List Text)
    (positive : 1 ≤ periodic.timesACycle) (answers : periodic.Answers) :
    (∀ k progress, periodic.Reaches job k progress →
      progress.finalResult = none ∧
      progress.world.files = testArray periodic.fioTestType ∧
      ∀ mode ∈ testArray periodic.fioTestType,
        (progress.world.data mode).length = periodic.timesACycle + k ∧
        window k periodic.timesACycle (progress.world.data mode) =
          latest periodic.timesACycle (progress.world.data mode) ∧
        progress.world.sequences mode = List.range' 1 (periodic.timesACycle + k)) ∧
    (∀ mode ∈ testArray periodic.fioTestType,
      ((periodic.run job).world.sequences mode).length ≤ periodic.timesACycle + 20) ∧
    ((periodic.run job).finalResult.isSome ↔ ∃ k ≤ 20, periodic.Accepts k) ∧
    ∀ k ≤ 20, periodic.Accepts k → (∀ earlier < k, ¬ periodic.Accepts earlier) →
      (periodic.run job).finalResult =
        some (periodic.report k (periodic.run job).world.data) := by
  obtain ⟨index, before, last, aligned, rejected, world, outcome⟩ :=
    run_cases job positive answers
  refine ⟨?_, ?_, ?_, ?_⟩
  · intro k progress reaches
    obtain ⟨-, inStep, -⟩ := reaches_aligned positive answers reaches
    refine ⟨inStep.finalResult, inStep.files positive, fun mode member => ?_⟩
    exact ⟨inStep.length_data member, inStep.window_eq_latest member,
      inStep.sequences mode member⟩
  · intro mode member
    rw [world, aligned.sequences mode member, List.length_range']
    exact Nat.add_le_add_left last _
  · rcases outcome with ⟨accepts, result⟩ | ⟨rejects, rfl, result⟩
    · exact iff_of_true (Option.isSome_of_eq_some result) ⟨index, last, accepts⟩
    · rw [result]
      refine iff_of_false Bool.false_ne_true ?_
      rintro ⟨k, bound, accepts⟩
      rcases Nat.lt_or_eq_of_le bound with smaller | rfl
      · exact rejected k smaller accepts
      · exact rejects accepts
  · intro k bound accepts smallest
    rcases Nat.lt_trichotomy k index with early | rfl | late
    · exact absurd accepts (rejected k early)
    · rcases outcome with ⟨-, result⟩ | ⟨rejects, -, -⟩
      · exact result
      · exact absurd accepts rejects
    · rcases outcome with ⟨earlier, -⟩ | ⟨-, rfl, -⟩
      · exact absurd earlier (smallest index late)
      · omega

/-- Windows of two results whose second file is not stable in the first iteration. -/
def secondWindow : PeriodicTest where
  setup := firstDisk
  fioTestType := .iops
  timesACycle := 2
  reports := fun _ sequence => ⟨"", decimal (1000 * sequence)⟩
  answer := fun k file => some (k != 0 || file != .randwrite)
  average := fun results =>
    decimal (results.foldl (fun total result => total + shellNat result) 0 / results.length)
  average_plain := fun _ => not_mem_decimal rfl

/-- The line of the first file from the rejected window does not survive. -/
theorem sliding_window_secondWindow :
    (secondWindow.run shipped).finalResult =
      some (secondWindow.report 1 (secondWindow.run shipped).world.data) := by
  have positive : 1 ≤ secondWindow.timesACycle := by decide
  have answers : secondWindow.Answers := fun _ _ _ _ => rfl
  refine (sliding_window secondWindow shipped positive answers).2.2.2 1 (by decide) ?_ ?_
  · intro file _
    cases file <;> rfl
  · intro earlier first accepts
    obtain rfl := Nat.lt_one_iff.mp first
    have unstable := accepts .randwrite (by decide)
    simp [secondWindow] at unstable

end Fio
