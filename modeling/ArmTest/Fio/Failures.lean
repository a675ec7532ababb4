import ArmTest.Fio.Stability

/-!
# Checks without an answer

`help.py` fails when a result is not a number.  The loop over the files is then left without a
word about the final result, and the loop around it goes on without a new measurement.  The final
result is whole exactly when the checks that are made have answers.
-/

namespace Fio

open Shell

/-! ## Checks that are made -/

/-- The files of a run; without measurements there are none. -/
def PeriodicTest.checked (periodic : PeriodicTest) : List RwMode :=
  if periodic.timesACycle = 0 then [] else testArray periodic.fioTestType

/-- In an iteration the files in `front` are stable and the check of the next one fails. -/
def PeriodicTest.FailsBehind (periodic : PeriodicTest) (k : Nat) (front : List RwMode) : Prop :=
  ∃ file back, periodic.checked = front ++ file :: back ∧
    (∀ other ∈ front, periodic.answer k other = some true) ∧ periodic.answer k file = none

/-- Up to the first window that all files accept, no check that is made fails, except for the first
one of the last iteration. -/
def PeriodicTest.Conclusive (periodic : PeriodicTest) : Prop :=
  ∀ k ≤ 20, (∀ earlier < k, ¬ periodic.Accepts earlier) →
    ∀ front, periodic.FailsBehind k front → k = 20 ∧ front = []

/-- The final result is neither partial nor stale, and an iteration that does not accept adds a
measurement to every file or is the last one. -/
structure PeriodicTest.Whole (periodic : PeriodicTest) (job : FioTest → List Text) : Prop where
  /-- The final result belongs to one window. -/
  final : (periodic.run job).finalResult = none ∨
    ∃ k, (periodic.run job).finalResult = some (periodic.report k (periodic.run job).world.data)
  /-- Every file gets one more result. -/
  progress : ∀ k progress next, periodic.Reaches job k progress →
    periodic.iteration k progress = .again next → k = 20 ∨
      ∀ file ∈ progress.world.files, ∃ result,
        next.world.data file = progress.world.data file ++ [result]

/-! ## Iterations -/

section

variable {periodic : PeriodicTest} {k : Nat} {progress : Progress}

theorem checked_of_pos (positive : 1 ≤ periodic.timesACycle) :
    periodic.checked = testArray periodic.fioTestType :=
  if_neg (Nat.ne_of_gt positive)

theorem PeriodicTest.FailsBehind.positive {front : List RwMode}
    (fails : periodic.FailsBehind k front) : 1 ≤ periodic.timesACycle := by
  obtain ⟨file, back, checked, -⟩ := fails
  apply Nat.one_le_iff_ne_zero.mpr
  intro none
  rw [PeriodicTest.checked, if_pos none] at checked
  simp at checked

/-- The lines of the files that were stable before the check that fails. -/
def PeriodicTest.remains (periodic : PeriodicTest) (k : Nat) (data : RwMode → List Text)
    (front : List RwMode) : Option (List Text) :=
  front.foldl (fun result other => appendLine result (periodic.line k data other)) none

theorem length_foldl_appendLine (lines : RwMode → Text) (front : List RwMode)
    (result : List Text) :
    ∃ whole, front.foldl (fun result other => appendLine result (lines other)) (some result) =
      some whole ∧ whole.length = result.length + front.length := by
  induction front generalizing result with
  | nil => exact ⟨result, rfl, rfl⟩
  | cons other front induction =>
      obtain ⟨whole, folded, length⟩ := induction (result ++ [lines other])
      refine ⟨whole, folded, ?_⟩
      rw [length, List.length_append, List.length_singleton, List.length_cons]
      omega

/-- A part of the lines is not the final result of any window. -/
theorem remains_not_whole {front : List RwMode} (nonempty : front ≠ [])
    (short : front.length < (testArray periodic.fioTestType).length) (data : RwMode → List Text) :
    periodic.remains k data front ≠ none ∧
      ∀ index, periodic.remains k data front ≠ some (periodic.report index data) := by
  cases front with
  | nil => contradiction
  | cons file front =>
      obtain ⟨whole, folded, length⟩ :=
        length_foldl_appendLine (periodic.line k data) front [periodic.line k data file]
      have found : periodic.remains k data (file :: front) = some whole := folded
      rw [found]
      refine ⟨Option.some_ne_none whole, ?_⟩
      intro index same
      rw [Option.some.inj same] at length
      simp only [PeriodicTest.report, List.length_append, List.length_map, List.length_cons]
        at length short
      omega

/-- A check that fails adds no measurement and leaves the lines before it where they are. -/
theorem iteration_fails (aligned : Aligned periodic k progress) {front : List RwMode}
    (fails : periodic.FailsBehind k front) :
    periodic.iteration k progress =
      .again { progress with
        finalResult := periodic.remains k progress.world.data front } := by
  have positive := fails.positive
  obtain ⟨file, back, checked, accepted, failed⟩ := fails
  rw [checked_of_pos positive] at checked
  rw [PeriodicTest.iteration, aligned.files positive, checked,
    checkFiles_behind progress.world.data [] progress.finalResult accepted,
    checkFiles_fails progress.world.data [] _ failed, aligned.finalResult]
  rfl

/-- An iteration accepts its window, finds a file that is not stable, or fails. -/
theorem iteration_cases (positive : 1 ≤ periodic.timesACycle)
    (aligned : Aligned periodic k progress) :
    periodic.Accepts k ∧ periodic.iteration k progress =
        .leave { progress with finalResult := some (periodic.report k progress.world.data) } ∨
      ¬ periodic.Accepts k ∧ (∃ next, Aligned periodic (k + 1) next ∧
        periodic.iteration k progress = if k = 20 then .leave progress else .again next) ∨
      ¬ periodic.Accepts k ∧ ∃ front, periodic.FailsBehind k front := by
  by_cases accepts : periodic.Accepts k
  · exact Or.inl ⟨accepts, iteration_accepts positive aligned accepts⟩
  · obtain ⟨front, file, back, array, accepted, rejected⟩ := exists_first_rejection accepts
    right
    cases answer : periodic.answer k file with
    | none =>
        right
        rw [← checked_of_pos positive] at array
        exact ⟨accepts, front, file, back, array, accepted, answer⟩
    | some stable =>
        cases stable with
        | true => exact absurd answer rejected
        | false =>
            left
            exact ⟨accepts, _, aligned.measure,
              iteration_unstable positive aligned array accepted answer⟩

end

/-! ## Conclusive runs -/

section

variable {periodic : PeriodicTest} {job : FioTest → List Text} {k : Nat} {progress : Progress}

/-- In a conclusive run all iterations start aligned. -/
theorem PeriodicTest.Conclusive.aligned (conclusive : periodic.Conclusive)
    (positive : 1 ≤ periodic.timesACycle) (reaches : periodic.Reaches job k progress) :
    k ≤ 20 ∧ Aligned periodic k progress ∧ ∀ earlier < k, ¬ periodic.Accepts earlier := by
  apply aligned_of_step positive _ reaches
  intro k progress next more aligned rejected rejects step
  rcases iteration_cases positive aligned with ⟨accepts, -⟩ | ⟨-, after, kept, goes⟩ |
    ⟨-, front, fails⟩
  · exact absurd accepts rejects
  · rw [goes, if_neg (Nat.ne_of_lt more)] at step
    obtain rfl := Outcome.again.inj step
    exact kept
  · have final := (conclusive k more.le rejected front fails).1
    omega

/-- Without measurements there are no files, and nothing happens. -/
theorem reaches_without_files (none : periodic.timesACycle = 0)
    (reaches : periodic.Reaches job k progress) :
    progress.world.files = [] ∧ progress.finalResult = Option.none ∧
      periodic.iteration k progress = .again progress := by
  have idle : ∀ (k : Nat) (progress : Progress), progress.world.files = [] →
      periodic.iteration k progress = .again progress := by
    intro k progress empty
    rw [PeriodicTest.iteration, empty]
    rfl
  induction reaches with
  | start =>
      have empty : (periodic.start job).world.files = [] := by
        rw [World.files, List.filter_eq_nil_iff]
        intro mode _
        rw [(aligned_start periodic job).data, none]
        simp [PeriodicTest.results]
      exact ⟨empty, rfl, idle 0 _ empty⟩
  | @again k progress next before more step induction =>
      obtain ⟨empty, absent, same⟩ := induction
      rw [same] at step
      obtain rfl := Outcome.again.inj step
      exact ⟨empty, absent, idle _ _ empty⟩

end

/-- A conclusive run is whole. -/
theorem PeriodicTest.Conclusive.whole {periodic : PeriodicTest} (conclusive : periodic.Conclusive)
    (job : FioTest → List Text) : periodic.Whole job := by
  have initially : periodic.Reaches job 0 (periodic.start job) := .start
  obtain ⟨index, before, reaches, outcome⟩ :=
    exists_last_iteration 20 (Nat.zero_add 20) initially
  rcases Nat.eq_zero_or_pos periodic.timesACycle with none | positive
  · constructor
    · obtain ⟨-, absent, same⟩ := reaches_without_files none reaches
      left
      rw [same] at outcome
      rcases outcome with impossible | ⟨-, last⟩
      · contradiction
      · rwa [← Outcome.again.inj last]
    · intro k progress next reached step
      right
      rw [(reaches_without_files none reached).1]
      exact fun file impossible => absurd impossible List.not_mem_nil
  · constructor
    · obtain ⟨last, aligned, rejected⟩ := conclusive.aligned positive reaches
      rcases iteration_cases positive aligned with ⟨-, leaves⟩ | ⟨-, after, -, goes⟩ |
        ⟨-, front, fails⟩
      · right
        rw [leaves] at outcome
        rcases outcome with final | ⟨-, impossible⟩
        · rw [← Outcome.leave.inj final]
          exact ⟨index, rfl⟩
        · contradiction
      · left
        rw [goes] at outcome
        split at outcome
        · rcases outcome with final | ⟨-, impossible⟩
          · rw [← Outcome.leave.inj final, aligned.finalResult]
          · contradiction
        · rcases outcome with impossible | ⟨final, -⟩
          · contradiction
          · contradiction
      · left
        obtain ⟨-, rfl⟩ := conclusive index last rejected front fails
        rw [iteration_fails aligned fails] at outcome
        rcases outcome with impossible | ⟨-, final⟩
        · contradiction
        · rw [← Outcome.again.inj final]
          rfl
    · intro k progress next reached step
      obtain ⟨last, aligned, rejected⟩ := conclusive.aligned positive reached
      rcases Nat.lt_or_eq_of_le last with more | final
      · right
        obtain ⟨-, kept, -⟩ := conclusive.aligned positive (reached.again more step)
        intro file member
        rw [aligned.files positive] at member
        refine ⟨(periodic.reports file (periodic.timesACycle + k + 1)).result, ?_⟩
        rw [kept.data, aligned.data, if_pos member, if_pos member, ← Nat.add_assoc, results_succ]
      · exact Or.inl final

/-! ## Whole runs -/

section

variable {periodic : PeriodicTest} {job : FioTest → List Text} {k : Nat}

/-- In a whole run no check fails before the last iteration. -/
theorem PeriodicTest.Whole.last_of_fails (whole : periodic.Whole job) {progress : Progress}
    (reaches : periodic.Reaches job k progress) (aligned : Aligned periodic k progress)
    {front : List RwMode} (fails : periodic.FailsBehind k front) : k = 20 := by
  rcases whole.progress k progress _ reaches (iteration_fails aligned fails) with last | added
  · exact last
  · have positive := fails.positive
    obtain ⟨file, back, checked, -⟩ := fails
    have member : file ∈ progress.world.files := by
      rw [aligned.files positive, ← checked_of_pos positive, checked]
      exact List.mem_append_right front List.mem_cons_self
    obtain ⟨result, longer⟩ := added file member
    have lengths : (progress.world.data file).length = _ := congrArg List.length longer
    rw [List.length_append, List.length_singleton] at lengths
    omega

/-- A whole run comes to every iteration before which no window was accepted. -/
theorem PeriodicTest.Whole.reaches (whole : periodic.Whole job)
    (positive : 1 ≤ periodic.timesACycle) (last : k ≤ 20)
    (rejected : ∀ earlier < k, ¬ periodic.Accepts earlier) :
    ∃ progress, periodic.Reaches job k progress ∧ Aligned periodic k progress := by
  induction k with
  | zero => exact ⟨periodic.start job, .start, aligned_start periodic job⟩
  | succ k induction =>
      obtain ⟨progress, reaches, aligned⟩ :=
        induction (by omega) fun earlier bound => rejected earlier (by omega)
      rcases iteration_cases positive aligned with ⟨accepts, -⟩ | ⟨-, next, kept, goes⟩ |
        ⟨-, front, fails⟩
      · exact absurd accepts (rejected k (Nat.lt_succ_self k))
      · rw [if_neg (by omega)] at goes
        exact ⟨next, reaches.again (by omega) goes, kept⟩
      · have final := whole.last_of_fails reaches aligned fails
        omega

/-- A whole run is conclusive. -/
theorem PeriodicTest.Whole.conclusive (whole : periodic.Whole job) : periodic.Conclusive := by
  intro k last rejected front fails
  have positive := fails.positive
  obtain ⟨progress, reaches, aligned⟩ := whole.reaches positive last rejected
  obtain rfl := whole.last_of_fails reaches aligned fails
  refine ⟨rfl, ?_⟩
  by_contra nonempty
  have run := run_of_last reaches (iteration_fails aligned fails)
  have final := whole.final
  rw [run] at final
  have short : front.length < (testArray periodic.fioTestType).length := by
    obtain ⟨file, back, checked, -⟩ := fails
    rw [← checked_of_pos positive, checked, List.length_append, List.length_cons]
    omega
  obtain ⟨present, differs⟩ := remains_not_whole nonempty short progress.world.data
  rcases final with none | ⟨index, report⟩
  · exact present none
  · exact differs index report

end

/-- The final result of a run is whole, and every iteration that does not accept makes progress,
exactly when no check fails that is made up to the first accepted window, the first check of the
last iteration aside. -/
theorem whole_iff_conclusive (periodic : PeriodicTest) (job : FioTest → List Text) :
    periodic.Whole job ↔ periodic.Conclusive :=
  ⟨fun whole => whole.conclusive, fun conclusive => conclusive.whole job⟩

/-- Windows of two results, with a second file that holds something else than numbers. -/
def brokenFile : PeriodicTest :=
  { secondWindow with
    reports := fun mode sequence =>
      ⟨"", if mode = .randwrite then [] else decimal (1000 * sequence)⟩
    answer := fun _ file => if file = .randwrite then none else some true }

/-- The final result collects a line of the first file in each of the iterations. -/
theorem brokenFile_not_whole : ¬ brokenFile.Whole shipped := by
  intro whole
  have lines : (brokenFile.run shipped).finalResult.map List.length = some 21 := by
    decide +kernel
  rcases whole.final with none | ⟨k, report⟩
  · rw [none] at lines
    contradiction
  · rw [report] at lines
    simp [PeriodicTest.report, brokenFile, secondWindow, testArray] at lines

end Fio
