import ArmTest.Fio.PerformanceTest

/-!
# Results of the performance test

A call of `performance_test` that succeeds writes one log and appends one result for every
repetition and every mode, and numbers them on from the repetitions before the call.
-/

namespace Fio

open Shell

/-! ## Observations -/

/-- The sequence numbers of the launches for a mode. -/
def World.sequences (world : World) (mode : RwMode) : List Nat :=
  (world.launches.filter fun launch => launch.mode = mode).map Launch.sequence

/-- What a command appends to the result file of a mode. -/
def Command.result? (mode : RwMode) : Command → Option Text
  | .append other result => if other = mode then some result else none
  | _ => none

/-- The number of the log that a command writes for a mode. -/
def Command.sequence? (mode : RwMode) : Command → Option Nat
  | .fio _ other sequence => if other = mode then some sequence else none
  | _ => none

theorem data_finish (setup : Setup) (mode : RwMode) (commands : List Command) (world : World) :
    (finish (perform setup) commands world).data mode =
      world.data mode ++ commands.filterMap (Command.result? mode) := by
  refine finish_log _ (fun world : World => world.data mode) ?_ commands world
  intro command world
  cases command with
  | append other result =>
      by_cases same : other = mode
      · subst same
        simp [perform, Command.result?]
      · simp [perform, Command.result?, same, Function.update_of_ne (Ne.symm same)]
  | sed | echo | fio | grep | bc | sleep => exact (List.append_nil _).symm

theorem sequences_finish (setup : Setup) (mode : RwMode) (commands : List Command)
    (world : World) :
    (finish (perform setup) commands world).sequences mode =
      world.sequences mode ++ commands.filterMap (Command.sequence? mode) := by
  refine finish_log _ (fun world : World => world.sequences mode) ?_ commands world
  intro command world
  cases command with
  | fio test other sequence =>
      by_cases same : other = mode
      · simp [perform, Command.sequence?, World.sequences, same]
      · simp [perform, Command.sequence?, World.sequences, same]
  | sed | echo | append | grep | bc | sleep => exact (List.append_nil _).symm

/-- Only launches and appended results are observed. -/
structure Silent {X : Type} (observe : Command → Option X) : Prop where
  /-- Substitutions are not. -/
  sed : ∀ test line pattern replacement, observe (.sed test line pattern replacement) = none
  /-- Nor are the other commands. -/
  idle : observe .echo = none ∧ observe .grep = none ∧ observe .bc = none ∧ observe .sleep = none

theorem silent_result? (mode : RwMode) : Silent (Command.result? mode) :=
  ⟨fun _ _ _ _ => rfl, rfl, rfl, rfl, rfl⟩

theorem silent_sequence? (mode : RwMode) : Silent (Command.sequence? mode) :=
  ⟨fun _ _ _ _ => rfl, rfl, rfl, rfl, rfl⟩

theorem filterMap_measure {X : Type} {observe : Command → Option X} (silent : Silent observe)
    (setup : Setup) (reports : RwMode → Nat → Report) (test : FioTest) (sequence : Nat)
    (mode : RwMode) :
    (measure setup reports test sequence mode).filterMap observe =
      (observe (.fio test mode sequence)).toList ++
        (observe (.append mode (reports mode sequence).result)).toList := by
  obtain ⟨echo, grep, bc, sleep⟩ := silent.idle
  have conversion : (if test = .bw ∧ (reports mode sequence).units = "KiB" then [Command.bc]
      else []).filterMap observe = [] := by
    split
    · rw [List.filterMap_cons_none bc, List.filterMap_nil]
    · rfl
  have head : ∀ command commands, (command :: commands).filterMap observe =
      (observe command).toList ++ commands.filterMap observe := by
    intro command commands
    cases seen : observe command with
    | none => rw [List.filterMap_cons_none seen, Option.toList_none, List.nil_append]
    | some value => rw [List.filterMap_cons_some seen, Option.toList_some, List.singleton_append]
  rw [measure, List.filterMap_append, List.filterMap_append, conversion, List.append_nil]
  simp only [head, silent.sed, echo, grep, sleep, Option.toList_none, List.nil_append,
    List.filterMap_nil, List.append_nil]

/-! ## Whole calls -/

theorem flatMap_ite_eq {X : Type} (modes : List RwMode) (mode : RwMode) (value : X) :
    modes.flatMap (fun other => if other = mode then [value] else []) =
      List.replicate (modes.count mode) value := by
  induction modes with
  | nil => rfl
  | cons other modes induction =>
      by_cases same : other = mode
      · simp [same, induction, List.replicate_succ]
      · simp [same, induction]

/-- What a call leaves behind for a mode, if every measurement leaves one value. -/
theorem filterMap_performanceTest {X : Type} {setup : Setup} {reports : RwMode → Nat → Report}
    {test : FioTest} {mode : RwMode} {observe : Command → Option X} {value : Nat → X}
    (silent : Silent observe)
    (measured : ∀ sequence other, (measure setup reports test sequence other).filterMap observe =
      if other = mode then [value sequence] else [])
    (modes : List RwMode) (testTimes alreadyExeTimes : Nat) :
    (performanceTest setup reports test modes testTimes alreadyExeTimes).filterMap observe =
      (List.range testTimes).flatMap fun i =>
        List.replicate (modes.count mode) (value (i + 1 + alreadyExeTimes)) := by
  rw [performanceTest, List.filterMap_cons_none (silent.sed _ _ _ _), List.filterMap_append,
    List.filterMap_cons_none (silent.sed _ _ _ _), List.filterMap_nil, List.append_nil,
    measurements, List.filterMap_flatMap]
  congr 1
  funext i
  rw [List.filterMap_flatMap]
  simp only [measured, flatMap_ite_eq]

/-- A call appends one result of every repetition to the file of every mode. -/
theorem data_performanceTest (setup : Setup) (reports : RwMode → Nat → Report) (test : FioTest)
    (modes : List RwMode) (testTimes alreadyExeTimes : Nat) (world : World) (mode : RwMode) :
    (finish (perform setup) (performanceTest setup reports test modes testTimes alreadyExeTimes)
      world).data mode = world.data mode ++ (List.range testTimes).flatMap fun i =>
        List.replicate (modes.count mode) (reports mode (i + 1 + alreadyExeTimes)).result := by
  have measured : ∀ sequence other,
      (measure setup reports test sequence other).filterMap (Command.result? mode) =
        if other = mode then [(reports mode sequence).result] else [] := by
    intro sequence other
    rw [filterMap_measure (silent_result? mode)]
    by_cases same : other = mode
    · subst same
      simp [Command.result?]
    · simp [Command.result?, same]
  rw [data_finish, filterMap_performanceTest (silent_result? mode) measured]

/-- A call writes one log of every repetition for every mode. -/
theorem sequences_performanceTest (setup : Setup) (reports : RwMode → Nat → Report)
    (test : FioTest) (modes : List RwMode) (testTimes alreadyExeTimes : Nat) (world : World)
    (mode : RwMode) :
    (finish (perform setup) (performanceTest setup reports test modes testTimes alreadyExeTimes)
      world).sequences mode = world.sequences mode ++ (List.range testTimes).flatMap fun i =>
        List.replicate (modes.count mode) (i + 1 + alreadyExeTimes) := by
  have measured : ∀ sequence other,
      (measure setup reports test sequence other).filterMap (Command.sequence? mode) =
        if other = mode then [sequence] else [] := by
    intro sequence other
    rw [filterMap_measure (silent_sequence? mode)]
    by_cases same : other = mode
    · simp [Command.sequence?, same]
    · simp [Command.sequence?, same]
  rw [sequences_finish, filterMap_performanceTest (silent_sequence? mode) measured]

end Fio
