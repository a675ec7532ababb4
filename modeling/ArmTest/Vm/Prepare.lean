import ArmTest.Vm.Layout

/-!
# Preparing the host

`env.sh` calls `help.py` only while there is no `vm-cpu-list`, and creates the virtual machine from
the variables of that file.  This file follows the list over a sequence of such runs, each of which
may stop at an error and be started again.
-/

namespace Vm

open Shell Linux

/-! ## One call of `help.py` -/

/-- The arguments of a call: the processor list of the node and the configured numbers. -/
structure Call where
  /-- The entries that `lscpu` prints for the node. -/
  segments : List Segment
  /-- The variable `VM_CPU_START_INDEX`. -/
  startIndex : Nat
  /-- The variable `VM_CPU_NUM`. -/
  vcpuNum : Nat
  /-- The number of processors of the machine. -/
  allCpuNum : Nat
  /-- The variable `TEST_BIND_CPU_START_INDEX`. -/
  fioStartIndex : Nat
  deriving DecidableEq

/-- What the call does. -/
def Call.outcome (call : Call) : Outcome :=
  generateVmCpuList (cpuString call.segments) call.startIndex call.vcpuNum call.allCpuNum
    call.fioStartIndex

/-- Either the call fails without a file, or it succeeds with a complete one. -/
def AllOrNothing (outcome : Outcome) : Prop :=
  (outcome.status ≠ 0 ∧ outcome.file = none) ∨
    (outcome.status = 0 ∧ ∃ file, outcome.file = some file ∧ Complete file)

/-- The call is rejected early, or it has a known layout and the benchmark starts inside it. -/
def Call.Sound (call : Call) : Prop :=
  call.vcpuNum % 2 ≠ 0 ∨ call.segments = [] ∨
    (call.segments.length ≤ 2 ∧ (call.vcpuNum = 0 ∨ call.fioStartIndex < call.vcpuNum))

theorem allOrNothing_failed : AllOrNothing .failed := Or.inl ⟨Nat.one_ne_zero, rfl⟩

theorem complete_lines (plan : Plan) (first startIndex fioStartIndex hostFirst : Nat) :
    Complete (plan.tuneLines first ++ plan.testLines startIndex fioStartIndex hostFirst) := by
  intro var _
  cases var <;> rfl

theorem not_complete_tuneLines (plan : Plan) (first : Nat) : ¬ Complete (plan.tuneLines first) := by
  intro complete
  have missing : (plan.tuneLines first).lookup .testHostList1 = none := rfl
  have defined := complete .testHostList1 (by decide)
  rw [missing] at defined
  contradiction

theorem head?_fioHostCpuList {plan : Plan} {fioStartIndex : Nat} :
    (plan.fioHostCpuList fioStartIndex).head? = plan.vcpuArray[fioStartIndex]? := by
  rw [Plan.fioHostCpuList, List.head?_take, if_neg (by decide), List.head?_drop]

/-- A call with a known layout that starts the benchmark inside it writes the whole file. -/
theorem outcome_inside {segments : List Segment} {vcpuNum fioStartIndex : Nat}
    (supported : Supported segments) (startIndex allCpuNum : Nat) (even : vcpuNum % 2 = 0)
    (inside : fioStartIndex < vcpuNum) :
    ∃ file, generateVmCpuList (cpuString segments) startIndex vcpuNum allCpuNum fioStartIndex =
      { status := 0, file := some file } ∧ Complete file := by
  have array := vcpuArray_planOf supported startIndex vcpuNum allCpuNum
  rw [generateVmCpuList_supported supported _ _ _ (by omega) even, writeVmCpuTune,
    head?_fioHostCpuList, array, head?_placement segments (by omega), getElem?_placement,
    if_pos inside]
  exact ⟨_, rfl, complete_lines _ _ _ _ _⟩

/-- A benchmark that starts behind the layout leaves the beginning of the file behind. -/
theorem outcome_beyond {segments : List Segment} {vcpuNum fioStartIndex : Nat}
    (supported : Supported segments) (startIndex allCpuNum : Nat) (even : vcpuNum % 2 = 0)
    (positive : 0 < vcpuNum) (beyond : vcpuNum ≤ fioStartIndex) :
    ∃ file, generateVmCpuList (cpuString segments) startIndex vcpuNum allCpuNum fioStartIndex =
      { status := 1, file := some file } ∧ ¬ Complete file := by
  have array := vcpuArray_planOf supported startIndex vcpuNum allCpuNum
  rw [generateVmCpuList_supported supported _ _ _ positive even, writeVmCpuTune,
    head?_fioHostCpuList, array, head?_placement segments positive, getElem?_placement,
    if_neg (by omega)]
  exact ⟨_, rfl, not_complete_tuneLines _ _⟩

theorem allOrNothing_of_sound {call : Call} (sound : call.Sound) : AllOrNothing call.outcome := by
  by_cases odd : call.vcpuNum % 2 ≠ 0
  · rw [Call.outcome, generateVmCpuList_odd _ _ _ _ odd]
    exact allOrNothing_failed
  rw [ne_eq, not_not] at odd
  by_cases empty : call.segments = []
  · rw [Call.outcome, empty, generateVmCpuList_nil _ _ _ odd]
    exact allOrNothing_failed
  obtain ⟨short, range⟩ := (sound.resolve_left (not_not.mpr odd)).resolve_left empty
  have supported : Supported call.segments := ⟨empty, short⟩
  rcases range with zero | inside
  · rw [Call.outcome, zero, generateVmCpuList_zero supported]
    exact allOrNothing_failed
  · obtain ⟨file, written, complete⟩ :=
      outcome_inside supported call.startIndex call.allCpuNum odd inside
    exact Or.inr ⟨by rw [Call.outcome, written], file, by rw [Call.outcome, written], complete⟩

/-- Every other call ends with a beginning of the file or without a file. -/
theorem outcome_of_not_sound {call : Call} (unsound : ¬ call.Sound) :
    (∃ file, call.outcome = { status := 1, file := some file } ∧ ¬ Complete file) ∨
      call.outcome = { status := 0, file := none } := by
  simp only [Call.Sound, not_or, not_and, ne_eq, not_not] at unsound
  obtain ⟨even, nonempty, range⟩ := unsound
  by_cases short : call.segments.length ≤ 2
  · obtain ⟨positive, beyond⟩ := range short
    exact Or.inl (outcome_beyond ⟨nonempty, short⟩ call.startIndex call.allCpuNum even
      (Nat.pos_of_ne_zero positive) (Nat.le_of_not_lt beyond))
  · exact Or.inr (generateVmCpuList_many _ _ _ even (by omega))

theorem allOrNothing_iff_sound (call : Call) : AllOrNothing call.outcome ↔ call.Sound := by
  refine ⟨fun whole => ?_, allOrNothing_of_sound⟩
  by_contra unsound
  rcases outcome_of_not_sound unsound with ⟨file, ended, -⟩ | ended <;>
  · rw [ended] at whole
    simp [AllOrNothing] at whole

/-! ## Runs of `env.sh` -/

/-- What a run of `env_check_and_build` meets. -/
structure EnvRun where
  /-- The arguments with which it would call `help.py`. -/
  call : Call
  /-- The checks before the list pass and ask for no reboot. -/
  ready : Bool
  /-- The benchmarks and the basic profile are built. -/
  built : Bool
  /-- The state that `virsh dominfo` prints for the virtual machine. -/
  testVmState : Text
  deriving DecidableEq

/-- The list after a run, and the variables in effect if the run reached `create_vm`. -/
structure Prepared where
  /-- What stands in `vm-cpu-list`. -/
  file : Option CpuListFile
  /-- The variables that `create_vm` uses. -/
  createVm : Option CpuListFile
  deriving DecidableEq

/-- The rest of a run; `vars.sh` has read the list if there is one. -/
def EnvRun.afterList (run : EnvRun) (file : Option CpuListFile) : Prepared where
  file := file
  createVm := if run.built = true ∧ run.testVmState = [] then some (file.getD []) else none

/-- `env_check_and_build`; a failing call of `help.py` ends the run. -/
def envCheckAndBuild (run : EnvRun) (file : Option CpuListFile) : Prepared :=
  if run.ready then
    match file with
    | some list => run.afterList (some list)
    | none =>
        if run.call.outcome.status = 0 then
          run.afterList run.call.outcome.file
        else
          { file := run.call.outcome.file, createVm := none }
  else
    { file := file, createVm := none }

/-- The lists with which a sequence of runs reaches `create_vm`. -/
def createdWith : Option CpuListFile → List EnvRun → List CpuListFile
  | _, [] => []
  | file, run :: runs =>
      (envCheckAndBuild run file).createVm.toList ++
        createdWith (envCheckAndBuild run file).file runs

/-- No list, or a complete one. -/
def Whole (file : Option CpuListFile) : Prop := ∀ list, file = some list → Complete list

/-- A run whose call is sound keeps the list whole and uses only complete lists. -/
theorem envCheckAndBuild_whole {run : EnvRun} {file : Option CpuListFile} (sound : run.call.Sound)
    (whole : Whole file) :
    Whole (envCheckAndBuild run file).file ∧ Whole (envCheckAndBuild run file).createVm := by
  have keeps : ∀ list, Complete list →
      Whole (run.afterList (some list)).file ∧ Whole (run.afterList (some list)).createVm := by
    intro list complete
    refine ⟨fun other same => ?_, fun other same => ?_⟩
    · cases same
      exact complete
    · simp only [EnvRun.afterList, Option.getD_some] at same
      split at same
      · cases same
        exact complete
      · contradiction
  have nothing : Whole none := fun _ impossible => nomatch impossible
  unfold envCheckAndBuild
  by_cases ready : run.ready = true
  · rw [if_pos ready]
    cases file with
    | some list => exact keeps list (whole list rfl)
    | none =>
        rcases allOrNothing_of_sound sound with ⟨failed, absent⟩ | ⟨ended, list, present, complete⟩
        · simp only [if_neg failed, absent]
          exact ⟨nothing, nothing⟩
        · simp only [if_pos ended, present]
          exact keeps list complete
  · rw [if_neg ready]
    exact ⟨whole, nothing⟩

theorem createdWith_complete {runs : List EnvRun} {file : Option CpuListFile} (whole : Whole file)
    (sound : ∀ run ∈ runs, run.call.Sound) : ∀ list ∈ createdWith file runs, Complete list := by
  induction runs generalizing file with
  | nil => simp [createdWith]
  | cons run runs induction =>
      obtain ⟨fileWhole, usedWhole⟩ :=
        envCheckAndBuild_whole (sound run List.mem_cons_self) whole
      intro list member
      rw [createdWith, List.mem_append, Option.mem_toList] at member
      rcases member with now | later
      · exact usedWhole list now
      · exact induction fileWhole
          (fun other inside => sound other (List.mem_cons_of_mem run inside)) list later

/-- A run in which nothing else goes wrong. -/
def smoothRun (call : Call) : EnvRun where
  call := call
  ready := true
  built := true
  testVmState := []

/-- Started twice, a call that is not sound creates the virtual machine without a complete list. -/
theorem createdWith_incomplete {call : Call} (unsound : ¬ call.Sound) :
    ∃ list ∈ createdWith none [smoothRun call, smoothRun call], ¬ Complete list := by
  rcases outcome_of_not_sound unsound with ⟨file, ended, incomplete⟩ | ended
  · have first : envCheckAndBuild (smoothRun call) none =
        { file := some file, createVm := none } := by
      simp [envCheckAndBuild, smoothRun, ended]
    refine ⟨file, ?_, incomplete⟩
    rw [createdWith, first, createdWith]
    simp [envCheckAndBuild, smoothRun, EnvRun.afterList]
  · have first : envCheckAndBuild (smoothRun call) none =
        { file := none, createVm := some [] } := by
      simp [envCheckAndBuild, smoothRun, ended, EnvRun.afterList]
    refine ⟨[], ?_, by decide⟩
    rw [createdWith, first]
    simp

/-- A call is all or nothing exactly when it is sound; runs whose calls are sound create the
virtual machine from complete lists only, and every other call breaks this. -/
theorem list_complete_iff_sound (call : Call) (runs : List EnvRun) :
    (AllOrNothing call.outcome ↔ call.Sound) ∧
    ((∀ run ∈ runs, run.call.Sound) → ∀ list ∈ createdWith none runs, Complete list) ∧
    (¬ call.Sound → ∃ again : List EnvRun, (∀ run ∈ again, run.call = call) ∧
      ∃ list ∈ createdWith none again, ¬ Complete list) := by
  refine ⟨allOrNothing_iff_sound call, fun sound => ?_, fun unsound => ?_⟩
  · have nothing : Whole none := fun _ impossible => nomatch impossible
    exact createdWith_complete nothing sound
  · refine ⟨[smoothRun call, smoothRun call], ?_, createdWith_incomplete unsound⟩
    intro run member
    simp only [List.mem_cons, List.not_mem_nil, or_false, or_self] at member
    rw [member]
    rfl

/-- A benchmark index behind the last virtual processor truncates the list, and the next run uses
it; a node list with three entries ends successfully without any list. -/
theorem truncated_list_reaches_createVm :
    ¬ AllOrNothing (Call.outcome ⟨[.range 0 63], 8, 32, 128, 32⟩) ∧
    ¬ AllOrNothing (Call.outcome ⟨[.range 0 15, .range 32 47, .range 64 79], 8, 32, 128, 8⟩) ∧
    ∃ list ∈ createdWith none
        [smoothRun ⟨[.range 0 63], 8, 32, 128, 32⟩, smoothRun ⟨[.range 0 63], 8, 32, 128, 32⟩],
      ¬ Complete list := by
  have beyond : ¬ Call.Sound ⟨[.range 0 63], 8, 32, 128, 32⟩ := by
    simp [Call.Sound]
  have many : ¬ Call.Sound ⟨[.range 0 15, .range 32 47, .range 64 79], 8, 32, 128, 8⟩ := by
    simp [Call.Sound]
  exact ⟨fun whole => beyond ((allOrNothing_iff_sound _).mp whole),
    fun whole => many ((allOrNothing_iff_sound _).mp whole), createdWith_incomplete beyond⟩

end Vm
