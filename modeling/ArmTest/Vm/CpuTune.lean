import ArmTest.Linux.CpuList

/-!
# The list of pinned processors

`help.py` chooses the processors of the virtual machine from the processor list of a node and
writes them to `vm-cpu-list`, a file of variables that the other scripts read back.  The file is
opened before its last lines are computed, so a failing call can leave a beginning of it behind.
-/

namespace Vm

open Shell Linux

/-! ## The file -/

/-- The variables of the file. -/
inductive Var where
  | vmCpuList
  | vmCpuListFirstStart
  | vmCpuListSecondStart
  | vmEmuPinCpu
  | vmIoPinCpu
  | isolationCpuCmdline
  | vmCpuTune
  | testHostList1
  | testHostList8
  | testGuestList1
  | testGuestList8
  deriving DecidableEq

/-- All variables in the order in which they are written. -/
def Var.all : List Var :=
  [.vmCpuList, .vmCpuListFirstStart, .vmCpuListSecondStart, .vmEmuPinCpu, .vmIoPinCpu,
    .isolationCpuCmdline, .vmCpuTune, .testHostList1, .testHostList8, .testGuestList1,
    .testGuestList8]

/-- The lines of the file. -/
abbrev CpuListFile := List (Var × Text)

/-- Does the file define all variables? -/
def Complete (file : CpuListFile) : Prop := ∀ var ∈ Var.all, (file.lookup var).isSome = true

instance (file : CpuListFile) : Decidable (Complete file) :=
  inferInstanceAs (Decidable (∀ var ∈ Var.all, (file.lookup var).isSome = true))

/-- How a call ended: its exit status and the file it wrote, if it opened one. -/
structure Outcome where
  /-- Exit status. -/
  status : Nat
  /-- What stands in `vm-cpu-list` afterwards. -/
  file : Option CpuListFile
  deriving DecidableEq

/-- An exception before the file is opened. -/
def Outcome.failed : Outcome := { status := 1, file := none }

/-! ## Writing the file -/

/-- One line of `VM_CPU_TUNE`; the line break is written as a backslash and an `n`. -/
def vcpupin (vcpu cpuset : Nat) : Text :=
  "    <vcpupin vcpu='" ++ decimal vcpu ++ "' cpuset='" ++ decimal cpuset ++ "'/>\\n"

/-- The value of `VM_CPU_TUNE`. -/
def vcpuTune (vcpuArray : List Nat) : Text :=
  vcpuArray.zipIdx.flatMap fun entry => vcpupin entry.2 entry.1

/-- What the two layouts hand over to `write_vm_cpu_tune`. -/
structure Plan where
  /-- The variable `vcpu_list_second_start`. -/
  vcpuListSecondStart : Text
  /-- The variable `io_pin_cpu`. -/
  ioPinCpu : Int
  /-- The variable `isolation_cmdline`. -/
  isolationCmdline : Text
  /-- The variable `vcpu_array`. -/
  vcpuArray : List Nat
  deriving DecidableEq

/-- The lines that precede the blank lines of the file. -/
def Plan.tuneLines (plan : Plan) (first : Nat) : CpuListFile :=
  [(.vmCpuList, joinWith ' ' (plan.vcpuArray.map decimal)),
    (.vmCpuListFirstStart, decimal first),
    (.vmCpuListSecondStart, plan.vcpuListSecondStart),
    (.vmEmuPinCpu, integer (first - 1)),
    (.vmIoPinCpu, integer plan.ioPinCpu),
    (.isolationCpuCmdline, plan.isolationCmdline),
    (.vmCpuTune, vcpuTune plan.vcpuArray)]

/-- The variable `fio_host_cpu_list`. -/
def Plan.fioHostCpuList (plan : Plan) (fioStartIndex : Nat) : List Nat :=
  (plan.vcpuArray.drop fioStartIndex).take 8

/-- The variable `fio_guest_cpu_list`, which starts at the global `start_index`. -/
def fioGuestCpuList (startIndex : Nat) : List Nat := (List.range 8).map (startIndex + ·)

/-- The last lines of the file. -/
def Plan.testLines (plan : Plan) (startIndex fioStartIndex hostFirst : Nat) : CpuListFile :=
  [(.testHostList1, decimal hostFirst),
    (.testHostList8, joinWith ',' ((plan.fioHostCpuList fioStartIndex).map decimal)),
    (.testGuestList1, decimal startIndex),
    (.testGuestList8, joinWith ',' ((fioGuestCpuList startIndex).map decimal))]

/-- `write_vm_cpu_tune`; an index out of range ends the call with what is already written. -/
def writeVmCpuTune (startIndex : Nat) (plan : Plan) (fioStartIndex : Nat) : Outcome :=
  match plan.vcpuArray.head? with
  | none => { status := 1, file := some [(.vmCpuList, joinWith ' ' (plan.vcpuArray.map decimal))] }
  | some first =>
      match (plan.fioHostCpuList fioStartIndex).head? with
      | none => { status := 1, file := some (plan.tuneLines first) }
      | some hostFirst =>
          { status := 0
            file := some
              (plan.tuneLines first ++ plan.testLines startIndex fioStartIndex hostFirst) }

/-! ## Choosing the processors -/

/-- `int` on a piece of a processor list, where `lscpu` prints digits only. -/
def pyInt (text : Text) : Option Nat := parseNat? text

/-- The variable `start_cpu` for one entry of the list. -/
def startCpu (entry : Text) (startIndex : Nat) : Option Nat :=
  (pyInt ((entry.splitOn '-').headD [])).map (· + startIndex)

/-- The variable `isolation_cmdline_str`. -/
def isolationCmdlineStr (isolcpuStr restcpuStr : Text) : Text :=
  "isolcpus=" ++ isolcpuStr ++ " rcu_nocbs=" ++ isolcpuStr ++ " kthread_cpus=" ++ restcpuStr ++
    " irqaffinity=" ++ restcpuStr

/-- Append the processors behind the last chosen one, if there are any. -/
def withTail (restcpuStr : Text) (last allCpuNum : Nat) : Text :=
  if (last : Int) < (allCpuNum : Int) - 1 then
    restcpuStr ++ "," ++ decimal (last + 1) ++ "-" ++ integer ((allCpuNum : Int) - 1)
  else
    restcpuStr

/-- The layout of a list with one entry. -/
def oneSegmentPlan (entry : Text) (startIndex vcpuNum allCpuNum : Nat) : Option Plan := do
  let start ← startCpu entry startIndex
  let vcpuArray := (List.range vcpuNum).map (start + ·)
  let first ← vcpuArray[0]?
  let last ← vcpuArray[vcpuNum - 1]?
  let isolcpuStr := decimal first ++ "-" ++ decimal last
  let restcpuStr := withTail ("0-" ++ integer (first - 1)) last allCpuNum
  return {
    vcpuListSecondStart := "none"
    ioPinCpu := first - 2
    isolationCmdline := isolationCmdlineStr isolcpuStr restcpuStr
    vcpuArray := vcpuArray }

/-- The layout of a list with two entries, which alternates between them. -/
def twoSegmentPlan (entry₀ entry₁ : Text) (startIndex vcpuNum allCpuNum : Nat) :
    Option Plan := do
  let firstStart ← startCpu entry₀ startIndex
  let secondStart ← startCpu entry₁ startIndex
  let vcpuArray := (List.range (vcpuNum / 2)).flatMap fun i => [firstStart + i, secondStart + i]
  let first ← vcpuArray[0]?
  let firstLast ← vcpuArray[vcpuNum - 2]?
  let second ← vcpuArray[1]?
  let secondLast ← vcpuArray[vcpuNum - 1]?
  let isolcpuStr :=
    decimal first ++ "-" ++ decimal firstLast ++ "," ++ decimal second ++ "-" ++ decimal secondLast
  let restcpuStr := withTail
    ("0-" ++ integer (first - 1) ++ "," ++ decimal (firstLast + 1) ++ "-" ++ integer (second - 1))
    secondLast allCpuNum
  return {
    vcpuListSecondStart := decimal second
    ioPinCpu := second - 1
    isolationCmdline := isolationCmdlineStr isolcpuStr restcpuStr
    vcpuArray := vcpuArray }

/-- `generate_vm_cpu_list`; a list with more entries falls through both layouts. -/
def generateVmCpuList (cpuStr : Text) (startIndex vcpuNum allCpuNum fioStartIndex : Nat) :
    Outcome :=
  if vcpuNum % 2 ≠ 0 then
    .failed
  else
    match cpuStr.splitOn ',' with
    | [entry] =>
        match oneSegmentPlan entry startIndex vcpuNum allCpuNum with
        | none => .failed
        | some plan => writeVmCpuTune startIndex plan fioStartIndex
    | [entry₀, entry₁] =>
        match twoSegmentPlan entry₀ entry₁ startIndex vcpuNum allCpuNum with
        | none => .failed
        | some plan => writeVmCpuTune startIndex plan fioStartIndex
    | _ => { status := 0, file := none }

end Vm
