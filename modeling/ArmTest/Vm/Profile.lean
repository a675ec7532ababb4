import ArmTest.Shell.Slots
import ArmTest.Shell.Text

/-!
# The profile of the virtual machine

`create_basic_vm_profile` fills the slots of `vm.xml` in place and moves the file away when it is
done; `create_vm` copies the result, fills the remaining slots in the copy and defines the virtual
machine, unless `virsh` knows one of that name.  A run of `env.sh` may end between any two commands,
and the next run starts again, perhaps with other variables.
-/

namespace Vm

open Shell

/-! ## The values -/

/-- The variables that the two functions read. -/
structure ProfileVariables where
  vmName : Text
  memNumaNode : Text
  arch : Text
  vmDir : Text
  centosVersion : Text
  vmDisk : Text
  /-- The address of the disk under `/sys/block`. -/
  diskPci : Text
  /-- The address that `ethtool -i` prints for the network card. -/
  nicPci : Text
  /-- The lines of `device.xml`. -/
  device : List Text
  vmMemSize : Text
  vmCpuNum : Text
  vmEmuPinCpu : Text
  vmIoPinCpu : Text
  vmCpuTune : Text

/-- One field of `awk -F`. -/
def awkField (separator : Char) (index : Nat) (text : Text) : Text :=
  (text.splitOn separator).getD (index - 1) []

/-- `generate_device_profile`; the command substitution drops line breaks at the end. -/
def generateDeviceProfile (device : List Text) (address : Text) : Text :=
  let slotFunctionNum := awkField ':' 3 address
  let lines := [(("DOMAIN" : Text), awkField ':' 1 address), ("BUS", awkField ':' 2 address),
      ("SLOT", awkField '.' 1 slotFunctionNum), ("FUNCTION", awkField '.' 2 slotFunctionNum)].foldl
    (fun lines edit => editLines edit lines) device
  joinWith '\n' (lines.reverse.dropWhile (· = [])).reverse

/-- The variable `machine`. -/
def machineType (arch : Text) : Text :=
  if arch = "x86_64" then "pc" else if arch = "aarch64" then "virt" else ""

/-- The variable `down_arch`. -/
def downArch (arch : Text) : Text :=
  if arch = "x86_64" then "i386" else if arch = "aarch64" then "arm" else ""

/-- The variable `feature`. -/
def feature (arch : Text) : Text :=
  if arch = "x86_64" then "" else if arch = "aarch64" then "    <gic version=\"3\"/>" else ""

/-- The slots that `create_basic_vm_profile` fills and their values.  The network card is filled in
if there is a disk. -/
def ProfileVariables.basicEdits (vars : ProfileVariables) : List (Text × Text) :=
  [("VMNAME", vars.vmName),
    ("MEMNUMANODE", vars.memNumaNode),
    ("ARCH", vars.arch),
    ("MACHINE", machineType vars.arch),
    ("DOWNARCH", downArch vars.arch),
    ("FEATURE", feature vars.arch),
    ("OSIMAGE", vars.vmDir ++ '/' :: (vars.centosVersion ++ ".img")),
    ("DISK", if vars.vmDisk ≠ [] then generateDeviceProfile vars.device vars.diskPci else []),
    ("NIC", if vars.vmDisk ≠ [] then generateDeviceProfile vars.device vars.nicPci else [])]

/-- The slots that `create_vm` fills and their values. -/
def ProfileVariables.vmEdits (vars : ProfileVariables) : List (Text × Text) :=
  [("MEMORYSIZE", vars.vmMemSize),
    ("CPUNUM", vars.vmCpuNum),
    ("EMUPINCPU", vars.vmEmuPinCpu),
    ("IOPINCPU", vars.vmIoPinCpu),
    ("CPUTUNE", vars.vmCpuTune)]

/-! ## The commands -/

/-- A backslash and an `n` in a replacement stand for a line break. -/
def breakLines : Text → Text
  | [] => []
  | '\\' :: 'n' :: cs => '\n' :: breakLines cs
  | c :: cs => c :: breakLines cs

/-- The text of the command is whole: a line break or a bar inside the value would end it early. -/
def Insertable (value : Text) : Prop := '\n' ∉ value ∧ '|' ∉ value

instance (value : Text) : Decidable (Insertable value) := inferInstanceAs (Decidable (_ ∧ _))

/-- The text of the first name element, under which `virsh define` keeps a machine. -/
def domainName (profile : List Text) : Text :=
  (((profile.filterMap (behindWord "<name>")).head?).getD []).takeWhile (· ≠ '<')

/-- The profiles under `VM_DIR` and what `virsh` knows. -/
structure ProfileFiles where
  /-- The lines of `vm.xml`. -/
  origin : Option (List Text)
  /-- The lines of `basic-vm.xml`. -/
  basic : Option (List Text)
  /-- The lines of the profile named after the system. -/
  profile : Option (List Text)
  /-- What `virsh define` read last. -/
  defined : Option (List Text)
  /-- The names of the machines for which `virsh dominfo` prints a state. -/
  names : List Text
  deriving DecidableEq

/-- The commands that change profiles. -/
inductive ProfileCommand where
  | editOrigin (edit : Text × Text)
  | moveOrigin
  | copyBasic
  | editProfile (edit : Text × Text)
  | define
  deriving DecidableEq

/-- `sed -i "s|#NAME#|value|g"` on a file, which has to exist. -/
def sedSlot (edit : Text × Text) (file : Option (List Text)) : Option (List Text) :=
  if Insertable edit.2 then file.map (editLines (edit.1, breakLines edit.2)) else none

/-- One command; a command that fails ends the run. -/
def ProfileCommand.exec (files : ProfileFiles) : ProfileCommand → Option ProfileFiles
  | .editOrigin edit => (sedSlot edit files.origin).map fun lines =>
      { files with origin := some lines }
  | .moveOrigin => files.origin.map fun lines => { files with origin := none, basic := some lines }
  | .copyBasic => files.basic.map fun lines => { files with profile := some lines }
  | .editProfile edit => (sedSlot edit files.profile).map fun lines =>
      { files with profile := some lines }
  | .define => files.profile.map fun lines =>
      { files with defined := some lines, names := domainName lines :: files.names }

/-- Commands until one fails. -/
def execProfile (files : ProfileFiles) : List ProfileCommand → ProfileFiles
  | [] => files
  | command :: commands =>
      match command.exec files with
      | some after => execProfile after commands
      | none => files

/-- `create_basic_vm_profile`. -/
def createBasicVmProfile (vars : ProfileVariables) : List ProfileCommand :=
  vars.basicEdits.map .editOrigin ++ [.moveOrigin]

/-- `create_vm`. -/
def createVm (vars : ProfileVariables) : List ProfileCommand :=
  .copyBasic :: (vars.vmEdits.map .editProfile ++ [.define])

/-- A run of `env.sh` with the variables of its time, which ends after some of its commands. -/
structure ProfileRun where
  vars : ProfileVariables
  stop : Nat

/-- The variable `test_vm_state` is not empty. -/
def ProfileRun.Known (run : ProfileRun) (files : ProfileFiles) : Prop :=
  run.vars.vmName ≠ [] ∧ run.vars.vmName ∈ files.names

instance (run : ProfileRun) (files : ProfileFiles) : Decidable (run.Known files) :=
  inferInstanceAs (Decidable (_ ∧ _))

/-- The commands of `env_check_and_build`. -/
def ProfileRun.commands (run : ProfileRun) (files : ProfileFiles) : List ProfileCommand :=
  (if files.basic = none then createBasicVmProfile run.vars else []) ++
    if run.Known files then [] else createVm run.vars

/-- One run. -/
def ProfileRun.exec (files : ProfileFiles) (run : ProfileRun) : ProfileFiles :=
  execProfile files ((run.commands files).take run.stop)

variable {template : List SlotLine} {early : List (Text × Text)} {files : ProfileFiles}
  {run : ProfileRun}

/-- An edit as `sed` makes it. -/
def inserted (edit : Text × Text) : Text × Text := (edit.1, breakLines edit.2)

/-- All edits of a run. -/
def ProfileVariables.edits (vars : ProfileVariables) : List (Text × Text) :=
  vars.basicEdits ++ vars.vmEdits

/-- The values have no characters with a meaning to the slots or to `sed`. -/
def ProfileVariables.Fillable (vars : ProfileVariables) : Prop :=
  ∀ edit ∈ vars.edits, Shell.Fillable (inserted edit)

/-- The template with the first value that the edits give to each slot. -/
def filledWith (template : List SlotLine) (edits : List (Text × Text)) : List Text :=
  template.map (SlotLine.fill fun name => edits.lookup name)

/-- The edits before the first one that fails. -/
def executed (edits : List (Text × Text)) : List (Text × Text) :=
  (edits.takeWhile fun edit => Insertable edit.2).map inserted

/-- The slots of `create_basic_vm_profile`. -/
def basicNames : List Text :=
  ["VMNAME", "MEMNUMANODE", "ARCH", "MACHINE", "DOWNARCH", "FEATURE", "OSIMAGE", "DISK", "NIC"]

/-- The edits of `vm.xml` that a run makes if it finds the file. -/
def ProfileRun.filled (run : ProfileRun) : List (Text × Text) :=
  executed (run.vars.basicEdits.take run.stop)

/-- The first edit of every slot of `create_basic_vm_profile` has been made. -/
def BasicDone (early : List (Text × Text)) : Prop :=
  ∀ name ∈ basicNames, (early.lookup name).isSome = true

/-- The basic profile is being filled in, or it is done. -/
inductive Phase (template : List SlotLine) (early : List (Text × Text)) : ProfileFiles → Prop
  | filling {files : ProfileFiles} (origin : files.origin = some (filledWith template early))
      (basic : files.basic = none) (undefined : files.defined = none) (unnamed : files.names = []) :
      Phase template early files
  | moved {files : ProfileFiles} (basic : files.basic = some (filledWith template early))
      (done : BasicDone early) (named : files.names ≠ [] → files.defined ≠ none) :
      Phase template early files

theorem BasicDone.append (done : BasicDone early) (late : List (Text × Text)) :
    BasicDone (early ++ late) := by
  intro name member
  rw [List.lookup_append, Option.isSome_or, done name member, Bool.true_or]

/-- The profile with which a run defines the machine. -/
def ProfileRun.profile (run : ProfileRun) (template : List SlotLine)
    (early : List (Text × Text)) : List Text :=
  filledWith template (early ++ run.vars.edits.map inserted)

end Vm
