import ArmTest.Provision.Reboot
import ArmTest.Shell.ErrExit
import ArmTest.Shell.Filter
import ArmTest.Vm.Cmdline

/-!
# The checks before the build

`env_check_and_build` compares the kernel, the kernel command line, SELinux and three services with
what the benchmarks need, edits what differs and asks for a reboot; a command that fails ends the
script.  Here are the checks, the machine that they read and edit, what one check can edit, and what
the checks find and leave when no command fails.
-/

namespace Vm

open Shell

/-! ## The machine -/

/-- What the checks edit and the next boot reads. -/
structure Disk where
  /-- The kernel that the boot loader starts by default. -/
  defaultKernel : Text
  /-- `/etc/default/grub` and `vars.sh`. -/
  files : BootFiles
  /-- The lines of `/etc/default/grub` that `grub2-mkconfig` read last. -/
  grubCfg : List Text
  /-- The lines of `/etc/selinux/config`. -/
  selinux : List Text
  /-- What `systemctl is-enabled irqbalance.service` prints. -/
  irqbalance : Text
  /-- What `systemctl is-enabled firewalld.service` prints. -/
  firewalld : Text
  /-- The state that `systemctl list-unit-files` prints for `docker.service`. -/
  docker : Option Text
  deriving DecidableEq

/-- What the checks read of the hardware and the kernel, and only warn about. -/
structure Readings where
  /-- The seventh word of the line `Default domain type` of `dmesg`. -/
  iommu : Text
  /-- The value of `AnonHugePages`. -/
  transparentHugepage : Text
  /-- The value of `Hugepagesize`. -/
  hugepageSize : Text
  /-- What `getconf PAGESIZE` prints. -/
  pageSize : Text
  /-- The number of nodes that `numactl -H` prints. -/
  numaNodeNum : Text
  /-- The number of threads of a core that `lscpu` prints. -/
  threadNum : Text
  /-- There is a file `/dev/kvm`. -/
  kvmDevice : Bool
  /-- There is a directory `/sys/module/kvm`. -/
  kvmModule : Bool
  deriving DecidableEq

/-- What runs since the last boot. -/
structure Running where
  /-- What `uname -r` prints. -/
  kernel : Text
  /-- The line of `/proc/cmdline`. -/
  cmdline : Text
  /-- The state with which SELinux was started. -/
  selinux : Text
  /-- The second word of the line `Active` that `systemctl status` prints. -/
  irqbalance : Text
  /-- The same for `firewalld.service`. -/
  firewalld : Text
  /-- The same for `docker.service`. -/
  docker : Text
  readings : Readings
  deriving DecidableEq

/-- The machine on which `env.sh` runs. -/
abbrev Machine := Provision.Machine Disk Running

/-- The variables of `vars.sh` that the checks read, and what the commands of the system do. -/
structure Settings where
  skipKernelVersionCheck : Text
  kernelVersion : Text
  socketNum : Text
  arch : Text
  /-- The default kernel behind `yum install` and `grubby`, which need not know a kernel of the
  wanted name, and whether both succeed. -/
  installKernel : Text → Text × Bool
  /-- What `systemctl is-enabled` prints after `systemctl disable`; none if that fails. -/
  systemctlDisable : Text → Option Text

/-- The machine and the variables `NEED_REBOOT` and `NEED_WARN`. -/
structure Check where
  machine : Machine
  needReboot : Bool
  needWarn : Bool

/-! ## The functions of `env.sh` -/

/-- The state of a service that is not started at boot, and of SELinux when it is off. -/
def disabled : Text := "disabled"

/-- The state of a service that runs. -/
def activeStatus : Text := "active"

/-- `check_kernel_version`, and whether its commands succeed. -/
def checkKernelVersion (settings : Settings) (check : Check) : Check × Bool :=
  if settings.skipKernelVersionCheck = "1" then
    (check, true)
  else if check.machine.running.kernel ≠ settings.kernelVersion then
    let installed := settings.installKernel check.machine.disk.defaultKernel
    if installed.2 then
      ({ check with
        machine.disk.defaultKernel := installed.1
        needReboot := true }, true)
    else
      ({ check with machine.disk.defaultKernel := installed.1 }, false)
  else
    (check, true)

/-- `grep "pattern$"` on one line, for a pattern without repetitions. -/
def grepEnd (pattern line : Text) : Bool :=
  decide ((atoms pattern).length ≤ line.length) &&
    matchesHere (atoms pattern) (line.drop (line.length - (atoms pattern).length))

/-- The warnings of `check_cmdline`. -/
def Readings.cmdlineWarns (readings : Readings) : Bool :=
  if readings.iommu ≠ "Passthrough" then true
  else if readings.transparentHugepage ≠ "0" then true
  else if readings.hugepageSize = [] then true
  else false

/-- `check_cmdline` on the machine: the files, the boot menu and `/proc/cmdline`. -/
def checkBootCmdline (env : PrepareEnv) (check : Check) : Check × Bool :=
  let edited := checkCmdline env check.machine.disk.files
  match edited.2 with
  | none => ({ check with machine.disk.files := edited.1 }, false)
  | some updated =>
      let disk : Disk := { check.machine.disk with
        files := edited.1
        grubCfg := if updated then edited.1.grub else check.machine.disk.grubCfg }
      if grepEnd env.cmdLineStr check.machine.running.cmdline then
        ({ machine := { check.machine with disk := disk }
           needReboot := check.needReboot || updated
           needWarn := check.needWarn || check.machine.running.readings.cmdlineWarns }, true)
      else
        ({ check with machine.disk := disk, needReboot := true }, true)

/-- The beginning of the line that sets the state of SELinux. -/
def selinuxKey : Text := "SELINUX="

/-- The variable `selinux_state`. -/
def selinuxState (selinux : List Text) : Text :=
  let found := joinWith '\n' (selinux.filter fun line => selinuxKey.isPrefixOf line)
  (behindWord selinuxKey found).getD found

/-- The command `s|=${selinux_state}|=disabled|g`. -/
def selinuxCommand (selinux : List Text) : Option (Text → Text) :=
  sedCommand ('=' :: selinuxState selinux) "=disabled"

/-- `check_SELinux`. -/
def checkSELinux (check : Check) : Check × Bool :=
  if selinuxState check.machine.disk.selinux ≠ disabled then
    match selinuxCommand check.machine.disk.selinux with
    | none => (check, false)
    | some edit =>
        ({ check with
          machine.disk.selinux := check.machine.disk.selinux.map edit
          needReboot := true }, true)
  else
    (check, true)

/-- A service behind its part of `check_service`. -/
structure UnitCheck where
  /-- What `systemctl is-enabled` prints. -/
  enabled : Text
  /-- What `systemctl status` prints. -/
  status : Text
  /-- A reboot is asked for. -/
  asks : Bool
  /-- The commands have succeeded. -/
  succeeds : Bool

/-- The branches of `check_service` for one service. -/
def checkUnit (settings : Settings) (serviceEnabled serviceStatus : Text) : UnitCheck :=
  if serviceEnabled ≠ disabled then
    { enabled := (settings.systemctlDisable serviceEnabled).getD serviceEnabled
      status := serviceStatus
      asks := true
      succeeds := (settings.systemctlDisable serviceEnabled).isSome }
  else if serviceStatus = activeStatus then
    { enabled := serviceEnabled, status := "inactive", asks := true, succeeds := true }
  else
    { enabled := serviceEnabled, status := serviceStatus, asks := false, succeeds := true }

/-- The first part of `check_service`. -/
def checkIrqbalance (settings : Settings) (check : Check) : Check × Bool :=
  let unit := checkUnit settings check.machine.disk.irqbalance check.machine.running.irqbalance
  ({ machine :=
      { disk := { check.machine.disk with irqbalance := unit.enabled }
        running := { check.machine.running with irqbalance := unit.status } }
     needReboot := check.needReboot || unit.asks
     needWarn := check.needWarn }, unit.succeeds)

/-- The second part of `check_service`. -/
def checkFirewalld (settings : Settings) (check : Check) : Check × Bool :=
  let unit := checkUnit settings check.machine.disk.firewalld check.machine.running.firewalld
  ({ machine :=
      { disk := { check.machine.disk with firewalld := unit.enabled }
        running := { check.machine.running with firewalld := unit.status } }
     needReboot := check.needReboot || unit.asks
     needWarn := check.needWarn }, unit.succeeds)

/-- The third part of `check_service`: `docker` need not be installed. -/
def checkDocker (settings : Settings) (check : Check) : Check × Bool :=
  match check.machine.disk.docker with
  | none => (check, true)
  | some serviceEnabled =>
      let unit := checkUnit settings serviceEnabled check.machine.running.docker
      ({ machine :=
          { disk := { check.machine.disk with docker := some unit.enabled }
            running := { check.machine.running with docker := unit.status } }
         needReboot := check.needReboot || unit.asks
         needWarn := check.needWarn }, unit.succeeds)

/-- A check that sets `NEED_WARN`. -/
def Check.warnIf (condition : Bool) (check : Check) : Check :=
  { check with needWarn := check.needWarn || condition }

/-- `check_page_size`. -/
def checkPageSize (check : Check) : Check :=
  check.warnIf (decide (check.machine.running.readings.pageSize ≠ "4096"))

/-- `check_numa_profile`. -/
def checkNumaProfile (settings : Settings) (check : Check) : Check :=
  check.warnIf (decide (check.machine.running.readings.numaNodeNum ≠ settings.socketNum))

/-- `check_thread_profile`. -/
def checkThreadProfile (settings : Settings) (check : Check) : Check :=
  if settings.arch = "x86_64" then
    check.warnIf (decide (check.machine.running.readings.threadNum ≠ "2"))
  else
    check

/-- `check_virt_profile`. -/
def checkVirtProfile (check : Check) : Check :=
  if check.machine.running.readings.kvmDevice = false then check.warnIf true
  else if check.machine.running.readings.kvmModule = false then check.warnIf true
  else check

/-- The checks that only warn. -/
def checkProfiles (settings : Settings) (check : Check) : Check :=
  checkVirtProfile (checkThreadProfile settings (checkNumaProfile settings (checkPageSize check)))

/-- The checks of `env_check_and_build` in their order, as far as no command fails. -/
def envCheck (settings : Settings) (env : PrepareEnv) (machine : Machine) : Check × Bool :=
  attempt id
    [checkKernelVersion settings, checkBootCmdline env, checkSELinux, checkIrqbalance settings,
      checkFirewalld settings, checkDocker settings, fun check => (checkProfiles settings check, true)]
    { machine := machine, needReboot := false, needWarn := false }

/-- How the checks end. -/
inductive Verdict where
  /-- A command failed, which ends the script. -/
  | failed
  /-- The run stops because something needs a reboot. -/
  | needReboot
  /-- The run stops because something needs manual handling. -/
  | needWarn
  /-- The run goes on to build the benchmarks and the virtual machine. -/
  | passed
  deriving DecidableEq

/-- The exits in and behind the checks. -/
def verdict (ended : Check × Bool) : Verdict :=
  if ended.2 = false then .failed
  else if ended.1.needReboot then .needReboot
  else if ended.1.needWarn then .needWarn
  else .passed

/-- What a run asks its user for. -/
def Verdict.answer : Verdict → Provision.Answer
  | .failed => .fails
  | .needReboot => .asks
  | .needWarn => .content
  | .passed => .content

/-- Characters without a meaning to the boot loader. -/
def Bootable (value : Text) : Prop := ∀ c ∈ value, c ∉ [';', '{', '}', '<', '>', '#', '\t', '\n']

/-- What may run after booting.  The boot loader takes the value of `GRUB_CMDLINE_LINUX` apart into
words and passes them behind its own with one blank between two words; a disabled service is not
started. -/
structure Boots (disk : Disk) (running : Running) : Prop where
  kernel : running.kernel = disk.defaultKernel
  cmdline : Bootable (originGrubCmdline disk.grubCfg) → ∃ loader : List Text,
    running.cmdline = joinWith ' ' (loader ++ words (originGrubCmdline disk.grubCfg))
  selinux : running.selinux = selinuxState disk.selinux
  irqbalance : disk.irqbalance = disabled → running.irqbalance ≠ activeStatus
  firewalld : disk.firewalld = disabled → running.firewalld ≠ activeStatus
  docker : disk.docker = some disabled → running.docker ≠ activeStatus

/-- The runs of `env.sh` and the reboots between them. -/
def preparation (settings : Settings) : Provision.Scheme PrepareEnv Disk Running where
  run env machine :=
    let ended := envCheck settings env machine
    (ended.1.machine, (verdict ended).answer)
  Boots := Boots

/-! ## What a check can edit -/

variable {settings : Settings} {env : PrepareEnv} {machine after : Machine} {check : Check}

/-- The kernel is not checked, or it is the one that is wanted. -/
def KernelFits (settings : Settings) (kernel : Text) : Prop :=
  settings.skipKernelVersionCheck = "1" ∨ kernel = settings.kernelVersion

instance (settings : Settings) (kernel : Text) : Decidable (KernelFits settings kernel) :=
  inferInstanceAs (Decidable (_ ∨ _))

/-- The edits of the single checks, whether or not they fail in them. -/
inductive Edit (settings : Settings) (env : PrepareEnv) : Machine → Machine → Prop
  | kernel {machine : Machine} (wrong : ¬ KernelFits settings machine.running.kernel)
      (defaultKernel : Text) :
      Edit settings env machine { machine with disk.defaultKernel := defaultKernel }
  | grub {machine : Machine} :
      Edit settings env machine
        { machine with
          disk.files := (checkCmdline env machine.disk.files).1
          disk.grubCfg := if (checkCmdline env machine.disk.files).2 = some true then
              (checkCmdline env machine.disk.files).1.grub
            else machine.disk.grubCfg }
  | selinux {machine : Machine} {edit : Text → Text}
      (state : selinuxState machine.disk.selinux ≠ disabled)
      (command : selinuxCommand machine.disk.selinux = some edit) :
      Edit settings env machine
        { machine with disk.selinux := machine.disk.selinux.map edit }
  | irqbalance {machine : Machine} :
      Edit settings env machine
        { disk := { machine.disk with
            irqbalance :=
              (checkUnit settings machine.disk.irqbalance machine.running.irqbalance).enabled }
          running := { machine.running with
            irqbalance :=
              (checkUnit settings machine.disk.irqbalance machine.running.irqbalance).status } }
  | firewalld {machine : Machine} :
      Edit settings env machine
        { disk := { machine.disk with
            firewalld :=
              (checkUnit settings machine.disk.firewalld machine.running.firewalld).enabled }
          running := { machine.running with
            firewalld :=
              (checkUnit settings machine.disk.firewalld machine.running.firewalld).status } }
  | docker {machine : Machine} {serviceEnabled : Text}
      (installed : machine.disk.docker = some serviceEnabled) :
      Edit settings env machine
        { disk := { machine.disk with
            docker := some (checkUnit settings serviceEnabled machine.running.docker).enabled }
          running := { machine.running with
            docker := (checkUnit settings serviceEnabled machine.running.docker).status } }

/-- Nothing or one edit. -/
def Edited (settings : Settings) (env : PrepareEnv) (machine after : Machine) : Prop :=
  after = machine ∨ Edit settings env machine after

theorem edited_checkKernelVersion (settings : Settings) (env : PrepareEnv) (check : Check) :
    Edited settings env check.machine (checkKernelVersion settings check).1.machine := by
  unfold checkKernelVersion
  split_ifs with skipped different
  · exact Or.inl rfl
  · have wrong : ¬ KernelFits settings check.machine.running.kernel :=
      not_or.mpr ⟨skipped, different⟩
    dsimp only
    split_ifs
    · exact Or.inr (.kernel wrong _)
    · exact Or.inr (.kernel wrong _)
  · exact Or.inl rfl

theorem edited_checkBootCmdline (settings : Settings) (env : PrepareEnv) (check : Check) :
    Edited settings env check.machine (checkBootCmdline env check).1.machine := by
  refine Or.inr ?_
  have edit := @Edit.grub settings env check.machine
  unfold checkBootCmdline
  generalize checkCmdline env check.machine.disk.files = edited at edit ⊢
  obtain ⟨files, none | updated⟩ := edited
  · exact edit
  · simp only [Option.some.injEq] at edit
    generalize grepEnd env.cmdLineStr check.machine.running.cmdline = found
    cases found with
    | true => exact edit
    | false => exact edit

theorem edited_checkSELinux (settings : Settings) (env : PrepareEnv) (check : Check) :
    Edited settings env check.machine (checkSELinux check).1.machine := by
  unfold checkSELinux
  dsimp only
  split_ifs with state
  · split
    · exact Or.inl rfl
    · next command => exact Or.inr (.selinux state command)
  · exact Or.inl rfl

theorem edited_checkDocker (settings : Settings) (env : PrepareEnv) (check : Check) :
    Edited settings env check.machine (checkDocker settings check).1.machine := by
  unfold checkDocker
  split
  · exact Or.inl rfl
  · next installed => exact Or.inr (.docker installed)

theorem checkProfiles_eq (settings : Settings) (check : Check) :
    (checkProfiles settings check).machine = check.machine ∧
      (checkProfiles settings check).needReboot = check.needReboot := by
  simp only [checkProfiles, checkVirtProfile, checkThreadProfile]
  constructor <;> split_ifs <;> rfl

/-- What every edit keeps, every run keeps. -/
theorem envCheck_keeps {I : Machine → Prop}
    (edits : ∀ {before after}, Edit settings env before after → I before → I after)
    (holds : I machine) : I (envCheck settings env machine).1.machine := by
  have edited : ∀ {before after}, Edited settings env before after → I before → I after := by
    rintro before after (rfl | edit) here
    · exact here
    · exact edits edit here
  refine attempt_keeps id (I := fun check : Check => I check.machine) _ ?_ holds
  intro part member check here
  simp only [List.mem_cons, List.not_mem_nil, or_false] at member
  rcases member with rfl | rfl | rfl | rfl | rfl | rfl | rfl
  · exact edited (edited_checkKernelVersion settings env check) here
  · exact edited (edited_checkBootCmdline settings env check) here
  · exact edited (edited_checkSELinux settings env check) here
  · exact edits .irqbalance here
  · exact edits .firewalld here
  · exact edited (edited_checkDocker settings env check) here
  · rw [id, (checkProfiles_eq settings check).1]
    exact here

/-! ## What no command fails on -/

/-- `systemctl disable` fails for the service. -/
def Settings.Fails (settings : Settings) (serviceEnabled : Text) : Prop :=
  serviceEnabled ≠ disabled ∧ settings.systemctlDisable serviceEnabled = none

/-- No command of a run fails. -/
structure Works (settings : Settings) (env : PrepareEnv) (machine : Machine) : Prop where
  kernel : KernelFits settings machine.running.kernel ∨
    (settings.installKernel machine.disk.defaultKernel).2 = true
  grub : (checkCmdline env machine.disk.files).2 ≠ none
  selinux : selinuxState machine.disk.selinux = disabled ∨
    selinuxCommand machine.disk.selinux ≠ none
  irqbalance : ¬ settings.Fails machine.disk.irqbalance
  firewalld : ¬ settings.Fails machine.disk.firewalld
  docker : ∀ serviceEnabled ∈ machine.disk.docker, ¬ settings.Fails serviceEnabled

theorem checkUnit_succeeds_iff (settings : Settings) (serviceEnabled serviceStatus : Text) :
    (checkUnit settings serviceEnabled serviceStatus).succeeds = true ↔
      ¬ settings.Fails serviceEnabled := by
  unfold checkUnit Settings.Fails
  split
  · next enabled => simp [enabled, Option.isSome_iff_ne_none]
  · next off =>
      rw [not_not] at off
      split <;> simp [off]

/-- The default kernel behind its check. -/
def kernelAfter (settings : Settings) (machine : Machine) : Text :=
  if KernelFits settings machine.running.kernel then machine.disk.defaultKernel
  else (settings.installKernel machine.disk.defaultKernel).1

theorem checkKernelVersion_eq (settings : Settings) (check : Check) :
    let fits := decide (KernelFits settings check.machine.running.kernel)
    let installed := settings.installKernel check.machine.disk.defaultKernel
    checkKernelVersion settings check =
      ({ machine := { check.machine with
           disk.defaultKernel := kernelAfter settings check.machine }
         needReboot := check.needReboot || (!fits && installed.2)
         needWarn := check.needWarn }, fits || installed.2) := by
  intro fits installed
  unfold checkKernelVersion kernelAfter
  split
  · next skipped =>
      have fitting : KernelFits settings check.machine.running.kernel := Or.inl skipped
      simp [fits, fitting]
  · next checked =>
      split
      · next different =>
          have wrong : ¬ KernelFits settings check.machine.running.kernel :=
            not_or.mpr ⟨checked, different⟩
          cases done : (settings.installKernel check.machine.disk.defaultKernel).2 with
          | true => simp [fits, wrong, done]
          | false => simp [fits, wrong, done]
      · next same =>
          have fitting : KernelFits settings check.machine.running.kernel :=
            Or.inr (not_not.mp same)
          simp [fits, fitting]

theorem checkBootCmdline_machine (env : PrepareEnv) (check : Check) :
    (checkBootCmdline env check).1.machine =
      { check.machine with
        disk.files := (checkCmdline env check.machine.disk.files).1
        disk.grubCfg := if (checkCmdline env check.machine.disk.files).2 = some true then
            (checkCmdline env check.machine.disk.files).1.grub
          else check.machine.disk.grubCfg } := by
  unfold checkBootCmdline
  generalize checkCmdline env check.machine.disk.files = edited
  generalize grepEnd env.cmdLineStr check.machine.running.cmdline = found
  obtain ⟨files, none | updated⟩ := edited
  · rfl
  · cases found <;> simp

theorem checkBootCmdline_succeeds_iff (env : PrepareEnv) (check : Check) :
    (checkBootCmdline env check).2 = true ↔
      (checkCmdline env check.machine.disk.files).2 ≠ none := by
  unfold checkBootCmdline
  generalize checkCmdline env check.machine.disk.files = edited
  obtain ⟨files, none | updated⟩ := edited
  · simp
  · dsimp only
    split_ifs <;> simp

theorem checkBootCmdline_needReboot {env : PrepareEnv} {check : Check}
    (succeeds : (checkCmdline env check.machine.disk.files).2 ≠ none) :
    (checkBootCmdline env check).1.needReboot =
      (check.needReboot || decide ((checkCmdline env check.machine.disk.files).2 = some true) ||
        !grepEnd env.cmdLineStr check.machine.running.cmdline) := by
  unfold checkBootCmdline
  generalize checkCmdline env check.machine.disk.files = edited at succeeds ⊢
  obtain ⟨files, none | updated⟩ := edited
  · contradiction
  · dsimp only
    split
    · next found => simp [found]
    · next missing => simp [missing]

/-- `/etc/selinux/config` behind its check. -/
def selinuxAfter (lines : List Text) : List Text :=
  if selinuxState lines = disabled then lines
  else ((selinuxCommand lines).map lines.map).getD lines

theorem checkSELinux_machine (check : Check) :
    (checkSELinux check).1.machine =
      { check.machine with disk.selinux := selinuxAfter check.machine.disk.selinux } := by
  unfold checkSELinux selinuxAfter
  by_cases off : selinuxState check.machine.disk.selinux = disabled
  · simp [off]
  · cases selinuxCommand check.machine.disk.selinux with
    | none => simp [off]
    | some edit => simp [off]

theorem checkSELinux_succeeds_iff (check : Check) :
    (checkSELinux check).2 = true ↔ selinuxState check.machine.disk.selinux = disabled ∨
      selinuxCommand check.machine.disk.selinux ≠ none := by
  unfold checkSELinux
  by_cases off : selinuxState check.machine.disk.selinux = disabled
  · simp [off]
  · cases selinuxCommand check.machine.disk.selinux with
    | none => simp [off]
    | some edit => simp [off]

theorem checkSELinux_needReboot {check : Check} (succeeds : (checkSELinux check).2 = true) :
    (checkSELinux check).1.needReboot =
      (check.needReboot || !decide (selinuxState check.machine.disk.selinux = disabled)) := by
  unfold checkSELinux at succeeds ⊢
  by_cases off : selinuxState check.machine.disk.selinux = disabled
  · simp [off]
  · cases command : selinuxCommand check.machine.disk.selinux with
    | none => simp [off, command] at succeeds
    | some edit => simp [off]

/-- What the third part of `check_service` finds of `docker`, if it is installed. -/
def dockerUnit (settings : Settings) (machine : Machine) : Option UnitCheck :=
  machine.disk.docker.map fun serviceEnabled =>
    checkUnit settings serviceEnabled machine.running.docker

theorem checkDocker_eq (settings : Settings) (check : Check) :
    let unit := dockerUnit settings check.machine
    checkDocker settings check =
      ({ machine :=
          { disk := { check.machine.disk with docker := unit.map (·.enabled) }
            running := { check.machine.running with
              docker := (unit.map (·.status)).getD check.machine.running.docker } }
         needReboot := check.needReboot || (unit.map (·.asks)).getD false
         needWarn := check.needWarn }, (unit.map (·.succeeds)).getD true) := by
  obtain ⟨⟨⟨_, _, _, _, _, _, docker⟩, _⟩, _, _⟩ := check
  cases docker with
  | none => simp [checkDocker, dockerUnit]
  | some serviceEnabled => rfl

/-- The script goes on behind the checks exactly if no command fails. -/
theorem envCheck_succeeds_iff (settings : Settings) (env : PrepareEnv) (machine : Machine) :
    (envCheck settings env machine).2 = true ↔ Works settings env machine := by
  have docker : ((dockerUnit settings machine).map (·.succeeds)).getD true = true ↔
      ∀ serviceEnabled ∈ machine.disk.docker, ¬ settings.Fails serviceEnabled := by
    unfold dockerUnit
    cases machine.disk.docker with
    | none => simp
    | some serviceEnabled => simp [checkUnit_succeeds_iff]
  simp only [envCheck, attempt_cons_succeeds_iff, id]
  simp only [attempt, checkKernelVersion_eq, checkBootCmdline_machine, checkBootCmdline_succeeds_iff,
    checkSELinux_machine, checkSELinux_succeeds_iff, checkIrqbalance, checkFirewalld,
    checkDocker_eq, checkUnit_succeeds_iff, Bool.or_eq_true, decide_eq_true_eq, and_true]
  change _ ∧ _ ∧ _ ∧ _ ∧ _ ∧ ((dockerUnit settings machine).map (·.succeeds)).getD true = true ↔ _
  rw [docker]
  constructor
  · rintro ⟨kernel, grub, selinux, irqbalance, firewalld, docker⟩
    exact ⟨kernel, grub, selinux, irqbalance, firewalld, docker⟩
  · intro works
    exact ⟨works.kernel, works.grub, works.selinux, works.irqbalance, works.firewalld,
      works.docker⟩

/-- What a run leaves if no command fails. -/
theorem envCheck_of_works (works : Works settings env machine) :
    let irqbalance := checkUnit settings machine.disk.irqbalance machine.running.irqbalance
    let firewalld := checkUnit settings machine.disk.firewalld machine.running.firewalld
    let docker := dockerUnit settings machine
    (envCheck settings env machine).1.machine =
      { disk :=
          { defaultKernel := kernelAfter settings machine
            files := (checkCmdline env machine.disk.files).1
            grubCfg := if (checkCmdline env machine.disk.files).2 = some true then
                (checkCmdline env machine.disk.files).1.grub
              else machine.disk.grubCfg
            selinux := selinuxAfter machine.disk.selinux
            irqbalance := irqbalance.enabled
            firewalld := firewalld.enabled
            docker := docker.map (·.enabled) }
        running := { machine.running with
          irqbalance := irqbalance.status
          firewalld := firewalld.status
          docker := (docker.map (·.status)).getD machine.running.docker } } ∧
    ((envCheck settings env machine).1.needReboot = false ↔
      KernelFits settings machine.running.kernel ∧
        (checkCmdline env machine.disk.files).2 = some false ∧
        grepEnd env.cmdLineStr machine.running.cmdline = true ∧
        selinuxState machine.disk.selinux = disabled ∧
        irqbalance.asks = false ∧ firewalld.asks = false ∧
        (docker.map (·.asks)).getD false = false) := by
  have succeeds := (envCheck_succeeds_iff settings env machine).mpr works
  have ended := attempt_eq_finish id succeeds
  rw [← envCheck] at ended
  simp only [ended, finish, id]
  rw [(checkProfiles_eq settings _).1, (checkProfiles_eq settings _).2]
  refine ⟨?_, ?_⟩
  · simp only [checkKernelVersion_eq, checkBootCmdline_machine, checkSELinux_machine,
      checkIrqbalance, checkFirewalld, checkDocker_eq]
    rfl
  · have selinux : (checkSELinux (checkBootCmdline env (checkKernelVersion settings
        { machine := machine, needReboot := false, needWarn := false }).1).1).2 = true := by
      rw [checkSELinux_succeeds_iff, checkBootCmdline_machine, checkKernelVersion_eq]
      exact works.selinux
    have grub : (checkCmdline env (checkKernelVersion settings
        { machine := machine, needReboot := false, needWarn := false }).1.machine.disk.files).2 ≠
          none := by
      rw [checkKernelVersion_eq]
      exact works.grub
    simp only [checkDocker_eq, checkFirewalld, checkIrqbalance, checkSELinux_needReboot selinux,
      checkBootCmdline_needReboot grub]
    simp only [checkSELinux_machine, checkBootCmdline_machine, checkKernelVersion_eq]
    simp only [Bool.or_eq_false_iff, Bool.and_eq_false_iff, Bool.not_eq_false', decide_eq_true_eq,
      decide_eq_false_iff_not, true_and]
    have kernel : KernelFits settings machine.running.kernel ∨
        (settings.installKernel machine.disk.defaultKernel).2 = false ↔
          KernelFits settings machine.running.kernel := by
      refine ⟨fun fits => fits.elim id fun fails => ?_, Or.inl⟩
      exact works.kernel.resolve_right fun installs => by simp [installs] at fails
    have same : ¬ (checkCmdline env machine.disk.files).2 = some true ↔
        (checkCmdline env machine.disk.files).2 = some false := by
      have some := works.grub
      generalize (checkCmdline env machine.disk.files).2 = updated at some ⊢
      rcases updated with _ | _ | _ <;> simp_all
    rw [kernel, same, and_assoc, and_assoc, and_assoc, and_assoc, and_assoc]
    rfl

/-! ## What a content run finds -/

/-- A service that is neither started now nor at the next boot. -/
def Quiet (serviceEnabled serviceStatus : Text) : Prop :=
  serviceEnabled = disabled ∧ serviceStatus ≠ activeStatus

theorem checkUnit_of_quiet {serviceEnabled serviceStatus : Text} (settings : Settings)
    (quiet : Quiet serviceEnabled serviceStatus) :
    checkUnit settings serviceEnabled serviceStatus =
      { enabled := serviceEnabled, status := serviceStatus, asks := false, succeeds := true } := by
  rw [checkUnit, if_neg (not_not.mpr quiet.1), if_neg quiet.2]

theorem checkUnit_asks_iff (settings : Settings) (serviceEnabled serviceStatus : Text) :
    (checkUnit settings serviceEnabled serviceStatus).asks = false ↔
      Quiet serviceEnabled serviceStatus := by
  unfold checkUnit Quiet
  split
  · next enabled => simp [enabled]
  · next off => split <;> simp_all

theorem Quiet.not_fails {serviceEnabled serviceStatus : Text}
    (quiet : Quiet serviceEnabled serviceStatus) : ¬ settings.Fails serviceEnabled :=
  fun fails => fails.1 quiet.1

/-- What a run has to find so as to be content. -/
structure Suits (settings : Settings) (env : PrepareEnv) (machine : Machine) : Prop where
  kernel : KernelFits settings machine.running.kernel
  grub : (checkCmdline env machine.disk.files).2 = some false
  cmdline : grepEnd env.cmdLineStr machine.running.cmdline = true
  selinux : selinuxState machine.disk.selinux = disabled
  irqbalance : Quiet machine.disk.irqbalance machine.running.irqbalance
  firewalld : Quiet machine.disk.firewalld machine.running.firewalld
  docker : ∀ serviceEnabled ∈ machine.disk.docker, Quiet serviceEnabled machine.running.docker

theorem Suits.works (suits : Suits settings env machine) : Works settings env machine where
  kernel := Or.inl suits.kernel
  grub := by
    rw [suits.grub]
    exact Option.some_ne_none false
  selinux := Or.inl suits.selinux
  irqbalance := suits.irqbalance.not_fails
  firewalld := suits.firewalld.not_fails
  docker serviceEnabled member := (suits.docker serviceEnabled member).not_fails

theorem answer_eq_content_iff (ended : Check × Bool) :
    (verdict ended).answer = .content ↔ ended.2 = true ∧ ended.1.needReboot = false := by
  obtain ⟨⟨machine, needReboot, needWarn⟩, succeeds⟩ := ended
  cases succeeds <;> cases needReboot <;> cases needWarn <;> simp [verdict, Verdict.answer]

theorem answer_eq_fails_iff (ended : Check × Bool) :
    (verdict ended).answer = .fails ↔ ended.2 = false := by
  obtain ⟨⟨machine, needReboot, needWarn⟩, succeeds⟩ := ended
  cases succeeds <;> cases needReboot <;> cases needWarn <;> simp [verdict, Verdict.answer]

/-- A run neither fails nor asks for a reboot exactly if everything suits. -/
theorem envCheck_content_iff (settings : Settings) (env : PrepareEnv) (machine : Machine) :
    (verdict (envCheck settings env machine)).answer = .content ↔ Suits settings env machine := by
  have docker : ((dockerUnit settings machine).map (·.asks)).getD false = false ↔
      ∀ serviceEnabled ∈ machine.disk.docker,
        Quiet serviceEnabled machine.running.docker := by
    unfold dockerUnit
    cases machine.disk.docker with
    | none => simp
    | some serviceEnabled => simp [checkUnit_asks_iff]
  rw [answer_eq_content_iff, envCheck_succeeds_iff]
  constructor
  · rintro ⟨works, quiet⟩
    rw [(envCheck_of_works works).2, checkUnit_asks_iff, checkUnit_asks_iff, docker] at quiet
    obtain ⟨kernel, grub, cmdline, selinux, irqbalance, firewalld, docker⟩ := quiet
    exact ⟨kernel, grub, cmdline, selinux, irqbalance, firewalld, docker⟩
  · intro suits
    rw [(envCheck_of_works suits.works).2, checkUnit_asks_iff, checkUnit_asks_iff, docker]
    exact ⟨suits.works, suits.kernel, suits.grub, suits.cmdline, suits.selinux, suits.irqbalance,
      suits.firewalld, suits.docker⟩

end Vm
