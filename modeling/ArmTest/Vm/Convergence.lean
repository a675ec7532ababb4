import ArmTest.Vm.Checks

/-!
# Runs and reboots

The requests for a reboot over whole histories of runs, failures and reboots: one reboot is enough
for a preparation that can be settled at all, some requests wear off without it, and a machine whose
requests are obeyed runs what the checks only read from its files.
-/

namespace Vm

open Shell Provision

/-! ## The files of an installation -/

/-- A line of `/etc/selinux/config` with the state. -/
def selinuxLine (state : Text) : Text := selinuxKey ++ state

/-- A file with one line for the state of SELinux, whose value is given on no other line. -/
structure SelinuxFile (state : Text) (before after : List Text) : Prop where
  /-- The state is a word. -/
  word : ∀ c ∈ state, c.isAlphanum = true
  /-- No other line sets the state. -/
  single : ∀ line ∈ before ++ after, selinuxKey.isPrefixOf line = false
  /-- The state stands behind no other equals sign. -/
  elsewhere : ∀ line ∈ before ++ after, ¬ '=' :: state <:+: line

/-- The two files as the system was installed. -/
structure Installation where
  /-- The value of `GRUB_CMDLINE_LINUX`. -/
  original : Text
  grubBefore : List Text
  grubAfter : List Text
  /-- The state of SELinux. -/
  state : Text
  selinuxBefore : List Text
  selinuxAfter : List Text
  grubFile : GrubFile original grubBefore grubAfter
  sole : SoleMention grubBefore grubAfter
  fresh : original ≠ originalEmpty
  selinuxFile : SelinuxFile state selinuxBefore selinuxAfter

/-- The lines of `/etc/selinux/config` with a state. -/
def Installation.selinuxLines (installation : Installation) (state : Text) : List Text :=
  installation.selinuxBefore ++ selinuxLine state :: installation.selinuxAfter

/-- The files are as they were installed or as some run has left them, and the boot menu was made
from them. -/
structure Maintained (installation : Installation) (disk : Disk) : Prop where
  files : ∃ suffix, Tuned installation.original installation.grubBefore installation.grubAfter
    suffix disk.files
  grubCfg : disk.grubCfg = disk.files.grub
  selinux : disk.selinux = installation.selinuxLines installation.state ∨
    disk.selinux = installation.selinuxLines disabled

/-- A service that `systemctl disable` disables. -/
def Settings.Manages (settings : Settings) (serviceEnabled : Text) : Prop :=
  serviceEnabled = disabled ∨ settings.systemctlDisable serviceEnabled = some disabled

/-- The three services of the machine can be disabled. -/
structure Settings.ManagesAll (settings : Settings) (disk : Disk) : Prop where
  irqbalance : settings.Manages disk.irqbalance
  firewalld : settings.Manages disk.firewalld
  docker : ∀ serviceEnabled ∈ disk.docker, settings.Manages serviceEnabled

/-- The kernel is not checked, or the wanted one runs or starts by default behind `grubby`. -/
def Settings.Supplies (settings : Settings) (machine : Machine) : Prop :=
  KernelFits settings machine.running.kernel ∨
    KernelFits settings (settings.installKernel machine.disk.defaultKernel).1

/-- One of the three services lets `systemctl disable` fail. -/
def Broken (settings : Settings) (disk : Disk) : Prop :=
  settings.Fails disk.irqbalance ∨ settings.Fails disk.firewalld ∨
    ∃ serviceEnabled ∈ disk.docker, settings.Fails serviceEnabled

/-- The text has single blanks, and only between words. -/
def PrepareEnv.Spaced (env : PrepareEnv) : Prop := [] ∉ env.cmdLineStr.splitOn ' '

/-! ## The kernel command line behind a boot -/

variable {settings : Settings} {installation : Installation} {env : PrepareEnv} {disk : Disk}
  {machine first before after : Machine} {running : Running}

/-- A line matches the text that it ends with. -/
theorem grepEnd_append (front : Text) {text : Text} (ordinary : Ordinary text) :
    grepEnd text (front ++ text) = true := by
  have pattern := ordinary.atoms
  have length : (atoms text).length = text.length := by rw [pattern, List.length_map]
  have front_length : (front ++ text).length - text.length = front.length := by simp
  rw [grepEnd, length, front_length, List.drop_left, pattern, matchesHere_wild_self, Bool.and_true]
  simp

/-- A blank in the text matches no other character. -/
theorem eq_blank_of_grepEnd {text front tail : Text} {c : Char} {left : Text}
    (ordinary : Ordinary text) (split : text = left ++ ' ' :: tail)
    (found : grepEnd text (front ++ c :: tail) = true) : c = ' ' := by
  have pattern := ordinary.atoms
  have length : (atoms text).length = text.length := by rw [pattern, List.length_map]
  rw [grepEnd, Bool.and_eq_true, decide_eq_true_eq, length] at found
  obtain ⟨enough, matched⟩ := found
  have textLength : text.length = left.length + (tail.length + 1) := by rw [split]; simp
  have lineLength : (front ++ c :: tail).length = front.length + (tail.length + 1) := by simp
  have short : (front ++ c :: tail).length - text.length = front.length - left.length := by omega
  have kept : (front.drop (front.length - left.length)).length = left.length := by
    rw [List.length_drop]
    omega
  rw [short, List.drop_append_of_le_length (Nat.sub_le _ _), pattern, split, List.map_append,
    matchesHere_append_append (by rw [List.length_map, kept]), Bool.and_eq_true, List.map_cons,
    matchesHere, Bool.and_eq_true] at matched
  have same : ' ' = c := by simpa [wild, Atom.accepts] using matched.2.1
  exact same.symm

theorem PrepareEnv.exists_cmdLineStr (env : PrepareEnv) :
    ∃ rest, env.cmdLineStr = 'i' :: rest := by
  cases env with
  | host => exact ⟨_, rfl⟩
  | guest isolationCpuCmdline => exact ⟨_, rfl⟩

theorem joinWith_splitOn (text : Text) : joinWith ' ' (text.splitOn ' ') = text :=
  List.intercalate_splitOn ' '

/-- The text does not begin with a blank. -/
theorem PrepareEnv.splitOn_ne_nil_cons (env : PrepareEnv) (rest : List Text) :
    env.cmdLineStr.splitOn ' ' ≠ [] :: rest := by
  intro pieces
  obtain ⟨text, begins⟩ := env.exists_cmdLineStr
  have whole := joinWith_splitOn env.cmdLineStr
  rw [pieces, joinWith_cons, begins] at whole
  cases rest with
  | nil => simp at whole
  | cons word rest => simp at whole

/-- The last gap of a text with one: the word before it, and the words behind it, as they are
separated by single blanks. -/
theorem PrepareEnv.exists_gap (bootable : Bootable env.cmdLineStr) (gap : ¬ env.Spaced) :
    ∃ initial front c ws left, words env.cmdLineStr = initial ++ (front ++ [c]) :: ws ∧ c ≠ ' ' ∧
      env.cmdLineStr = left ++ ' ' :: ws.flatMap (' ' :: ·) := by
  have split : words env.cmdLineStr = _ := words_eq_splitOn
    (fun member => bootable _ member (by simp)) (fun member => bootable _ member (by simp))
  obtain ⟨before, ws, pieces, absent⟩ : ∃ before ws,
      env.cmdLineStr.splitOn ' ' = before ++ [] :: ws ∧ [] ∉ ws := by
    obtain ⟨late, early, reversed, absent⟩ :=
      List.eq_append_cons_of_mem (List.mem_reverse.mpr (not_not.mp gap))
    refine ⟨early.reverse, late.reverse, ?_, by simpa using absent⟩
    rw [← List.reverse_reverse (env.cmdLineStr.splitOn ' '), reversed]
    simp
  obtain ⟨piece, rest, rfl⟩ : ∃ piece rest, before = piece :: rest := by
    cases before with
    | nil => exact absurd pieces (env.splitOn_ne_nil_cons ws)
    | cons piece rest => exact ⟨piece, rest, rfl⟩
  have nonempty : piece ≠ [] := by
    rintro rfl
    exact env.splitOn_ne_nil_cons (rest ++ [] :: ws) pieces
  have kept : ((piece :: rest).filter fun word => !word.isEmpty) ≠ [] := by
    rw [List.filter_cons_of_pos (by simpa using nonempty)]
    exact List.cons_ne_nil _ _
  obtain ⟨initial, word, last⟩ : ∃ initial word,
      ((piece :: rest).filter fun word => !word.isEmpty) = initial ++ [word] :=
    ⟨_, _, (List.dropLast_append_getLast kept).symm⟩
  have late : ws.filter (fun word => !word.isEmpty) = ws := by
    rw [List.filter_eq_self]
    intro other member
    have full : other ≠ [] := fun empty => absent (empty ▸ member)
    simpa using full
  have listed : words env.cmdLineStr = initial ++ word :: ws := by
    rw [split, pieces, List.filter_append, last, List.filter_cons_of_neg (by simp), late]
    simp
  obtain ⟨full, plain⟩ : word ≠ [] ∧ ∀ c ∈ word, isBlank c = false := by
    apply @mem_words env.cmdLineStr
    rw [listed]
    exact List.mem_append_right _ List.mem_cons_self
  obtain ⟨front, c, rfl⟩ : ∃ front c, word = front ++ [c] :=
    ⟨_, _, (List.dropLast_append_getLast full).symm⟩
  refine ⟨initial, front, c, ws, joinWith ' ' (piece :: rest), listed, ?_, ?_⟩
  · rintro rfl
    exact absurd (plain ' ' (by simp)) (by decide)
  · conv_lhs => rw [← joinWith_splitOn env.cmdLineStr, pieces]
    rw [joinWith_append ' ' (List.cons_ne_nil _ _) (List.cons_ne_nil _ _), joinWith_cons ' ' [] ws]
    rfl

/-- Behind other words the words of a preparation match its text exactly if that has single
blanks. -/
theorem grepEnd_words_iff (loader : List Text) (ordinary : Ordinary env.cmdLineStr)
    (bootable : Bootable env.cmdLineStr) :
    grepEnd env.cmdLineStr (joinWith ' ' (loader ++ words env.cmdLineStr)) = true ↔
      env.Spaced := by
  constructor
  · intro found
    by_contra gap
    obtain ⟨initial, front, c, ws, left, listed, notBlank, pattern⟩ := env.exists_gap bootable gap
    have line : joinWith ' ' (loader ++ words env.cmdLineStr) =
        ((loader ++ initial).flatMap (· ++ [' ']) ++ front) ++ c :: ws.flatMap (' ' :: ·) := by
      rw [listed, ← List.append_assoc, joinWith_middle]
      simp
    rw [line] at found
    exact notBlank (eq_blank_of_grepEnd ordinary pattern found)
  · intro spaced
    have all : words env.cmdLineStr = env.cmdLineStr.splitOn ' ' := by
      rw [words_eq_splitOn (fun member => bootable _ member (by simp))
        (fun member => bootable _ member (by simp)), List.filter_eq_self]
      intro word member
      have nonempty : word ≠ [] := fun empty => spaced (empty ▸ member)
      simpa using nonempty
    rw [all]
    cases loader with
    | nil =>
        rw [List.nil_append, joinWith_splitOn]
        exact grepEnd_append [] ordinary
    | cons word loader =>
        rw [joinWith_append ' ' (List.cons_ne_nil _ _) (List.splitOn_ne_nil ' ' _),
          joinWith_splitOn, List.append_cons]
        exact grepEnd_append _ ordinary

/-! ## The checks on such files -/

/-- The state is read from its line. -/
theorem selinuxState_lines (installation : Installation) (state : Text) :
    selinuxState (installation.selinuxLines state) = state := by
  have none : ∀ lines : List Text,
      (∀ line ∈ lines, line ∈ installation.selinuxBefore ++ installation.selinuxAfter) →
        (lines.filter fun line => selinuxKey.isPrefixOf line) = [] := by
    intro lines inside
    rw [List.filter_eq_nil_iff]
    intro line member
    rw [installation.selinuxFile.single line (inside line member)]
    exact Bool.false_ne_true
  have found : selinuxKey.isPrefixOf (selinuxLine state) = true := by
    rw [List.isPrefixOf_iff_prefix]
    exact List.prefix_append selinuxKey state
  have lines : ((installation.selinuxLines state).filter fun line =>
      selinuxKey.isPrefixOf line) = [selinuxLine state] := by
    rw [Installation.selinuxLines, List.filter_append, List.filter_cons_of_pos found,
      none installation.selinuxBefore fun line member => List.mem_append_left _ member,
      none installation.selinuxAfter fun line member => List.mem_append_right _ member]
    rfl
  have key : selinuxKey ≠ [] := by
    unfold selinuxKey
    simp
  rw [selinuxState, lines, joinWith, List.intercalate_singleton, selinuxLine,
    behindWord_append state key]
  rfl

/-- The state is replaced on its line and on no other. -/
theorem map_substitute_selinux (installation : Installation) :
    (installation.selinuxLines installation.state).map
      (substitute ('=' :: installation.state) "=disabled") =
        installation.selinuxLines disabled := by
  have plain : ∀ c ∈ '=' :: installation.state, special c = false := by
    intro c member
    rcases List.mem_cons.mp member with rfl | inside
    · decide
    · exact (literal_of_isAlphanum (installation.selinuxFile.word c inside)).1
  have keep : ∀ lines : List Text,
      (∀ line ∈ lines, line ∈ installation.selinuxBefore ++ installation.selinuxAfter) →
        lines.map (substitute ('=' :: installation.state) "=disabled") = lines := by
    intro lines inside
    conv_rhs => rw [← List.map_id lines]
    refine List.map_congr_left fun line member => substitute_of_not_occurs _ ?_
    rw [atoms_plain plain, occurs_char_iff]
    exact installation.selinuxFile.elsewhere line (inside line member)
  have line : substitute ('=' :: installation.state) "=disabled" (selinuxLine installation.state) =
      selinuxLine disabled := by
    have split : ∀ state, selinuxLine state = "SELINUX" ++ '=' :: state := fun _ => rfl
    rw [split, substitute_end "=disabled" plain List.mem_cons_self (by simp),
      expand_inert _ (by simp [active])]
    rfl
  rw [Installation.selinuxLines, List.map_append, List.map_cons, line,
    keep installation.selinuxBefore fun line member => List.mem_append_left _ member,
    keep installation.selinuxAfter fun line member => List.mem_append_right _ member]
  rfl

/-- The command for `/etc/selinux/config` runs on such lines. -/
theorem selinuxCommand_lines (installation : Installation) :
    selinuxCommand (installation.selinuxLines installation.state) =
      some (substitute ('=' :: installation.state) "=disabled") := by
  rw [selinuxCommand, selinuxState_lines]
  refine sedCommand_of_oneLine (List.cons_ne_nil _ _) ?_ (by simp)
  intro newline
  rcases List.mem_cons.mp newline with first | inside
  · exact absurd first (by decide)
  · exact absurd (installation.selinuxFile.word _ inside) (by decide)

/-- A run without an update of `/etc/default/grub` keeps `vars.sh` too. -/
theorem checkCmdline_unchanged (maintained : Maintained installation disk)
    (envOrdinary : env.Ordinary) (same : (checkCmdline env disk.files).2 ≠ some true) :
    (checkCmdline env disk.files).1 = disk.files := by
  obtain ⟨suffix, tuned⟩ := maintained.files
  have ran := checkCmdline_tuned installation.grubFile installation.sole installation.fresh
    envOrdinary tuned
  rw [ran] at same ⊢
  rw [ne_eq, Option.some.injEq, decide_eq_true_iff, not_not] at same
  obtain ⟨contents, -, recorded | ⟨-, rfl⟩⟩ := tuned
  · rw [← same, ← contents, ← recorded]
  · rw [List.append_nil] at same
    exact absurd same (ne_targetOf _ env)

/-- What a run leaves in the two files. -/
theorem checkCmdline_maintained (maintained : Maintained installation disk)
    (envOrdinary : env.Ordinary) :
    let files := (checkCmdline env disk.files).1
    (∃ suffix, Tuned installation.original installation.grubBefore installation.grubAfter suffix
      files) ∧ (checkCmdline env disk.files).2 ≠ none ∧
    checkCmdline env files = (files, some false) ∧
    originGrubCmdline files.grub = targetOf installation.original env := by
  intro files
  obtain ⟨suffix, tuned⟩ := maintained.files
  have file := installation.grubFile
  have ran := checkCmdline_tuned file installation.sole installation.fresh envOrdinary tuned
  have next : Tuned _ _ _ _ files :=
    tuned_checkCmdline file installation.sole installation.fresh envOrdinary tuned
  have again := checkCmdline_tuned file installation.sole installation.fresh envOrdinary next
  rw [decide_eq_false (not_not.mpr (targetOf_eq installation.original env).symm)] at again
  refine ⟨⟨_, next⟩, ?_, ?_, ?_⟩
  · rw [ran]
    exact Option.some_ne_none _
  · rw [again]
    exact Prod.ext (congrArg Prod.fst ran).symm rfl
  · have ordinary := ordinary_targetOf file.ordinary envOrdinary
    have grub : files.grub = _ := congrArg (fun ended => ended.1.grub) ran
    rw [grub]
    exact originGrubCmdline_grubLine installation.sole (ordinary.not_mem List.mem_cons_self)

/-- `/etc/selinux/config` behind its check. -/
theorem selinuxAfter_maintained (maintained : Maintained installation disk) :
    selinuxAfter disk.selinux = installation.selinuxLines disabled := by
  rcases maintained.selinux with installed | edited
  · rw [installed, selinuxAfter, selinuxState_lines]
    split
    · next off => rw [off]
    · rw [selinuxCommand_lines, Option.map_some, Option.getD_some, map_substitute_selinux]
  · rw [edited, selinuxAfter, selinuxState_lines, if_pos rfl]

/-! ## What every run keeps -/

theorem maintained_edit (envOrdinary : env.Ordinary) (edit : Edit settings env before after)
    (maintained : Maintained installation before.disk) : Maintained installation after.disk := by
  cases edit with
  | grub =>
      refine ⟨(checkCmdline_maintained maintained envOrdinary).1, ?_, maintained.selinux⟩
      by_cases updated : (checkCmdline env before.disk.files).2 = some true
      · rw [if_pos updated]
      · rw [if_neg updated, checkCmdline_unchanged maintained envOrdinary updated]
        exact maintained.grubCfg
  | selinux state command =>
      refine ⟨maintained.files, maintained.grubCfg, Or.inr ?_⟩
      have edited := selinuxAfter_maintained maintained
      rwa [selinuxAfter, if_neg state, command] at edited
  | kernel | irqbalance | firewalld | docker =>
      exact ⟨maintained.files, maintained.grubCfg, maintained.selinux⟩

theorem maintained_envCheck (maintained : Maintained installation machine.disk)
    (envOrdinary : env.Ordinary) (settings : Settings) :
    Maintained installation (envCheck settings env machine).1.machine.disk :=
  envCheck_keeps (I := fun later => Maintained installation later.disk)
    (maintained_edit envOrdinary) maintained

/-- A kernel that fits is the default kernel, from a boot on. -/
def KernelKept (settings : Settings) (machine : Machine) : Prop :=
  KernelFits settings machine.running.kernel → KernelFits settings machine.disk.defaultKernel

theorem kernelAfter_fits_iff (kept : KernelKept settings machine) :
    KernelFits settings (kernelAfter settings machine) ↔ settings.Supplies machine := by
  rw [kernelAfter, Settings.Supplies]
  split
  · next fits => exact iff_of_true (kept fits) (Or.inl fits)
  · next wrong => rw [or_iff_right wrong]

theorem kernelKept_edit (edit : Edit settings env before after)
    (kept : KernelKept settings before) : KernelKept settings after := by
  cases edit with
  | kernel wrong => exact fun fits => absurd fits wrong
  | grub | selinux | irqbalance | firewalld | docker => exact kept

/-- The parts that were started at boot, the services apart. -/
structure SameBoot (first machine : Machine) : Prop where
  kernel : machine.running.kernel = first.running.kernel
  cmdline : machine.running.cmdline = first.running.cmdline
  selinux : machine.running.selinux = first.running.selinux

theorem sameBoot_edit (edit : Edit settings env before after) (same : SameBoot first before) :
    SameBoot first after := by
  cases edit with
  | kernel | grub | selinux | irqbalance | firewalld | docker =>
      exact ⟨same.kernel, same.cmdline, same.selinux⟩

theorem checkUnit_of_fails {serviceEnabled : Text} (fails : settings.Fails serviceEnabled)
    (serviceStatus : Text) :
    (checkUnit settings serviceEnabled serviceStatus).enabled = serviceEnabled := by
  rw [checkUnit, if_pos fails.1, fails.2]
  rfl

theorem broken_edit (edit : Edit settings env before after) (broken : Broken settings before.disk) :
    Broken settings after.disk := by
  cases edit with
  | kernel | grub | selinux => exact broken
  | irqbalance =>
      refine broken.imp_left fun fails => ?_
      change settings.Fails (checkUnit _ _ _).enabled
      rwa [checkUnit_of_fails fails]
  | firewalld =>
      refine broken.imp_right (Or.imp_left fun fails => ?_)
      change settings.Fails (checkUnit _ _ _).enabled
      rwa [checkUnit_of_fails fails]
  | docker installed =>
      refine broken.imp_right (Or.imp_right ?_)
      rintro ⟨serviceEnabled, member, fails⟩
      obtain rfl := Option.some.inj (installed.symm.trans member)
      refine ⟨_, rfl, ?_⟩
      rwa [checkUnit_of_fails fails]

/-- On such files a command fails exactly if the kernel cannot be installed or a service is not to
be disabled. -/
theorem works_iff (maintained : Maintained installation machine.disk) (envOrdinary : env.Ordinary) :
    Works settings env machine ↔
      (KernelFits settings machine.running.kernel ∨
        (settings.installKernel machine.disk.defaultKernel).2 = true) ∧
      ¬ Broken settings machine.disk := by
  constructor
  · intro works
    refine ⟨works.kernel, ?_⟩
    rintro (fails | fails | ⟨serviceEnabled, member, fails⟩)
    · exact works.irqbalance fails
    · exact works.firewalld fails
    · exact works.docker serviceEnabled member fails
  · rintro ⟨kernel, sound⟩
    refine ⟨kernel, (checkCmdline_maintained maintained envOrdinary).2.1, ?_,
      fun fails => sound (Or.inl fails), fun fails => sound (Or.inr (Or.inl fails)),
      fun serviceEnabled member fails => sound (Or.inr (Or.inr ⟨serviceEnabled, member, fails⟩))⟩
    rcases maintained.selinux with installed | edited
    · rw [installed, selinuxCommand_lines]
      exact Or.inr (Option.some_ne_none _)
    · rw [edited, selinuxState_lines]
      exact Or.inl rfl

/-! ## Runs that are content -/

/-- A content run leaves the machine alone. -/
theorem envCheck_of_suits (maintained : Maintained installation machine.disk)
    (envOrdinary : env.Ordinary) (suits : Suits settings env machine) :
    (envCheck settings env machine).1.machine = machine := by
  have docker : ∀ {X : Type} (part : UnitCheck → X),
      (dockerUnit settings machine).map part =
        machine.disk.docker.map fun serviceEnabled =>
          part { enabled := serviceEnabled, status := machine.running.docker, asks := false,
                 succeeds := true } := by
    intro X part
    rw [dockerUnit, Option.map_map]
    refine Option.map_congr fun serviceEnabled member => ?_
    rw [Function.comp_apply, checkUnit_of_quiet settings (suits.docker serviceEnabled member)]
  have status : (machine.disk.docker.map fun _ => machine.running.docker).getD
      machine.running.docker = machine.running.docker := by
    cases machine.disk.docker <;> rfl
  have unchanged : (checkCmdline env machine.disk.files).2 ≠ some true := by
    rw [suits.grub]
    simp
  rw [(envCheck_of_works suits.works).1, kernelAfter, if_pos suits.kernel, selinuxAfter,
    if_pos suits.selinux, docker (·.enabled), docker (·.status), status, Option.map_id',
    checkUnit_of_quiet settings suits.irqbalance, checkUnit_of_quiet settings suits.firewalld,
    if_neg unchanged, checkCmdline_unchanged maintained envOrdinary unchanged]

/-- The service is disabled after the run that disables it, if it can be. -/
theorem checkUnit_manages_iff (settings : Settings) (serviceEnabled serviceStatus : Text) :
    (checkUnit settings serviceEnabled serviceStatus).enabled = disabled ↔
      settings.Manages serviceEnabled := by
  unfold checkUnit Settings.Manages
  split
  · next enabled =>
      cases settings.systemctlDisable serviceEnabled with
      | none => simp [enabled]
      | some afterwards => simp [enabled]
  · next off => split <;> simp_all

theorem Settings.Manages.not_fails {serviceEnabled : Text}
    (manages : settings.Manages serviceEnabled) : ¬ settings.Fails serviceEnabled := by
  rintro ⟨enabled, fails⟩
  rcases manages with off | disables
  · exact enabled off
  · rw [fails] at disables
    exact Option.some_ne_none _ disables.symm

theorem Settings.ManagesAll.not_broken (manages : settings.ManagesAll disk) :
    ¬ Broken settings disk := by
  rintro (fails | fails | ⟨serviceEnabled, member, fails⟩)
  · exact manages.irqbalance.not_fails fails
  · exact manages.firewalld.not_fails fails
  · exact (manages.docker serviceEnabled member).not_fails fails

/-- The services behind a run in which no command fails. -/
theorem services_disabled_iff (works : Works settings env machine) :
    let disk := (envCheck settings env machine).1.machine.disk
    (disk.irqbalance = disabled ∧ disk.firewalld = disabled ∧
      ∀ serviceEnabled ∈ disk.docker, serviceEnabled = disabled) ↔
        settings.ManagesAll machine.disk := by
  intro disk
  have docker : (∀ serviceEnabled ∈ (dockerUnit settings machine).map (·.enabled),
      serviceEnabled = disabled) ↔
        ∀ serviceEnabled ∈ machine.disk.docker, settings.Manages serviceEnabled := by
    unfold dockerUnit
    cases machine.disk.docker with
    | none => simp
    | some serviceEnabled => simpa using checkUnit_manages_iff settings _ _
  have closed : disk = _ := congrArg Provision.Machine.disk (envCheck_of_works works).1
  rw [closed]
  simp only [checkUnit_manages_iff, docker]
  exact ⟨fun ⟨irqbalance, firewalld, docker⟩ => ⟨irqbalance, firewalld, docker⟩,
    fun manages => ⟨manages.irqbalance, manages.firewalld, manages.docker⟩⟩

theorem words_targetOf (original : Text) (env : PrepareEnv) :
    words (targetOf original env) = words original ++ words env.cmdLineStr := by
  rw [targetOf_eq]
  exact words_append_blank original env.cmdLineStr (by decide)

/-- The command line behind a boot from files for the preparation. -/
theorem cmdline_of_boots (boots : Boots disk running)
    (value : originGrubCmdline disk.grubCfg = targetOf installation.original env)
    (bootable : Bootable (targetOf installation.original env)) :
    ∃ loader : List Text, running.cmdline =
      joinWith ' ' (loader ++ words installation.original ++ words env.cmdLineStr) := by
  rw [← value] at bootable
  obtain ⟨loader, line⟩ := boots.cmdline bootable
  rw [value, words_targetOf, ← List.append_assoc] at line
  exact ⟨loader, line⟩

theorem Bootable.cmdLineStr {original : Text} (bootable : Bootable (targetOf original env)) :
    Bootable env.cmdLineStr :=
  fun c member => bootable c (List.mem_append_right _ member)

/-- What a boot behind a run without a failure has to fulfil for the next run to be content. -/
theorem suits_booted_iff (maintained : Maintained installation machine.disk)
    (kept : KernelKept settings machine) (envOrdinary : env.Ordinary)
    (bootable : Bootable (targetOf installation.original env))
    (works : Works settings env machine)
    (boots : Boots (envCheck settings env machine).1.machine.disk running) :
    Suits settings env ⟨(envCheck settings env machine).1.machine.disk, running⟩ ↔
      settings.Supplies machine ∧ env.Spaced ∧ settings.ManagesAll machine.disk := by
  have closed := congrArg Provision.Machine.disk (envCheck_of_works works).1
  have after := maintained_envCheck maintained envOrdinary settings
  have services := services_disabled_iff works
  obtain ⟨-, -, again, value⟩ := checkCmdline_maintained maintained envOrdinary
  have kernel : KernelFits settings running.kernel ↔ settings.Supplies machine := by
    rw [boots.kernel, closed]
    exact kernelAfter_fits_iff kept
  have files : (envCheck settings env machine).1.machine.disk.files =
      (checkCmdline env machine.disk.files).1 := by rw [closed]
  have selinux : (envCheck settings env machine).1.machine.disk.selinux =
      installation.selinuxLines disabled := by
    rw [closed]
    exact selinuxAfter_maintained maintained
  rw [← files, ← after.grubCfg] at value
  obtain ⟨loader, line⟩ := cmdline_of_boots boots value bootable
  have cmdline : grepEnd env.cmdLineStr running.cmdline = true ↔ env.Spaced := by
    rw [line]
    exact grepEnd_words_iff _ envOrdinary.cmdLineStr bootable.cmdLineStr
  generalize (envCheck settings env machine).1.machine.disk = disk at *
  constructor
  · intro suits
    exact ⟨kernel.mp suits.kernel, cmdline.mp suits.cmdline,
      services.mp ⟨suits.irqbalance.1, suits.firewalld.1,
        fun serviceEnabled member => (suits.docker serviceEnabled member).1⟩⟩
  · rintro ⟨supplied, spaced, manages⟩
    obtain ⟨irqbalance, firewalld, docker⟩ := services.mpr manages
    refine ⟨kernel.mpr supplied, ?_, cmdline.mpr spaced, ?_, ⟨irqbalance, boots.irqbalance irqbalance⟩,
      ⟨firewalld, boots.firewalld firewalld⟩, ?_⟩
    · rw [files, again]
    · rw [selinux, selinuxState_lines]
    · intro serviceEnabled member
      have off := docker serviceEnabled member
      exact ⟨off, boots.docker (off ▸ member)⟩

/-! ## Histories -/

/-- What every history keeps. -/
theorem maintained_of_reached (maintained : Maintained installation first.disk)
    (boots : Boots first.disk first.running)
    (reached : Reached (preparation settings) PrepareEnv.Ordinary first machine) :
    Maintained installation machine.disk ∧ KernelKept settings machine := by
  have start : KernelKept settings first := fun fits => boots.kernel ▸ fits
  refine @Reached.invariant _ _ _ (preparation settings) _ first machine (fun later =>
    Maintained installation later.disk ∧ KernelKept settings later) ?_ ?_ reached
      ⟨maintained, start⟩
  · rintro env later ordinary ⟨files, kernel⟩
    exact ⟨maintained_envCheck files ordinary settings, envCheck_keeps kernelKept_edit kernel⟩
  · rintro later running booted ⟨files, -⟩
    have kernel : running.kernel = later.disk.defaultKernel := booted.kernel
    exact ⟨files, fun fits => by rwa [kernel] at fits⟩

/-- A machine on which no run is content before a reboot. -/
def Stuck (settings : Settings) (machine : Machine) : Prop :=
  ¬ KernelFits settings machine.running.kernel ∨ Broken settings machine.disk

theorem Suits.not_stuck (suits : Suits settings env machine) : ¬ Stuck settings machine := by
  rintro (wrong | fails | fails | ⟨serviceEnabled, member, fails⟩)
  · exact wrong suits.kernel
  · exact suits.irqbalance.not_fails fails
  · exact suits.firewalld.not_fails fails
  · exact (suits.docker serviceEnabled member).not_fails fails

/-- A run that fails leaves the machine stuck. -/
theorem stuck_of_fails (maintained : Maintained installation machine.disk)
    (envOrdinary : env.Ordinary)
    (fails : (verdict (envCheck settings env machine)).answer = .fails) :
    Stuck settings (envCheck settings env machine).1.machine := by
  rw [answer_eq_fails_iff, ← Bool.not_eq_true, envCheck_succeeds_iff,
    works_iff maintained envOrdinary, not_and_or, not_not, not_or] at fails
  rcases fails with ⟨wrong, -⟩ | broken
  · have same : SameBoot machine (envCheck settings env machine).1.machine :=
      envCheck_keeps sameBoot_edit ⟨rfl, rfl, rfl⟩
    refine Or.inl ?_
    rwa [same.kernel]
  · exact Or.inr (envCheck_keeps (I := fun later => Broken settings later.disk) broken_edit
      broken)

/-- A boot that starts no service and passes no argument of its own. -/
def startedFrom (disk : Disk) (readings : Readings) : Running where
  kernel := disk.defaultKernel
  cmdline := joinWith ' ' (words (originGrubCmdline disk.grubCfg))
  selinux := selinuxState disk.selinux
  irqbalance := []
  firewalld := []
  docker := []
  readings := readings

theorem boots_startedFrom (disk : Disk) (readings : Readings) :
    Boots disk (startedFrom disk readings) := by
  refine ⟨rfl, fun _ => ⟨[], rfl⟩, rfl, ?_, ?_, ?_⟩
  all_goals
    intro _
    unfold activeStatus
    simp [startedFrom]

/-! ## An installed system -/

/-- An installation whose SELinux is on. -/
def quietInstallation : Installation where
  original := "quiet"
  grubBefore := ["GRUB_TIMEOUT=5"]
  grubAfter := []
  state := "enforcing"
  selinuxBefore := []
  selinuxAfter := ["SELINUXTYPE=targeted"]
  grubFile := grubFile_quiet
  sole := sole_quiet
  fresh := by decide
  selinuxFile :=
    { word := List.all_eq_true.mp (by decide)
      single := by decide
      elsewhere := by
        intro line member inside
        rw [List.nil_append, List.mem_singleton] at member
        have letter : 'f' ∈ line := inside.subset (by simp)
        rw [member] at letter
        simp at letter }

/-- Its disk, with a value on the line of the kernel command line. -/
def quietDisk (files : BootFiles) : Disk where
  defaultKernel := "5.10.0_stream"
  files := files
  grubCfg := files.grub
  selinux := quietInstallation.selinuxLines "enforcing"
  irqbalance := "enabled"
  firewalld := disabled
  docker := none

/-- The variables of `vars.sh`, on a system where services are enabled or disabled. -/
def stockSettings : Settings where
  skipKernelVersionCheck := "0"
  kernelVersion := "5.10.0_stream"
  socketNum := "2"
  arch := "aarch64"
  installKernel _ := ("5.10.0_stream", true)
  systemctlDisable _ := some disabled

/-- Readings without a reason to warn. -/
def goodReadings : Readings where
  iommu := "Passthrough"
  transparentHugepage := "0"
  hugepageSize := "2048"
  pageSize := "4096"
  numaNodeNum := "2"
  threadNum := "1"
  kvmDevice := true
  kvmModule := true

theorem maintained_untouched :
    Maintained quietInstallation (quietDisk (untouched "quiet" ["GRUB_TIMEOUT=5"] [])) :=
  ⟨⟨[], tuned_untouched grubFile_quiet.ordinary _ _⟩, rfl, Or.inl rfl⟩

theorem managesAll_quietDisk (files : BootFiles) : stockSettings.ManagesAll (quietDisk files) :=
  ⟨Or.inr rfl, Or.inl rfl, fun _ member => nomatch member⟩

theorem PrepareEnv.ordinary_host : PrepareEnv.host.Ordinary := trivial

theorem bootable_quiet : Bootable (targetOf "quiet" .host) := by
  unfold Bootable targetOf PrepareEnv.cmdLineStr
  simp

theorem spaced_host : PrepareEnv.host.Spaced := by
  unfold PrepareEnv.Spaced PrepareEnv.cmdLineStr
  decide

/-! ## Obeyed requests -/

/-- A run fails exactly if the kernel cannot be installed or a service is not to be disabled.  After
any other run and a reboot nothing is left to do, over any further runs and reboots, exactly if the
wanted kernel is there, the text of the preparation has single blanks and the three services can be
disabled. -/
theorem settled_by_reboot (settings : Settings) (installation : Installation)
    (first machine : Machine) (env : PrepareEnv) (maintained : Maintained installation first.disk)
    (boots : Boots first.disk first.running)
    (reached : Reached (preparation settings) PrepareEnv.Ordinary first machine)
    (envOrdinary : env.Ordinary) (bootable : Bootable (targetOf installation.original env)) :
    let prepared := (envCheck settings env machine).1.machine.disk
    ((verdict (envCheck settings env machine)).answer = .fails ↔
      ¬ KernelFits settings machine.running.kernel ∧
          (settings.installKernel machine.disk.defaultKernel).2 = false ∨
        Broken settings machine.disk) ∧
    ((verdict (envCheck settings env machine)).answer ≠ .fails →
      ((∀ running, Boots prepared running → ∀ later : Machine,
        Reached (preparation settings) (· = env) ⟨prepared, running⟩ later →
          later.disk = prepared ∧ (envCheck settings env later).1.machine = later ∧
            (verdict (envCheck settings env later)).answer = .content) ↔
        settings.Supplies machine ∧ env.Spaced ∧ settings.ManagesAll machine.disk)) := by
  intro prepared
  obtain ⟨files, kernel⟩ := maintained_of_reached maintained boots reached
  refine ⟨?_, fun runs => ?_⟩
  · rw [answer_eq_fails_iff, ← Bool.not_eq_true, envCheck_succeeds_iff,
      works_iff files envOrdinary, not_and_or, not_not, not_or, Bool.not_eq_true]
  · have works : Works settings env machine := by
      rw [ne_eq, answer_eq_fails_iff, Bool.not_eq_false, envCheck_succeeds_iff] at runs
      exact runs
    constructor
    · intro settled
      have booted := boots_startedFrom prepared machine.running.readings
      obtain ⟨-, -, content⟩ := settled _ booted _ Reached.start
      rw [envCheck_content_iff] at content
      exact (suits_booted_iff files kernel envOrdinary bootable works booted).mp content
    · intro sound running booted later reachedLater
      have settled : Settled (preparation settings) env prepared := by
        rintro ⟨_, running⟩ ⟨rfl, booted⟩
        have suits := (suits_booted_iff files kernel envOrdinary bootable works booted).mpr sound
        have unchanged : (envCheck settings env ⟨prepared, running⟩).1.machine =
            ⟨prepared, running⟩ :=
          envCheck_of_suits (maintained_envCheck files envOrdinary settings) envOrdinary suits
        exact Prod.ext unchanged ((envCheck_content_iff settings env _).mpr suits)
      have start : Booted (preparation settings) prepared ⟨prepared, running⟩ := ⟨rfl, booted⟩
      obtain ⟨sameDisk, ran⟩ := settled.reached start reachedLater
      exact ⟨sameDisk, congrArg Prod.fst ran, congrArg Prod.snd ran⟩

theorem settled_by_reboot_quiet :
    let disk := quietDisk (untouched "quiet" ["GRUB_TIMEOUT=5"] [])
    let machine : Machine := ⟨disk, startedFrom disk goodReadings⟩
    let prepared := (envCheck stockSettings .host machine).1.machine.disk
    (verdict (envCheck stockSettings .host
      ⟨prepared, startedFrom prepared goodReadings⟩)).answer = .content := by
  intro disk machine prepared
  obtain ⟨fails, settled⟩ := settled_by_reboot stockSettings quietInstallation machine machine .host
    maintained_untouched (boots_startedFrom disk goodReadings) .start PrepareEnv.ordinary_host
    bootable_quiet
  have runs : (verdict (envCheck stockSettings .host machine)).answer ≠ .fails := by
    rw [ne_eq, fails]
    rintro (⟨-, impossible⟩ | broken)
    · exact Bool.noConfusion impossible
    · exact (managesAll_quietDisk _).not_broken broken
  exact ((settled runs).mpr ⟨Or.inl (Or.inr rfl), spaced_host, managesAll_quietDisk _⟩ _
    (boots_startedFrom prepared goodReadings) _ .start).2.2

/-- While the requests are obeyed, a content run finds SELinux off, the wanted kernel, and its
command line made of the words of the boot loader, of the original and of the preparation. -/
theorem running_of_obeyed (settings : Settings) (installation : Installation) (disk : Disk)
    (machine : Machine) (answer : Answer) (env : PrepareEnv)
    (maintained : Maintained installation disk)
    (obeyed : Obeyed (preparation settings) PrepareEnv.Ordinary disk machine answer)
    (free : answer ≠ .asks) (envOrdinary : env.Ordinary)
    (bootable : Bootable (targetOf installation.original env))
    (content : (verdict (envCheck settings env machine)).answer = .content) :
    machine.running.selinux = disabled ∧
      (∃ loader : List Text, machine.running.cmdline =
        joinWith ' ' (loader ++ words installation.original ++ words env.cmdLineStr)) ∧
      machine.running.kernel = machine.disk.defaultKernel ∧
      KernelFits settings machine.running.kernel ∧
      machine.running.irqbalance ≠ activeStatus ∧ machine.running.firewalld ≠ activeStatus ∧
      (machine.disk.docker ≠ none → machine.running.docker ≠ activeStatus) := by
  have kept : ∀ {env : PrepareEnv} {machine : Machine}, env.Ordinary →
      Maintained installation machine.disk →
        Maintained installation ((preparation settings).run env machine).1.disk :=
    fun ordinary files => maintained_envCheck files ordinary settings
  have quiet : ∀ {env : PrepareEnv} {machine : Machine}, env.Ordinary →
      Maintained installation machine.disk →
        ((preparation settings).run env machine).2 = .content →
          ((preparation settings).run env machine).1 = machine ∧ ¬ Stuck settings machine := by
    intro env machine ordinary files ended
    have suits := (envCheck_content_iff settings env machine).mp ended
    exact ⟨envCheck_of_suits files ordinary suits, suits.not_stuck⟩
  have suits := (envCheck_content_iff settings env machine).mp content
  have booted : Boots machine.disk machine.running :=
    (obeyed.booted kept quiet (fun ordinary files => stuck_of_fails files ordinary) maintained
      free).resolve_right suits.not_stuck
  have files := obeyed.invariant kept maintained
  have unchanged : (checkCmdline env machine.disk.files).2 ≠ some true := by
    rw [suits.grub]
    simp
  have value : originGrubCmdline machine.disk.grubCfg = targetOf installation.original env := by
    rw [files.grubCfg, ← checkCmdline_unchanged files envOrdinary unchanged]
    exact (checkCmdline_maintained files envOrdinary).2.2.2
  refine ⟨booted.selinux.trans suits.selinux, cmdline_of_boots booted value bootable, booted.kernel,
    suits.kernel, suits.irqbalance.2, suits.firewalld.2, fun installed => ?_⟩
  obtain ⟨serviceEnabled, member⟩ := Option.ne_none_iff_exists'.mp installed
  exact (suits.docker serviceEnabled member).2

/-- A run and a reboot. -/
theorem obeyed_prepared {answer : Answer}
    (obeyed : Obeyed (preparation settings) PrepareEnv.Ordinary disk machine answer)
    (free : answer ≠ .asks) (envOrdinary : env.Ordinary)
    (boots : Boots (envCheck settings env machine).1.machine.disk running) :
    Obeyed (preparation settings) PrepareEnv.Ordinary disk
      ⟨(envCheck settings env machine).1.machine.disk, running⟩ .content :=
  (obeyed.run free envOrdinary).reboot boots

theorem running_of_obeyed_quiet :
    let disk := quietDisk (untouched "quiet" ["GRUB_TIMEOUT=5"] [])
    let machine : Machine := ⟨disk, startedFrom disk goodReadings⟩
    let prepared := (envCheck stockSettings .host machine).1.machine.disk
    (startedFrom prepared goodReadings).selinux = disabled ∧
      (verdict (envCheck stockSettings .host
        ⟨prepared, startedFrom prepared goodReadings⟩)).answer = .content := by
  intro disk machine prepared
  have booted := boots_startedFrom prepared goodReadings
  have kept : KernelKept stockSettings machine := fun fits => fits
  have works : Works stockSettings .host machine :=
    (works_iff maintained_untouched PrepareEnv.ordinary_host).mpr
      ⟨Or.inr rfl, (managesAll_quietDisk _).not_broken⟩
  have content : (verdict (envCheck stockSettings .host
      ⟨prepared, startedFrom prepared goodReadings⟩)).answer = .content := by
    rw [envCheck_content_iff]
    exact (suits_booted_iff maintained_untouched kept PrepareEnv.ordinary_host bootable_quiet works
      booted).mpr ⟨Or.inl (Or.inr rfl), spaced_host, managesAll_quietDisk _⟩
  have start : Obeyed (preparation stockSettings) PrepareEnv.Ordinary disk machine .content :=
    .boot (boots_startedFrom disk goodReadings)
  have obeyed := obeyed_prepared start (by decide) PrepareEnv.ordinary_host booted
  exact ⟨(running_of_obeyed stockSettings quietInstallation disk _ .content .host
    maintained_untouched obeyed (by decide) PrepareEnv.ordinary_host bootable_quiet content).1,
    content⟩

/-! ## Runs without a reboot -/

/-- What `systemctl disable` leaves, it leaves again. -/
def Settings.Idempotent (settings : Settings) : Prop :=
  ∀ serviceEnabled afterwards, settings.systemctlDisable serviceEnabled = some afterwards →
    settings.systemctlDisable afterwards = some afterwards

theorem manages_checkUnit_iff (idempotent : settings.Idempotent)
    (serviceEnabled serviceStatus : Text) :
    settings.Manages (checkUnit settings serviceEnabled serviceStatus).enabled ↔
      settings.Manages serviceEnabled := by
  rw [← checkUnit_manages_iff settings serviceEnabled serviceStatus]
  refine ⟨fun manages => ?_, Or.inl⟩
  by_cases off : serviceEnabled = disabled
  · exact (checkUnit_manages_iff settings _ _).mpr (Or.inl off)
  · have enabled : (checkUnit settings serviceEnabled serviceStatus).enabled =
        (settings.systemctlDisable serviceEnabled).getD serviceEnabled := by
      rw [checkUnit, if_pos off]
    rw [enabled] at manages ⊢
    cases command : settings.systemctlDisable serviceEnabled with
    | none =>
        rw [command, Option.getD_none] at manages
        rcases manages with same | disables
        · exact same
        · rw [command] at disables
          exact absurd disables.symm (Option.some_ne_none _)
    | some afterwards =>
        rw [command, Option.getD_some] at manages
        rcases manages with same | again
        · exact same
        · rw [idempotent _ _ command] at again
          exact Option.some.inj again

/-- A disabled service is stopped by the next run. -/
theorem quiet_checkUnit (settings : Settings) {serviceEnabled : Text} (serviceStatus : Text)
    (off : serviceEnabled = disabled) :
    Quiet (checkUnit settings serviceEnabled serviceStatus).enabled
      (checkUnit settings serviceEnabled serviceStatus).status := by
  have stopped : ("inactive" : Text) ≠ activeStatus := by
    unfold activeStatus
    simp
  rw [checkUnit, if_neg (not_not.mpr off)]
  split
  · exact ⟨off, stopped⟩
  · next idle => exact ⟨off, idle⟩

/-- What runs without a reboot leave as it was. -/
structure Unmoved (settings : Settings) (installation : Installation) (machine later : Machine) :
    Prop where
  files : Maintained installation later.disk
  boot : SameBoot machine later
  manages : settings.ManagesAll later.disk ↔ settings.ManagesAll machine.disk

theorem manages_edit (idempotent : settings.Idempotent) (edit : Edit settings env before after) :
    settings.ManagesAll after.disk ↔ settings.ManagesAll before.disk := by
  have split : ∀ disk : Disk, settings.ManagesAll disk ↔
      settings.Manages disk.irqbalance ∧ settings.Manages disk.firewalld ∧
        ∀ serviceEnabled ∈ disk.docker, settings.Manages serviceEnabled :=
    fun disk => ⟨fun manages => ⟨manages.irqbalance, manages.firewalld, manages.docker⟩,
      fun ⟨irqbalance, firewalld, docker⟩ => ⟨irqbalance, firewalld, docker⟩⟩
  rw [split, split]
  cases edit with
  | kernel | grub | selinux => rfl
  | irqbalance => exact and_congr_left' (manages_checkUnit_iff idempotent _ _)
  | firewalld =>
      exact and_congr_right' (and_congr_left' (manages_checkUnit_iff idempotent _ _))
  | @docker serviceEnabled installed =>
      have unit : (∀ enabled ∈ some
          (checkUnit settings serviceEnabled before.running.docker).enabled,
          settings.Manages enabled) ↔ ∀ enabled ∈ before.disk.docker, settings.Manages enabled := by
        rw [installed]
        simpa using manages_checkUnit_iff idempotent serviceEnabled before.running.docker
      exact and_congr_right' (and_congr_right' unit)

theorem unmoved_envCheck (idempotent : settings.Idempotent) (envOrdinary : env.Ordinary)
    (unmoved : Unmoved settings installation first machine) :
    Unmoved settings installation first (envCheck settings env machine).1.machine := by
  refine envCheck_keeps (I := Unmoved settings installation first) ?_ unmoved
  intro before after edit here
  exact ⟨maintained_edit envOrdinary edit here.files, sameBoot_edit edit here.boot,
    (manages_edit idempotent edit).trans here.manages⟩

/-- Two runs bring everything in place that a run can. -/
theorem suits_twice (maintained : Maintained installation machine.disk)
    (envOrdinary : env.Ordinary) (kernel : KernelFits settings machine.running.kernel)
    (cmdline : grepEnd env.cmdLineStr machine.running.cmdline = true)
    (manages : settings.ManagesAll machine.disk) :
    Suits settings env
      (envCheck settings env (envCheck settings env machine).1.machine).1.machine := by
  have works : Works settings env machine :=
    (works_iff maintained envOrdinary).mpr ⟨Or.inl kernel, manages.not_broken⟩
  have same : SameBoot machine (envCheck settings env machine).1.machine :=
    envCheck_keeps sameBoot_edit ⟨rfl, rfl, rfl⟩
  have files := maintained_envCheck maintained envOrdinary settings
  obtain ⟨irqbalance, firewalld, docker⟩ := (services_disabled_iff works).mpr manages
  generalize (envCheck settings env machine).1.machine = once at *
  have kernelOnce : KernelFits settings once.running.kernel := by rwa [same.kernel]
  have worksOnce : Works settings env once := by
    refine (works_iff files envOrdinary).mpr ⟨Or.inl kernelOnce, ?_⟩
    exact Settings.ManagesAll.not_broken ⟨Or.inl irqbalance, Or.inl firewalld,
      fun serviceEnabled member => Or.inl (docker serviceEnabled member)⟩
  rw [(envCheck_of_works worksOnce).1]
  refine ⟨kernelOnce, ?_, ?_, ?_, quiet_checkUnit settings _ irqbalance,
    quiet_checkUnit settings _ firewalld, ?_⟩
  · change (checkCmdline env (checkCmdline env once.disk.files).1).2 = some false
    rw [(checkCmdline_maintained files envOrdinary).2.2.1]
  · change grepEnd env.cmdLineStr once.running.cmdline = true
    rwa [same.cmdline]
  · change selinuxState (selinuxAfter once.disk.selinux) = disabled
    rw [selinuxAfter_maintained files, selinuxState_lines]
  · intro enabled member
    obtain ⟨unit, found, rfl⟩ := Option.map_eq_some_iff.mp member
    obtain ⟨serviceEnabled, installed, rfl⟩ := Option.map_eq_some_iff.mp found
    change Quiet _ (((dockerUnit settings once).map (·.status)).getD once.running.docker)
    rw [found]
    exact quiet_checkUnit settings _ (docker serviceEnabled installed)

/-- Without a reboot, the third run and every later one are content exactly if the kernel and its
command line are right and the services can be disabled; SELinux still runs as it was started. -/
theorem requests_wear_off (settings : Settings) (installation : Installation)
    (first machine : Machine) (env : PrepareEnv) (count : Nat)
    (maintained : Maintained installation first.disk) (boots : Boots first.disk first.running)
    (reached : Reached (preparation settings) PrepareEnv.Ordinary first machine)
    (envOrdinary : env.Ordinary) (idempotent : settings.Idempotent) :
    let later := (preparation settings).repeated env (count + 2) machine
    later.running.selinux = machine.running.selinux ∧
      ((verdict (envCheck settings env later)).answer = .content ↔
        KernelFits settings machine.running.kernel ∧
          grepEnd env.cmdLineStr machine.running.cmdline = true ∧
          settings.ManagesAll machine.disk) := by
  intro later
  have files := (maintained_of_reached maintained boots reached).1
  have unmoved : ∀ early, Unmoved settings installation machine
      ((preparation settings).repeated env early machine) :=
    Scheme.repeated_invariant (unmoved_envCheck idempotent envOrdinary)
      ⟨files, ⟨rfl, rfl, rfl⟩, Iff.rfl⟩
  obtain ⟨-, laterBoot, laterManages⟩ := unmoved (count + 2)
  refine ⟨laterBoot.selinux, ?_⟩
  rw [envCheck_content_iff]
  constructor
  · intro suits
    have kernel := suits.kernel
    have cmdline := suits.cmdline
    rw [laterBoot.kernel] at kernel
    rw [laterBoot.cmdline] at cmdline
    exact ⟨kernel, cmdline, laterManages.mp ⟨Or.inl suits.irqbalance.1, Or.inl suits.firewalld.1,
      fun serviceEnabled member => Or.inl (suits.docker serviceEnabled member).1⟩⟩
  · rintro ⟨kernel, cmdline, manages⟩
    obtain ⟨beforeFiles, boot, beforeManages⟩ := unmoved count
    have twice : later = (envCheck settings env (envCheck settings env
        ((preparation settings).repeated env count machine)).1.machine).1.machine :=
      Scheme.repeated_add (preparation settings) env count 2 machine
    rw [twice]
    refine suits_twice beforeFiles envOrdinary ?_ ?_ (beforeManages.mpr manages)
    · rwa [boot.kernel]
    · rwa [boot.cmdline]

/-- The requests for SELinux and for a service wear off before SELinux is off. -/
theorem requests_wear_off_enforcing :
    let files : BootFiles :=
      { grub := [("GRUB_TIMEOUT=5" : Text), grubLine (targetOf "quiet" .host)]
        record := recordLine "quiet" }
    let machine : Machine := ⟨quietDisk files, startedFrom (quietDisk files) goodReadings⟩
    ((preparation stockSettings).repeated .host 2 machine).running.selinux =
        ("enforcing" : Text) ∧
      (verdict (envCheck stockSettings .host machine)).answer = .asks ∧
      (verdict (envCheck stockSettings .host
        ((preparation stockSettings).repeated .host 2 machine))).answer = .content := by
  intro files machine
  have ordinary : Ordinary (targetOf "quiet" .host) :=
    ordinary_targetOf grubFile_quiet.ordinary PrepareEnv.ordinary_host
  have tuned : Tuned "quiet" ["GRUB_TIMEOUT=5"] [] (" " ++ PrepareEnv.host.cmdLineStr) files := by
    unfold Tuned
    rw [← targetOf_eq]
    exact ⟨rfl, ordinary, Or.inl rfl⟩
  have maintained : Maintained quietInstallation machine.disk := ⟨⟨_, tuned⟩, rfl, Or.inl rfl⟩
  have enforcing : selinuxState machine.disk.selinux = ("enforcing" : Text) :=
    selinuxState_lines quietInstallation _
  have works : Works stockSettings .host machine :=
    (works_iff maintained PrepareEnv.ordinary_host).mpr
      ⟨Or.inl (Or.inr rfl), (managesAll_quietDisk _).not_broken⟩
  have asks : (verdict (envCheck stockSettings .host machine)).answer = .asks := by
    cases ended : (verdict (envCheck stockSettings .host machine)).answer with
    | content =>
        have off := ((envCheck_content_iff _ _ _).mp ended).selinux
        rw [enforcing] at off
        exact absurd off (by unfold disabled; simp)
    | asks => rfl
    | fails =>
        rw [answer_eq_fails_iff, (envCheck_succeeds_iff _ _ _).mpr works] at ended
        exact Bool.noConfusion ended
  have cmdline : grepEnd PrepareEnv.host.cmdLineStr machine.running.cmdline = true := by
    have value : originGrubCmdline machine.disk.grubCfg = targetOf "quiet" .host :=
      originGrubCmdline_grubLine sole_quiet (ordinary.not_mem List.mem_cons_self)
    have line : machine.running.cmdline =
        joinWith ' ' (words "quiet" ++ words PrepareEnv.host.cmdLineStr) := by
      rw [← words_targetOf, ← value]
      rfl
    rw [line, grepEnd_words_iff _ PrepareEnv.ordinary_host.cmdLineStr bootable_quiet.cmdLineStr]
    exact spaced_host
  obtain ⟨selinux, content⟩ := requests_wear_off stockSettings quietInstallation machine machine
    .host 0 maintained (boots_startedFrom _ goodReadings) .start PrepareEnv.ordinary_host
    (fun _ _ same => same)
  have started : machine.running.selinux = ("enforcing" : Text) := enforcing
  rw [started, Nat.zero_add] at selinux
  rw [Nat.zero_add] at content
  exact ⟨selinux, asks, content.mpr ⟨Or.inr rfl, cmdline, managesAll_quietDisk _⟩⟩

end Vm
