import ArmTest.Mem.Multicore
import ArmTest.Shell.Presets

/-!
# Options of the memory test

`run.sh` reads its options in a loop that consumes one or two arguments a round.  With fewer than
two arguments left, `shift 2` fails and shifts nothing.
-/

namespace Mem

open Shell

/-! ## The program -/

/-- Options with a value. -/
inductive ValueOption where
  | cpu
  | multicpu
  | output
  | round
  deriving DecidableEq

/-- What an argument in the place of an option means. -/
inductive Flag where
  | value (name : ValueOption)
  | host
  | virt
  | help
  deriving DecidableEq

/-- The patterns of `case $1 in`. -/
def flagOf (argument : Text) : Option Flag :=
  if argument = "-c".toList ∨ argument = "--cpu".toList then some (.value .cpu)
  else if argument = "-mc".toList ∨ argument = "--multicpu".toList then some (.value .multicpu)
  else if argument = "--host".toList then some .host
  else if argument = "--virt".toList then some .virt
  else if argument = "-o".toList ∨ argument = "--output".toList then some (.value .output)
  else if argument = "-r".toList ∨ argument = "--round".toList then some (.value .round)
  else if argument = "-h".toList ∨ argument = "--help".toList then some .help
  else none

/-- The variables of the script; a variable that is not set is empty. -/
structure Settings where
  /-- The variable `cpu`. -/
  cpu : Text
  /-- The variable `multicpu`. -/
  multicpu : Text
  /-- The variable `result_dir`. -/
  resultDir : Text
  /-- The variable `rounds`. -/
  rounds : Text

/-- No variable is set. -/
def Settings.unset : Settings := ⟨[], [], [], []⟩

/-- `name="$2"`. -/
def Settings.assign (settings : Settings) (value : Text) : ValueOption → Settings
  | .cpu => { settings with cpu := value }
  | .multicpu => { settings with multicpu := value }
  | .output => { settings with resultDir := value }
  | .round => { settings with rounds := value }

/-- The machine that the script runs on. -/
structure Platform where
  /-- The variable `vendor`. -/
  vendor : Text
  /-- The variable `architecture`, and what `set_multicore` reads. -/
  sysfs : Sysfs

/-- The single-core processor of `--host`, unless the architecture is unsupported. -/
def Platform.hostCpu (platform : Platform) : Option Text :=
  if platform.sysfs.architecture = "x86_64".toList then
    if platform.vendor = "AMD".toList then some "12".toList else some "16".toList
  else if platform.sysfs.architecture = "aarch64".toList then some "16".toList
  else none

/-- The multi-core list of `--host`, unless the architecture is unsupported. -/
def Platform.hostMulticpu (platform : Platform) : Option Text :=
  if platform.sysfs.architecture = "x86_64".toList then some (setMulticore platform.sysfs)
  else if platform.sysfs.architecture = "aarch64".toList then some "0-31".toList
  else none

/-- The branch of `--host`; there is no result when it exits. -/
def presetHost (platform : Platform) (settings : Settings) : Option Settings := do
  let cpu ← if settings.cpu = [] then platform.hostCpu else some settings.cpu
  let multicpu ← if settings.multicpu = [] then platform.hostMulticpu else some settings.multicpu
  return { settings with cpu := cpu, multicpu := multicpu }

/-- The branch of `--virt`. -/
def presetVirt (settings : Settings) : Settings :=
  { settings with
    cpu := if settings.cpu = [] then "8" else settings.cpu
    multicpu := if settings.multicpu = [] then "0-31" else settings.multicpu }

/-- `shift 2`. -/
def shiftTwo : List Text → List Text
  | _ :: _ :: arguments => arguments
  | arguments => arguments

/-- How the loop ends. -/
inductive Outcome where
  | ready (settings : Settings)
  | help
  | failed

/-- The loop over the arguments.  There is no result while the rounds do not suffice. -/
def optionLoop (platform : Platform) : Nat → Settings → List Text → Option Outcome
  | _, settings, [] => some (.ready settings)
  | 0, _, _ :: _ => none
  | rounds + 1, settings, argument :: arguments =>
      match flagOf argument with
      | some (.value name) =>
          optionLoop platform rounds (settings.assign (arguments.headD []) name)
            (shiftTwo (argument :: arguments))
      | some .host =>
          match presetHost platform settings with
          | some settings => optionLoop platform rounds settings arguments
          | none => some .failed
      | some .virt => optionLoop platform rounds (presetVirt settings) arguments
      | some .help => some .help
      | none => some .failed

/-- The defaults behind the loop. -/
def Settings.defaults (settings : Settings) : Settings :=
  { cpu := if settings.cpu = [] then "8" else settings.cpu
    multicpu := if settings.multicpu = [] then "0-31" else settings.multicpu
    resultDir := if settings.resultDir = [] then "results" else settings.resultDir
    rounds := if settings.rounds = [] then "5" else settings.rounds }

/-! ## Options -/

/-- An option with its value. -/
inductive Setting where
  | value (name : ValueOption) (text : Text)
  | host
  | virt
  deriving DecidableEq

/-- Arguments that are complete options. -/
inductive Reads : List Text → List Setting → Prop
  | nil : Reads [] []
  | value {argument text : Text} {name : ValueOption} {arguments : List Text}
      {options : List Setting} (flag : flagOf argument = some (.value name))
      (rest : Reads arguments options) :
      Reads (argument :: text :: arguments) (.value name text :: options)
  | host {argument : Text} {arguments : List Text} {options : List Setting}
      (flag : flagOf argument = some .host) (rest : Reads arguments options) :
      Reads (argument :: arguments) (.host :: options)
  | virt {argument : Text} {arguments : List Text} {options : List Setting}
      (flag : flagOf argument = some .virt) (rest : Reads arguments options) :
      Reads (argument :: arguments) (.virt :: options)

/-- The variables behind an option; there is no result when the script exits. -/
def Setting.apply (platform : Platform) (settings : Settings) : Setting → Option Settings
  | .value name text => some (settings.assign text name)
  | .host => presetHost platform settings
  | .virt => some (presetVirt settings)

/-- The variables behind some options. -/
def applyAll (platform : Platform) : Settings → List Setting → Option Settings
  | settings, [] => some settings
  | settings, option :: options =>
      (option.apply platform settings).bind fun settings => applyAll platform settings options

/-- The arguments end with an option that lacks its value, and no exit is taken before it. -/
def LacksValue (platform : Platform) (arguments : List Text) : Prop :=
  ∃ front options argument name settings,
    arguments = front ++ [argument] ∧ Reads front options ∧
      applyAll platform .unset options = some settings ∧ flagOf argument = some (.value name)

/-! ## Rounds -/

section

variable (platform : Platform)

/-- A lone option with a value is read again and again. -/
theorem optionLoop_lone {argument : Text} {name : ValueOption}
    (flag : flagOf argument = some (.value name)) (rounds : Nat) (settings : Settings) :
    optionLoop platform rounds settings [argument] = none := by
  induction rounds generalizing settings with
  | zero => rfl
  | succ rounds induction =>
      rw [optionLoop, flag]
      exact induction _

/-- What a round does: it takes a complete option, it ends the script, or it meets a lone option
with a value. -/
theorem round_cases (settings : Settings) (argument : Text) (arguments : List Text) :
    (∃ taken rest option between, argument :: arguments = taken ++ rest ∧ taken ≠ [] ∧
        (∀ {more options}, Reads more options → Reads (taken ++ more) (option :: options)) ∧
        Setting.apply platform settings option = some between ∧
        ∀ rounds, optionLoop platform (rounds + 1) settings (argument :: arguments) =
          optionLoop platform rounds between rest) ∨
      (∃ outcome, (∀ later, outcome ≠ .ready later) ∧
        ∀ rounds, optionLoop platform (rounds + 1) settings (argument :: arguments) =
          some outcome) ∨
      arguments = [] ∧ ∃ name, flagOf argument = some (.value name) := by
  cases flag : flagOf argument with
  | none => exact Or.inr (Or.inl ⟨.failed, nofun, fun rounds => by rw [optionLoop, flag]⟩)
  | some meaning =>
      cases meaning with
      | value name =>
          cases arguments with
          | nil => exact Or.inr (Or.inr ⟨rfl, name, rfl⟩)
          | cons text arguments =>
              refine Or.inl ⟨[argument, text], arguments, .value name text,
                settings.assign text name, rfl, List.cons_ne_nil _ _, .value flag, rfl, ?_⟩
              intro rounds
              rw [optionLoop, flag]
              rfl
      | host =>
          cases preset : presetHost platform settings with
          | none =>
              refine Or.inr (Or.inl ⟨.failed, nofun, fun rounds => ?_⟩)
              rw [optionLoop, flag]
              simp only [preset]
          | some between =>
              refine Or.inl ⟨[argument], arguments, .host, between, rfl, List.cons_ne_nil _ _,
                .host flag, preset, fun rounds => ?_⟩
              rw [optionLoop, flag]
              simp only [preset]
      | virt =>
          refine Or.inl ⟨[argument], arguments, .virt, presetVirt settings, rfl,
            List.cons_ne_nil _ _, .virt flag, rfl, fun rounds => ?_⟩
          rw [optionLoop, flag]
      | help => exact Or.inr (Or.inl ⟨.help, nofun, fun rounds => by rw [optionLoop, flag]⟩)

/-- More rounds give the same result. -/
theorem optionLoop_mono {rounds : Nat} {settings : Settings} {arguments : List Text}
    {outcome : Outcome} (ended : optionLoop platform rounds settings arguments = some outcome) :
    optionLoop platform (rounds + 1) settings arguments = some outcome := by
  induction rounds generalizing settings arguments with
  | zero =>
      cases arguments with
      | nil => exact ended
      | cons argument arguments => contradiction
  | succ rounds induction =>
      cases arguments with
      | nil => exact ended
      | cons argument arguments =>
          rcases round_cases platform settings argument arguments with
            ⟨-, rest, -, between, -, -, -, -, round⟩ | ⟨outcome', -, round⟩ | ⟨rfl, name, flag⟩
          · rw [round] at ended ⊢
            exact induction ended
          · rw [round] at ended ⊢
            exact ended
          · rw [optionLoop_lone platform flag] at ended
            contradiction

/-- Complete options are consumed. -/
theorem optionLoop_reads {front : List Text} {options : List Setting} (read : Reads front options)
    {settings later : Settings} (applied : applyAll platform settings options = some later)
    (tail : List Text) (rounds : Nat) :
    optionLoop platform (rounds + options.length) settings (front ++ tail) =
      optionLoop platform rounds later tail := by
  induction read generalizing settings with
  | nil =>
      obtain rfl : settings = later := Option.some.inj applied
      rfl
  | value flag rest induction =>
      rw [List.length_cons, ← Nat.add_assoc, List.cons_append, List.cons_append, optionLoop, flag]
      exact induction applied
  | host flag rest induction =>
      obtain ⟨between, preset, others⟩ := Option.bind_eq_some_iff.mp applied
      have preset' : presetHost platform settings = some between := preset
      rw [List.length_cons, ← Nat.add_assoc, List.cons_append, optionLoop, flag]
      simp only [preset']
      exact induction others
  | virt flag rest induction =>
      rw [List.length_cons, ← Nat.add_assoc, List.cons_append, optionLoop, flag]
      exact induction applied

/-- The loop ends, or it reaches a lone option with a value. -/
theorem ends_or_lone (arguments : List Text) (settings : Settings) :
    (∃ rounds outcome, optionLoop platform rounds settings arguments = some outcome) ∨
      ∃ front options argument name later,
        arguments = front ++ [argument] ∧ Reads front options ∧
          applyAll platform settings options = some later ∧
          flagOf argument = some (.value name) := by
  induction count : arguments.length using Nat.strong_induction_on
    generalizing arguments settings with
  | h size induction =>
      cases arguments with
      | nil => exact Or.inl ⟨0, .ready settings, rfl⟩
      | cons argument arguments =>
          rcases round_cases platform settings argument arguments with
            ⟨taken, rest, option, between, split, nonempty, reads, applied, round⟩ |
            ⟨outcome, -, round⟩ | ⟨rfl, name, flag⟩
          · have shorter : rest.length < size := by
              have positive := List.length_pos_of_ne_nil nonempty
              rw [← count, split, List.length_append]
              omega
            rcases induction _ shorter rest between rfl with
              ⟨rounds, outcome, ended⟩ |
              ⟨front, options, last, name, later, rfl, read, others, lone⟩
            · exact Or.inl ⟨rounds + 1, outcome, (round rounds).trans ended⟩
            · refine Or.inr ⟨taken ++ front, option :: options, last, name, later, ?_, reads read,
                ?_, lone⟩
              · rw [split, List.append_assoc]
              · rw [applyAll, applied]
                exact others
          · exact Or.inl ⟨1, outcome, round 0⟩
          · exact Or.inr ⟨[], [], argument, name, settings, rfl, .nil, rfl, flag⟩

/-- The loop reaches the end of the arguments with complete options only. -/
theorem reads_of_ready {rounds : Nat} {settings later : Settings} {arguments : List Text}
    (ended : optionLoop platform rounds settings arguments = some (.ready later)) :
    ∃ options, Reads arguments options ∧ applyAll platform settings options = some later := by
  induction rounds generalizing settings arguments with
  | zero =>
      cases arguments with
      | nil =>
          obtain rfl : settings = later := by simpa [optionLoop] using ended
          exact ⟨[], .nil, rfl⟩
      | cons argument arguments => contradiction
  | succ rounds induction =>
      cases arguments with
      | nil =>
          obtain rfl : settings = later := by simpa [optionLoop] using ended
          exact ⟨[], .nil, rfl⟩
      | cons argument arguments =>
          rcases round_cases platform settings argument arguments with
            ⟨taken, rest, option, between, split, -, reads, applied, round⟩ |
            ⟨outcome, unready, round⟩ | ⟨rfl, name, flag⟩
          · rw [round] at ended
            obtain ⟨options, read, others⟩ := induction ended
            refine ⟨option :: options, split ▸ reads read, ?_⟩
            rw [applyAll, applied]
            exact others
          · rw [round] at ended
            exact absurd (Option.some.inj ended) (unready later)
          · rw [optionLoop_lone platform flag] at ended
            contradiction

end

/-! ## Precedence -/

/-- What an option does to the variable `cpu`. -/
def Setting.cpuEffect (platform : Platform) : Setting → Effect
  | .value .cpu text => .assign text
  | .value _ _ => .skip
  | .host => .preset (platform.hostCpu.getD [])
  | .virt => .preset "8"

/-- What an option does to the variable `multicpu`. -/
def Setting.multicpuEffect (platform : Platform) : Setting → Effect
  | .value .multicpu text => .assign text
  | .value _ _ => .skip
  | .host => .preset (platform.hostMulticpu.getD [])
  | .virt => .preset "0-31"

/-- The architecture is supported, and node 0 has processors. -/
def Platform.Supported (platform : Platform) : Prop :=
  ∃ cpu multicpu, platform.hostCpu = some cpu ∧ platform.hostMulticpu = some multicpu ∧
    cpu ≠ [] ∧ multicpu ≠ []

/-- The loop ends; and at the end of the arguments, when the given values are not empty, the
single-core processor is the value of the last `-c`, or else the default of the first of `--host`
and `--virt`, or else 8, and likewise the multi-core list. -/
structure ParsesOptions (platform : Platform) (arguments : List Text) : Prop where
  /-- The loop ends. -/
  terminates : ∃ rounds outcome, optionLoop platform rounds .unset arguments = some outcome
  /-- The chosen values. -/
  precedence : ∀ rounds settings,
    optionLoop platform rounds .unset arguments = some (.ready settings) →
      ∃ options, Reads arguments options ∧
        (platform.Supported → (∀ name text, Setting.value name text ∈ options → text ≠ []) →
          settings.defaults.cpu = (chosen (options.map (Setting.cpuEffect platform))).getD "8" ∧
          settings.defaults.multicpu =
            (chosen (options.map (Setting.multicpuEffect platform))).getD "0-31")

theorem presetHost_eq {platform : Platform} {hostCpu hostMulticpu : Text}
    (single : platform.hostCpu = some hostCpu)
    (multiple : platform.hostMulticpu = some hostMulticpu)
    (settings : Settings) :
    presetHost platform settings =
      some { settings with
        cpu := if settings.cpu = [] then hostCpu else settings.cpu
        multicpu := if settings.multicpu = [] then hostMulticpu else settings.multicpu } := by
  rw [presetHost, single, multiple]
  by_cases noCpu : settings.cpu = [] <;> by_cases noList : settings.multicpu = []
  · simp [noCpu, noList]
  · simp [noCpu, noList]
  · simp [noCpu, noList]
  · simp [noCpu, noList]

theorem applyAll_effects {platform : Platform} (supported : platform.Supported)
    {settings later : Settings} {options : List Setting}
    (applied : applyAll platform settings options = some later) :
    later.cpu = (options.map (Setting.cpuEffect platform)).foldl Effect.run settings.cpu ∧
      later.multicpu =
        (options.map (Setting.multicpuEffect platform)).foldl Effect.run settings.multicpu := by
  obtain ⟨hostCpu, hostMulticpu, single, multiple, -, -⟩ := supported
  induction options generalizing settings with
  | nil =>
      obtain rfl : settings = later := Option.some.inj applied
      exact ⟨rfl, rfl⟩
  | cons option options induction =>
      obtain ⟨between, first, others⟩ := Option.bind_eq_some_iff.mp applied
      have rest := induction others
      rw [rest.1, rest.2, List.map_cons, List.map_cons, List.foldl_cons, List.foldl_cons]
      cases option with
      | value name text =>
          obtain rfl : settings.assign text name = between := Option.some.inj first
          cases name <;> exact ⟨rfl, rfl⟩
      | host =>
          obtain rfl := Option.some.inj ((presetHost_eq single multiple settings).symm.trans first)
          rw [Setting.cpuEffect, Setting.multicpuEffect, single, multiple]
          exact ⟨rfl, rfl⟩
      | virt =>
          obtain rfl : presetVirt settings = between := Option.some.inj first
          exact ⟨rfl, rfl⟩

/-- Both architectures are supported when node 0 has processors. -/
theorem supported_of_populated {platform : Platform} {topology : Topology}
    (describes : platform.sysfs.Describes topology) (populated : topology.node ≠ [])
    (known : platform.sysfs.architecture = "x86_64".toList ∨
      platform.sysfs.architecture = "aarch64".toList) : platform.Supported := by
  rcases known with x86 | arm
  · have cores : setMulticore platform.sysfs ≠ [] := by
      intro none
      have read := parse_setMulticore describes x86 populated
      rw [none] at read
      contradiction
    have multiple : platform.hostMulticpu = some (setMulticore platform.sysfs) := if_pos x86
    by_cases amd : platform.vendor = "AMD".toList
    · have single : platform.hostCpu = some "12".toList := by
        rw [Platform.hostCpu, if_pos x86, if_pos amd]
      exact ⟨_, _, single, multiple, List.cons_ne_nil _ _, cores⟩
    · have single : platform.hostCpu = some "16".toList := by
        rw [Platform.hostCpu, if_pos x86, if_neg amd]
      exact ⟨_, _, single, multiple, List.cons_ne_nil _ _, cores⟩
  · have single : platform.hostCpu = some "16".toList := by
      rw [Platform.hostCpu, arm]
      rfl
    have multiple : platform.hostMulticpu = some "0-31".toList := by
      rw [Platform.hostMulticpu, arm]
      rfl
    exact ⟨_, _, single, multiple, List.cons_ne_nil _ _, List.cons_ne_nil _ _⟩

/-- A variable that falls back to a default. -/
theorem default_chosen {effects : List Effect} (nonempty : ∀ effect ∈ effects, effect.Nonempty)
    (fallback : Text) :
    (if effects.foldl Effect.run [] = [] then fallback else effects.foldl Effect.run []) =
      (chosen effects).getD fallback := by
  rw [foldl_run nonempty]
  cases choice : chosen effects with
  | none => rfl
  | some value => exact if_neg (chosen_ne_nil nonempty choice)

theorem effects_nonempty {effectOf : Setting → Effect} {options : List Setting}
    (given : ∀ name text, Setting.value name text ∈ options → text ≠ [])
    (value : ∀ name text, text ≠ [] → (effectOf (.value name text)).Nonempty)
    (host : (effectOf .host).Nonempty) (virt : (effectOf .virt).Nonempty) :
    ∀ effect ∈ options.map effectOf, effect.Nonempty := by
  intro effect member
  obtain ⟨option, listed, rfl⟩ := List.mem_map.mp member
  cases option with
  | value name text => exact value name text (given name text listed)
  | host => exact host
  | virt => exact virt

theorem cpuEffect_nonempty {platform : Platform} (supported : platform.Supported)
    {options : List Setting} (given : ∀ name text, Setting.value name text ∈ options → text ≠ []) :
    ∀ effect ∈ options.map (Setting.cpuEffect platform), effect.Nonempty := by
  obtain ⟨hostCpu, hostMulticpu, single, multiple, nonempty, nonempty'⟩ := supported
  refine effects_nonempty given ?_ ?_ (List.cons_ne_nil _ _)
  · intro name text filled
    cases name with
    | cpu => exact filled
    | multicpu | output | round => trivial
  · rw [Setting.cpuEffect, single]
    exact nonempty

theorem multicpuEffect_nonempty {platform : Platform} (supported : platform.Supported)
    {options : List Setting} (given : ∀ name text, Setting.value name text ∈ options → text ≠ []) :
    ∀ effect ∈ options.map (Setting.multicpuEffect platform), effect.Nonempty := by
  obtain ⟨hostCpu, hostMulticpu, single, multiple, nonempty, nonempty'⟩ := supported
  refine effects_nonempty given ?_ ?_ (List.cons_ne_nil _ _)
  · intro name text filled
    cases name with
    | multicpu => exact filled
    | cpu | output | round => trivial
  · rw [Setting.multicpuEffect, multiple]
    exact nonempty'

/-- The loop never ends at an option that lacks its value. -/
theorem optionLoop_lacks {platform : Platform} {arguments : List Text}
    (lacks : LacksValue platform arguments) (rounds : Nat) :
    optionLoop platform rounds .unset arguments = none := by
  obtain ⟨front, options, argument, name, settings, rfl, read, applied, flag⟩ := lacks
  have later : ∀ more, optionLoop platform (rounds + more) .unset (front ++ [argument]) =
      optionLoop platform rounds .unset (front ++ [argument]) ∨
      optionLoop platform rounds .unset (front ++ [argument]) = none := by
    intro more
    cases now : optionLoop platform rounds .unset (front ++ [argument]) with
    | none => exact Or.inr rfl
    | some outcome =>
        left
        induction more with
        | zero => exact now
        | succ more induction => exact optionLoop_mono platform induction
  rcases later options.length with same | none
  · rw [← same, optionLoop_reads platform read applied, optionLoop_lone platform flag]
  · exact none

/-- The options are read as they should exactly when the last of the arguments is not
an option that lacks its value. -/
theorem parsesOptions_iff (platform : Platform) (arguments : List Text) :
    ParsesOptions platform arguments ↔ ¬ LacksValue platform arguments := by
  constructor
  · intro parses lacks
    obtain ⟨rounds, outcome, ended⟩ := parses.terminates
    rw [optionLoop_lacks lacks] at ended
    contradiction
  · intro complete
    refine ⟨(ends_or_lone platform arguments .unset).resolve_right complete, ?_⟩
    intro rounds settings ended
    obtain ⟨options, read, applied⟩ := reads_of_ready platform ended
    refine ⟨options, read, fun supported given => ?_⟩
    obtain ⟨single, multiple⟩ := applyAll_effects supported applied
    rw [Settings.defaults, single, multiple]
    exact ⟨default_chosen (cpuEffect_nonempty supported given) "8",
      default_chosen (multicpuEffect_nonempty supported given) "0-31"⟩

/-- The platform of a virtual machine. -/
def armPlatform : Platform :=
  { vendor := "ARM"
    sysfs := { architecture := "aarch64", nodeCpulist := "0-31", coreCpusList := id } }

/-- `run.sh -c`. -/
theorem lone_cpu_loops : ¬ ParsesOptions armPlatform ["-c"] := by
  intro parses
  obtain ⟨rounds, outcome, ended⟩ := parses.terminates
  have flag : flagOf "-c" = some (.value .cpu) := rfl
  rw [optionLoop_lone armPlatform flag] at ended
  contradiction

end Mem
