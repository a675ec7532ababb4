import ArmTest.Shell.Sed

/-!
# The kernel command line

`check_cmdline` keeps the original kernel command line in `vars.sh` and rewrites the line of
`/etc/default/grub` with the current value as the pattern of a `sed` command.  This file follows
the three texts through any sequence of host and guest preparations.
-/

namespace Vm

open Shell

/-! ## The two files -/

/-- The value that `vars.sh` holds before the first run. -/
def originalEmpty : Text := "host_original_cmdline_empty"

/-- A line `name="value"`. -/
def assignment (name value : Text) : Text := name ++ '=' :: '"' :: (value ++ ['"'])

/-- The edited line of `/etc/default/grub`. -/
def grubLine (value : Text) : Text := assignment "GRUB_CMDLINE_LINUX" value

/-- The edited line of `vars.sh`. -/
def recordLine (value : Text) : Text := assignment "HOST_ORIGINAL_CMDLINE" value

/-- The lines of `/etc/default/grub` and the line of `vars.sh` that records the original. -/
structure BootFiles where
  /-- Lines of `/etc/default/grub`. -/
  grub : List Text
  /-- The assignment of `HOST_ORIGINAL_CMDLINE`. -/
  record : Text
  deriving DecidableEq

/-- The command `sed 's|"||g'` on a line. -/
def withoutQuotes (line : Text) : Text := line.filter (· ≠ '"')

/-- The variable `origin_grub_cmdline`. -/
def originGrubCmdline (grub : List Text) : Text :=
  behindFirst '=' (joinWith '\n' ((grub.filter (grepQ "GRUB_CMDLINE_LINUX")).map withoutQuotes))

/-- The variable `HOST_ORIGINAL_CMDLINE` after reading `vars.sh`. -/
def hostOriginalCmdline (record : Text) : Text := withoutQuotes (behindFirst '=' record)

/-! ## One run -/

/-- A preparation of the host or of the guest. -/
inductive PrepareEnv where
  | host
  | guest (isolationCpuCmdline : Text)
  deriving DecidableEq

/-- The variable `CMD_LINE_STR`. -/
def PrepareEnv.cmdLineStr : PrepareEnv → Text
  | .host => "iommu.passthrough=1 transparent_hugepage=never default_hugepagesz=2M"
  | .guest isolationCpuCmdline =>
      "iommu.passthrough=1 transparent_hugepage=never default_hugepagesz=2M" ++ " " ++
        isolationCpuCmdline

/-- `check_cmdline`: the files afterwards and whether `/etc/default/grub` was updated, which asks
for a reboot; none if a `sed` command failed and ended the script. -/
def checkCmdline (env : PrepareEnv) (files : BootFiles) : BootFiles × Option Bool :=
  let origin := originGrubCmdline files.grub
  let recorded :=
    if hostOriginalCmdline files.record = originalEmpty then
      (sedCommand originalEmpty origin).map fun edit => edit files.record
    else
      some files.record
  match recorded with
  | none => (files, none)
  | some record =>
      let grubCmdline := hostOriginalCmdline record ++ " " ++ env.cmdLineStr
      if origin ≠ grubCmdline then
        match sedCommand origin grubCmdline with
        | none => ({ grub := files.grub, record := record }, none)
        | some edit => ({ grub := files.grub.map edit, record := record }, some true)
      else
        ({ grub := files.grub, record := record }, some false)

/-- The files after a sequence of runs. -/
def bootFilesAfter (files : BootFiles) : List PrepareEnv → BootFiles
  | [] => files
  | env :: envs => bootFilesAfter (checkCmdline env files).1 envs

/-! ## Assumptions on the files -/

/-- Characters without a meaning to the shell, to `sed` or to the files. -/
def Ordinary (text : Text) : Prop :=
  ∀ c ∈ text, c ∉ ['"', '\'', '|', '&', '\\', '[', '*', '^', '$', '`', '\n']

/-- A file with one line for the kernel command line, whose value is found nowhere else. -/
structure GrubFile (original : Text) (before after : List Text) : Prop where
  /-- The value is not empty. -/
  nonempty : original ≠ []
  /-- The value has no special characters. -/
  ordinary : Ordinary original
  /-- No other line sets the variable. -/
  single : ∀ line ∈ before ++ after, ¬ ("GRUB_CMDLINE_LINUX=" : Text) <+: line
  /-- The value matches on no other line. -/
  elsewhere : ∀ line ∈ before ++ after, ¬ Occurs (atoms original) line
  /-- The value matches at no other place of its line. -/
  unique : ∀ left right, grubLine original = left ++ right →
    matchesHere (atoms original) right = true → left = "GRUB_CMDLINE_LINUX=\""

/-- The name of the variable is found on no line behind the assignment, and on the lines before it
only without an equals sign. -/
structure SoleMention (before after : List Text) : Prop where
  before : ∀ line ∈ before, grepQ "GRUB_CMDLINE_LINUX" line = true → '=' ∉ line
  after : ∀ line ∈ after, grepQ "GRUB_CMDLINE_LINUX" line = false

/-- The isolation part of a preparation has no special characters either. -/
def PrepareEnv.Ordinary : PrepareEnv → Prop
  | .host => True
  | .guest isolationCpuCmdline => Vm.Ordinary isolationCpuCmdline

/-! ## Reading the files -/

variable {original value : Text} {before after : List Text}

theorem Ordinary.append {front back : Text} (first : Ordinary front) (second : Ordinary back) :
    Ordinary (front ++ back) := by
  intro c member
  exact (List.mem_append.mp member).elim (first c) (second c)

/-- Two parts with a blank between them. -/
theorem Ordinary.spaced {front back : Text} (first : Ordinary front) (second : Ordinary back) :
    Ordinary (front ++ " " ++ back) := by
  have blank : Ordinary " " := by
    intro c member
    rw [List.mem_singleton.mp member]
    decide
  exact (first.append blank).append second

theorem Ordinary.not_mem {text : Text} {c : Char} (ordinary : Ordinary text)
    (listed : c ∈ ['"', '\'', '|', '&', '\\', '[', '*', '^', '$', '`', '\n']) : c ∉ text :=
  fun member => ordinary c member listed

theorem PrepareEnv.Ordinary.cmdLineStr {env : PrepareEnv} (ordinary : env.Ordinary) :
    Vm.Ordinary env.cmdLineStr := by
  have fixed : Vm.Ordinary
      "iommu.passthrough=1 transparent_hugepage=never default_hugepagesz=2M" := by
    unfold Vm.Ordinary
    simp
  cases env with
  | host => exact fixed
  | guest isolationCpuCmdline => exact fixed.spaced ordinary

theorem withoutQuotes_of_not_mem {line : Text} (free : '"' ∉ line) : withoutQuotes line = line := by
  rw [withoutQuotes, List.filter_eq_self]
  intro c member
  simpa using fun same : c = '"' => free (same ▸ member)

theorem behindFirst_assignment {name : Text} (value : Text) (plain : '=' ∉ name) :
    behindFirst '=' (assignment name value) = '"' :: (value ++ ['"']) :=
  behindFirst_append _ plain

theorem withoutQuotes_quoted (free : '"' ∉ value) :
    withoutQuotes ('"' :: (value ++ ['"'])) = value := by
  have inner := withoutQuotes_of_not_mem free
  unfold withoutQuotes at inner ⊢
  rw [List.filter_cons_of_neg (by simp), List.filter_append, inner]
  simp

theorem withoutQuotes_assignment {name : Text} (nameFree : '"' ∉ name) (free : '"' ∉ value) :
    withoutQuotes (assignment name value) = name ++ '=' :: value := by
  have quoted := withoutQuotes_quoted free
  have named := withoutQuotes_of_not_mem nameFree
  unfold withoutQuotes assignment at *
  rw [List.filter_append, named, List.filter_cons_of_pos (by simp), quoted]

/-- The lines that mention the variable, as `sed` leaves them. -/
def mentions (lines : List Text) : List Text :=
  (lines.filter (grepQ "GRUB_CMDLINE_LINUX")).map withoutQuotes

/-- What is read from the file is the text behind the first equals sign of the lines that mention
the variable. -/
theorem originGrubCmdline_eq (free : '"' ∉ value) :
    originGrubCmdline (before ++ grubLine value :: after) =
      behindFirst '=' ((mentions before).flatMap (· ++ ['\n']) ++ "GRUB_CMDLINE_LINUX" ++
        '=' :: (value ++ (mentions after).flatMap ('\n' :: ·))) := by
  have found : grepQ "GRUB_CMDLINE_LINUX" (grubLine value) = true :=
    grepQ_append_right [] "GRUB_CMDLINE_LINUX" ('=' :: '"' :: (value ++ ['"']))
  rw [originGrubCmdline, List.filter_append, List.filter_cons_of_pos found, List.map_append,
    List.map_cons, joinWith_middle, grubLine, withoutQuotes_assignment (by simp) free]
  simp only [mentions, List.append_assoc, List.cons_append]

theorem mem_withoutQuotes_iff {line : Text} {c : Char} (other : c ≠ '"') :
    c ∈ withoutQuotes line ↔ c ∈ line := by
  simp [withoutQuotes, other]

/-- The value on the line is read without its quotation marks. -/
theorem originGrubCmdline_grubLine (sole : SoleMention before after) (free : '"' ∉ value) :
    originGrubCmdline (before ++ grubLine value :: after) = value := by
  have none : mentions after = [] := by
    rw [mentions, List.map_eq_nil_iff, List.filter_eq_nil_iff]
    intro line member
    rw [sole.after line member]
    exact Bool.false_ne_true
  have plain : '=' ∉ (mentions before).flatMap (· ++ ['\n']) ++ "GRUB_CMDLINE_LINUX" := by
    intro member
    rcases List.mem_append.mp member with early | name
    · obtain ⟨line, mentioned, inside⟩ := List.mem_flatMap.mp early
      obtain ⟨original, filtered, rfl⟩ := List.mem_map.mp mentioned
      obtain ⟨listed, matched⟩ := List.mem_filter.mp filtered
      rw [List.mem_append, mem_withoutQuotes_iff (by decide)] at inside
      exact sole.before original listed matched (inside.resolve_right (by decide))
    · simp at name
  rw [originGrubCmdline_eq free, behindFirst_append _ plain, none, List.flatMap_nil,
    List.append_nil]

/-- Any other mention of the variable brings a line break into the value. -/
theorem break_of_mention (other : ¬ SoleMention before after) (free : '"' ∉ value) :
    '\n' ∈ originGrubCmdline (before ++ grubLine value :: after) := by
  rw [originGrubCmdline_eq free]
  by_cases early : '=' ∈ (mentions before).flatMap (· ++ ['\n'])
  · obtain ⟨line, mentioned, inside⟩ := List.mem_flatMap.mp early
    obtain ⟨front, back, split⟩ := List.append_of_mem mentioned
    -- the first equals sign is not behind this line, which ends with a line break
    obtain ⟨left, right, parts, first⟩ : ∃ left right,
        front.flatMap (· ++ ['\n']) ++ line = left ++ '=' :: right ∧ '=' ∉ left := by
      have inLine : '=' ∈ line := by simpa using inside
      exact List.eq_append_cons_of_mem (List.mem_append_right _ inLine)
    have text : (mentions before).flatMap (· ++ ['\n']) ++ "GRUB_CMDLINE_LINUX" ++
        '=' :: (value ++ (mentions after).flatMap ('\n' :: ·)) =
          left ++ '=' :: (right ++ '\n' :: (back.flatMap (· ++ ['\n']) ++ "GRUB_CMDLINE_LINUX" ++
            '=' :: (value ++ (mentions after).flatMap ('\n' :: ·)))) := by
      rw [split, List.flatMap_append, List.flatMap_cons]
      calc
        _ = (front.flatMap (· ++ ['\n']) ++ line) ++ '\n' :: (back.flatMap (· ++ ['\n']) ++
              "GRUB_CMDLINE_LINUX" ++ '=' :: (value ++ (mentions after).flatMap ('\n' :: ·))) := by
          simp
        _ = _ := by rw [parts]; simp
    rw [text, behindFirst_append _ first]
    simp
  · have plain : '=' ∉ (mentions before).flatMap (· ++ ['\n']) ++ "GRUB_CMDLINE_LINUX" := by
      rw [List.mem_append]
      exact not_or.mpr ⟨early, by simp⟩
    rw [behindFirst_append _ plain]
    -- no line before the assignment is to blame
    have late : mentions after ≠ [] := by
      intro none
      refine other ⟨fun line member matched sign => early ?_, fun line member => ?_⟩
      · refine List.mem_flatMap.mpr ⟨withoutQuotes line, ?_, ?_⟩
        · exact List.mem_map_of_mem (List.mem_filter.mpr ⟨member, matched⟩)
        · exact List.mem_append_left _ ((mem_withoutQuotes_iff (by decide)).mpr sign)
      · rw [mentions, List.map_eq_nil_iff, List.filter_eq_nil_iff] at none
        exact Bool.eq_false_iff.mpr (none line member)
    obtain ⟨line, rest, some_mention⟩ := List.exists_cons_of_ne_nil late
    rw [some_mention]
    simp

theorem hostOriginalCmdline_recordLine (free : '"' ∉ value) :
    hostOriginalCmdline (recordLine value) = value := by
  rw [hostOriginalCmdline, recordLine, behindFirst_assignment value (by simp),
    withoutQuotes_quoted free]

theorem grubLine_injective : Function.Injective grubLine := by
  intro first second same
  unfold grubLine assignment at same
  have quoted := List.append_cancel_left same
  rw [List.cons.injEq, List.cons.injEq] at quoted
  exact List.append_cancel_right quoted.2.2

/-! ## Editing the files -/

theorem Ordinary.atoms {text : Text} (ordinary : Ordinary text) : atoms text = text.map wild := by
  apply atoms_wild
  intro c member
  have allowed := ordinary c member
  simp only [List.mem_cons, not_or] at allowed
  exact ⟨allowed.2.2.2.2.1, allowed.2.2.2.2.2.1⟩

theorem Ordinary.expand {text : Text} (ordinary : Ordinary text) (matched : Text) :
    expand matched text = text := by
  apply expand_inert
  intro c member
  have allowed := ordinary c member
  simp only [List.mem_cons, not_or] at allowed
  simp [active, allowed.2.2.2.1, allowed.2.2.2.2.1]

/-- The first run records the original. -/
theorem record_original (ordinary : Ordinary original) :
    substitute originalEmpty original (recordLine originalEmpty) = recordLine original := by
  have plain : ∀ c ∈ originalEmpty, special c = false := by
    unfold originalEmpty
    simp [special]
  have marker : 'h' ∈ originalEmpty := by
    unfold originalEmpty
    simp
  have front : 'h' ∉ (("HOST_ORIGINAL_CMDLINE" : Text) ++ ['=', '"']) := by
    simp
  have line : ∀ value, recordLine value =
      (("HOST_ORIGINAL_CMDLINE" : Text) ++ ['=', '"']) ++ (value ++ ['"']) := by
    intro value
    unfold recordLine assignment
    simp only [List.append_assoc, List.cons_append, List.nil_append]
  rw [line originalEmpty, line original,
    substitute_word original plain (List.ne_nil_of_mem marker), ordinary.expand]
  · intro left right split nonempty
    refine not_prefix_early _ marker (fun inside => front ?_) nonempty
    rw [split]
    exact List.mem_append_right left inside
  · intro inside
    have small : originalEmpty.length ≤ 1 := inside.length_le
    exact absurd small (by decide)

/-- A value that starts with the original is replaced on its line. -/
theorem substitute_grubLine (file : GrubFile original before after) {suffix target : Text}
    (ordinary : Ordinary (original ++ suffix)) (targetOrdinary : Ordinary target) :
    substitute (original ++ suffix) target (grubLine (original ++ suffix)) = grubLine target := by
  have pattern := ordinary.atoms
  have head := file.ordinary.atoms
  have split : atoms (original ++ suffix) = atoms original ++ suffix.map wild := by
    rw [pattern, head, List.map_append]
  have line : ∀ value, grubLine value =
      (("GRUB_CMDLINE_LINUX" : Text) ++ ['=', '"']) ++ (value ++ ['"']) := by
    intro value
    unfold grubLine assignment
    simp only [List.append_assoc, List.cons_append, List.nil_append]
  have opening : ("GRUB_CMDLINE_LINUX=\"" : Text) = ("GRUB_CMDLINE_LINUX" : Text) ++ ['=', '"'] :=
    rfl
  rw [line (original ++ suffix), line target,
    substitute_unique target _ (original ++ suffix) ['"'], targetOrdinary.expand]
  · rw [pattern]
    simpa using fun empty => absurd empty file.nonempty
  · rw [pattern, List.length_map]
  · rw [pattern]
    exact matchesHere_wild_self _
  · intro left right parts nonempty
    by_contra matched
    rw [Bool.not_eq_false, split] at matched
    have early := matchesHere_of_append matched
    rw [List.append_assoc original, ← List.append_assoc right,
      matchesHere_append_iff _ (by simp [head])] at early
    have inOriginal : grubLine original = left ++ ((right ++ original) ++ ['"']) := by
      rw [line, parts]
      simp only [List.append_assoc]
    have place := file.unique left _ inOriginal (matchesHere_append_left ['"'] early)
    rw [opening, parts] at place
    exact nonempty (List.append_right_eq_self.mp place.symm)
  · rintro ⟨left, right, parts, matched⟩
    rw [split] at matched
    have inOriginal : grubLine original =
        ((("GRUB_CMDLINE_LINUX" : Text) ++ ['=', '"']) ++ (original ++ left)) ++ right := by
      rw [line, parts]
      simp only [List.append_assoc]
    have place := file.unique _ right inOriginal (matchesHere_of_append matched)
    rw [opening] at place
    have empty := List.append_right_eq_self.mp place
    exact file.nonempty (List.append_eq_nil_iff.mp empty).1

/-- The other lines keep their text. -/
theorem substitute_elsewhere (file : GrubFile original before after) {suffix : Text}
    (target : Text) (ordinary : Ordinary (original ++ suffix)) {line : Text}
    (member : line ∈ before ++ after) : substitute (original ++ suffix) target line = line := by
  apply substitute_of_not_occurs
  rintro ⟨left, right, rfl, matched⟩
  rw [ordinary.atoms, List.map_append, ← file.ordinary.atoms] at matched
  exact file.elsewhere _ member ⟨left, right, rfl, matchesHere_of_append matched⟩

theorem map_substitute_grub (file : GrubFile original before after) {suffix target : Text}
    (ordinary : Ordinary (original ++ suffix)) (targetOrdinary : Ordinary target) :
    (before ++ grubLine (original ++ suffix) :: after).map (substitute (original ++ suffix) target) =
      before ++ grubLine target :: after := by
  have keep : ∀ lines : List Text, (∀ line ∈ lines, line ∈ before ++ after) →
      lines.map (substitute (original ++ suffix) target) = lines := by
    intro lines inside
    conv_rhs => rw [← List.map_id lines]
    exact List.map_congr_left fun line member =>
      substitute_elsewhere file target ordinary (inside line member)
  rw [List.map_append, List.map_cons, substitute_grubLine file ordinary targetOrdinary,
    keep before fun line member => List.mem_append_left after member,
    keep after fun line member => List.mem_append_right before member]

/-! ## Sequences of runs -/

/-- The value that a run aims at. -/
def targetOf (original : Text) (env : PrepareEnv) : Text := original ++ " " ++ env.cmdLineStr

/-- The files hold the original with some addition, and its record unless nothing was added yet. -/
def Tuned (original : Text) (before after : List Text) (suffix : Text) (files : BootFiles) : Prop :=
  files.grub = before ++ grubLine (original ++ suffix) :: after ∧ Ordinary (original ++ suffix) ∧
    (files.record = recordLine original ∨ files.record = recordLine originalEmpty ∧ suffix = [])

theorem ordinary_targetOf {env : PrepareEnv} (ordinary : Ordinary original)
    (envOrdinary : env.Ordinary) : Ordinary (targetOf original env) :=
  ordinary.spaced envOrdinary.cmdLineStr

theorem not_mem_newline {text : Text} (ordinary : Ordinary text) : '\n' ∉ text :=
  ordinary.not_mem (by simp)

/-- The command that records the original. -/
theorem sedCommand_record (ordinary : Ordinary original) :
    sedCommand originalEmpty original = some (substitute originalEmpty original) := by
  refine sedCommand_of_oneLine ?_ ?_ (not_mem_newline ordinary)
  · exact List.cons_ne_nil _ _
  · unfold originalEmpty
    simp

/-- With the initial record the value of the file is recorded. -/
theorem record_first (ordinary : Ordinary value) :
    (if hostOriginalCmdline (recordLine originalEmpty) = originalEmpty then
        (sedCommand originalEmpty value).map fun edit => edit (recordLine originalEmpty)
      else some (recordLine originalEmpty)) = some (recordLine value) := by
  have emptyFree : '"' ∉ originalEmpty := by
    unfold originalEmpty
    simp
  rw [if_pos (hostOriginalCmdline_recordLine emptyFree), sedCommand_record ordinary,
    Option.map_some, record_original ordinary]

theorem record_step (ordinary : Ordinary original) (fresh : original ≠ originalEmpty)
    {suffix : Text} {files : BootFiles} (tuned : Tuned original before after suffix files) :
    (if hostOriginalCmdline files.record = originalEmpty then
        (sedCommand originalEmpty (original ++ suffix)).map fun edit => edit files.record
      else some files.record) = some (recordLine original) := by
  have quoteFree : '"' ∉ original := ordinary.not_mem List.mem_cons_self
  obtain ⟨-, -, recorded | ⟨empty, rfl⟩⟩ := tuned
  · rw [recorded, hostOriginalCmdline_recordLine quoteFree, if_neg fresh]
  · rw [empty, List.append_nil]
    exact record_first ordinary

/-- A run that records the original or finds it recorded writes it in front of the parameters. -/
theorem checkCmdline_recorded (file : GrubFile original before after)
    (sole : SoleMention before after) {suffix recorded : Text} {files : BootFiles}
    {env : PrepareEnv} (envOrdinary : env.Ordinary)
    (contents : files.grub = before ++ grubLine (original ++ suffix) :: after)
    (ordinary : Ordinary (original ++ suffix)) (recordedOrdinary : Ordinary recorded)
    (step : (if hostOriginalCmdline files.record = originalEmpty then
        (sedCommand originalEmpty (original ++ suffix)).map fun edit => edit files.record
      else some files.record) = some (recordLine recorded)) :
    checkCmdline env files =
      ({ grub := before ++ grubLine (targetOf recorded env) :: after
         record := recordLine recorded },
        some (decide (original ++ suffix ≠ targetOf recorded env))) := by
  have origin : originGrubCmdline files.grub = original ++ suffix := by
    rw [contents]
    exact originGrubCmdline_grubLine sole (ordinary.not_mem List.mem_cons_self)
  have known : hostOriginalCmdline (recordLine recorded) = recorded :=
    hostOriginalCmdline_recordLine (recordedOrdinary.not_mem List.mem_cons_self)
  have targetOrdinary := ordinary_targetOf recordedOrdinary envOrdinary
  unfold checkCmdline
  simp only [origin, step, known]
  change (if original ++ suffix ≠ targetOf recorded env then _ else _) = _
  by_cases same : original ++ suffix = targetOf recorded env
  · rw [if_neg (not_not.mpr same), contents, same]
    simp
  · have command : sedCommand (original ++ suffix) (recorded ++ " " ++ env.cmdLineStr) =
        some (substitute (original ++ suffix) (targetOf recorded env)) := by
      refine sedCommand_of_oneLine ?_ (not_mem_newline ordinary) (not_mem_newline targetOrdinary)
      exact fun empty => file.nonempty (List.append_eq_nil_iff.mp empty).1
    rw [if_pos same, command, contents]
    simp only [map_substitute_grub file ordinary targetOrdinary, same, ne_eq, not_false_eq_true,
      decide_true]

/-- What one run does to tuned files. -/
theorem checkCmdline_tuned (file : GrubFile original before after)
    (sole : SoleMention before after) (fresh : original ≠ originalEmpty) {suffix : Text}
    {files : BootFiles} {env : PrepareEnv} (envOrdinary : env.Ordinary)
    (tuned : Tuned original before after suffix files) :
    checkCmdline env files =
      ({ grub := before ++ grubLine (targetOf original env) :: after
         record := recordLine original },
        some (decide (original ++ suffix ≠ targetOf original env))) :=
  checkCmdline_recorded file sole envOrdinary tuned.1 tuned.2.1 file.ordinary
    (record_step file.ordinary fresh tuned)

theorem targetOf_eq (original : Text) (env : PrepareEnv) :
    targetOf original env = original ++ (" " ++ env.cmdLineStr) := List.append_assoc _ _ _

theorem tuned_checkCmdline (file : GrubFile original before after)
    (sole : SoleMention before after) (fresh : original ≠ originalEmpty) {suffix : Text}
    {files : BootFiles} {env : PrepareEnv} (envOrdinary : env.Ordinary)
    (tuned : Tuned original before after suffix files) :
    Tuned original before after (" " ++ env.cmdLineStr) (checkCmdline env files).1 := by
  rw [checkCmdline_tuned file sole fresh envOrdinary tuned]
  refine ⟨by rw [targetOf_eq], ?_, Or.inl rfl⟩
  rw [← targetOf_eq]
  exact ordinary_targetOf file.ordinary envOrdinary

/-- Before the first run. -/
def untouched (original : Text) (before after : List Text) : BootFiles where
  grub := before ++ grubLine original :: after
  record := recordLine originalEmpty

theorem tuned_untouched (ordinary : Ordinary original) (before after : List Text) :
    Tuned original before after [] (untouched original before after) := by
  refine ⟨by rw [List.append_nil]; rfl, ?_, Or.inr ⟨rfl, rfl⟩⟩
  rwa [List.append_nil]

theorem tuned_after (file : GrubFile original before after) (sole : SoleMention before after)
    (fresh : original ≠ originalEmpty) {suffix : Text} {files : BootFiles}
    (tuned : Tuned original before after suffix files) (envs : List PrepareEnv)
    (ordinary : ∀ env ∈ envs, env.Ordinary) :
    ∃ later, Tuned original before after later (bootFilesAfter files envs) := by
  induction envs generalizing suffix files with
  | nil => exact ⟨suffix, tuned⟩
  | cons env envs induction =>
      have next := tuned_checkCmdline file sole fresh (ordinary env List.mem_cons_self) tuned
      exact induction next fun other member => ordinary other (List.mem_cons_of_mem env member)

/-! ## What the tuning is for -/

/-- After every run of every sequence the value is the original followed by the text of that run,
the other lines are as they were, the original is on record, the file is updated exactly if the
value was another one, and the same run again changes nothing. -/
def NeverAccumulates (original : Text) (before after : List Text) : Prop :=
  ∀ (envs : List PrepareEnv) (env : PrepareEnv), (∀ other ∈ env :: envs, other.Ordinary) →
    let files := bootFilesAfter (untouched original before after) envs
    let result := checkCmdline env files
    let target := original ++ " " ++ env.cmdLineStr
    ∃ value, files.grub = before ++ grubLine value :: after ∧
      result.1.grub = before ++ grubLine target :: after ∧
      hostOriginalCmdline result.1.record = original ∧
      result.2 = some (decide (value ≠ target)) ∧ (result.1.grub ≠ files.grub ↔ value ≠ target) ∧
      checkCmdline env result.1 = (result.1, some false)

theorem neverAccumulates_of_sole (file : GrubFile original before after)
    (sole : SoleMention before after) (fresh : original ≠ originalEmpty) :
    NeverAccumulates original before after := by
  intro envs env ordinary files result target
  have envOrdinary := ordinary env List.mem_cons_self
  obtain ⟨suffix, tuned⟩ := tuned_after file sole fresh
    (tuned_untouched file.ordinary before after) envs fun other member =>
      ordinary other (List.mem_cons_of_mem env member)
  have ran : result = _ := checkCmdline_tuned file sole fresh envOrdinary tuned
  have again := checkCmdline_tuned file sole fresh envOrdinary
    (tuned_checkCmdline file sole fresh envOrdinary tuned)
  refine ⟨original ++ suffix, tuned.1, by rw [ran]; rfl, ?_, by rw [ran]; rfl, ?_, ?_⟩
  · rw [ran]
    exact hostOriginalCmdline_recordLine (file.ordinary.not_mem List.mem_cons_self)
  · rw [ran, tuned.1]
    refine not_congr ⟨fun same => ?_, fun same => ?_⟩
    · have lines := List.append_cancel_left same
      rw [List.cons.injEq] at lines
      exact (grubLine_injective lines.1).symm
    · rw [same]
      rfl
  · rw [decide_eq_false (not_not.mpr (targetOf_eq original env).symm)] at again
    rw [ran]
    rw [checkCmdline_tuned file sole fresh envOrdinary tuned] at again
    exact again

theorem ne_targetOf (original : Text) (env : PrepareEnv) : original ≠ targetOf original env := by
  intro same
  have length := congrArg List.length same
  rw [targetOf_eq, List.length_append, List.length_append] at length
  have blank : (" " : Text).length = 1 := rfl
  omega

/-- The grub file of a run that meets its promise is not the file before the first run. -/
theorem grub_ne_target (original : Text) (before after : List Text) (env : PrepareEnv) :
    before ++ grubLine original :: after ≠ before ++ grubLine (targetOf original env) :: after := by
  intro same
  have lines := List.append_cancel_left same
  rw [List.cons.injEq] at lines
  exact ne_targetOf original env (grubLine_injective lines.1)

/-- With another mention of the variable the first run fails. -/
theorem checkCmdline_of_mention (file : GrubFile original before after)
    (other : ¬ SoleMention before after) (env : PrepareEnv) :
    checkCmdline env (untouched original before after) =
      (untouched original before after, none) := by
  have quoteFree : '"' ∉ original := file.ordinary.not_mem List.mem_cons_self
  have emptyFree : '"' ∉ originalEmpty := by
    unfold originalEmpty
    simp
  have empty : hostOriginalCmdline (untouched original before after).record = originalEmpty :=
    hostOriginalCmdline_recordLine emptyFree
  have failed : sedCommand originalEmpty
      (originGrubCmdline (untouched original before after).grub) = none :=
    sedCommand_of_break (List.mem_append_right _ (break_of_mention other quoteFree))
  unfold checkCmdline
  simp only [empty, if_true, failed, Option.map_none]

/-- The second run takes a recorded value for a missing one, if it is the initial record. -/
theorem checkCmdline_of_marker (file : GrubFile originalEmpty before after)
    (sole : SoleMention before after) :
    (bootFilesAfter (untouched originalEmpty before after) [.host, .host]).grub =
      before ++ grubLine (targetOf (targetOf originalEmpty .host) .host) :: after := by
  have hostOrdinary : PrepareEnv.host.Ordinary := trivial
  have tuned := tuned_untouched file.ordinary before after
  have first := checkCmdline_recorded file sole hostOrdinary tuned.1 tuned.2.1 file.ordinary
    (by rw [List.append_nil]; exact record_first file.ordinary)
  have targetOrdinary := ordinary_targetOf file.ordinary hostOrdinary
  have second := @checkCmdline_recorded originalEmpty before after file sole
    (" " ++ PrepareEnv.host.cmdLineStr) (targetOf originalEmpty .host)
    { grub := before ++ grubLine (targetOf originalEmpty .host) :: after
      record := recordLine originalEmpty } .host hostOrdinary (by rw [targetOf_eq])
    (by rwa [← targetOf_eq]) targetOrdinary (by
      rw [← targetOf_eq]
      exact record_first targetOrdinary)
  rw [bootFilesAfter, bootFilesAfter, bootFilesAfter, first, second]

/-- The parameters never accumulate if no other line mentions the variable in the way of the one
that sets it, and the original is not the text that stands for a missing record.  On files whose
lines with the name have no bar and no backslash, they never accumulate only then. -/
theorem neverAccumulates_iff (original : Text) (before after : List Text)
    (file : GrubFile original before after) :
    (original ≠ originalEmpty ∧ SoleMention before after →
      NeverAccumulates original before after) ∧
    ((∀ line ∈ before ++ after, grepQ "GRUB_CMDLINE_LINUX" line = true →
        '|' ∉ line ∧ '\\' ∉ line) →
      NeverAccumulates original before after →
        original ≠ originalEmpty ∧ SoleMention before after) := by
  refine ⟨fun ⟨fresh, sole⟩ => neverAccumulates_of_sole file sole fresh, fun _ never => ?_⟩
  have hostOrdinary : ∀ count, ∀ env ∈ List.replicate count PrepareEnv.host, env.Ordinary := by
    intro count env member
    rw [List.eq_of_mem_replicate member]
    trivial
  have sole : SoleMention before after := by
    by_contra other
    obtain ⟨value, -, tuned, -⟩ := never [] .host (hostOrdinary 1)
    have failed := checkCmdline_of_mention file other .host
    rw [bootFilesAfter, failed] at tuned
    exact grub_ne_target original before after .host tuned
  refine ⟨?_, sole⟩
  rintro rfl
  obtain ⟨value, -, tuned, -⟩ := never [.host] .host (hostOrdinary 2)
  have marked := checkCmdline_of_marker file sole
  rw [bootFilesAfter, bootFilesAfter, bootFilesAfter] at marked
  rw [bootFilesAfter, bootFilesAfter, marked] at tuned
  have lines := List.append_cancel_left tuned
  rw [List.cons.injEq] at lines
  exact ne_targetOf _ .host (grubLine_injective lines.1).symm

theorem unique_of_offsets (opening : Nat)
    (offsets : ∀ k ≤ (grubLine original).length,
      matchesHere (atoms original) ((grubLine original).drop k) = true → k = opening)
    (prefixed : (grubLine original).take opening = "GRUB_CMDLINE_LINUX=\"") :
    ∀ left right, grubLine original = left ++ right →
      matchesHere (atoms original) right = true → left = "GRUB_CMDLINE_LINUX=\"" := by
  intro left right split matched
  have place : left.length = opening := by
    apply offsets
    · rw [split, List.length_append]
      omega
    · rwa [split, List.drop_left]
  rw [← prefixed, split, ← place, List.take_left]

/-- A file with the given other line. -/
theorem grubFile_quiet_of {line : Text} (single : ¬ ("GRUB_CMDLINE_LINUX=" : Text) <+: line)
    (elsewhere : 'q' ∉ line) : GrubFile "quiet" [line] [] where
  nonempty := by simp
  ordinary := by
    unfold Ordinary
    simp
  single := by
    intro other member
    rw [List.append_nil, List.mem_singleton] at member
    exact member ▸ single
  elsewhere := by
    intro other member
    rw [List.append_nil, List.mem_singleton] at member
    subst member
    rw [atoms_plain (by simp [special])]
    exact not_occurs_of_not_mem (c := 'q') (by simp) elsewhere
  unique := unique_of_offsets 20 (by decide +kernel) (by decide +kernel)

theorem grubFile_quiet : GrubFile "quiet" ["GRUB_TIMEOUT=5"] [] :=
  grubFile_quiet_of (by decide) (by simp)

theorem sole_quiet : SoleMention ["GRUB_TIMEOUT=5"] [] where
  before := by
    intro line member matched
    rw [List.mem_singleton.mp member] at matched
    exact absurd matched (by decide)
  after := by simp

theorem neverAccumulates_iff_quiet :
    (checkCmdline (.guest "isolcpus=8-23")
      (bootFilesAfter (untouched "quiet" ["GRUB_TIMEOUT=5"] []) [.host])).1.grub =
        [("GRUB_TIMEOUT=5" : Text),
          grubLine ("quiet" ++ " " ++ (PrepareEnv.guest "isolcpus=8-23").cmdLineStr)] := by
  have never := (neverAccumulates_iff "quiet" ["GRUB_TIMEOUT=5"] [] grubFile_quiet).1
    ⟨by decide, sole_quiet⟩
  obtain ⟨value, -, tuned, -⟩ := never [.host] (.guest "isolcpus=8-23")
    (by simp [PrepareEnv.Ordinary, Ordinary])
  exact tuned

/-- A line for another variable with the same beginning ends the first run. -/
theorem accumulates_default :
    GrubFile "quiet" ["GRUB_CMDLINE_LINUX_DEFAULT=\"splash\""] [] ∧
      ¬ NeverAccumulates "quiet" ["GRUB_CMDLINE_LINUX_DEFAULT=\"splash\""] [] := by
  have file : GrubFile "quiet" ["GRUB_CMDLINE_LINUX_DEFAULT=\"splash\""] [] :=
    grubFile_quiet_of (by decide) (by simp)
  refine ⟨file, fun never => ?_⟩
  have other : ¬ SoleMention ["GRUB_CMDLINE_LINUX_DEFAULT=\"splash\""] [] := by
    intro sole
    exact sole.before _ (List.mem_singleton_self _) (by decide +kernel) (by simp)
  obtain ⟨value, -, tuned, -⟩ := never [] .host (by simp [PrepareEnv.Ordinary])
  rw [bootFilesAfter, checkCmdline_of_mention file other .host] at tuned
  exact grub_ne_target _ _ _ .host tuned

end Vm
