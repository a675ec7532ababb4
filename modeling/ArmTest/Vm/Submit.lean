import ArmTest.Shell.Command
import ArmTest.Shell.Sed
import ArmTest.Vm.Pinning

/-!
# Submit lines of the processor benchmark

`install_spec_cpu` composes a command line that binds every copy of the benchmark to one processor
and edits it into the configuration files of the host and of the guest with `sed`.  This file
follows the line through both substitutions and runs what stands in the files.
-/

namespace Vm

open Shell Linux

/-! ## Composing and editing the lines -/

/-- The variable `host_spec_config_submit`. -/
def hostSpecConfigSubmit (memNumaNode firstStart secondStart : Text) : Text :=
  if secondStart ≠ "none" then
    "[ `expr $SPECCOPYNUM % 2` == 0 ] && numactl --membind=" ++ memNumaNode ++
      " --physcpubind=`expr " ++ firstStart ++ " + $SPECCOPYNUM / 2` $command  \\|\\| numactl" ++
      " --membind=" ++ memNumaNode ++ " --physcpubind=`expr " ++ secondStart ++
      " + $SPECCOPYNUM / 2` $command"
  else
    "numactl --membind=" ++ memNumaNode ++ " --physcpubind=`expr " ++ firstStart ++
      " + $SPECCOPYNUM` $command"

/-- The variable `guest_spec_config_submit`. -/
def guestSpecConfigSubmit : Text := "numactl --membind=0 --physcpubind=$SPECCOPYNUM $command"

/-- A line of the host configuration after `sed`. -/
def hostCfgLine (submit line : Text) : Text := substitute "#SUBMIT#" submit line

/-- A line of the guest configuration, copied from the host and edited again. -/
def guestCfgLine (submit line : Text) : Text :=
  substitute submit guestSpecConfigSubmit (hostCfgLine submit line)

/-! ## Running the lines -/

/-- The value of a word of a submit line for one copy of the benchmark. -/
def submitArg (copy : Nat) (word : Text) : Option Nat :=
  if word = "$SPECCOPYNUM" then some copy else parseNat? word

/-- The value of a word that may be a backquoted command. -/
def submitWord (copy : Nat) : Text → Option Nat
  | '`' :: command => expr (submitArg copy) (command.dropLast.splitOn ' ')
  | word => submitArg copy word

/-- The processor that `numactl` binds its command to. -/
def physcpubind (copy : Nat) (options : List Text) : Option Nat :=
  options.findSome? fun option =>
    if ("--physcpubind=" : Text) <+: option then submitWord copy (option.drop 14) else none

/-- The command `[` on its arguments. -/
def submitTest (copy : Nat) : List Text → Bool
  | [left, operator, right, close] =>
      operator = "==" ∧ close = "]" ∧ submitWord copy left = submitWord copy right
  | _ => false

/-- One command of a submit line: the processors on which the benchmark runs, and success. -/
def submitCommand (copy : Nat) (success : Bool) : List Text → List Nat × Bool
  | [] => ([], true)
  | name :: args =>
      if name = "[" then
        ([], submitTest copy args)
      else if name = "numactl" ∧ args.getLast? = some ("$command" : Text) then
        ((physcpubind copy args).toList, success)
      else
        ([], false)

/-- The processors on which a line of a configuration runs a copy; the benchmark ends with the
given success. -/
def boundCpus (copy : Nat) (success : Bool) (line : Text) : List Nat :=
  runLine (submitCommand copy success) line

/-- Host and guest lines run every copy on one processor, the same from both sides. -/
def BindingsAgree (vcpuNum : Nat) (file : CpuListFile) (hostLine guestLine : Text) : Prop :=
  ∃ pins, (file.lookup .vmCpuTune).bind vcpuPins = some pins ∧
    (∀ copy < vcpuNum, ∀ success, ∃ cpu,
      boundCpus copy success hostLine = [cpu] ∧ boundCpus copy success guestLine = [copy] ∧
        pins.lookup copy = some cpu) ∧
    (∀ copy < vcpuNum, ∀ other < vcpuNum, copy ≠ other → ∀ success,
      boundCpus copy success hostLine ≠ boundCpus other success hostLine) ∧
    ∀ copies ≤ vcpuNum, ∀ success,
      { cpu | ∃ copy < copies, cpu ∈ boundCpus copy success hostLine } =
        { cpu | ∃ copy < copies, ∃ vcpu ∈ boundCpus copy success guestLine,
          pins.lookup vcpu = some cpu }

/-! ## The lines in the files -/

/-- The text in front of a placeholder that the template may have. -/
def PlainOption (option : Text) : Prop := '#' ∉ option ∧ '`' ∉ option ∧ '&' ∉ option

theorem hostCfgLine_option {option : Text} (submit : Text) (noHash : '#' ∉ option) :
    hostCfgLine submit (option ++ "#SUBMIT#") = option ++ expand "#SUBMIT#" submit :=
  substitute_end submit (by simp [special]) (by simp) noHash

/-- The submit line of a node with one range. -/
def oneSubmit (memNumaNode firstStart : Nat) : Text :=
  "numactl --membind=" ++ decimal memNumaNode ++ " --physcpubind=`expr " ++ decimal firstStart ++
    " + $SPECCOPYNUM` $command"

/-- The beginning of the submit line of a node with two ranges, up to the first connective. -/
def paritySubmit : Text := "[ `expr $SPECCOPYNUM % 2` == 0 ] "

/-- The rest of that line. -/
def branchSubmit (memNumaNode firstStart secondStart : Nat) : Text :=
  " numactl --membind=" ++ decimal memNumaNode ++ " --physcpubind=`expr " ++ decimal firstStart ++
    " + $SPECCOPYNUM / 2` $command  \\|\\| numactl --membind=" ++ decimal memNumaNode ++
    " --physcpubind=`expr " ++ decimal secondStart ++ " + $SPECCOPYNUM / 2` $command"

theorem hostSpecConfigSubmit_one (memNumaNode firstStart : Nat) :
    hostSpecConfigSubmit (decimal memNumaNode) (decimal firstStart) "none" =
      oneSubmit memNumaNode firstStart := by
  unfold hostSpecConfigSubmit
  rw [if_neg (not_not.mpr rfl)]
  rfl

theorem hostSpecConfigSubmit_two (memNumaNode firstStart secondStart : Nat) :
    hostSpecConfigSubmit (decimal memNumaNode) (decimal firstStart) (decimal secondStart) =
      paritySubmit ++ '&' :: '&' :: branchSubmit memNumaNode firstStart secondStart := by
  have number : decimal secondStart ≠ "none" := by
    intro same
    have digit : 'n'.isDigit = true := isDigit_of_mem_decimal (by rw [same]; simp)
    simp at digit
  have opening : ("[ `expr $SPECCOPYNUM % 2` == 0 ] && numactl --membind=" : Text) =
      "[ `expr $SPECCOPYNUM % 2` == 0 ] " ++ '&' :: '&' :: " numactl --membind=" := rfl
  have middle : (" + $SPECCOPYNUM / 2` $command  \\|\\| numactl --membind=" : Text) =
      " + $SPECCOPYNUM / 2` $command  \\|\\| numactl" ++ " --membind=" := rfl
  unfold hostSpecConfigSubmit paritySubmit branchSubmit
  rw [if_pos number, opening, middle]
  simp only [List.append_assoc, List.cons_append]

/-! ## One range -/

theorem literal_oneSubmit {memNumaNode firstStart : Nat} {c : Char}
    (member : c ∈ oneSubmit memNumaNode firstStart) : Literal c := by
  have front : ∀ c ∈ ("numactl --membind=" : Text), Literal c := by
    simp [Literal, special, active]
  have middle : ∀ c ∈ (" --physcpubind=`expr " : Text), Literal c := by
    simp [Literal, special, active]
  have back : ∀ c ∈ (" + $SPECCOPYNUM` $command" : Text), Literal c := by
    simp [Literal, special, active]
  unfold oneSubmit at member
  simp only [List.mem_append] at member
  rcases member with (((first | second) | third) | fourth) | fifth
  · exact front c first
  · exact literal_of_isDigit (isDigit_of_mem_decimal second)
  · exact middle c third
  · exact literal_of_isDigit (isDigit_of_mem_decimal fourth)
  · exact back c fifth

theorem quote_mem_oneSubmit (memNumaNode firstStart : Nat) :
    '`' ∈ oneSubmit memNumaNode firstStart := by
  have inside : '`' ∈ (" + $SPECCOPYNUM` $command" : Text) := by
    simp
  unfold oneSubmit
  exact List.mem_append_right _ inside

theorem hostCfgLine_one {option : Text} (memNumaNode firstStart : Nat)
    (plain : PlainOption option) :
    hostCfgLine (oneSubmit memNumaNode firstStart) (option ++ "#SUBMIT#") =
      option ++ oneSubmit memNumaNode firstStart := by
  rw [hostCfgLine_option _ plain.1, expand_inert _ fun c member => (literal_oneSubmit member).2]

theorem guestCfgLine_one {option : Text} (memNumaNode firstStart : Nat)
    (plain : PlainOption option) :
    guestCfgLine (oneSubmit memNumaNode firstStart) (option ++ "#SUBMIT#") =
      option ++ guestSpecConfigSubmit := by
  have inert : ∀ c ∈ guestSpecConfigSubmit, active c = false := by
    unfold guestSpecConfigSubmit
    simp [active]
  rw [guestCfgLine, hostCfgLine_one memNumaNode firstStart plain,
    substitute_end guestSpecConfigSubmit (fun c member => (literal_oneSubmit member).1)
      (quote_mem_oneSubmit _ _) plain.2.1, expand_inert _ inert]

/-- The backquoted command of the line. -/
def oneExpr (firstStart : Nat) : Text := "expr " ++ decimal firstStart ++ " + $SPECCOPYNUM"

theorem shellWords_oneSubmit (memNumaNode firstStart : Nat) :
    shellWords (oneSubmit memNumaNode firstStart) =
      [("numactl" : Text), "--membind=" ++ decimal memNumaNode,
        "--physcpubind=" ++ '`' :: (oneExpr firstStart ++ ['`']), "$command"] := by
  have pieces : oneSubmit memNumaNode firstStart =
      "numactl" ++ ' ' :: ("--membind=" ++ (decimal memNumaNode ++ ' ' :: ("--physcpubind=" ++
        '`' :: (oneExpr firstStart ++ '`' :: ' ' :: (("$command" : Text) ++ []))))) := by
    have front : ("numactl --membind=" : Text) = "numactl" ++ ' ' :: "--membind=" := rfl
    have middle : (" --physcpubind=`expr " : Text) = ' ' :: ("--physcpubind=" ++ '`' :: "expr ") :=
      rfl
    have back : (" + $SPECCOPYNUM` $command" : Text) =
      " + $SPECCOPYNUM" ++ '`' :: ' ' :: "$command" := rfl
    unfold oneSubmit oneExpr
    rw [front, middle, back]
    simp only [List.append_assoc, List.cons_append, List.append_nil]
  have quoteFree : '`' ∉ oneExpr firstStart := by
    unfold oneExpr
    simp [not_mem_decimal]
  have digits : ∀ n, ' ' ∉ decimal n ∧ '`' ∉ decimal n := fun n =>
    ⟨not_mem_decimal rfl, not_mem_decimal rfl⟩
  have words : wordsFrom false [] (oneSubmit memNumaNode firstStart) =
      [("numactl" : Text), "--membind=" ++ decimal memNumaNode,
        "--physcpubind=" ++ '`' :: (oneExpr firstStart ++ ['`']), "$command"] := by
    rw [pieces, wordsFrom_plain _ _ (by simp) (by simp), wordsFrom_blank _ (by simp),
      wordsFrom_plain _ _ (by simp) (by simp),
      wordsFrom_plain _ _ (digits memNumaNode).1 (digits memNumaNode).2,
      wordsFrom_blank _ (by simp), wordsFrom_plain _ _ (by simp) (by simp),
      wordsFrom_quoted _ _ quoteFree, wordsFrom_blank _ (by simp),
      wordsFrom_plain _ _ (by simp) (by simp), wordsFrom_end (by simp)]
    rfl
  rw [shellWords, words]
  rfl

theorem physcpubind_one (copy memNumaNode firstStart : Nat) :
    physcpubind copy ["--membind=" ++ decimal memNumaNode,
      "--physcpubind=" ++ '`' :: (oneExpr firstStart ++ ['`']), "$command"] =
        some (firstStart + copy) := by
  have other : ¬ ("--physcpubind=" : Text) <+: "--membind=" ++ decimal memNumaNode := by
    simp
  have option : ("--physcpubind=" : Text) <+:
      "--physcpubind=" ++ '`' :: (oneExpr firstStart ++ ['`']) := List.prefix_append _ _
  have value : ("--physcpubind=" ++ '`' :: (oneExpr firstStart ++ ['`'])).drop 14 =
      '`' :: (oneExpr firstStart ++ ['`']) := rfl
  have words : (oneExpr firstStart).splitOn ' ' =
      [("expr" : Text), decimal firstStart, "+", "$SPECCOPYNUM"] := by
    have joined : oneExpr firstStart =
        joinWith ' ' [("expr" : Text), decimal firstStart, "+", "$SPECCOPYNUM"] := by
      unfold oneExpr
      simp [joinWith]
    rw [joined]
    apply splitOn_joinWith (List.cons_ne_nil _ _)
    simp [not_mem_decimal]
  have number : decimal firstStart ≠ "$SPECCOPYNUM" := by
    intro same
    have digit : '$'.isDigit = true := isDigit_of_mem_decimal (by rw [same]; simp)
    simp at digit
  have argument : submitArg copy (decimal firstStart) = some firstStart := by
    rw [submitArg, if_neg number, parseNat?_decimal]
  have copyArgument : submitArg copy "$SPECCOPYNUM" = some copy := if_pos rfl
  rw [physcpubind, List.findSome?_cons, if_neg other, List.findSome?_cons, if_pos option, value,
    submitWord, List.dropLast_concat, words, expr, if_pos rfl, argument, Option.bind_some,
    exprLoop, copyArgument, Option.bind_some, if_pos rfl, exprLoop, Nat.zero_add]

theorem boundCpus_one (copy memNumaNode firstStart : Nat) (success : Bool) :
    boundCpus copy success (oneSubmit memNumaNode firstStart) = [firstStart + copy] := by
  have connected : ∀ word ∈ [("numactl" : Text), "--membind=" ++ decimal memNumaNode,
      "--physcpubind=" ++ '`' :: (oneExpr firstStart ++ ['`']), "$command"],
      word ≠ "&&" ∧ word ≠ "||" := by
    simp
  rw [boundCpus, runLine_simple (shellWords_oneSubmit memNumaNode firstStart) connected,
    submitCommand, if_neg (by decide), if_pos ⟨rfl, rfl⟩, physcpubind_one]
  rfl

theorem boundCpus_guest (copy : Nat) (success : Bool) :
    boundCpus copy success guestSpecConfigSubmit = [copy] := by
  have split : shellWords guestSpecConfigSubmit =
      [("numactl" : Text), "--membind=0", "--physcpubind=$SPECCOPYNUM", "$command"] := by
    decide
  rw [boundCpus, runLine_simple split (by decide)]
  rfl

/-! ## Two ranges -/

/-- The file of a node with two ranges: each ampersand became the placeholder again. -/
theorem hostCfgLine_two {option : Text} (memNumaNode firstStart secondStart : Nat)
    (plain : PlainOption option) :
    ∃ rest, hostCfgLine
        (paritySubmit ++ '&' :: '&' :: branchSubmit memNumaNode firstStart secondStart)
        (option ++ "#SUBMIT#") =
      option ++ (paritySubmit ++ ("#SUBMIT##SUBMIT#" ++ ' ' :: rest)) := by
  have inert : ∀ c ∈ paritySubmit, active c = false := by
    unfold paritySubmit
    simp [active]
  have blank : ∃ tail, branchSubmit memNumaNode firstStart secondStart = ' ' :: tail := by
    unfold branchSubmit
    exact ⟨_, rfl⟩
  obtain ⟨tail, isTail⟩ := blank
  refine ⟨expand "#SUBMIT#" tail, ?_⟩
  rw [hostCfgLine_option _ plain.1, expand_append _ _ inert, expand_ampersand, expand_ampersand,
    isTail, expand_cons _ _ (by decide)]
  rfl

/-- What follows the placeholder is a comment, so no copy is started. -/
theorem boundCpus_two (copy : Nat) (success : Bool) (rest : Text) :
    boundCpus copy success (paritySubmit ++ ("#SUBMIT##SUBMIT#" ++ ' ' :: rest)) = [] := by
  have pieces : paritySubmit ++ (("#SUBMIT##SUBMIT#" : Text) ++ ' ' :: rest) =
      "[" ++ ' ' :: ("" ++ '`' :: ("expr $SPECCOPYNUM % 2" ++ '`' :: ' ' :: ("==" ++ ' ' ::
        ("0" ++ ' ' :: ("]" ++ ' ' :: ("#SUBMIT##SUBMIT#" ++ ' ' :: rest)))))) := by
    have parity : paritySubmit = "[" ++ ' ' :: ("" ++ '`' :: ("expr $SPECCOPYNUM % 2" ++ '`' ::
        ' ' :: ("==" ++ ' ' :: ("0" ++ ' ' :: ("]" ++ [' ']))))) := rfl
    rw [parity]
    simp only [List.append_assoc, List.cons_append, List.nil_append]
  have words : wordsFrom false [] (paritySubmit ++ ("#SUBMIT##SUBMIT#" ++ ' ' :: rest)) =
      [("[" : Text), "`expr $SPECCOPYNUM % 2`", "==", "0", "]"] ++
        ("#SUBMIT##SUBMIT#" : Text) :: wordsFrom false [] rest := by
    rw [pieces, wordsFrom_plain _ _ (by simp) (by simp), wordsFrom_blank _ (by simp),
      wordsFrom_plain _ _ (by simp) (by simp), wordsFrom_quoted _ _ (by simp),
      wordsFrom_blank _ (by simp), wordsFrom_plain _ _ (by simp) (by simp),
      wordsFrom_blank _ (by simp), wordsFrom_plain _ _ (by simp) (by simp),
      wordsFrom_blank _ (by simp), wordsFrom_plain _ _ (by simp) (by simp),
      wordsFrom_blank _ (by simp), wordsFrom_plain _ _ (by simp) (by simp),
      wordsFrom_blank _ (by simp)]
    rfl
  have split : shellWords (paritySubmit ++ ("#SUBMIT##SUBMIT#" ++ ' ' :: rest)) =
      [("[" : Text), "`expr $SPECCOPYNUM % 2`", "==", "0", "]"] := by
    rw [shellWords, words]
    rfl
  rw [boundCpus, runLine_simple split (by decide), submitCommand, if_pos rfl]

/-! ## Both layouts -/

/-- The variable `host_spec_config_submit` for the variables of a list. -/
def submitOf (memNumaNode : Nat) (file : CpuListFile) : Text :=
  hostSpecConfigSubmit (decimal memNumaNode) ((file.lookup .vmCpuListFirstStart).getD [])
    ((file.lookup .vmCpuListSecondStart).getD [])

/-- The value of an option of the host configuration. -/
def hostOption (submit option : Text) : Text :=
  (hostCfgLine submit (option ++ "#SUBMIT#")).drop option.length

/-- The value of an option of the guest configuration. -/
def guestOption (submit option : Text) : Text :=
  (guestCfgLine submit (option ++ "#SUBMIT#")).drop option.length

variable {segments : List Segment} {startIndex vcpuNum allCpuNum fioStartIndex : Nat}
variable {option : Text} {file : CpuListFile}

/-- The beginning of every list that a call writes. -/
theorem generated_file (supported : Supported segments) (positive : 0 < vcpuNum)
    (even : vcpuNum % 2 = 0)
    (written : (generateVmCpuList (cpuString segments) startIndex vcpuNum allCpuNum
      fioStartIndex).file = some file) :
    ∃ more, file = (planOf segments startIndex vcpuNum allCpuNum).tuneLines
      (hostCpu startIndex segments 0) ++ more := by
  have first : (planOf segments startIndex vcpuNum allCpuNum).vcpuArray.head? =
      some (hostCpu startIndex segments 0) := by
    rw [vcpuArray_planOf supported, head?_placement segments positive]
  rw [generateVmCpuList_supported supported _ _ _ positive even] at written
  obtain ⟨more, lines⟩ := file_writeVmCpuTune first startIndex fioStartIndex
  exact ⟨more, Option.some.inj (written.symm.trans lines)⟩

theorem bindingsAgree_one {segment : Segment} (memNumaNode : Nat) (more : CpuListFile)
    (plain : PlainOption option) :
    let file := (onePlan segment startIndex vcpuNum allCpuNum).tuneLines
      (hostCpu startIndex [segment] 0) ++ more
    BindingsAgree vcpuNum file (hostOption (submitOf memNumaNode file) option)
      (guestOption (submitOf memNumaNode file) option) := by
  intro file
  have submit : submitOf memNumaNode file =
      oneSubmit memNumaNode (hostCpu startIndex [segment] 0) := hostSpecConfigSubmit_one _ _
  have host : hostOption (submitOf memNumaNode file) option =
      oneSubmit memNumaNode (hostCpu startIndex [segment] 0) := by
    rw [submit, hostOption, hostCfgLine_one _ _ plain, List.drop_left]
  have guest : guestOption (submitOf memNumaNode file) option = guestSpecConfigSubmit := by
    rw [submit, guestOption, guestCfgLine_one _ _ plain, List.drop_left]
  have pinned : ∀ copy < vcpuNum,
      ((placement startIndex [segment] vcpuNum).zipIdx.map Prod.swap).lookup copy =
        some (hostCpu startIndex [segment] 0 + copy) := by
    intro copy small
    rw [lookup_pins, getElem?_placement, if_pos small]
    rfl
  rw [host, guest]
  refine ⟨_, vcpuPins_vcpuTune _, fun copy small success => ?_,
    fun copy _ other _ apart success => ?_, fun copies room success => ?_⟩
  · exact ⟨_, boundCpus_one _ _ _ _, boundCpus_guest _ _, pinned copy small⟩
  · rw [boundCpus_one, boundCpus_one]
    simpa using apart
  · ext cpu
    simp only [boundCpus_one, boundCpus_guest, List.mem_singleton, exists_eq_left]
    constructor
    · rintro ⟨copy, small, rfl⟩
      exact ⟨copy, small, pinned copy (by omega)⟩
    · rintro ⟨copy, small, found⟩
      refine ⟨copy, small, ?_⟩
      exact Option.some.inj (found.symm.trans (pinned copy (by omega)))

theorem hostOption_two {segment₀ segment₁ : Segment} (memNumaNode : Nat) (more : CpuListFile)
    (plain : PlainOption option) (copy : Nat) (success : Bool) :
    let file := (twoPlan segment₀ segment₁ startIndex vcpuNum allCpuNum).tuneLines
      (hostCpu startIndex [segment₀, segment₁] 0) ++ more
    boundCpus copy success (hostOption (submitOf memNumaNode file) option) = [] := by
  intro file
  have submit : submitOf memNumaNode file = _ :=
    hostSpecConfigSubmit_two memNumaNode (hostCpu startIndex [segment₀, segment₁] 0)
      (hostCpu startIndex [segment₀, segment₁] 1)
  obtain ⟨rest, line⟩ := hostCfgLine_two memNumaNode (hostCpu startIndex [segment₀, segment₁] 0)
    (hostCpu startIndex [segment₀, segment₁] 1) plain
  rw [submit, hostOption, line, List.drop_left, boundCpus_two]

theorem not_bindingsAgree_two {segment₀ segment₁ : Segment} (memNumaNode : Nat)
    (more : CpuListFile) (plain : PlainOption option) (positive : 0 < vcpuNum) :
    let file := (twoPlan segment₀ segment₁ startIndex vcpuNum allCpuNum).tuneLines
      (hostCpu startIndex [segment₀, segment₁] 0) ++ more
    ¬ BindingsAgree vcpuNum file (hostOption (submitOf memNumaNode file) option)
      (guestOption (submitOf memNumaNode file) option) := by
  rintro file ⟨pins, -, bound, -⟩
  obtain ⟨cpu, host, -⟩ := bound 0 positive true
  rw [hostOption_two memNumaNode more plain] at host
  simp at host

/-- The files bind all copies as the virtual machine does exactly for nodes with one range. -/
theorem bindingsAgree_iff_oneRange (segments : List Segment)
    (startIndex vcpuNum allCpuNum fioStartIndex memNumaNode : Nat) (option : Text)
    (file : CpuListFile) (supported : Supported segments) (even : vcpuNum % 2 = 0)
    (positive : 2 ≤ vcpuNum) (plain : PlainOption option)
    (written : (generateVmCpuList (cpuString segments) startIndex vcpuNum allCpuNum
      fioStartIndex).file = some file) :
    BindingsAgree vcpuNum file (hostOption (submitOf memNumaNode file) option)
        (guestOption (submitOf memNumaNode file) option) ↔
      segments.length = 1 := by
  obtain ⟨more, rfl⟩ := generated_file supported (by omega) even written
  rcases supported_cases supported with ⟨segment, rfl⟩ | ⟨segment₀, segment₁, rfl⟩
  · exact iff_of_true (bindingsAgree_one memNumaNode more plain) rfl
  · exact iff_of_false (not_bindingsAgree_two memNumaNode more plain (by omega)) (by simp)

theorem plainOption_submit : PlainOption "submit = " := by
  unfold PlainOption
  simp

theorem bindingsAgree_oneRange :
    ∃ file, (generateVmCpuList (cpuString [.range 0 63]) 8 32 128 8).file = some file ∧
      BindingsAgree 32 file (hostOption (submitOf 0 file) "submit = ")
        (guestOption (submitOf 0 file) "submit = ") := by
  have supported : Supported [Segment.range 0 63] := ⟨List.cons_ne_nil _ _, by decide⟩
  have written : (generateVmCpuList (cpuString [.range 0 63]) 8 32 128 8).file = _ :=
    congrArg Outcome.file (generateVmCpuList_room supported (by decide) (by decide))
  exact ⟨_, written, (bindingsAgree_iff_oneRange [.range 0 63] 8 32 128 8 0 "submit = " _ supported
    (by decide) (by decide) plainOption_submit written).mpr rfl⟩

/-- Two ranges: the host file starts no copy at all. -/
theorem twoRanges_bind_nothing :
    ∃ file, (generateVmCpuList (cpuString [.range 0 31, .range 64 95]) 8 32 128 8).file =
        some file ∧
      boundCpus 0 true (hostOption (submitOf 0 file) "submit = ") = [] ∧
      boundCpus 1 true (hostOption (submitOf 0 file) "submit = ") = [] ∧
      ¬ BindingsAgree 32 file (hostOption (submitOf 0 file) "submit = ")
        (guestOption (submitOf 0 file) "submit = ") := by
  have supported : Supported [Segment.range 0 31, .range 64 95] :=
    ⟨List.cons_ne_nil _ _, by decide⟩
  have written : (generateVmCpuList (cpuString [.range 0 31, .range 64 95]) 8 32 128 8).file = _ :=
    congrArg Outcome.file (generateVmCpuList_room supported (by decide) (by decide))
  exact ⟨_, written, hostOption_two 0 _ plainOption_submit 0 true,
    hostOption_two 0 _ plainOption_submit 1 true,
    not_bindingsAgree_two 0 _ plainOption_submit (by decide)⟩

end Vm
