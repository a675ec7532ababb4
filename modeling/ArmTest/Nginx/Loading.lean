import ArmTest.Nginx.Shipped
import Mathlib.Data.List.TakeWhile

/-!
# Loading the installed file

At a restart the web server parses the installed file with its own parser and starts its workers.
Whatever invocations of the server script came before, the parser accepts the file, and every worker
runs on the processor that belongs to the current test point; at a point without processors it
refuses the file.
-/

namespace Nginx.ConfFile

open Shell

/-! ## Lines that stand alone -/

/-- A line with a comment only. -/
def isComment (line : Text) : Bool :=
  (line.dropWhile isBlank).head? == some '#' && !line.contains '\n' && line.length < 4000

/-- The tokens of a line behind which no directive is open. -/
def lineTokens (line : Text) : Option (List Token) :=
  if isComment line then some []
  else
    match scanText .fresh (line ++ ['\n']) with
    | .error _ => none
    | .ok (tokens, after) =>
        if line.length + 1 < confBuffer ∧ after = .between [] after.since then some tokens else none

theorem layout_blanks {limit : Nat} {blanks : Text} (separate : ∀ ch ∈ blanks, isBlank ch = true)
    (args : List Text) : Layout limit args blanks [] args := by
  induction blanks with
  | nil => exact .nil args
  | cons ch blanks induction =>
      exact .cons (.blank (separate ch List.mem_cons_self))
        (induction fun other member => separate other (List.mem_cons_of_mem ch member))

theorem layout_isComment {line : Text} (comment : isComment line = true) :
    Layout confBuffer [] (line ++ ['\n']) [] [] := by
  simp only [isComment, Bool.and_eq_true, beq_iff_eq, Bool.not_eq_true', decide_eq_true_eq]
    at comment
  obtain ⟨⟨sharp, oneLine⟩, short⟩ := comment
  obtain ⟨text, rest⟩ := List.head?_eq_some_iff.mp sharp
  have split : line = line.takeWhile isBlank ++ '#' :: text := by
    rw [← rest, List.takeWhile_append_dropWhile]
  have inside : ∀ ch ∈ text, ch ∈ line := by
    intro ch member
    rw [split]
    simp [member]
  rw [split, List.append_assoc]
  refine (layout_blanks (fun ch member => List.mem_takeWhile_imp member) []).append
    (Part.comment (fun member => ?_) ?_).layout
  · have found := List.contains_iff_mem.mpr (inside _ member)
    rw [oneLine] at found
    contradiction
  · have lengths := congrArg List.length split
    rw [List.length_append, List.length_cons] at lengths
    simp only [confBuffer]
    omega

theorem passes_line {line : Text} {tokens : List Token} (alone : lineTokens line = some tokens) :
    Passes [] (line ++ ['\n']) tokens [] := by
  rw [lineTokens] at alone
  split at alone
  next comment =>
    injection alone with none
    subst none
    exact passes_layout (layout_isComment comment)
  · split at alone
    · contradiction
    next read after scanned =>
      split at alone
      next closed =>
        injection alone with same
        subst same
        refine passes_of_scanText after.since (by simpa using closed.1) ?_
        rw [← closed.2]
        exact scanned
      · contradiction

/-- The tokens of lines that stand alone. -/
def linesTokens : List Text → Option (List Token)
  | [] => some []
  | line :: lines => (lineTokens line).bind fun here => (linesTokens lines).map (here ++ ·)

theorem passes_lines {lines : List Text} {tokens : List Token}
    (alone : linesTokens lines = some tokens) : Passes [] (fileText lines) tokens [] := by
  induction lines generalizing tokens with
  | nil =>
      injection alone with none
      subst none
      exact .nil []
  | cons line lines induction =>
      obtain ⟨here, first, mapped⟩ := Option.bind_eq_some_iff.mp alone
      obtain ⟨others, later, rfl⟩ := Option.map_eq_some_iff.mp mapped
      exact (passes_line first).append (induction later)

/-- The lines above the worker directives. -/
theorem head_tokens : linesTokens confHead = some [.ok ["user", "root"]] := by
  unfold confHead
  repeat rw [String.toList_ofList]
  decide +kernel

set_option maxRecDepth 10000 in
/-- The lines between the worker directives and the compression switch. -/
theorem middle_tokens : linesTokens confMiddle = some
    ((Directives.simples
      [["worker_rlimit_nofile", "104857600"],
        ["error_log", "/var/log/error.log"],
        ["pid", "/run/nginx.pid"]] .done).tokens ++ .blockStart ["events"] ::
      (eventsBody.tokens ++ .blockDone :: .blockStart ["http"] ::
        (Directives.simples
          [["include", "mime.types"],
            ["default_type", "application/octet-stream"],
            ["access_log", "off"],
            ["sendfile", "on"]] .done).tokens)) := by
  unfold confMiddle eventsBody
  repeat rw [String.toList_ofList]
  decide +kernel

set_option maxRecDepth 20000 in
/-- The lines below the compression switch. -/
theorem tail_tokens : linesTokens confTail = some (httpRest.tokens ++ [.blockDone]) := by
  unfold confTail httpRest locationRoot
  simp only [bind_pure_comp, List.map_eq_map, List.map_cons, List.map_nil]
  repeat rw [String.toList_ofList]
  decide +kernel

/-! ## The edited lines -/

theorem spells_mask (cpu : Nat) : Spells [mask cpu] (mask cpu) false := by
  rw [mask]
  split
  · refine spells_plain rfl fun other member => ?_
    rw [List.mem_singleton.mp member]
    rfl
  · refine spells_plain rfl fun other member => ?_
    rcases List.mem_cons.mp member with rfl | member
    · rfl
    · rw [List.eq_of_mem_replicate member]
      rfl

theorem length_mask (cpu : Nat) : (mask cpu).length = cpu + 1 := by
  rw [mask]
  split
  next zero =>
    subst zero
    rfl
  · simp

/-- The masks of a line are its words. -/
theorem layout_masks {ids : List Nat} (nonempty : ids ≠ []) (bound : ∀ cpu ∈ ids, cpu < 1024)
    (args : List Text) : ∃ text, maskList ids ++ [';'] = ' ' :: text ∧
      Layout confBuffer args text [.ok (args ++ ids.map mask)] [] := by
  induction ids generalizing args with
  | nil => contradiction
  | cons cpu ids induction =>
      have short : (mask cpu).length + 1 < confBuffer := by
        have small := bound cpu List.mem_cons_self
        rw [length_mask]
        simp only [confBuffer]
        omega
      cases ids with
      | nil =>
          exact ⟨mask cpu ++ [';'], by simp [maskList],
            (Part.lastWords (spells_mask cpu) short (.inl rfl)).layout⟩
      | cons next ids =>
          obtain ⟨text, written, layout⟩ := induction (List.cons_ne_nil next ids)
            (fun other member => bound other (List.mem_cons_of_mem cpu member)) (args ++ [mask cpu])
          refine ⟨mask cpu ++ [' '] ++ text, ?_, ?_⟩
          · have split : maskList (cpu :: next :: ids) =
                ' ' :: mask cpu ++ maskList (next :: ids) := rfl
            rw [split, List.append_assoc, written]
            simp
          · rw [List.append_assoc, List.singleton_append] at layout
            exact .cons (.words (spells_mask cpu) short rfl) layout

/-- A simple directive on a line of its own. -/
theorem passes_ownLine {args : List Text} {text : Text}
    (layout : Layout confBuffer [] text [.ok args] []) :
    Passes [] (text ++ ['\n']) [.ok args] [] :=
  passes_layout (layout.append (Part.blank rfl).layout)

/-- A digit may stand anywhere in a bare word. -/
theorem plain_of_isDigit {ch : Char} (digit : ch.isDigit = true) :
    plainChar ch = true ∧ startsBare ch = true := by
  have differs : ∀ other : Char, other.isDigit = false → ch ≠ other := by
    rintro other notDigit rfl
    rw [digit] at notDigit
    contradiction
  simp [plainChar, startsBare, isBlank, differs]

theorem spells_decimal (n : Nat) : Spells [decimal n] (decimal n) false := by
  have plain : ∀ ch ∈ decimal n, plainChar ch = true ∧ startsBare ch = true :=
    fun ch member => plain_of_isDigit (isDigit_of_mem_decimal member)
  obtain ⟨first, others, digits⟩ := List.exists_cons_of_ne_nil (decimal_ne_nil n)
  rw [digits] at plain ⊢
  exact spells_plain (plain first List.mem_cons_self).2 fun other member => (plain other member).1

/-- The line of the worker count. -/
theorem passes_workers {workers : Workers} (small : ∀ core, workers = .count core → core < 2 ^ 63) :
    Passes [] (("worker_processes " : Text) ++ workers.text ++ ['\n'])
      [.ok [("worker_processes" : Text), workersWord workers]] [] := by
  cases workers with
  | shipped => exact passes_line (by decide +kernel)
  | auto => exact passes_line (by decide +kernel)
  | count core =>
      have name : Spells [("worker_processes" : Text)] ("worker_processes" : Text) false := by
        repeat rw [String.toList_ofList]
        exact spells_plain rfl (List.all_eq_true.mp (by decide))
      have short : (decimal core).length + 1 < confBuffer := by
        have digits : (decimal core).length ≤ 19 :=
          (Nat.length_toDigits_le_iff (by decide) (by decide)).mpr
            ((small core rfl).trans (by decide))
        simp only [confBuffer]
        omega
      have layout : Layout confBuffer []
          (("worker_processes" : Text) ++ [' '] ++ (decimal core ++ [';'] ++ []))
          [.ok [("worker_processes" : Text), decimal core]] [] :=
        .cons (.words name (by decide) rfl)
          (.cons (.lastWords (spells_decimal core) short (.inl rfl)) (.nil []))
      have line : (("worker_processes " : Text) ++ (Workers.count core).text ++ ['\n']) =
          ("worker_processes" : Text) ++ [' '] ++ (decimal core ++ [';'] ++ []) ++ ['\n'] := by
        simp [Workers.text]
      rw [line]
      exact passes_ownLine layout

/-- The mask line, if there is one. -/
theorem passes_affinity {affinity : Option Affinity} (listed : ∀ ids, affinity = some (.cpus ids) →
      ∀ cpu ∈ ids, cpu < 1024) :
    Passes [] (fileText (affinityLines affinity)) ((affinityWords affinity).map .ok) [] := by
  cases affinity with
  | none => exact .nil []
  | some affinity =>
      cases affinity with
      | shipped =>
          have line : fileText (affinityLines (some .shipped)) =
              ("worker_cpu_affinity 1;" : Text) ++ ['\n'] := by decide +kernel
          rw [line]
          exact passes_line (by decide +kernel)
      | cpus ids =>
          by_cases nonempty : ids = []
          · subst nonempty
            have line : fileText (affinityLines (some (.cpus []))) =
                ("worker_cpu_affinity ;" : Text) ++ ['\n'] := by decide +kernel
            rw [line]
            exact passes_line (by decide +kernel)
          obtain ⟨text, written, masks⟩ := layout_masks nonempty (listed ids rfl)
            [("worker_cpu_affinity" : Text)]
          have name : Spells [("worker_cpu_affinity" : Text)] ("worker_cpu_affinity" : Text)
              false := by
            repeat rw [String.toList_ofList]
            exact spells_plain rfl (List.all_eq_true.mp (by decide))
          have layout : Layout confBuffer []
              (("worker_cpu_affinity" : Text) ++ [' '] ++ ([' '] ++ text))
              [.ok (("worker_cpu_affinity" : Text) :: ids.map mask)] [] :=
            .cons (.words name (by decide) rfl) (.cons (.blank rfl) masks)
          have line : fileText (affinityLines (some (.cpus ids))) =
              ("worker_cpu_affinity" : Text) ++ [' '] ++ ([' '] ++ text) ++ ['\n'] := by
            have value : Affinity.text (.cpus ids) = ' ' :: text := written
            simp [fileText, affinityLines, value]
          rw [line]
          exact passes_ownLine layout

/-- The line of the compression switch. -/
theorem passes_gzip (gzip : Gzip) : Passes [] (("    gzip " : Text) ++ gzip.text ++ ['\n'])
    [.ok [("gzip" : Text), gzipWord gzip]] [] := by
  cases gzip <;> exact passes_line (by decide +kernel)

theorem fileText_append (front back : List Text) :
    fileText (front ++ back) = fileText front ++ fileText back := List.flatMap_append

theorem fileText_singleton (line : Text) : fileText [line] = line ++ ['\n'] := by
  simp [fileText]

theorem tokens_simples (lines : List (List Text)) (others : Directives) :
    (Directives.simples lines others).tokens = lines.map .ok ++ others.tokens := by
  induction lines with
  | nil => rfl
  | cons line lines induction => exact congrArg (Token.ok line :: ·) induction

/-- The reader finds the directives of the file. -/
theorem readAll_render {settings : Settings}
    (small : ∀ core, settings.workers = .count core → core < 2 ^ 63)
    (listed : ∀ ids, settings.affinity = some (.cpus ids) → ∀ cpu ∈ ids, cpu < 1024) :
    readAll .fresh 0 (fileText (render settings)) = .ok (directives settings).tokens := by
  apply readAll_of_passes
  have head := passes_lines head_tokens
  have middle := passes_lines middle_tokens
  have tail := passes_lines tail_tokens
  have whole := ((((head.append (passes_workers small)).append (passes_affinity listed)).append
    middle).append (passes_gzip settings.gzip)).append tail
  have text : fileText (render settings) =
      fileText confHead ++ (("worker_processes " : Text) ++ settings.workers.text ++ ['\n']) ++
        fileText (affinityLines settings.affinity) ++ fileText confMiddle ++
          (("    gzip " : Text) ++ settings.gzip.text ++ ['\n']) ++ fileText confTail := by
    simp only [render, fileText_append, fileText_singleton]
  rw [text]
  convert whole using 1
  rw [directives, tokens_simples, List.map_cons, List.map_cons]
  simp only [List.append_assoc]
  rfl

/-! ## The file at a restart -/

/-- The parser of the web server returns the directives of the file and the state its functions
leave. -/
theorem ngxConfParse_render {S : Type} {ngxNcpu : Nat} {others : OtherModules S}
    {settings : Settings} {ccf : CoreModule} {start taken state' : S}
    (small : ∀ core, settings.workers = .count core → core < 2 ^ 63)
    (listed : ∀ ids, settings.affinity = some (.cpus ids) → ∀ cpu ∈ ids, cpu < 1024)
    (user : others.set ["user", "root"] start = .ok taken)
    (rest : others.run (mainRest (gzipWord settings.gzip)) taken = .ok state')
    (lines : (Body.directives .main).simples (shippedCommands ngxNcpu others)
      (["worker_processes", workersWord settings.workers] :: affinityWords settings.affinity)
        (.createConf, taken) = .ok (ccf, taken)) :
    ngxConfParse (shippedCommands ngxNcpu others) (.createConf, start)
      (fileText (render settings)) = some (.ok (directives settings, ccf, state')) := by
  refine ngxConfParse_eq_ok_iff.mpr ⟨readAll_render small listed, ?_⟩
  refine accepted_simples ?_
    (accepted_of_known (known_mainRest settings.gzip) rest)
  rw [simples_cons (simple_user user)]
  exact lines

/-! ## The workers of a test point -/

theorem readMasks_masks {ids : List Nat} (bound : ∀ cpu ∈ ids, cpu < 1024) :
    readMasks (ids.map mask) = .ok (ids.map fun cpu => [cpu]) := by
  induction ids with
  | nil => rfl
  | cons cpu ids induction =>
      have small := bound cpu List.mem_cons_self
      have short : ¬ 1024 < (mask cpu).length := by
        rw [length_mask]
        omega
      have decoded := decodeMask_mask small
      rw [decodeMask, if_neg short] at decoded
      rw [List.map_cons, readMasks, cpuSetsize, if_neg short, decoded, List.map_cons]
      simp only [induction fun other member => bound other (List.mem_cons_of_mem cpu member)]
      rfl

theorem mask_ne_auto (cpu : Nat) : mask cpu ≠ "auto" := by
  intro same
  have letter : 'a' ∈ mask cpu := by rw [same]; decide
  rcases mem_mask letter with one | zero <;> contradiction

theorem setWorkerProcesses_count {ngxNcpu core : Nat} (small : core < 2 ^ 63) (ccf : CoreModule)
    (unset : ccf.workerProcesses = none) :
    ccf.setWorkerProcesses ngxNcpu [("worker_processes" : Text), decimal core] =
      .ok { ccf with workerProcesses := some core } := by
  have notAuto : ¬ [("worker_processes" : Text), decimal core].getD 1 [] = "auto" := by
    intro auto
    have letter : 'a' ∈ decimal core := by
      change decimal core = "auto" at auto
      rw [auto]
      decide
    have digit : 'a'.isDigit = true := isDigit_of_mem_decimal letter
    simp at digit
  have number : ngxAtoi ([("worker_processes" : Text), decimal core].getD 1 []) = some core := by
    change ngxAtoi (decimal core) = some core
    rw [ngxAtoi, parseNat?_decimal, Option.bind_some, if_pos (by omega)]
  rw [CoreModule.setWorkerProcesses, if_neg (by simp [unset]), if_neg notAuto, number]

theorem setCpuAffinity_masks {ngxNcpu : Nat} {ids : List Nat} (nonempty : ids ≠ [])
    (bound : ∀ cpu ∈ ids, cpu < 1024) (ccf : CoreModule) (unset : ccf.cpuAffinity = none) :
    ccf.setCpuAffinity ngxNcpu (("worker_cpu_affinity" : Text) :: ids.map mask) =
      .ok { ccf with cpuAffinity := some (ids.map fun cpu => [cpu]) } := by
  have masks := readMasks_masks bound
  obtain ⟨cpu, others, rfl⟩ := List.exists_cons_of_ne_nil nonempty
  have notAuto : ¬ (("worker_cpu_affinity" : Text) :: (cpu :: others).map mask).getD 1 [] =
      "auto" := mask_ne_auto cpu
  rw [CoreModule.setCpuAffinity, if_neg (by simp [unset]), if_neg notAuto, List.drop_one,
    List.tail_cons, masks]
  rfl

/-- The processors and the number of cores of a test point, when it has masks. -/
def pointOf (topology : Topology) : Label → Option (List Nat × Nat)
  | .socket _ side core => some (topology.socketCpulist side, core)
  | .node _ number core => some (topology.nodeCpus number, core)
  | .server _ => none

/-- Where the workers of a test point run: one processor each, and the last one for all workers
beyond the list. -/
def placedWorkers (cpus : List Nat) (core : Nat) : List (Option (List Nat)) :=
  (List.range core).map fun i => cpus[min i (cpus.length - 1)]?.map ([·])

/-- Where the workers run at a test point; without masks they run everywhere. -/
def workersAt (ngxNcpu : Nat) (topology : Topology) (label : Label) : List (Option (List Nat)) :=
  match pointOf topology label with
  | some (cpus, core) => placedWorkers cpus core
  | none => List.replicate ngxNcpu none

theorem getCpuAffinity_take {cpus : List Nat} {core i : Nat} (nonempty : cpus ≠ [])
    (worker : i < core) (workerProcesses : Option Nat) :
    CoreModule.getCpuAffinity
      ⟨workerProcesses, some ((cpus.take core).map fun cpu => [cpu]), false⟩ i =
        some (cpus[min i (cpus.length - 1)]?.map ([·])) := by
  have counted := List.length_pos_of_ne_nil nonempty
  simp only [CoreModule.getCpuAffinity, Bool.false_eq_true, if_false, List.length_map,
    List.length_take, Option.some.injEq]
  split
  next own =>
    have place : min i (cpus.length - 1) = i := by omega
    rw [place, List.getElem?_map, List.getElem?_take_of_lt worker]
  next shared =>
    have all : cpus.take core = cpus := List.take_of_length_le (by omega)
    have place : min i (cpus.length - 1) = cpus.length - 1 := by omega
    rw [all, place, List.getLast?_map, List.getLast?_eq_getElem?]

theorem sweepCores_bound {count core : Nat} (member : core ∈ sweepCores count) :
    1 ≤ core ∧ core ≤ 2 * count + 1 := by
  obtain ⟨steps, sweep, below, above⟩ := coreSweep_spec count
  rw [sweepCores, sweep, List.mem_append] at member
  rcases member with inside | last
  · obtain ⟨i, bound, rfl⟩ := List.mem_map.mp inside
    have fits := below i (List.mem_range.mp bound)
    exact ⟨Nat.one_le_two_pow, by omega⟩
  · split at last
    · rw [List.mem_singleton] at last
      subst last
      refine ⟨Nat.one_le_two_pow, ?_⟩
      cases steps with
      | zero => simp
      | succ steps =>
          have fits := below steps (Nat.lt_succ_self steps)
          rw [pow_succ]
          omega
    · simp at last

/-! ## Labels of an invocation -/

/-- A label whose number of cores is one of the sweep over its processors. -/
def Swept (topology : Topology) (label : Label) : Prop :=
  match label with
  | .socket _ side core => core ∈ sweepCores (topology.socketCpulist side).length
  | .node _ number core =>
      number < topology.nodes.length ∧ core ∈ sweepCores (topology.nodeCpus number).length
  | .server _ => True

theorem mem_testPoint_start {core : Nat} {affinity : Text} {label other : Label}
    (member : .waitTestStart other ∈ testPoint core affinity label) : other = label := by
  simpa [testPoint] using member

theorem mem_sweepOps_start {cpus : List Nat} {label : Nat → Label} {other : Label}
    (member : .waitTestStart other ∈ sweepOps cpus label) :
    ∃ core ∈ sweepCores cpus.length, other = label core := by
  simp only [sweepOps, List.mem_append, List.mem_flatMap] at member
  rcases member with ⟨core, visited, inside⟩ | inside
  · exact ⟨core, List.mem_append_left _ visited, mem_testPoint_start inside⟩
  · split at inside
    next another =>
      refine ⟨_, List.mem_append_right _ ?_, mem_testPoint_start inside⟩
      rw [if_pos another]
      exact List.mem_singleton_self _
    · simp at inside

theorem gzipOp_ne_start (mode : Mode) (label : Label) : gzipOp mode ≠ .waitTestStart label := by
  cases mode <;> simp [gzipOp]

theorem swept_socket {topology : Topology} {side : Side} {label : Label}
    (member : .waitTestStart label ∈ nginxOnOneSocketHandle topology side) :
    Swept topology label := by
  simp only [nginxOnOneSocketHandle, List.mem_append, List.mem_cons, List.not_mem_nil, or_false,
    List.mem_flatMap, reduceCtorEq, false_or] at member
  obtain ⟨mode, -, switch | inside⟩ := member
  · exact (gzipOp_ne_start mode label switch.symm).elim
  · obtain ⟨core, visited, rfl⟩ := mem_sweepOps_start inside
    exact visited

theorem swept_node {topology : Topology} {label : Label}
    (member : .waitTestStart label ∈ nodehandle topology) : Swept topology label := by
  simp only [nodehandle, nodeOps, List.mem_append, List.mem_cons, List.not_mem_nil, or_false,
    List.mem_flatMap, reduceCtorEq, false_or] at member
  obtain ⟨mode, -, switch | ⟨number, present, inside⟩⟩ := member
  · exact (gzipOp_ne_start mode label switch.symm).elim
  · obtain ⟨core, visited, rfl⟩ := mem_sweepOps_start inside
    exact ⟨List.mem_range.mp present, visited⟩

theorem swept_server (topology : Topology) {label : Label}
    (member : .waitTestStart label ∈ serverhandle) : Swept topology label := by
  simp only [serverhandle, List.mem_flatMap, List.mem_cons, List.not_mem_nil, or_false,
    reduceCtorEq, false_or, ServerOp.waitTestStart.injEq] at member
  obtain ⟨mode, -, switch | rfl⟩ := member
  · exact (gzipOp_ne_start mode label switch.symm).elim
  · trivial

theorem swept_script {topology : Topology} {mode : TestMode} {label : Label}
    (member : .waitTestStart label ∈ serverOps topology mode) : Swept topology label := by
  cases mode with
  | socketl | socketr => exact swept_socket member
  | node => exact swept_node member
  | server => exact swept_server topology member
  | stats => simp [serverOps, statisticshandle] at member
  | all =>
      simp only [serverOps, List.mem_append] at member
      rcases member with (((inside | inside) | inside) | inside) | inside
      · exact swept_socket inside
      · exact swept_socket inside
      · exact swept_node inside
      · exact swept_server topology inside
      · simp [statisticshandle] at inside

/-- Every test point still ahead of an invocation belongs to one of its sweeps. -/
theorem swept_of_reaches {topology : Topology} {ops : List ServerOp} {state : ServerState}
    (reached : Reaches topology ops state) (label : Label) (ahead : .waitTestStart label ∈ ops) :
    Swept topology label := by
  induction reached with
  | setup => simp at ahead
  | invoke => exact swept_script ahead
  | command _ induction => exact induction (List.mem_cons_of_mem _ ahead)

/-! ## The restart -/

section

variable {S : Type} {ngxNcpu : Nat} {others : OtherModules S} {start : S} {settings : Settings}
  {core : Nat} {cpus : List Nat}

theorem core_small (swept : core ∈ sweepCores cpus.length) (distinct : cpus.Nodup)
    (bound : ∀ cpu ∈ cpus, cpu < 1024) : 1 ≤ core ∧ core < 2 ^ 63 := by
  have limit := length_le_of_bound distinct bound
  obtain ⟨positive, upper⟩ := sweepCores_bound swept
  exact ⟨positive, lt_of_le_of_lt (b := 2049) (by omega) (by norm_num)⟩

/-- The functions take the lines of the other modules in front of and behind the worker lines. -/
theorem run_other (taken : others.Takes start) (gzip : Gzip) :
    ∃ middle state, others.set ["user", "root"] start = .ok middle ∧
      others.run (mainRest (gzipWord gzip)) middle = .ok state := by
  obtain ⟨state, run⟩ := taken gzip
  obtain ⟨middle, user, rest⟩ := bind_eq_ok run
  exact ⟨middle, state, user, rest⟩

/-- The web server accepts the file with a worker count and masks, and its workers run on the
processors of the list. -/
theorem workers_cpus (taken : others.Takes start) (workers : settings.workers = .count core)
    (affinity : settings.affinity = some (.cpus (cpus.take core)))
    (swept : core ∈ sweepCores cpus.length) (nonempty : cpus ≠ []) (distinct : cpus.Nodup)
    (bound : ∀ cpu ∈ cpus, cpu < 1024) :
    ∃ ccf state, ngxConfParse (shippedCommands ngxNcpu others) (.createConf, start)
        (fileText (render settings)) = some (.ok (directives settings, ccf, state)) ∧
      ccf.workers = (placedWorkers cpus core).map some ∧
      (ccf.warns = true ↔ cpus.length < core ∧ cpus.length ≠ 1) := by
  have counted := List.length_pos_of_ne_nil nonempty
  obtain ⟨positive, small⟩ := core_small swept distinct bound
  have someCpu : cpus.take core ≠ [] := by
    rw [Ne, List.take_eq_nil_iff]
    rintro (none | none)
    · omega
    · exact nonempty none
  have inside : ∀ cpu ∈ cpus.take core, cpu < 1024 :=
    fun cpu member => bound cpu (List.mem_of_mem_take member)
  obtain ⟨middle, state, user, rest⟩ := run_other taken settings.gzip
  refine ⟨⟨some core, some ((cpus.take core).map fun cpu => [cpu]), false⟩, state,
    ngxConfParse_render ?_ ?_ user rest ?_, ?_, ?_⟩
  · intro other same
    rw [workers] at same
    injection same with same
    exact same ▸ small
  · intro ids same
    rw [affinity] at same
    injection same with same
    injection same with same
    exact same ▸ inside
  · rw [workers, affinity, workersWord, affinityWords]
    rw [simples_cons (simple_workers (setWorkerProcesses_count small .createConf rfl)),
      simples_cons (simple_affinity (by simpa using someCpu)
        (setCpuAffinity_masks someCpu inside _ rfl))]
    rfl
  · rw [placedWorkers, List.map_map]
    apply List.map_congr_left
    intro i worker
    exact getCpuAffinity_take nonempty (List.mem_range.mp worker) _
  · have masks : (((cpus.take core).map fun cpu => [cpu]).length) = min core cpus.length := by
      rw [List.length_map, List.length_take]
    simp only [CoreModule.warns, CoreModule.processes, Option.getD_some, masks, Bool.not_false,
      Bool.true_and, Bool.and_eq_true, bne_iff_ne]
    omega

/-- Without processors the mask line has no mask, and the web server refuses the file. -/
theorem refused_without_cpus (taken : others.Takes start) (workers : settings.workers = .count core)
    (affinity : settings.affinity = some (.cpus [])) (small : core < 2 ^ 63) :
    ngxConfParse (shippedCommands ngxNcpu others) (.createConf, start)
      (fileText (render settings)) =
        some (.error (.invalidNumber "worker_cpu_affinity")) := by
  obtain ⟨middle, state, user, -⟩ := run_other taken settings.gzip
  have read : readAll .fresh 0 (fileText (render settings)) = .ok (directives settings).tokens := by
    refine readAll_render ?_ ?_
    · intro other same
      rw [workers] at same
      injection same with same
      exact same ▸ small
    · intro ids same
      rw [affinity] at same
      injection same with same
      injection same with same
      simp [← same]
  have tokens : (directives settings).tokens =
      ([["user", "root"], ["worker_processes", decimal core]] : List (List Text)).map .ok ++
        .ok ["worker_cpu_affinity"] :: (mainRest (gzipWord settings.gzip)).tokens := by
    rw [directives, workers, affinity]
    rfl
  rw [tokens] at read
  refine ngxConfParse_of_refused read ?_
    (simple_affinity_nil (⟨some core, none, false⟩, middle))
  rw [simples_cons (simple_user user),
    simples_cons (simple_workers (setWorkerProcesses_count small .createConf rfl))]
  rfl

/-- With `auto` workers and no masks the workers run everywhere. -/
theorem workers_everywhere (taken : others.Takes start) (workers : settings.workers = .auto)
    (affinity : settings.affinity = none) :
    ∃ ccf state, ngxConfParse (shippedCommands ngxNcpu others) (.createConf, start)
        (fileText (render settings)) = some (.ok (directives settings, ccf, state)) ∧
      ccf.workers = (List.replicate ngxNcpu none).map some ∧ ccf.warns = false := by
  obtain ⟨middle, state, user, rest⟩ := run_other taken settings.gzip
  refine ⟨⟨some ngxNcpu, none, false⟩, state, ngxConfParse_render ?_ ?_ user rest ?_, ?_, rfl⟩
  · intro core same
    rw [workers] at same
    contradiction
  · intro ids same
    rw [affinity] at same
    contradiction
  · have auto : CoreModule.setWorkerProcesses ngxNcpu .createConf ["worker_processes", "auto"] =
        .ok ⟨some ngxNcpu, none, false⟩ := rfl
    rw [workers, affinity, workersWord, affinityWords]
    rw [simples_cons (simple_workers auto)]
    rfl
  · rw [List.map_replicate]
    refine List.eq_replicate_iff.mpr ⟨?_, fun worker member => ?_⟩
    · rw [CoreModule.workers, List.length_map, List.length_range]
      rfl
    · obtain ⟨i, -, rfl⟩ := List.mem_map.mp member
      rfl

end

/-- Whatever invocations came before, at a restart the web server parses the installed file.  At a
test point without processors it refuses the mask line.  At every other it accepts the file, finds
the directives of the point and no others, and worker after worker runs on the processor of its
number, those beyond the list on the last one; it warns exactly at a point with more workers than
processors. -/
theorem workers_at_restart {S : Type} {ngxNcpu : Nat} {others : OtherModules S} {start : S}
    {topology : Topology} {ops : List ServerOp} {state : ServerState}
    (reached : Reaches topology (.action .nginxRestart :: ops) state)
    (taken : others.Takes start)
    (listed : ∀ label cpus core, ops.head? = some (.waitTestStart label) →
      pointOf topology label = some (cpus, core) → cpus.Nodup ∧ ∀ cpu ∈ cpus, cpu < 1024) :
    ∃ label, ops.head? = some (.waitTestStart label) ∧
      let parsed := ngxConfParse (shippedCommands ngxNcpu others) (.createConf, start)
        (fileText state.conf)
      ((∃ core, pointOf topology label = some ([], core)) →
        parsed = some (.error (.invalidNumber "worker_cpu_affinity"))) ∧
      ((∀ core, pointOf topology label ≠ some ([], core)) →
        ∃ ccf state', parsed = some (.ok (directives (settingsOf topology label), ccf, state')) ∧
          ccf.workers = (workersAt ngxNcpu topology label).map some ∧
          (ccf.warns = true ↔ ∃ cpus core, pointOf topology label = some (cpus, core) ∧
            cpus.length < core ∧ cpus.length ≠ 1)) := by
  obtain ⟨label, awaited, contents⟩ := conf_at_restart reached
  obtain ⟨rest, rfl⟩ := List.head?_eq_some_iff.mp awaited
  have swept := swept_of_reaches reached label (by simp)
  refine ⟨label, awaited, ?_⟩
  rw [contents]
  have placed : ∀ (cpus : List Nat) (core : Nat), pointOf topology label = some (cpus, core) →
      (settingsOf topology label).workers = .count core →
      (settingsOf topology label).affinity = some (.cpus (cpus.take core)) →
      core ∈ sweepCores cpus.length →
      ((∃ core, pointOf topology label = some ([], core)) →
        ngxConfParse (shippedCommands ngxNcpu others) (.createConf, start)
          (fileText (render (settingsOf topology label))) =
            some (.error (.invalidNumber "worker_cpu_affinity"))) ∧
      ((∀ core, pointOf topology label ≠ some ([], core)) →
        ∃ ccf state', ngxConfParse (shippedCommands ngxNcpu others) (.createConf, start)
            (fileText (render (settingsOf topology label))) =
              some (.ok (directives (settingsOf topology label), ccf, state')) ∧
          ccf.workers = (workersAt ngxNcpu topology label).map some ∧
          (ccf.warns = true ↔ ∃ cpus core, pointOf topology label = some (cpus, core) ∧
            cpus.length < core ∧ cpus.length ≠ 1)) := by
    intro cpus core point workers affinity visited
    obtain ⟨distinct, bound⟩ := listed label cpus core awaited point
    constructor
    · rintro ⟨other, same⟩
      rw [point] at same
      injection same with same
      injection same with none
      subst none
      rw [List.take_nil] at affinity
      exact refused_without_cpus taken workers affinity (core_small visited distinct bound).2
    · intro some
      have nonempty : cpus ≠ [] := by
        rintro rfl
        exact some core point
      obtain ⟨ccf, state', parsed, run, warns⟩ := workers_cpus taken workers affinity visited
        nonempty distinct bound
      refine ⟨ccf, state', parsed, ?_, warns.trans ?_⟩
      · rw [run, workersAt, point]
      · simp [point]
  cases label with
  | socket mode side core => exact placed _ _ rfl rfl rfl swept
  | node mode number core => exact placed _ _ rfl rfl rfl swept.2
  | server mode =>
      refine ⟨fun ⟨core, other⟩ => by contradiction, fun _ => ?_⟩
      obtain ⟨ccf, state', parsed, run, warns⟩ := @workers_everywhere S ngxNcpu others start
        (settingsOf topology (.server mode)) taken rfl rfl
      exact ⟨ccf, state', parsed, run, by simp [warns, pointOf]⟩

/-- Functions that take every directive and keep nothing. -/
def takingAll : OtherModules Unit where
  set _ _ := .ok ()
  handler _ _ _ := .ok ()
  close _ _ := .ok ()

theorem run_takingAll (conf : Directives) : takingAll.run conf () = .ok () := by
  induction conf with
  | done => rfl
  | simple args rest induction => exact induction
  | block args body rest inner induction =>
      rw [OtherModules.run]
      change (takingAll.run body () >>= takingAll.close _ >>= takingAll.run rest) = _
      rw [inner]
      exact induction

/-- The first restart of a socket test on a machine with two processors. -/
theorem workers_at_restart_socketTest :
    let parsed := ngxConfParse (shippedCommands 2 takingAll) (.createConf, ())
      (fileText (finalState ((serverOps (oneNode [0, 1]) .socketl).take 5)
        { conf := nginxConf, running := none }).conf)
    ∃ label, ((serverOps (oneNode [0, 1]) .socketl).drop 6).head? = some (.waitTestStart label) ∧
      ((∃ core, pointOf (oneNode [0, 1]) label = some ([], core)) →
        parsed = some (.error (.invalidNumber "worker_cpu_affinity"))) ∧
      ((∀ core, pointOf (oneNode [0, 1]) label ≠ some ([], core)) →
        ∃ ccf state', parsed =
            some (.ok (directives (settingsOf (oneNode [0, 1]) label), ccf, state')) ∧
          ccf.workers = (workersAt 2 (oneNode [0, 1]) label).map some ∧
          (ccf.warns = true ↔ ∃ cpus core, pointOf (oneNode [0, 1]) label = some (cpus, core) ∧
            cpus.length < core ∧ cpus.length ≠ 1)) := by
  have called : Reaches (oneNode [0, 1]) (serverOps (oneNode [0, 1]) .socketl)
      { conf := nginxConf, running := none } :=
    .invoke (oneNode [0, 1]) .socketl (.setup (oneNode [0, 1]) none)
  refine workers_at_restart (.command (.command (.command (.command (.command called)))))
    (fun gzip => ⟨(), run_takingAll _⟩) ?_
  intro label cpus core awaited point
  have first : label = .socket .httpshort .localSide 1 := by
    injection awaited with same
    injection same with same
    exact same.symm
  subst first
  injection point with same
  injection same with same
  subst same
  exact ⟨by decide, by decide⟩

end Nginx.ConfFile
