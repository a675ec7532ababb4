import ArmTest.Nginx.Messages
import ArmTest.Shell.Filter

/-!
# Extraction of the measurements

The client script appends every test point to `result.txt` and takes the numbers out again with a
chain of filters, one for each kind of requests.  This file builds the result file of a whole sweep
from the program of the client and compares the extracted lines with the measurements.
-/

namespace Wrk

open Shell Rendezvous Nginx

/-! ## Output of the load generator -/

/-- Lines that are not results. -/
structure Chatter where
  /-- The lines. -/
  lines : List Text
  /-- The extraction does not select them. -/
  silent : ∀ line ∈ lines, grepQ "start" line = false ∧ grepQ "sec" line = false

/-- The results of a successful run. -/
structure Rates where
  /-- Requests per second. -/
  requests : Text
  /-- Transfer per second, without its last letter. -/
  transfer : Text
  /-- A number is printed. -/
  requests_ne_nil : requests ≠ []
  /-- Characters of a number. -/
  requests_plain : ∀ c ∈ requests, c.isAlphanum = true ∨ c = '.'
  /-- Characters of a number and its unit. -/
  transfer_plain : ∀ c ∈ transfer, c.isAlphanum = true ∨ c = '.'

/-- Right-aligned printing, as `%9s` does. -/
def padLeft (width : Nat) (text : Text) : Text :=
  List.replicate (width - text.length) ' ' ++ text

/-- The two result lines of `wrk`. -/
def Rates.lines (rates : Rates) : List Text :=
  ["Requests/sec: " ++ padLeft 9 rates.requests,
    "Transfer/sec: " ++ padLeft 10 rates.transfer ++ "B"]

/-- One run of `wrk`; only a successful one prints results. -/
structure Output where
  /-- Lines before the results. -/
  chatter : Chatter
  /-- Results, if the run succeeds. -/
  rates : Option Rates

/-- Lines of a run. -/
def Output.lines (output : Output) : List Text :=
  output.chatter.lines ++ (output.rates.map Rates.lines).getD []

/-- The runs of a test point that is repeated until `wrk` succeeds. -/
structure Repeated where
  /-- Failed runs. -/
  failures : List Chatter
  /-- Lines of the successful run before its results. -/
  chatter : Chatter
  /-- Results of the successful run. -/
  rates : Rates

/-- Lines of all runs of a repeated test point. -/
def Repeated.lines (runs : Repeated) : List Text :=
  runs.failures.flatMap Chatter.lines ++ runs.chatter.lines ++ runs.rates.lines

/-- What `wrk` prints at each test point: socket and node points repeat it, the points of the whole
server run it once. -/
structure Measurements where
  /-- Runs of a socket or node point. -/
  repeated : Label → Repeated
  /-- The run of a point of the whole server. -/
  single : Mode → Output

/-- Lines printed at a test point. -/
def Measurements.lines (measured : Measurements) : Label → List Text
  | .server mode => (measured.single mode).lines
  | label => (measured.repeated label).lines

/-- Results of a test point, if it succeeds. -/
def Measurements.rates (measured : Measurements) : Label → Option Rates
  | .server mode => (measured.single mode).rates
  | label => some (measured.repeated label).rates

/-! ## The result file -/

/-- Effect of an action of the client on `result.txt`. -/
def Measurements.record (measured : Measurements) : ClientAction → List Text → List Text
  | .enter _, file => file
  | .clearResult, _ => [""]
  | .record line, file => file ++ [line]
  | .wrk label, file => file ++ measured.lines label
  | .extract _, file => file

/-- The result file after a program of the client that hears the given messages. -/
def resultFile (measured : Measurements) : Client → List Text → List Text → List Text
  | .act action next, heard, file => resultFile measured next heard (measured.record action file)
  | .send _ next, heard, file => resultFile measured next heard file
  | .listen next, message :: heard, file => resultFile measured (next message) heard file
  | .listen _, [], file => file
  | .done, _, file => file
  | .exit, _, file => file

/-- Messages the server sends. -/
def replies : List ServerOp → List Text
  | [] => []
  | .action _ :: ops => replies ops
  | .getNginxServerInfo _ content :: ops => content :: replies ops
  | .waitTestStart label :: ops => (Note.start label).message :: replies ops
  | .waitTestFinish label :: ops => (Note.finish label).message :: replies ops

/-- The result file of a whole sweep. -/
def sweepFile (measured : Measurements) (topology : Topology) (host : Text) (mode : TestMode) :
    List Text :=
  resultFile measured (script host mode) (replies (serverOps topology mode)) []

/-- The test points of a list of commands, in the order in which they are run. -/
def labels : List ServerOp → List Label
  | [] => []
  | .waitTestStart label :: ops => label :: labels ops
  | .action _ :: ops => labels ops
  | .getNginxServerInfo _ _ :: ops => labels ops
  | .waitTestFinish _ :: ops => labels ops

/-! ## The extraction -/

/-- One of the five pipelines of `statisticshandle`. -/
def extract (mode : Mode) (file : List Text) : List Text :=
  (grepV "--" (grepAfter (mode.text ++ "-") 2 (grepEither "start" "sec" file))).map (awkWord 2)

/-- The lines of the file `result_$name.csv`. -/
def csv (file : List Text) : List Text := nginxmode.flatMap fun mode => extract mode file

/-- The lines that belong to a test point. -/
def entry (measured : Measurements) (label : Label) : List Text :=
  match measured.rates label with
  | some rates => [label.text, rates.requests, rates.transfer ++ "B"]
  | none => []

/-- The successful points of each kind of requests, in the order in which they were run. -/
def expectedCsv (measured : Measurements) (points : List Label) : List Text :=
  nginxmode.flatMap fun mode =>
    (points.filter fun label => label.mode = mode).flatMap (entry measured)

/-! ## Lines that the extraction selects -/

/-- A numeric host address. -/
def Numeric (host : Text) : Prop := ∀ c ∈ host, c.isDigit = true ∨ c = '.'

/-- Characters outside a numeric address. -/
def foreign (c : Char) : Bool := !c.isDigit && c != '.'

/-- Without the address, the command line is one of five texts. -/
theorem filter_wrkcmd {host : Text} (numeric : Numeric host) (mode : Mode) :
    (wrkcmd host mode).filter foreign = (wrkcmd [] mode).filter foreign := by
  have erased : host.filter foreign = [] := by
    rw [List.filter_eq_nil_iff]
    intro c member
    rcases numeric c member with digit | rfl
    · simp [foreign, digit]
    · decide
  have urls : (url host mode).filter foreign = (url [] mode).filter foreign := by
    cases mode <;> unfold url <;> simp only [List.filter_append, erased, List.filter_nil]
  unfold wrkcmd
  simp only [List.filter_append, urls]

theorem select_wrkcmd {host : Text} (numeric : Numeric host) (mode : Mode) :
    grepQ "start" (wrkcmd host mode) = false ∧ grepQ "sec" (wrkcmd host mode) = false := by
  have absent : ∀ word ∈ [("start" : Text), "sec"], word.filter foreign = word ∧
      ∀ mode ∈ nginxmode, ¬ word <:+: (wrkcmd [] mode).filter foreign := by
    decide +kernel
  have never : ∀ word ∈ [("start" : Text), "sec"], grepQ word (wrkcmd host mode) = false := by
    intro word member
    obtain ⟨kept, nowhere⟩ := absent word member
    simp only [grepQ, decide_eq_false_iff_not]
    intro inside
    have found := inside.filter foreign
    rw [kept, filter_wrkcmd numeric] at found
    exact nowhere mode (mem_nginxmode mode) found
  exact ⟨never _ (by decide), never _ (by decide)⟩

theorem select_finish (label : Label) :
    grepQ "start" ("finish " ++ label.text) = false ∧ grepQ "sec" ("finish " ++ label.text) = false := by
  have absent : ∀ word ∈ [("start" : Text), "sec"], letters word = word ∧ '-' ∉ word ∧
      (∀ piece ∈ placeWords, ¬ word <:+: piece) ∧
        ∀ mode ∈ nginxmode, ¬ word <:+: "finish ".toList ++ mode.text := by
    decide
  have never : ∀ word ∈ [("start" : Text), "sec"], grepQ word ("finish " ++ label.text) = false := by
    intro word member
    obtain ⟨wordLetters, separate, places, openings⟩ := absent word member
    simp only [grepQ, decide_eq_false_iff_not]
    exact not_infix_label wordLetters (by decide) separate places label
      (openings label.mode (mem_nginxmode _))
  exact ⟨never _ (by decide), never _ (by decide)⟩

/-- The lines of the result file that the extraction selects. -/
abbrev select (file : List Text) : List Text := grepEither "start" "sec" file

theorem select_append (front back : List Text) :
    select (front ++ back) = select front ++ select back :=
  List.filter_append front back

theorem select_silent {lines : List Text}
    (silent : ∀ line ∈ lines, grepQ "start" line = false ∧ grepQ "sec" line = false) :
    select lines = [] := by
  rw [select, grepEither, List.filter_eq_nil_iff]
  intro line member
  rw [(silent line member).1, (silent line member).2]
  decide

theorem select_rates (rates : Rates) : select rates.lines = rates.lines := by
  have first : grepQ "sec" ("Requests/sec: ".toList ++ padLeft 9 rates.requests) = true :=
    grepQ_append_right "Requests/".toList "sec" (": ".toList ++ padLeft 9 rates.requests)
  have second : grepQ "sec" ("Transfer/sec: ".toList ++ padLeft 10 rates.transfer ++ "B".toList) =
      true :=
    grepQ_append_right "Transfer/".toList "sec" (": ".toList ++ padLeft 10 rates.transfer ++ "B".toList)
  rw [select, grepEither, List.filter_eq_self]
  intro line member
  unfold Rates.lines at member
  rcases List.mem_pair.mp member with rfl | rfl
  · rw [first, Bool.or_true]
  · rw [second, Bool.or_true]

/-- Result lines of a test point. -/
def Measurements.results (measured : Measurements) (label : Label) : List Text :=
  ((measured.rates label).map Rates.lines).getD []

theorem select_measurement (measured : Measurements) (label : Label) :
    select (measured.lines label) = measured.results label := by
  have single : ∀ output : Output, select output.lines = (output.rates.map Rates.lines).getD [] := by
    intro output
    rw [Output.lines, select_append, select_silent output.chatter.silent, List.nil_append]
    cases output.rates with
    | none => rfl
    | some rates => exact select_rates rates
  have repeated : ∀ runs : Repeated, select runs.lines = runs.rates.lines := by
    intro runs
    have failures : select (runs.failures.flatMap Chatter.lines) = [] := by
      apply select_silent
      intro line member
      obtain ⟨chatter, -, inside⟩ := List.mem_flatMap.mp member
      exact chatter.silent line inside
    rw [Repeated.lines, select_append, select_append, failures, select_silent runs.chatter.silent,
      select_rates]
    rfl
  cases label with
  | server mode => exact single _
  | socket | node => exact repeated _

/-! ## What a sweep leaves in the result file -/

/-- The opening line of a test point. -/
def opening (label : Label) : Text := "start " ++ label.text ++ " "

/-- The selected lines of a test point. -/
def digest (measured : Measurements) (label : Label) : List Text :=
  opening label :: measured.results label

theorem labels_append (front back : List ServerOp) :
    labels (front ++ back) = labels front ++ labels back := by
  induction front with
  | nil => rfl
  | cons op front induction =>
      cases op with
      | waitTestStart label => exact congrArg (label :: ·) induction
      | action | getNginxServerInfo | waitTestFinish => exact induction

/-- A part of the client, run against its part of the server, records the test points of both. -/
def Records (measured : Measurements) (server : List ServerOp) (client : Client → Client) : Prop :=
  ∀ ops next file, ∃ lines,
    resultFile measured (client next) (replies (server ++ ops)) file =
      resultFile measured next (replies ops) (file ++ lines) ∧
    select lines = (labels server).flatMap (digest measured)

variable {measured : Measurements}

theorem records_nil : Records measured [] id :=
  fun _ _ _ => ⟨[], by rw [List.append_nil]; rfl, rfl⟩

theorem Records.append {front back : List ServerOp} {client client' : Client → Client}
    (first : Records measured front client) (second : Records measured back client') :
    Records measured (front ++ back) fun next => client (client' next) := by
  intro ops next file
  obtain ⟨lines, recorded, selected⟩ := first (back ++ ops) (client' next) file
  obtain ⟨lines', recorded', selected'⟩ := second ops next (file ++ lines)
  refine ⟨lines ++ lines', ?_, ?_⟩
  · rw [List.append_assoc, recorded, recorded', List.append_assoc]
  · rw [select_append, selected, selected', labels_append, List.flatMap_append]

theorem Records.action {server : List ServerOp} {client : Client → Client} (action : ServerAction)
    (rest : Records measured server client) : Records measured (.action action :: server) client :=
  rest

theorem records_loop {X : Type} {server : X → List ServerOp} {client : X → Client → Client}
    (items : List X) (body : ∀ item ∈ items, Records measured (server item) (client item)) :
    Records measured (items.flatMap server) fun next => items.foldr client next := by
  induction items with
  | nil => exact records_nil
  | cons item items induction =>
      exact (body item List.mem_cons_self).append
        (induction fun other member => body other (List.mem_cons_of_mem item member))

theorem resultFile_start (label : Label) (next : Client) (heard file : List Text) :
    resultFile measured (requestTestStart label next) ((Note.start label).message :: heard) file =
      resultFile measured next heard (file ++ [opening label]) := by
  unfold requestTestStart
  rw [resultFile, resultFile, resultFile, grepQ_self, if_pos rfl, resultFile]
  rfl

theorem resultFile_finish (label : Label) (next : Client) (heard file : List Text) :
    resultFile measured (requestTestFinish label next) ((Note.finish label).message :: heard)
      file = resultFile measured next heard (file ++ ["finish " ++ label.text]) := by
  unfold requestTestFinish
  rw [resultFile, resultFile, resultFile, grepQ_self, if_pos rfl, resultFile]
  rfl

/-- A test point leaves its announcement, its command, the output of `wrk` and its end. -/
theorem records_point {cmdt : Text} (label : Label)
    (silent : grepQ "start" cmdt = false ∧ grepQ "sec" cmdt = false) :
    Records measured [.waitTestStart label, .waitTestFinish label] (wrkPoint cmdt label) := by
  intro ops next file
  refine ⟨[opening label] ++ [cmdt] ++ measured.lines label ++ ["finish " ++ label.text], ?_, ?_⟩
  · rw [wrkPoint, List.cons_append, List.cons_append, List.nil_append, replies, replies,
      resultFile_start, resultFile, resultFile, resultFile_finish]
    simp only [Measurements.record, List.append_assoc]
  · have announced : grepQ "start" (opening label) = true :=
      grepQ_append_right [] "start" (" ".toList ++ label.text ++ " ".toList)
    have first : select [opening label] = [opening label] := by
      rw [select, grepEither, List.filter_cons_of_pos (by rw [announced]; rfl)]
      rfl
    rw [select_append, select_append, select_append, first, select_measurement,
      select_silent (by simpa using silent), select_silent (by simpa using select_finish label)]
    simp [labels, digest]

theorem records_testPoint {cmdt : Text} (core : Nat) (affinity : Text) (label : Label)
    (silent : grepQ "start" cmdt = false ∧ grepQ "sec" cmdt = false) :
    Records measured (testPoint core affinity label) (wrkPoint cmdt label) :=
  records_point label silent

theorem records_sweep {cmdt : Text} (cpus : List Nat) (label : Nat → Label)
    (silent : grepQ "start" cmdt = false ∧ grepQ "sec" cmdt = false) :
    Records measured (sweepOps cpus label) (coreTests cmdt cpus.length label) := by
  let core := (coreSweep cpus.length).2
  have extra : Records measured
      (if cpus.length * 2 ≠ core then
          testPoint core (cpuStrToAffinity cpus cpus.length) (label core)
        else [])
      fun next => (if cpus.length * 2 ≠ core then [core] else []).foldr
        (fun core next => wrkPoint cmdt (label core) next) next := by
    by_cases another : cpus.length * 2 ≠ core
    · rw [if_pos another, if_pos another]
      exact records_testPoint core _ (label core) silent
    · rw [if_neg another, if_neg another]
      exact records_nil
  have points : Records measured
      ((coreSweep cpus.length).1.flatMap fun core =>
        testPoint core (cpuStrToAffinity cpus core) (label core))
      fun next => (coreSweep cpus.length).1.foldr
        (fun core next => wrkPoint cmdt (label core) next) next :=
    records_loop _ fun core _ => records_testPoint core _ (label core) silent
  have folded : coreTests cmdt cpus.length label = fun next =>
      (coreSweep cpus.length).1.foldr (fun core next => wrkPoint cmdt (label core) next)
        ((if cpus.length * 2 ≠ core then [core] else []).foldr
          (fun core next => wrkPoint cmdt (label core) next) next) :=
    funext fun next => List.foldr_append
  rw [folded]
  exact points.append extra

theorem records_mode {server : List ServerOp} {client : Client → Client} (mode : Mode)
    (rest : Records measured server client) : Records measured (gzipOp mode :: server) client := by
  have command : gzipOp mode = .action (.sedGzip mode.gzip.text) := by
    cases mode <;> rfl
  rw [command]
  exact rest.action _

variable {host : Text} {topology : Topology}

theorem records_socket (numeric : Numeric host) (side : Side) :
    Records measured (nginxOnOneSocketHandle topology side) (sockethandle host side) := by
  have swept : Records measured
      (nginxmode.flatMap fun mode =>
        gzipOp mode :: sweepOps (topology.socketCpulist side) (.socket mode side))
      fun next => nginxmode.foldr
        (fun mode next => coreTests (wrkcmd host mode)
          (shellNat (decimal (topology.socketCpulist side).length)) (.socket mode side) next)
        next := by
    rw [shellNat_decimal]
    exact records_loop _ fun mode _ =>
      records_mode mode (records_sweep _ _ (select_wrkcmd numeric mode))
  exact swept

theorem records_node (numeric : Numeric host) :
    Records measured (Nginx.nodehandle topology) (nodehandle host) := by
  have points : ∀ (mode : Mode) (node : Nat),
      Records measured (nodeOps topology mode node) (nodePoints host mode node) := by
    intro mode node
    have swept : Records measured (sweepOps (topology.nodeCpus node) (.node mode node))
        (coreTests (wrkcmd host mode) (shellNat (decimal (topology.nodeCpus node).length))
          (.node mode node)) := by
      rw [shellNat_decimal]
      exact records_sweep _ _ (select_wrkcmd numeric mode)
    exact swept
  have swept : Records measured
      (nginxmode.flatMap fun mode =>
        gzipOp mode :: (List.range topology.nodes.length).flatMap (nodeOps topology mode))
      fun next => nginxmode.foldr
        (fun mode next => (List.range (shellNat (decimal topology.nodes.length))).foldr
          (fun node next => nodePoints host mode node next) next)
        next := by
    rw [shellNat_decimal]
    exact records_loop _ fun mode _ => records_mode mode (records_loop _ fun node _ =>
      points mode node)
  exact swept

theorem records_server (numeric : Numeric host) :
    Records measured Nginx.serverhandle (serverhandle host) := by
  have points : Records measured Nginx.serverhandle fun next =>
      nginxmode.foldr (fun mode next => wrkPoint (wrkcmd host mode) (.server mode) next) next :=
    records_loop _ fun mode _ =>
      records_mode mode (records_point (.server mode) (select_wrkcmd numeric mode))
  intro ops next file
  obtain ⟨lines, recorded, selected⟩ := points ops next (file ++ ["========server Test========".toList])
  refine ⟨["========server Test========".toList] ++ lines, ?_, ?_⟩
  · rw [← List.append_assoc]
    exact recorded
  · rw [select_append, selected]
    rfl

/-- The selected lines of a sweep are those of its test points. -/
theorem select_sweepFile (numeric : Numeric host) (mode : TestMode) :
    select (sweepFile measured topology host mode) =
      (labels (serverOps topology mode)).flatMap (digest measured) := by
  have whole : ∀ {server : List ServerOp} {client : Client → Client},
      Records measured server client →
        select (resultFile measured (client .done) (replies server) [""]) =
          (labels server).flatMap (digest measured) := by
    intro server client records
    obtain ⟨lines, recorded, selected⟩ := records [] .done [""]
    rw [List.append_nil] at recorded
    rw [recorded, resultFile, select_append, selected]
    rfl
  cases mode with
  | socketl => exact whole (records_socket numeric .localSide)
  | socketr => exact whole (records_socket numeric .remoteSide)
  | node => exact whole (records_node numeric)
  | server => exact whole (records_server numeric)
  | stats => rfl
  | all =>
      have statistics : Records measured (Nginx.statisticshandle topology) statisticshandle :=
        records_nil
      exact whole (((((records_socket numeric .localSide).append
        (records_socket numeric .remoteSide)).append (records_node numeric)).append
          (records_server numeric)).append statistics)

/-! ## What the filters make of it -/

/-- Outside its numbers a label has no blank, no other label's sign and no two dashes in a row. -/
theorem label_outline : ∀ mode ∈ nginxmode, ∀ outline ∈ outlines,
    (mode.text ++ '-' :: outline).all (fun c => !isBlank c) = true ∧ 'h' ∉ outline ∧
      ¬ "--".toList <:+: "start ".toList ++ (mode.text ++ '-' :: outline) ++ " ".toList := by
  decide

theorem isBlank_of_mem_label {label : Label} {c : Char} (member : c ∈ label.text) :
    isBlank c = false := by
  by_contra blank
  have notDigit : c.isDigit = false := by
    simp only [isBlank, Bool.not_eq_false, Bool.or_eq_true, beq_iff_eq] at blank
    rcases blank with (rfl | rfl) | rfl <;> decide
  have outside := mem_letters member notDigit
  rw [letters_label] at outside
  have plain := (label_outline label.mode (mem_nginxmode _) _ label.outline_mem).1
  exact blank (by simpa using List.all_eq_true.mp plain c outside)

theorem awkWord_opening (label : Label) : awkWord 2 (opening label) = label.text := by
  have line : opening label = ("start".toList ++ ' ' :: label.text) ++ ' ' :: [] := rfl
  have nonempty : label.text ≠ [] := by
    rw [label.text_eq]
    simp
  rw [awkWord, line, words_append_blank _ _ (by decide), words_append_blank _ _ (by decide),
    words_word nonempty fun _ => isBlank_of_mem_label]
  rfl

theorem mode_suffix_iff : ∀ mode ∈ nginxmode, ∀ mode' ∈ nginxmode,
    mode.text <:+ "start ".toList ++ mode'.text ↔ mode' = mode := by
  decide

/-- The opening line of a test point is found by its own kind of requests only. -/
theorem grepQ_opening (mode : Mode) (label : Label) :
    grepQ (mode.text ++ "-") (opening label) = decide (label.mode = mode) := by
  have line : opening label =
      ("start ".toList ++ label.mode.text) ++ '-' :: (label.place ++ " ".toList) := by
    unfold opening
    rw [label.text_eq]
    simp only [List.append_assoc, List.cons_append]
  have free : '-' ∉ "start ".toList ++ label.mode.text := by
    rw [List.mem_append, not_or]
    exact ⟨by decide, label.mode.not_mem_text⟩
  have later : ¬ mode.text ++ ['-'] <:+: label.place ++ " ".toList := by
    intro inside
    have needed : 'h' ∈ mode.text ++ ['-'] := by cases mode <;> decide
    rcases List.mem_append.mp (inside.subset needed) with inPlace | blank
    · have outside := mem_letters inPlace (by decide)
      rw [letters_place] at outside
      exact (label_outline _ (mem_nginxmode mode) _ label.outline_mem).2.1 outside
    · exact absurd blank (by decide)
  rw [grepQ, line]
  apply decide_eq_decide.mpr
  have pattern : mode.text ++ "-".toList = mode.text ++ ['-'] := rfl
  rw [pattern, infix_terminated_iff mode.not_mem_text free, or_iff_left later,
    mode_suffix_iff _ (mem_nginxmode _) _ (mem_nginxmode _)]

theorem grepQ_dashes_opening (label : Label) : grepQ "--" (opening label) = false := by
  simp only [grepQ, decide_eq_false_iff_not]
  intro inside
  have found := infix_letters (by decide) inside
  have line : letters (opening label) =
      "start ".toList ++ (label.mode.text ++ '-' :: label.outline) ++ " ".toList := by
    unfold opening
    rw [letters_append, letters_append, letters_label]
    rfl
  rw [line] at found
  exact (label_outline _ (mem_nginxmode _) _ label.outline_mem).2.2 found

theorem number_char {c : Char} (plain : c.isAlphanum = true ∨ c = '.') :
    isBlank c = false ∧ c ≠ '-' := by
  constructor
  · by_contra blank
    simp only [isBlank, Bool.not_eq_false, Bool.or_eq_true, beq_iff_eq] at blank
    rcases blank with (rfl | rfl) | rfl <;> simp at plain
  · rintro rfl
    simp at plain

theorem not_mem_padLeft {width : Nat} {text : Text} (free : '-' ∉ text) :
    '-' ∉ padLeft width text := by
  rw [padLeft, List.mem_append, not_or]
  refine ⟨fun member => ?_, free⟩
  exact absurd (List.eq_of_mem_replicate member) (by decide)

/-- The words of a right-aligned line. -/
theorem words_aligned {title number : Text} (width : Nat) (oneWord : words title = [title])
    (nonempty : number ≠ []) (plain : ∀ c ∈ number, isBlank c = false) :
    awkWord 2 (title ++ ' ' :: (List.replicate width ' ' ++ number)) = number := by
  rw [awkWord, words_append_blank _ _ (by decide), words_replicate_blank, oneWord,
    words_word nonempty plain]
  rfl

/-- The number is the second word of its line. -/
theorem awkWord_rates (rates : Rates) :
    rates.lines.map (awkWord 2) = [rates.requests, rates.transfer ++ "B"] := by
  have unit : ∀ c ∈ rates.transfer ++ "B".toList, isBlank c = false := by
    intro c member
    rcases List.mem_append.mp member with inside | letter
    · exact (number_char (rates.transfer_plain c inside)).1
    · rw [List.mem_singleton.mp letter]
      decide
  have requests : awkWord 2 ("Requests/sec: ".toList ++ padLeft 9 rates.requests) =
      rates.requests := by
    have title : words "Requests/sec:" = ["Requests/sec:".toList] := by decide
    exact words_aligned _ title rates.requests_ne_nil
      fun c member => (number_char (rates.requests_plain c member)).1
  have transfer : awkWord 2 ("Transfer/sec: ".toList ++ padLeft 10 rates.transfer ++ "B".toList) =
      rates.transfer ++ "B".toList := by
    have line : "Transfer/sec: ".toList ++ padLeft 10 rates.transfer ++ "B".toList =
        "Transfer/sec:".toList ++ ' ' :: (List.replicate (10 - rates.transfer.length) ' ' ++
          (rates.transfer ++ "B".toList)) := by
      unfold padLeft
      simp
    rw [line]
    exact words_aligned _ (by decide) (by simp) unit
  unfold Rates.lines
  rw [List.map_cons, List.map_cons, List.map_nil, requests, transfer]

theorem not_mem_rates (rates : Rates) : ∀ line ∈ rates.lines, '-' ∉ line := by
  have requests : '-' ∉ rates.requests :=
    fun member => (number_char (rates.requests_plain _ member)).2 rfl
  have transfer : '-' ∉ rates.transfer :=
    fun member => (number_char (rates.transfer_plain _ member)).2 rfl
  intro line member
  unfold Rates.lines at member
  rcases List.mem_pair.mp member with rfl | rfl
  · rw [List.mem_append, not_or]
    exact ⟨by decide, not_mem_padLeft requests⟩
  · rw [List.mem_append, List.mem_append, not_or, not_or]
    exact ⟨⟨by decide, not_mem_padLeft transfer⟩, by decide⟩

theorem grepQ_rates {pattern line : Text} (rates : Rates) (needed : '-' ∈ pattern)
    (member : line ∈ rates.lines) : grepQ pattern line = false :=
  grepQ_eq_false needed (not_mem_rates rates line member)

/-- The last two filters take the numbers behind the opening lines of one kind of requests. -/
theorem extract_eq (mode : Mode) {file : List Text} {points : List Label}
    (recorded : select file = points.flatMap (digest measured)) :
    extract mode file =
      (contextLines (mode.text ++ "-") 2 0 (points.flatMap (digest measured))).map (awkWord 2) := by
  have plain : ∀ line ∈ points.flatMap (digest measured), grepQ "--" line = false := by
    intro line member
    obtain ⟨label, -, inside⟩ := List.mem_flatMap.mp member
    rcases List.mem_cons.mp inside with rfl | result
    · exact grepQ_dashes_opening label
    · cases succeeded : measured.rates label with
      | none =>
          rw [Measurements.results, succeeded] at result
          simp at result
      | some rates =>
          rw [Measurements.results, succeeded] at result
          exact grepQ_rates rates (by decide) result
  rw [select] at recorded
  rw [extract, grepAfter, recorded, grepV_grepAfterLoop plain]

/-- When every point succeeds, the lines taken for a kind of requests are those of its points. -/
theorem contextLines_points (mode : Mode) {points : List Label}
    (succeeded : ∀ label ∈ points, (measured.rates label).isSome = true) :
    (contextLines (mode.text ++ "-") 2 0 (points.flatMap (digest measured))).map (awkWord 2) =
      (points.filter fun label => label.mode = mode).flatMap (entry measured) := by
  induction points with
  | nil => rfl
  | cons label points induction =>
      have later := induction fun other member => succeeded other (List.mem_cons_of_mem label member)
      obtain ⟨rates, success⟩ := Option.isSome_iff_exists.mp (succeeded label List.mem_cons_self)
      obtain ⟨second, third, lines⟩ : ∃ second third, rates.lines = [second, third] :=
        ⟨_, _, rfl⟩
      have results : measured.results label = [second, third] := by
        rw [Measurements.results, success, Option.map_some, Option.getD_some, lines]
      have numbers := awkWord_rates rates
      rw [lines] at numbers
      have silent : ∀ line ∈ [second, third], grepQ (mode.text ++ "-") line = false := by
        intro line member
        exact grepQ_rates rates (by simp) (lines ▸ member)
      have own : entry measured label = [opening label, second, third].map (awkWord 2) := by
        rw [entry, success, List.map_cons, numbers, awkWord_opening]
      rw [List.flatMap_cons, digest, results, List.cons_append, List.cons_append, List.cons_append,
        List.nil_append, contextLines_three _ _ (silent second (by simp)) (silent third (by simp)),
        List.map_append, later, grepQ_opening, List.filter_cons]
      by_cases same : label.mode = mode
      · simp only [same, decide_true, if_true, List.flatMap_cons, own]
      · simp only [same, decide_false]
        rfl

/-- The extracted lines are the successful points, unless a point of the whole server has failed. -/
theorem csv_eq_expected {file : List Text} {points : List Label}
    (recorded : select file = points.flatMap (digest measured))
    (succeeded : ∀ label ∈ points, (measured.rates label).isSome = true) :
    csv file = expectedCsv measured points := by
  apply List.flatMap_congr
  intro mode _
  rw [extract_eq mode recorded, contextLines_points mode succeeded]

/-- The label of every test point is extracted, whether the point has succeeded or not. -/
theorem label_mem_csv {file : List Text} {points : List Label} {label : Label}
    (recorded : select file = points.flatMap (digest measured)) (member : label ∈ points) :
    label.text ∈ csv file := by
  have inside : opening label ∈ points.flatMap (digest measured) :=
    List.mem_flatMap.mpr ⟨label, member, List.mem_cons_self⟩
  have found : grepQ (label.mode.text ++ "-") (opening label) = true := by
    rw [grepQ_opening, decide_eq_true rfl]
  refine List.mem_flatMap.mpr ⟨label.mode, mem_nginxmode _, ?_⟩
  rw [extract_eq _ recorded, ← awkWord_opening label]
  exact List.mem_map_of_mem (mem_contextLines inside found)

/-- A failed point of the whole server has no line among the successful points. -/
theorem label_not_mem_expected {points : List Label} {mode : Mode}
    (failed : measured.rates (.server mode) = none) :
    (Label.server mode).text ∉ expectedCsv measured points := by
  intro member
  simp only [expectedCsv, List.mem_flatMap, List.mem_filter] at member
  obtain ⟨kind, -, label, ⟨-, -⟩, inside⟩ := member
  have dash : '-' ∈ (Label.server mode).text := by
    rw [Label.text_eq]
    simp
  cases success : measured.rates label with
  | none =>
      rw [entry, success] at inside
      simp at inside
  | some rates =>
      rw [entry, success] at inside
      simp only [List.mem_cons, List.not_mem_nil, or_false] at inside
      rcases inside with sameText | requests | transfer
      · have continued := (Label.text_prefix_iff (.server mode) label).mp (sameText ▸ List.prefix_refl _)
        cases label with
        | server other =>
            have same : mode = other := continued
            rw [← same, failed] at success
            contradiction
        | socket | node => exact continued
      · rw [requests] at dash
        exact (number_char (rates.requests_plain _ dash)).2 rfl
      · rw [transfer] at dash
        rcases List.mem_append.mp dash with inside | letter
        · exact (number_char (rates.transfer_plain _ inside)).2 rfl
        · exact absurd letter (by decide)

/-- The extracted lines of a sweep are exactly its successful points, each with its own numbers, if
and only if no point of the whole server has failed. -/
theorem csv_correct_iff (topology : Topology) (measured : Measurements) (mode : TestMode)
    {host : Text} (numeric : Numeric host) :
    csv (sweepFile measured topology host mode) =
        expectedCsv measured (labels (serverOps topology mode)) ↔
      ∀ kind, Label.server kind ∈ labels (serverOps topology mode) →
        (measured.single kind).rates.isSome = true := by
  have recorded : select (sweepFile measured topology host mode) =
      (labels (serverOps topology mode)).flatMap (digest measured) :=
    select_sweepFile numeric mode
  constructor
  · intro correct kind member
    by_contra failed
    have none : measured.rates (.server kind) = none := by
      simpa [Measurements.rates] using failed
    have extracted := label_mem_csv recorded member
    rw [correct] at extracted
    exact label_not_mem_expected none extracted
  · intro succeeded
    apply csv_eq_expected recorded
    intro label member
    cases label with
    | server kind => exact succeeded kind member
    | socket | node => rfl

theorem plain_of_all {text : Text}
    (checked : (text.all fun c => c.isAlphanum || c == '.') = true) :
    ∀ c ∈ text, c.isAlphanum = true ∨ c = '.' := by
  intro c member
  simpa using List.all_eq_true.mp checked c member

/-- A run of `wrk` that prints its first line. -/
def sampleChatter : Chatter where
  lines := ["Running 30s test @ http://10.1.180.15/0kb.bin"]
  silent := by decide

/-- Results of a successful run. -/
def sampleRates : Rates where
  requests := "52341.07"
  transfer := "61.35M"
  requests_ne_nil := by decide
  requests_plain := plain_of_all (by decide)
  transfer_plain := plain_of_all (by decide)

/-- Measurements in which the points of the whole server fail for some kinds of requests. -/
def sampleMeasurements (failing : Mode → Bool) : Measurements where
  repeated _ := { failures := [sampleChatter], chatter := sampleChatter, rates := sampleRates }
  single mode :=
    { chatter := sampleChatter, rates := if failing mode then none else some sampleRates }

theorem csv_correct_allSucceed :
    csv (sweepFile (sampleMeasurements fun _ => false) sixteenCpus "10.1.180.15" .all) =
      expectedCsv (sampleMeasurements fun _ => false) (labels (serverOps sixteenCpus .all)) := by
  have digits : ("10.1.180.15".toList.all fun c => c.isDigit || c == '.') = true := by decide
  have numeric : Numeric "10.1.180.15" := by
    intro c member
    simpa using List.all_eq_true.mp digits c member
  exact (csv_correct_iff sixteenCpus (sampleMeasurements fun _ => false) .all numeric).mpr
    fun _ _ => rfl

/-- When the first point of the whole server fails, its label is followed by the label and a number
of the second one. -/
theorem failed_point_shifts :
    (csv (sweepFile (sampleMeasurements (· = .httpshort)) sixteenCpus "10.1.180.15" .server)).take 3 =
      ["httpshort-server".toList, "httplong-server", "52341.07"] ∧
    csv (sweepFile (sampleMeasurements (· = .httpshort)) sixteenCpus "10.1.180.15" .server) ≠
      expectedCsv (sampleMeasurements (· = .httpshort)) (labels (serverOps sixteenCpus .server)) := by
  constructor
  · decide +kernel
  · decide +kernel

end Wrk
