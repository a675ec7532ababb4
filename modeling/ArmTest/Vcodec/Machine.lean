import ArmTest.Python.Pool
import ArmTest.Python.Program
import Mathlib.Algebra.Order.Ring.Rat
import Mathlib.Data.List.Nodup

/-!
# The machine of the video benchmark

`post-silicon-test.py` reads the processors from `lscpu`, groups them by socket and starts one
`ffmpeg` process on a processor at a time.
-/

namespace Vcodec

open Shell Python

/-! ## Processors -/

/-- A line of `lscpu -p=CPU,Core,Socket,Node`. -/
structure Processor where
  /-- The column `CPU`. -/
  cpu : Nat
  /-- The column `Core`. -/
  core : Nat
  /-- The column `Socket`. -/
  socket : Nat
  /-- The column `Node`. -/
  node : Nat
  deriving DecidableEq

/-- The text of a line. -/
def Processor.line (processor : Processor) : Text :=
  joinWith ',' ([processor.cpu, processor.core, processor.socket, processor.node].map decimal)

/-- The entry of `cores_info` for a line: processor, socket and node. -/
abbrev CoreInfo := Nat × Nat × Nat

/-- The entry of a processor. -/
def Processor.info (processor : Processor) : CoreInfo :=
  (processor.cpu, processor.socket, processor.node)

/-- One round of the loop of `parse_lscpu_output`. -/
def parseLine {E : Type} (coresInfo : List CoreInfo) (line : Text) :
    Program E (List CoreInfo) :=
  if line.head? = some '#' ∨ line.all Char.isWhitespace then pure coresInfo
  else
    match line.splitOn ',' with
    | [cpuId, _, socketId, nodeId] => do
        let cpu ← int cpuId
        let socket ← int socketId
        let node ← int nodeId
        return coresInfo ++ [(cpu, socket, node)]
    | parts => if parts.length < 4 then pure coresInfo else raise .valueError

/-- `parse_lscpu_output` on the lines that `lscpu` prints. -/
def parseLscpuOutput {E : Type} : List CoreInfo → List Text → Program E (List CoreInfo)
  | coresInfo, [] => pure coresInfo
  | coresInfo, line :: lines => do
      let coresInfo ← parseLine coresInfo line
      parseLscpuOutput coresInfo lines

/-- The result of `group_by_socket`: processors and nodes of a socket. -/
abbrev SocketGroups := Nat → List (Nat × Nat)

/-- `group_by_socket`. -/
def groupBySocket (cpuInfo : List CoreInfo) : SocketGroups :=
  cpuInfo.foldl
    (fun groups info =>
      Function.update groups info.2.1 (groups info.2.1 ++ [(info.1, info.2.2)]))
    fun _ => []

/-- `parse_socket_ids`. -/
def parseSocketIds {E : Type} (socketIdStr : Text) : Program E (List Nat) :=
  ints (socketIdStr.splitOn ',')

/-! ## Processes -/

/-- The arguments of `run_ffmpeg_on_cpu`. -/
structure Launch where
  /-- The program. -/
  ffmpeg : Text
  /-- The encoder. -/
  encoder : Text
  /-- The node whose memory is used. -/
  nodeId : Nat
  /-- The processor. -/
  cpu : Nat
  /-- The video. -/
  inputFile : Text
  /-- The beginning of the output path. -/
  outputFile : Text
  deriving DecidableEq

/-- The variable `output_file` in `run_ffmpeg_on_cpu`: what is written and deleted again. -/
def Launch.path (launch : Launch) : Text :=
  launch.outputFile ++ '_' :: (decimal launch.cpu ++ ".mp4")

/-- The variable `cmd`. -/
def Launch.cmd (launch : Launch) : List Text :=
  ["numactl", "--physcpubind", decimal launch.cpu, "--membind", decimal launch.nodeId,
    launch.ffmpeg, "-hwaccel", "auto", "-y", "-hide_banner", "-i", launch.inputFile, "-c:v",
    launch.encoder, "-x265-params", "frame-threads=1:no-wpp=1:pools=,", "-preset", "medium",
    "-vtag", "hvc1", "-loglevel", "info", "-f", "mp4", launch.path]

/-- A call of `write_to_csv`. -/
structure Record where
  /-- The file. -/
  filename : Text
  /-- The first line of a new file. -/
  header : List Text
  /-- The fields. -/
  data : List (Text ⊕ ℚ)
  deriving DecidableEq

/-- What the script does. -/
abbrev Action := Event Launch Record

/-- The options of the script and the environment. -/
structure Args where
  /-- The option `--output_dir`. -/
  outputDir : Text
  /-- The option `--encoder`. -/
  encoder : Text
  /-- The program in `--ffmpeg_dir`. -/
  ffmpeg : Text
  /-- The option `--socket_id`. -/
  socketId : Text
  /-- The variable `VBENCH_ROOT`. -/
  vbenchRoot : Text

/-! ## Reading a machine -/

theorem splitOn_line (processor : Processor) : processor.line.splitOn ',' =
    [decimal processor.cpu, decimal processor.core, decimal processor.socket,
      decimal processor.node] := by
  apply splitOn_joinWith
  · simp
  · intro word member
    obtain ⟨number, -, rfl⟩ := List.mem_map.mp member
    exact not_mem_decimal rfl

/-- A line begins with a digit. -/
theorem head_line (processor : Processor) :
    ∃ c rest, processor.line = c :: rest ∧ c.isDigit = true := by
  obtain ⟨c, digits, start⟩ := List.exists_cons_of_ne_nil (decimal_ne_nil processor.cpu)
  have digit : c.isDigit = true := by
    apply isDigit_of_mem_decimal
    rw [start]
    exact List.mem_cons_self
  refine ⟨c, digits ++ ',' :: joinWith ','
    ([processor.core, processor.socket, processor.node].map decimal), ?_, digit⟩
  rw [Processor.line, List.map_cons, List.map_cons, joinWith_cons_cons, start]
  rfl

theorem parseLine_line {E : Type} (coresInfo : List CoreInfo) (processor : Processor) :
    (parseLine coresInfo processor.line : Program E (List CoreInfo)) =
      ⟨[], .ok (coresInfo ++ [processor.info])⟩ := by
  obtain ⟨c, rest, start, digit⟩ := head_line processor
  have printed : ¬ (processor.line.head? = some '#' ∨
      processor.line.all Char.isWhitespace) := by
    rw [start]
    rintro (comment | blank)
    · rw [List.head?_cons, Option.some.injEq] at comment
      rw [comment] at digit
      contradiction
    · have white := List.all_eq_true.mp blank c List.mem_cons_self
      simp only [Char.isWhitespace, Bool.or_eq_true, decide_eq_true_eq] at white
      rcases white with ((rfl | rfl) | rfl) | rfl <;> simp at digit
  rw [parseLine, if_neg printed, splitOn_line]
  simp only [int, parseNat?_decimal]
  rfl

theorem parseLscpuOutput_lines {E : Type} (coresInfo : List CoreInfo)
    (processors : List Processor) :
    (parseLscpuOutput coresInfo (processors.map Processor.line) : Program E (List CoreInfo)) =
      ⟨[], .ok (coresInfo ++ processors.map Processor.info)⟩ := by
  induction processors generalizing coresInfo with
  | nil => simp [parseLscpuOutput]
  | cons processor processors induction =>
      rw [List.map_cons, parseLscpuOutput, parseLine_line, ok_bind, induction]
      simp

/-- The script reads the processors behind the comments of `lscpu`. -/
theorem parseLscpuOutput_eq {E : Type} {comments : List Text}
    (commented : ∀ line ∈ comments, line.head? = some '#') (processors : List Processor) :
    (parseLscpuOutput [] (comments ++ processors.map Processor.line) :
      Program E (List CoreInfo)) = ⟨[], .ok (processors.map Processor.info)⟩ := by
  induction comments with
  | nil => exact parseLscpuOutput_lines [] processors
  | cons line comments induction =>
      have skipped : (parseLine [] line : Program E (List CoreInfo)) = ⟨[], .ok []⟩ :=
        if_pos (Or.inl (commented line List.mem_cons_self))
      rw [List.cons_append, parseLscpuOutput, skipped, ok_bind,
        induction fun other member => commented other (List.mem_cons_of_mem line member)]
      rfl

/-- The processors of a socket in the order of `lscpu`. -/
def socketItems (processors : List Processor) (socket : Nat) : List (Nat × Nat) :=
  (processors.filter fun processor => processor.socket = socket).map fun processor =>
    (processor.cpu, processor.node)

theorem groupBySocket_info (processors : List Processor) :
    groupBySocket (processors.map Processor.info) = socketItems processors := by
  rw [groupBySocket]
  induction processors using List.reverseRecOn with
  | nil => rfl
  | append_singleton processors processor induction =>
      rw [List.map_append, List.foldl_append, induction]
      funext socket
      by_cases same : processor.socket = socket
      · subst same
        simp [socketItems, Processor.info]
      · simp [socketItems, Processor.info, same, Function.update_of_ne (Ne.symm same)]

theorem parseSocketIds_joinWith {E : Type} {sockets : List Nat} (nonempty : sockets ≠ []) :
    (parseSocketIds (joinWith ',' (sockets.map decimal)) : Program E (List Nat)) =
      ⟨[], .ok sockets⟩ := by
  have split : (joinWith ',' (sockets.map decimal)).splitOn ',' = sockets.map decimal := by
    apply splitOn_joinWith
    · simpa using nonempty
    · intro word member
      obtain ⟨number, -, rfl⟩ := List.mem_map.mp member
      exact not_mem_decimal rfl
  rw [parseSocketIds, split, ints_decimal]

/-! ## Requested processors -/

/-- The processors of some sockets, socket by socket. -/
def requested (processors : List Processor) (sockets : List Nat) : List (Nat × Nat) :=
  sockets.flatMap (socketItems processors)

theorem mem_socketItems {processors : List Processor} {socket : Nat} {entry : Nat × Nat} :
    entry ∈ socketItems processors socket ↔
      ∃ processor ∈ processors, processor.socket = socket ∧
        entry = (processor.cpu, processor.node) := by
  rw [socketItems, List.mem_map]
  constructor
  · rintro ⟨processor, member, rfl⟩
    obtain ⟨inside, same⟩ := List.mem_filter.mp member
    exact ⟨processor, inside, by simpa using same, rfl⟩
  · rintro ⟨processor, inside, same, rfl⟩
    exact ⟨processor, List.mem_filter.mpr ⟨inside, by simpa using same⟩, rfl⟩

theorem mem_requested {processors : List Processor} {sockets : List Nat} {entry : Nat × Nat} :
    entry ∈ requested processors sockets ↔
      ∃ processor ∈ processors, processor.socket ∈ sockets ∧
        entry = (processor.cpu, processor.node) := by
  rw [requested, List.mem_flatMap]
  constructor
  · rintro ⟨socket, asked, member⟩
    obtain ⟨processor, inside, rfl, same⟩ := mem_socketItems.mp member
    exact ⟨processor, inside, asked, same⟩
  · rintro ⟨processor, inside, asked, same⟩
    exact ⟨processor.socket, asked, mem_socketItems.mpr ⟨processor, inside, rfl, same⟩⟩

/-- A socket has no processor twice. -/
theorem nodup_socketItems {processors : List Processor}
    (distinct : (processors.map Processor.cpu).Nodup) (socket : Nat) :
    ((socketItems processors socket).map Prod.fst).Nodup := by
  have cpus : (socketItems processors socket).map Prod.fst =
      (processors.filter fun processor => processor.socket = socket).map Processor.cpu := by
    rw [socketItems, List.map_map]
    rfl
  rw [cpus]
  exact distinct.sublist (List.filter_sublist.map Processor.cpu)

/-- Different sockets have different processors. -/
theorem nodup_requested {processors : List Processor}
    (distinct : (processors.map Processor.cpu).Nodup) {sockets : List Nat}
    (unrepeated : sockets.Nodup) : ((requested processors sockets).map Prod.fst).Nodup := by
  rw [requested, List.map_flatMap, List.nodup_flatMap]
  refine ⟨fun socket _ => nodup_socketItems distinct socket, unrepeated.imp ?_⟩
  intro first second differ cpu inFirst inSecond
  obtain ⟨entry, member, rfl⟩ := List.mem_map.mp inFirst
  obtain ⟨other, member', same⟩ := List.mem_map.mp inSecond
  obtain ⟨processor, inside, rfl, rfl⟩ := mem_socketItems.mp member
  obtain ⟨processor', inside', rfl, rfl⟩ := mem_socketItems.mp member'
  have one : processor = processor' :=
    List.inj_on_of_nodup_map distinct inside inside' same.symm
  exact differ (congrArg Processor.socket one)

/-- Among items with different keys, a key selects one. -/
theorem filter_key_eq_singleton {X Y : Type} [DecidableEq Y] {key : X → Y} {items : List X}
    (distinct : (items.map key).Nodup) {entry : X} (member : entry ∈ items) :
    items.filter (fun other => key other = key entry) = [entry] := by
  induction items with
  | nil => contradiction
  | cons first rest induction =>
      rw [List.map_cons, List.nodup_cons] at distinct
      rcases List.mem_cons.mp member with rfl | later
      · have others : rest.filter (fun other => key other = key entry) = [] := by
          rw [List.filter_eq_nil_iff]
          intro other inside same
          exact distinct.1 (List.mem_map.mpr ⟨other, inside, of_decide_eq_true same⟩)
        rw [List.filter_cons_of_pos (by simp), others]
      · have differ : key first ≠ key entry := by
          intro same
          exact distinct.1 (List.mem_map.mpr ⟨entry, later, same.symm⟩)
        rw [List.filter_cons_of_neg (by simpa using differ), induction distinct.2 later]

/-! ## Output paths -/

/-- Two processes on different processors write to different paths. -/
theorem cpu_eq_of_path_eq {first second : Launch} (same : first.path = second.path) :
    first.cpu = second.cpu := by
  have free : ∀ launch : Launch, '_' ∉ (decimal launch.cpu ++ (".mp4" : Text)).reverse := by
    intro launch member
    rcases List.mem_append.mp (List.mem_reverse.mp member) with digit | letter
    · exact not_mem_decimal rfl digit
    · exact absurd letter (by decide)
  have turned : ∀ launch : Launch, launch.path.reverse =
      (decimal launch.cpu ++ (".mp4" : Text)).reverse ++ '_' :: launch.outputFile.reverse := by
    intro launch
    rw [Launch.path, List.reverse_append, List.reverse_cons, List.append_assoc]
    rfl
  have ends := congrArg List.reverse same
  rw [turned, turned] at ends
  obtain ⟨suffixes, -⟩ := append_separator_inj (free first) (free second) ends
  exact decimal_injective (List.append_cancel_right (List.reverse_injective suffixes))

end Vcodec
