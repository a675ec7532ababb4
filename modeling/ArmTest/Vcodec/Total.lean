import ArmTest.Vcodec.Machine

/-!
# Total mode

`start_total_processes` starts one process on every processor of the requested sockets.  The video
of a processor is picked by the number of the processor from a list whose length depends on how
many processors and videos there are.
-/

namespace Vcodec

open Shell Python

/-! ## The program -/

/-- The condition of `input_files` in total and scaling mode. -/
def isVideo (name : Text) : Bool :=
  searchEnd "mkv" name || searchEnd "y4m" name || searchEnd "mp4" name

/-- A round of the loop of `start_total_processes` over the processors of a socket. -/
def startOnCpu (args : Args) (videoDir : Text) (extendedInputFiles : List Text)
    (entry : Nat × Nat) : Program Action (List Launch) := do
  let vName ← item extendedInputFiles entry.1
  let process : Launch :=
    { ffmpeg := args.ffmpeg, encoder := args.encoder, nodeId := entry.2, cpu := entry.1,
      inputFile := pathJoin videoDir vName, outputFile := pathJoin args.outputDir vName }
  emit (.start process)
  return [process]

/-- `start_total_processes`, with the entries of the video directory and the number that a process
puts into the queue. -/
def startTotalProcesses (args : Args) (directory : List Text) (fps : Launch → Option ℚ)
    (coresInfo : List CoreInfo) (socketGroups : SocketGroups) : Program Action Unit := do
  let videoDir := pathJoin args.vbenchRoot "videos/crf0"
  let inputFiles := directory.filter isVideo
  assert (inputFiles.length > 0)
  let repeatTimes := coresInfo.length / 16
  let extendedInputFiles := (List.replicate repeatTimes inputFiles).flatten
  let socketIds ← parseSocketIds args.socketId
  let processes ← gather socketIds fun socketId =>
    gather (socketGroups socketId) (startOnCpu args videoDir extendedInputFiles)
  forEach processes fun process => emit (.join process)
  let results := processes.filterMap fps
  emit (.write ⟨"total_fps_results.csv", ["Total FPS"], [.inr results.sum]⟩)

/-- `main` on the lines of `lscpu`, up to the choice of the mode. -/
def main (args : Args) (lscpu : List Text)
    (start : List CoreInfo → SocketGroups → Program Action Unit) : Program Action Unit := do
  let _ ← parseSocketIds args.socketId
  let coresInfo ← parseLscpuOutput [] lscpu
  start coresInfo (groupBySocket coresInfo)

/-! ## What total mode is for -/

/-- The options with the given list of sockets. -/
def Args.requesting (args : Args) (sockets : List Nat) : Args :=
  { args with socketId := joinWith ',' (sockets.map decimal) }

theorem parseSocketIds_requesting {E : Type} (args : Args) {sockets : List Nat}
    (nonempty : sockets ≠ []) :
    (parseSocketIds (args.requesting sockets).socketId : Program E (List Nat)) =
      ⟨[], .ok sockets⟩ :=
  parseSocketIds_joinWith nonempty

/-- The mode is started with the processors that `lscpu` prints, grouped by socket. -/
theorem main_eq (args : Args) {comments : List Text}
    (commented : ∀ line ∈ comments, line.head? = some '#') (processors : List Processor)
    {sockets : List Nat} (nonempty : sockets ≠ [])
    (start : List CoreInfo → SocketGroups → Program Action Unit) :
    main (args.requesting sockets) (comments ++ processors.map Processor.line) start =
      start (processors.map Processor.info) (socketItems processors) := by
  rw [main, parseSocketIds_requesting args nonempty, ok_bind, parseLscpuOutput_eq commented,
    ok_bind, groupBySocket_info]
  rfl

/-- Every processor of the requested sockets has one process, on its own node, with one of the
videos, and there are no others. -/
structure Occupies (processors : List Processor) (sockets : List Nat) (videoDir : Text)
    (videos : List Text) (processes : List Launch) : Prop where
  /-- One process for every processor. -/
  once : ∀ processor ∈ processors, processor.socket ∈ sockets →
    ∃ launch, processes.filter (fun launch => launch.cpu = processor.cpu) = [launch] ∧
      launch.nodeId = processor.node
  /-- Processes run on requested processors. -/
  only : ∀ launch ∈ processes, ∃ processor ∈ processors, processor.socket ∈ sockets ∧
    launch.cpu = processor.cpu
  /-- Processes read videos. -/
  input : ∀ launch ∈ processes, ∃ video ∈ videos, launch.inputFile = pathJoin videoDir video

/-- One process for every requested processor occupies the requested processors. -/
theorem occupies_requested {processors : List Processor} {sockets : List Nat} {videoDir : Text}
    {videos : List Text} {launchOf : Nat × Nat → Launch}
    (distinct : (processors.map Processor.cpu).Nodup) (unrepeated : sockets.Nodup)
    (onCpu : ∀ entry, (launchOf entry).cpu = entry.1)
    (onNode : ∀ entry, (launchOf entry).nodeId = entry.2)
    (reads : ∀ entry ∈ requested processors sockets,
      ∃ video ∈ videos, (launchOf entry).inputFile = pathJoin videoDir video) :
    Occupies processors sockets videoDir videos
      ((requested processors sockets).map launchOf) where
  once := by
    intro processor member asked
    have listed : (processor.cpu, processor.node) ∈ requested processors sockets :=
      mem_requested.mpr ⟨processor, member, asked, rfl⟩
    have selected := filter_key_eq_singleton (nodup_requested distinct unrepeated) listed
    refine ⟨launchOf (processor.cpu, processor.node), ?_, onNode _⟩
    rw [List.filter_map]
    simp only [Function.comp_def, onCpu, selected]
    rfl
  only := by
    intro launch member
    obtain ⟨entry, listed, rfl⟩ := List.mem_map.mp member
    obtain ⟨processor, known, asked, rfl⟩ := mem_requested.mp listed
    exact ⟨processor, known, asked, onCpu _⟩
  input := by
    intro launch member
    obtain ⟨entry, listed, rfl⟩ := List.mem_map.mp member
    exact reads entry listed

/-! ## Indices -/

theorem length_flatten_replicate {X : Type} (count : Nat) (items : List X) :
    (List.replicate count items).flatten.length = items.length * count := by
  induction count with
  | zero => rfl
  | succ count induction =>
      rw [List.replicate_succ, List.flatten_cons, List.length_append, induction, Nat.mul_succ,
        Nat.add_comm]

theorem mem_flatten_replicate {X : Type} {count : Nat} {items : List X} {entry : X}
    (member : entry ∈ (List.replicate count items).flatten) : entry ∈ items := by
  obtain ⟨part, copy, inside⟩ := List.mem_flatten.mp member
  rwa [List.eq_of_mem_replicate copy] at inside

section

variable (args : Args) (videoDir : Text)

/-- The process on a processor whose number is inside the list. -/
def totalLaunch (files : List Text) (entry : Nat × Nat) : Launch :=
  { ffmpeg := args.ffmpeg, encoder := args.encoder, nodeId := entry.2, cpu := entry.1,
    inputFile := pathJoin videoDir (files.getD entry.1 []),
    outputFile := pathJoin args.outputDir (files.getD entry.1 []) }

theorem startOnCpu_inside {files : List Text} {entry : Nat × Nat}
    (inside : entry.1 < files.length) :
    startOnCpu args videoDir files entry =
      ⟨[.start (totalLaunch args videoDir files entry)],
        .ok [totalLaunch args videoDir files entry]⟩ := by
  have found : (item files entry.1 : Program Action Text) = ⟨[], .ok (files.getD entry.1 [])⟩ := by
    rw [item, List.getD_eq_getElem?_getD, List.getElem?_eq_getElem inside]
    rfl
  rw [startOnCpu, found]
  rfl

/-- The round ends well exactly when the number is inside the list. -/
theorem startOnCpu_ok_iff {files : List Text} {entry : Nat × Nat} :
    (∃ processes, (startOnCpu args videoDir files entry).result = .ok processes) ↔
      entry.1 < files.length := by
  constructor
  · rintro ⟨processes, ended⟩
    obtain ⟨vName, found, -⟩ := bind_ok_iff.mp ended
    by_contra outside
    rw [item, List.getElem?_eq_none (Nat.le_of_not_lt outside)] at found
    contradiction
  · intro inside
    rw [startOnCpu_inside args videoDir inside]
    exact ⟨_, rfl⟩

end

/-! ## Whole runs -/

section

variable (args : Args) {directory : List Text} (videos : directory.filter isVideo ≠ [])
  (fps : Launch → Option ℚ) {comments : List Text}
  (commented : ∀ line ∈ comments, line.head? = some '#') (processors : List Processor)
  {sockets : List Nat} (nonempty : sockets ≠ [])

/-- The list of videos that processors are looked up in. -/
def videoList (directory : List Text) (count : Nat) : List Text :=
  (List.replicate (count / 16) (directory.filter isVideo)).flatten

include videos commented nonempty in
/-- A run, once its options and the machine are read. -/
theorem main_total_eq :
    main (args.requesting sockets) (comments ++ processors.map Processor.line)
        (startTotalProcesses (args.requesting sockets) directory fps) =
      (gather sockets fun socket => gather (socketItems processors socket)
        (startOnCpu (args.requesting sockets) (pathJoin args.vbenchRoot "videos/crf0")
          (videoList directory processors.length))) >>= fun processes =>
        forEach processes (fun process => emit (.join process)) >>= fun _ =>
          emit (.write ⟨"total_fps_results.csv", ["Total FPS"],
            [.inr (processes.filterMap fps).sum]⟩) := by
  have counted : decide ((directory.filter isVideo).length > 0) = true :=
    decide_eq_true (List.length_pos_of_ne_nil videos)
  rw [main_eq args commented processors nonempty, startTotalProcesses, counted,
    parseSocketIds_requesting args nonempty, List.length_map]
  rfl

include videos commented nonempty in
/-- A run that never leaves the list starts the processes one after another. -/
theorem main_total_inside
    (inside : ∀ entry ∈ requested processors sockets,
      entry.1 < (videoList directory processors.length).length) :
    ∃ record, main (args.requesting sockets) (comments ++ processors.map Processor.line)
        (startTotalProcesses (args.requesting sockets) directory fps) =
      ⟨wave ((requested processors sockets).map (totalLaunch (args.requesting sockets)
          (pathJoin args.vbenchRoot "videos/crf0")
          (videoList directory processors.length))) [record], .ok ()⟩ := by
  let launchOf := totalLaunch (args.requesting sockets) (pathJoin args.vbenchRoot "videos/crf0")
    (videoList directory processors.length)
  have rounds : ∀ socket ∈ sockets, gather (socketItems processors socket)
      (startOnCpu (args.requesting sockets) (pathJoin args.vbenchRoot "videos/crf0")
        (videoList directory processors.length)) =
      (⟨(socketItems processors socket).flatMap fun entry => [.start (launchOf entry)],
        .ok ((socketItems processors socket).flatMap fun entry => [launchOf entry])⟩ :
          Program Action (List Launch)) := by
    intro socket asked
    apply gather_eq
    intro entry member
    exact startOnCpu_inside _ _ (inside entry (List.mem_flatMap.mpr ⟨socket, asked, member⟩))
  refine ⟨⟨"total_fps_results.csv", ["Total FPS"],
    [.inr (((requested processors sockets).map launchOf).filterMap fps).sum]⟩, ?_⟩
  rw [main_total_eq args videos fps commented processors nonempty, gather_eq rounds, ok_bind,
    forEach_emit, ok_bind]
  simp only [← List.map_eq_flatMap, ← List.map_flatMap, requested, wave, List.map_map]
  rfl

include videos commented nonempty in
/-- A run that ends well never leaves the list. -/
theorem inside_of_main_total
    (ended : (main (args.requesting sockets) (comments ++ processors.map Processor.line)
      (startTotalProcesses (args.requesting sockets) directory fps)).result = .ok ()) :
    ∀ entry ∈ requested processors sockets,
      entry.1 < (videoList directory processors.length).length := by
  rw [main_total_eq args videos fps commented processors nonempty] at ended
  obtain ⟨processes, gathered, -⟩ := bind_ok_iff.mp ended
  intro entry member
  obtain ⟨socket, asked, inside⟩ := List.mem_flatMap.mp member
  obtain ⟨ofSocket, started⟩ := gather_ok_iff.mp ⟨processes, gathered⟩ socket asked
  exact (startOnCpu_ok_iff _ _).mp (gather_ok_iff.mp ⟨ofSocket, started⟩ entry inside)

include videos commented nonempty in
/-- Total mode occupies every processor of the requested sockets exactly when none of
their numbers reaches the number of videos times a sixteenth of the number of processors. -/
theorem occupies_iff_inside (distinct : (processors.map Processor.cpu).Nodup)
    (unrepeated : sockets.Nodup) :
    ((main (args.requesting sockets) (comments ++ processors.map Processor.line)
        (startTotalProcesses (args.requesting sockets) directory fps)).result = .ok () ∧
      Occupies processors sockets (pathJoin args.vbenchRoot "videos/crf0")
        (directory.filter isVideo)
        (started (main (args.requesting sockets) (comments ++ processors.map Processor.line)
          (startTotalProcesses (args.requesting sockets) directory fps)).trace)) ↔
      ∀ processor ∈ processors, processor.socket ∈ sockets →
        processor.cpu < (directory.filter isVideo).length * (processors.length / 16) := by
  have size : (videoList directory processors.length).length =
      (directory.filter isVideo).length * (processors.length / 16) :=
    length_flatten_replicate _ _
  rw [← size]
  constructor
  · rintro ⟨ended, -⟩ processor member asked
    exact inside_of_main_total args videos fps commented processors nonempty ended
      (processor.cpu, processor.node) (mem_requested.mpr ⟨processor, member, asked, rfl⟩)
  · intro below
    have inside : ∀ entry ∈ requested processors sockets,
        entry.1 < (videoList directory processors.length).length := by
      intro entry member
      obtain ⟨processor, known, asked, rfl⟩ := mem_requested.mp member
      exact below processor known asked
    obtain ⟨record, run⟩ :=
      main_total_inside args videos fps commented processors nonempty inside
    rw [run, started_wave]
    refine ⟨rfl, occupies_requested distinct unrepeated (fun _ => rfl) (fun _ => rfl) ?_⟩
    intro entry listed
    refine ⟨(videoList directory processors.length).getD entry.1 [], ?_, rfl⟩
    rw [List.getD_eq_getElem?_getD, List.getElem?_eq_getElem (inside entry listed)]
    exact mem_flatten_replicate (List.getElem_mem (inside entry listed))

end

/-! ## Two machines -/

/-- A machine whose processors are numbered socket by socket. -/
def twoSockets (first second : Nat) : List Processor :=
  (List.range (first + second)).map fun cpu =>
    let socket := if cpu < first then 0 else 1
    { cpu := cpu, core := cpu, socket := socket, node := socket }

theorem twoSockets_cpu (first second : Nat) :
    (twoSockets first second).map Processor.cpu = List.range (first + second) := by
  rw [twoSockets, List.map_map]
  exact List.map_id _

/-- The default options. -/
def defaultArgs : Args :=
  { outputDir := "/tmp", encoder := "libx265", ffmpeg := "/opt/ffmpeg", socketId := "0",
    vbenchRoot := "/vbench" }

/-- One processor of sixteen is requested, and there is one video. -/
theorem occupies_firstSocket :
    ((main (defaultArgs.requesting [0]) ([] ++ (twoSockets 1 15).map Processor.line)
        (startTotalProcesses (defaultArgs.requesting [0]) ["bike.mkv"]
          fun _ => some 2)).result = .ok () ∧
      Occupies (twoSockets 1 15) [0] (pathJoin defaultArgs.vbenchRoot "videos/crf0")
        (List.filter isVideo ["bike.mkv"])
        (started (main (defaultArgs.requesting [0]) ([] ++ (twoSockets 1 15).map Processor.line)
          (startTotalProcesses (defaultArgs.requesting [0]) ["bike.mkv"]
            fun _ => some 2)).trace)) ↔
      ∀ processor ∈ twoSockets 1 15, processor.socket ∈ [0] →
        processor.cpu < (List.filter isVideo ["bike.mkv"]).length *
          ((twoSockets 1 15).length / 16) :=
  occupies_iff_inside defaultArgs (by decide) (fun _ => some 2) (by simp) (twoSockets 1 15)
    (List.cons_ne_nil 0 []) (by rw [twoSockets_cpu]; exact List.nodup_range)
    (List.nodup_singleton 0)

/-- Fewer than sixteen processors make the list of videos empty. -/
theorem eightCpus_raise :
    ¬ ((main (defaultArgs.requesting [0]) ((twoSockets 8 0).map Processor.line)
          (startTotalProcesses (defaultArgs.requesting [0]) ["bike.mkv"]
            fun _ => some 2)).result = .ok () ∧
        Occupies (twoSockets 8 0) [0] (pathJoin defaultArgs.vbenchRoot "videos/crf0")
          ["bike.mkv"]
          (started (main (defaultArgs.requesting [0]) ((twoSockets 8 0).map Processor.line)
            (startTotalProcesses (defaultArgs.requesting [0]) ["bike.mkv"]
              fun _ => some 2)).trace)) := by
  rintro ⟨ended, -⟩
  have video : List.filter isVideo ["bike.mkv"] ≠ [] := by decide
  have commented : ∀ line ∈ ([] : List Text), line.head? = some '#' := by simp
  have inside := inside_of_main_total defaultArgs video (fun _ => some 2) commented
    (twoSockets 8 0) (List.cons_ne_nil 0 []) ended
  exact absurd (inside (0, 0) (by decide)) (by decide)

end Vcodec
