import ArmTest.Vcodec.Total

/-!
# Scaling mode

`start_scaling_processes` encodes every video on growing numbers of processors of a socket.  The
loop that starts the processes of a test breaks when there are enough of them.
-/

namespace Vcodec

open Shell Python

/-! ## The program -/

/-- The list `cores_numbers_to_test` of a socket. -/
def coresNumbersToTest (maxCores : Nat) : List Nat :=
  let coreNumbers := (List.range' 1 (maxCores / 8)).map fun i => 8 * i
  (1 :: coreNumbers.filter fun coreNumber => coreNumber ≤ maxCores).mergeSort

/-- A test: a video on some processors of a socket. -/
structure Test where
  /-- The variable `socket_id`. -/
  socketId : Nat
  /-- The variable `input_file`. -/
  inputFile : Text
  /-- The variable `cores_number`. -/
  coresNumber : Nat
  deriving DecidableEq

/-- The process of a test on a processor. -/
def Test.launch (args : Args) (videoDir : Text) (test : Test) (entry : Nat × Nat) : Launch :=
  let outputFile := joinWith '_' [splitextRoot test.inputFile, decimal test.coresNumber,
    decimal test.socketId, decimal entry.1 ++ ".mp4"]
  { ffmpeg := args.ffmpeg, encoder := args.encoder, nodeId := entry.2, cpu := entry.1,
    inputFile := pathJoin videoDir test.inputFile,
    outputFile := pathJoin args.outputDir outputFile }

/-- The loop over the processors of a socket. -/
def startTestProcesses (args : Args) (videoDir : Text) (test : Test) :
    List Launch → List (Nat × Nat) → Program Action (List Launch)
  | processes, [] => pure processes
  | processes, entry :: items =>
      if test.coresNumber ≤ processes.length then pure processes
      else do
        let process := test.launch args videoDir entry
        emit (.start process)
        startTestProcesses args videoDir test (processes ++ [process]) items

/-- The row of a test. -/
def Test.row (test : Test) (totalFps : ℚ) : Record :=
  ⟨"scaling_results.csv", ["Input File", "Cores Number", "Total FPS"],
    [.inl test.inputFile, .inr test.coresNumber, .inr totalFps]⟩

/-- The body of the loop over `cores_numbers_to_test`. -/
def runTest (args : Args) (videoDir : Text) (fps : Launch → Option ℚ) (items : List (Nat × Nat))
    (test : Test) : Program Action Unit := do
  let processes ← startTestProcesses args videoDir test [] items
  forEach processes fun process => emit (.join process)
  let results := processes.filterMap fps
  emit (.write (test.row results.sum))

/-- `start_scaling_processes`, with the entries of the video directory and the number that a
process puts into the queue. -/
def startScalingProcesses (args : Args) (directory : List Text) (fps : Launch → Option ℚ)
    (_coresInfo : List CoreInfo) (socketGroups : SocketGroups) : Program Action Unit := do
  let videoDir := pathJoin args.vbenchRoot "videos/socket-scaling"
  let inputFiles := directory.filter isVideo
  assert (inputFiles.length > 0)
  let socketIds ← parseSocketIds args.socketId
  forEach socketIds fun socketId =>
    let items := socketGroups socketId
    if items = [] then pure ()
    else
      forEach inputFiles fun inputFile =>
        forEach (coresNumbersToTest items.length) fun coresNumber =>
          runTest args videoDir fps items ⟨socketId, inputFile, coresNumber⟩

/-! ## Numbers of cores -/

/-- The tested numbers are listed in increasing order. -/
theorem coresNumbersToTest_pairwise (maxCores : Nat) :
    (1 :: ((List.range' 1 (maxCores / 8)).map fun i => 8 * i).filter
      fun coreNumber => coreNumber ≤ maxCores).Pairwise (· < ·) := by
  rw [List.pairwise_cons]
  constructor
  · intro number member
    obtain ⟨listed, -⟩ := List.mem_filter.mp member
    obtain ⟨i, inside, rfl⟩ := List.mem_map.mp listed
    have positive := (List.mem_range'_1.mp inside).1
    omega
  · apply List.Pairwise.filter
    rw [List.pairwise_map]
    exact (List.pairwise_lt_range' 1).imp fun below => by omega

/-- Sorting leaves the list as it is. -/
theorem coresNumbersToTest_eq (maxCores : Nat) : coresNumbersToTest maxCores =
    1 :: ((List.range' 1 (maxCores / 8)).map fun i => 8 * i).filter
      fun coreNumber => coreNumber ≤ maxCores := by
  apply List.mergeSort_of_pairwise
  exact (coresNumbersToTest_pairwise maxCores).imp fun below => decide_eq_true (Nat.le_of_lt below)

theorem mem_coresNumbersToTest {maxCores number : Nat} : number ∈ coresNumbersToTest maxCores ↔
    number = 1 ∨ 0 < number ∧ number ≤ maxCores ∧ 8 ∣ number := by
  rw [coresNumbersToTest_eq, List.mem_cons, List.mem_filter, List.mem_map]
  simp only [List.mem_range'_1, decide_eq_true_eq]
  constructor
  · rintro (rfl | ⟨⟨i, inside, rfl⟩, bounded⟩)
    · exact Or.inl rfl
    · exact Or.inr ⟨by omega, bounded, Nat.dvd_mul_right 8 i⟩
  · rintro (rfl | ⟨positive, bounded, i, rfl⟩)
    · exact Or.inl rfl
    · exact Or.inr ⟨⟨i, by omega, rfl⟩, bounded⟩

/-! ## Tests -/

section

variable (args : Args) (videoDir : Text) (test : Test)

/-- The loop stops at the number of cores or behind the last processor. -/
theorem startTestProcesses_eq (processes : List Launch) (items : List (Nat × Nat)) :
    startTestProcesses args videoDir test processes items =
      ⟨((items.take (test.coresNumber - processes.length)).map
          (test.launch args videoDir)).map .start,
        .ok (processes ++ (items.take (test.coresNumber - processes.length)).map
          (test.launch args videoDir))⟩ := by
  induction items generalizing processes with
  | nil => simp [startTestProcesses]
  | cons entry items induction =>
      rw [startTestProcesses]
      by_cases enough : test.coresNumber ≤ processes.length
      · rw [if_pos enough, Nat.sub_eq_zero_of_le enough]
        simp
      · have left : test.coresNumber - processes.length =
            test.coresNumber - (processes ++ [test.launch args videoDir entry]).length + 1 := by
          rw [List.length_append, List.length_singleton]
          omega
        rw [if_neg enough, left, List.take_succ_cons]
        dsimp only
        rw [induction]
        simp [emit]

/-- The processes of a test. -/
def Test.jobs (items : List (Nat × Nat)) : List Launch :=
  (items.take test.coresNumber).map (test.launch args videoDir)

/-- A test is one wave. -/
theorem runTest_eq (fps : Launch → Option ℚ) (items : List (Nat × Nat)) :
    runTest args videoDir fps items test =
      ⟨wave (test.jobs args videoDir items)
        [test.row ((test.jobs args videoDir items).filterMap fps).sum], .ok ()⟩ := by
  rw [runTest, startTestProcesses_eq, ok_bind, forEach_emit, ok_bind]
  rfl

end

/-! ## Whole runs -/

/-- The tests of a run in their order. -/
def scalingTests (processors : List Processor) (sockets : List Nat) (inputFiles : List Text) :
    List Test :=
  sockets.flatMap fun socket =>
    if socketItems processors socket = [] then []
    else
      inputFiles.flatMap fun inputFile =>
        (coresNumbersToTest (socketItems processors socket).length).map fun coresNumber =>
          ⟨socket, inputFile, coresNumber⟩

/-- The loops over the videos and over the numbers of cores. -/
theorem forEach_runTest (args : Args) (videoDir : Text) (fps : Launch → Option ℚ)
    (items : SocketGroups) (socket : Nat) (inputFiles : List Text) (coresNumbers : List Nat) :
    (forEach inputFiles fun inputFile => forEach coresNumbers fun coresNumber =>
      runTest args videoDir fps (items socket) ⟨socket, inputFile, coresNumber⟩) =
    ⟨(inputFiles.flatMap fun inputFile => coresNumbers.map fun coresNumber =>
        (⟨socket, inputFile, coresNumber⟩ : Test)).flatMap fun test =>
          wave (test.jobs args videoDir (items test.socketId))
            [test.row ((test.jobs args videoDir (items test.socketId)).filterMap fps).sum],
      .ok ()⟩ := by
  rw [List.flatMap_assoc]
  apply forEach_eq
  intro inputFile _
  rw [List.flatMap_map]
  apply forEach_eq
  intro coresNumber _
  exact runTest_eq args videoDir ⟨socket, inputFile, coresNumber⟩ fps (items socket)

/-- A run of scaling mode is a sequence of waves, one for every test. -/
theorem main_scaling_eq (args : Args) {directory : List Text}
    (videos : directory.filter isVideo ≠ []) (fps : Launch → Option ℚ) {comments : List Text}
    (commented : ∀ line ∈ comments, line.head? = some '#') (processors : List Processor)
    {sockets : List Nat} (nonempty : sockets ≠ []) :
    main (args.requesting sockets) (comments ++ processors.map Processor.line)
        (startScalingProcesses (args.requesting sockets) directory fps) =
      ⟨(scalingTests processors sockets (directory.filter isVideo)).flatMap fun test =>
        wave (test.jobs (args.requesting sockets)
            (pathJoin args.vbenchRoot "videos/socket-scaling")
            (socketItems processors test.socketId))
          [test.row ((test.jobs (args.requesting sockets)
            (pathJoin args.vbenchRoot "videos/socket-scaling")
            (socketItems processors test.socketId)).filterMap fps).sum], .ok ()⟩ := by
  have counted : decide ((directory.filter isVideo).length > 0) = true :=
    decide_eq_true (List.length_pos_of_ne_nil videos)
  rw [main_eq args commented processors nonempty, startScalingProcesses, counted,
    parseSocketIds_requesting args nonempty, scalingTests, List.flatMap_assoc]
  apply forEach_eq
  intro socket _
  by_cases empty : socketItems processors socket = []
  · simp [empty]
  · dsimp only
    rw [if_neg empty, if_neg empty]
    exact forEach_runTest _ _ fps (socketItems processors) socket _ _

end Vcodec
