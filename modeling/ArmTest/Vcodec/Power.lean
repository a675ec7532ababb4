import ArmTest.Vcodec.Total
import Mathlib.Algebra.Order.Ring.Abs
import Mathlib.Algebra.Order.Ring.Rat
import Mathlib.Tactic.NormNum

/-!
# Power mode

`start_power_processes` encodes every video on all requested processors while a monitor reads the
power.  The row of a video is chosen by a comparison with a variable that is bound nowhere.
-/

namespace Vcodec

open Shell Python

/-! ## The program -/

/-- The condition of `input_files` in power mode. -/
def isVideoFile (name : Text) : Bool :=
  searchEnd ".mkv" name || searchEnd ".y4m" name || searchEnd ".mp4" name

/-- `get_all_items`. -/
def getAllItems (args : Args) (socketGroups : SocketGroups) :
    Program Action (List (Nat × Nat)) := do
  let socketIds ← parseSocketIds args.socketId
  return socketIds.flatMap fun socketId =>
    if socketGroups socketId = [] then [] else socketGroups socketId

/-- What `monitor_power_consumption` puts into the queue: the readings that are not missing. -/
def monitorPowerConsumption (readings : List (Option ℚ)) : List ℚ :=
  readings.filterMap id

/-- `math.isclose`. -/
def isclose (a b relTol absTol : ℚ) : Bool :=
  a = b || |b - a| ≤ |relTol * b| || |b - a| ≤ |relTol * a| || |b - a| ≤ absTol

/-- A variable that is not bound. -/
def unbound {X : Type} (name : Text) : Program Action X := raise (.nameError name)

/-- A quotient. -/
def divide (a b : ℚ) : Program Action ℚ :=
  if b = 0 then raise .zeroDivisionError else pure (a / b)

/-- The process for a video on a processor. -/
def powerLaunch (args : Args) (videoDir inputFile : Text) (entry : Nat × Nat) : Launch :=
  let outputFile := joinWith '_'
    [splitextRoot inputFile, decimal entry.2, decimal entry.1 ++ ".mp4"]
  { ffmpeg := args.ffmpeg, encoder := args.encoder, nodeId := entry.2, cpu := entry.1,
    inputFile := pathJoin videoDir inputFile, outputFile := pathJoin args.outputDir outputFile }

/-- The processes for a video: all are started, then all are joined. -/
def encode (args : Args) (videoDir : Text) (items : List (Nat × Nat)) (inputFile : Text) :
    Program Action (List Launch) := do
  let processes ← gather items fun entry => do
    let process := powerLaunch args videoDir inputFile entry
    emit (.start process)
    return [process]
  forEach processes fun process => emit (.join process)
  return processes

/-- A row of `power_scaling_results.csv`. -/
def powerRow (args : Args) (inputFile : Text) (avgPower totalSum performance : ℚ) : Record :=
  ⟨"power_scaling_results.csv", ["Input File", "Socket ID", "Average Power (Watts)", "Total FPS",
      "Performance(FPS/Watts)"],
    [.inl inputFile, .inl args.socketId, .inr avgPower, .inr totalSum, .inr performance]⟩

/-- The two calls of `write_to_csv`. -/
def report (args : Args) (inputFile : Text) (avgPower totalSum number : ℚ) :
    Program Action Unit :=
  if isclose number 0 (1 / 10 ^ 9) 0 then
    emit (.write (powerRow args inputFile avgPower totalSum 0))
  else do
    let performance ← divide totalSum avgPower
    emit (.write (powerRow args inputFile avgPower totalSum performance))

/-- `sum(data) / len(data) if data else 0.0`. -/
def average (data : List ℚ) : ℚ := if data = [] then 0 else data.sum / data.length

/-- The loop over the sorted videos, with the readings that are in the queue.  During a video the
monitor adds its readings, and behind it all of them are taken out. -/
def powerLoop (args : Args) (videoDir : Text) (fps : Launch → Option ℚ)
    (readings : Text → List (Option ℚ)) (items : List (Nat × Nat)) :
    List ℚ → List Text → Program Action Unit
  | _, [] => pure ()
  | powerDataQueue, inputFile :: inputFiles => do
      let processes ← encode args videoDir items inputFile
      let powerDataQueue := powerDataQueue ++ monitorPowerConsumption (readings inputFile)
      let totalSum := (processes.filterMap fps).sum
      let powerConsumptionData := powerDataQueue
      let powerDataQueue := []
      let avgPower := average powerConsumptionData
      let number ← unbound "number"
      report args inputFile avgPower totalSum number
      powerLoop args videoDir fps readings items powerDataQueue inputFiles

/-- `start_power_processes`, with the entries of the video directory, the number that a process puts
into the queue and what the monitor reads during a video. -/
def startPowerProcesses (args : Args) (directory : List Text) (fps : Launch → Option ℚ)
    (readings : Text → List (Option ℚ)) (_coresInfo : List CoreInfo)
    (socketGroups : SocketGroups) : Program Action Unit := do
  let videoDir := pathJoin args.vbenchRoot "videos/socket-scaling"
  let inputFiles := directory.filter isVideoFile
  assert (inputFiles.length > 0)
  let items ← getAllItems args socketGroups
  (powerLoop args videoDir fps readings items [] (sorted inputFiles)).excepting .zeroDivisionError

/-! ## The loop over the videos -/

section

variable (args : Args) (videoDir : Text) (fps : Launch → Option ℚ)
  (readings : Text → List (Option ℚ)) (items : List (Nat × Nat))

/-- A video is one wave of processes. -/
theorem encode_eq (inputFile : Text) :
    encode args videoDir items inputFile =
      ⟨wave (items.map (powerLaunch args videoDir inputFile)) [],
        .ok (items.map (powerLaunch args videoDir inputFile))⟩ := by
  have rounds : ∀ entry ∈ items, ((do
      let process := powerLaunch args videoDir inputFile entry
      emit (.start process)
      return [process]) : Program Action (List Launch)) =
        ⟨[.start (powerLaunch args videoDir inputFile entry)],
          .ok [powerLaunch args videoDir inputFile entry]⟩ := fun _ _ => rfl
  rw [encode, gather_eq rounds, ok_bind, forEach_emit, ok_bind]
  simp [wave, ← List.map_eq_flatMap, Function.comp_def]

/-- The first video ends the loop: its processes run, and then the comparison raises. -/
theorem powerLoop_cons (queue : List ℚ) (inputFile : Text) (inputFiles : List Text) :
    powerLoop args videoDir fps readings items queue (inputFile :: inputFiles) =
      ⟨wave (items.map (powerLaunch args videoDir inputFile)) [],
        .error (.nameError "number")⟩ := by
  rw [powerLoop, encode_eq, ok_bind]
  simp [unbound, raise]

/-- The handler does not take this exception. -/
theorem powerLoop_excepting {inputFiles : List Text} (nonempty : inputFiles ≠ []) :
    ∃ first ∈ inputFiles,
      (powerLoop args videoDir fps readings items [] inputFiles).excepting .zeroDivisionError =
        ⟨wave (items.map (powerLaunch args videoDir first)) [], .error (.nameError "number")⟩ := by
  obtain ⟨first, rest, rfl⟩ := List.exists_cons_of_ne_nil nonempty
  refine ⟨first, List.mem_cons_self, ?_⟩
  rw [powerLoop_cons]
  rfl

end

/-- The processors of the requested sockets. -/
theorem getAllItems_eq (args : Args) (processors : List Processor) {sockets : List Nat}
    (nonempty : sockets ≠ []) :
    getAllItems (args.requesting sockets) (socketItems processors) =
      ⟨[], .ok (requested processors sockets)⟩ := by
  have whole : (fun socket => if socketItems processors socket = [] then []
      else socketItems processors socket) = socketItems processors := by
    funext socket
    split
    · rename_i empty
      exact empty.symm
    · rfl
  rw [getAllItems, parseSocketIds_requesting args nonempty, ok_bind, requested, whole]
  rfl

/-- A run of power mode starts the processes of one video and dies. -/
theorem main_power_eq (args : Args) {directory : List Text}
    (videos : directory.filter isVideoFile ≠ []) (fps : Launch → Option ℚ)
    (readings : Text → List (Option ℚ)) {comments : List Text}
    (commented : ∀ line ∈ comments, line.head? = some '#') (processors : List Processor)
    {sockets : List Nat} (nonempty : sockets ≠ []) :
    ∃ first ∈ directory.filter isVideoFile,
      main (args.requesting sockets) (comments ++ processors.map Processor.line)
          (startPowerProcesses (args.requesting sockets) directory fps readings) =
        ⟨wave ((requested processors sockets).map (powerLaunch (args.requesting sockets)
          (pathJoin args.vbenchRoot "videos/socket-scaling") first)) [],
          .error (.nameError "number")⟩ := by
  have counted : decide ((directory.filter isVideoFile).length > 0) = true :=
    decide_eq_true (List.length_pos_of_ne_nil videos)
  obtain ⟨first, listed, run⟩ := powerLoop_excepting (args.requesting sockets)
    (pathJoin args.vbenchRoot "videos/socket-scaling") fps readings
    (requested processors sockets) (sorted_ne_nil videos)
  refine ⟨first, mem_sorted.mp listed, ?_⟩
  rw [main_eq args commented processors nonempty, startPowerProcesses, counted,
    getAllItems_eq args processors nonempty]
  exact run

/-! ## Reports -/

theorem isclose_zero (number : ℚ) : isclose number 0 (1 / 10 ^ 9) 0 = decide (number = 0) := by
  rw [Bool.eq_iff_iff, decide_eq_true_iff]
  constructor
  · intro close
    by_contra nonzero
    have positive : 0 < |number| := abs_pos.mpr nonzero
    simp only [isclose, zero_sub, abs_neg, mul_zero, abs_zero, abs_mul, Bool.or_eq_true,
      decide_eq_true_eq, nonzero, false_or] at close
    rcases close with (nothing | small) | nothing
    · exact absurd nothing (not_le.mpr positive)
    · have scale : |(1 / 10 ^ 9 : ℚ)| < 1 := by norm_num
      exact absurd small (not_le.mpr (mul_lt_of_lt_one_left positive scale))
    · exact absurd nothing (not_le.mpr positive)
  · rintro rfl
    simp [isclose]

/-- The row of a video: the mean of its readings, the sum of the numbers of its processes, and
their quotient unless the mean is zero. -/
def fileRow (args : Args) (videoDir : Text) (fps : Launch → Option ℚ)
    (readings : Text → List (Option ℚ)) (items : List (Nat × Nat)) (inputFile : Text) : Record :=
  let mean := average ((readings inputFile).filterMap id)
  let total := ((items.map (powerLaunch args videoDir inputFile)).filterMap fps).sum
  powerRow args inputFile mean total (if mean = 0 then 0 else total / mean)

/-- A comparison with the mean would write the row of the video. -/
theorem report_average (args : Args) (videoDir : Text) (fps : Launch → Option ℚ)
    (readings : Text → List (Option ℚ)) (items : List (Nat × Nat)) (inputFile : Text) :
    report args inputFile (average (monitorPowerConsumption (readings inputFile)))
        ((items.map (powerLaunch args videoDir inputFile)).filterMap fps).sum
        (average (monitorPowerConsumption (readings inputFile))) =
      ⟨[.write (fileRow args videoDir fps readings items inputFile)], .ok ()⟩ := by
  rw [report, isclose_zero, fileRow, monitorPowerConsumption]
  generalize average ((readings inputFile).filterMap id) = mean
  by_cases zero : mean = 0
  · simp [zero, emit]
  · simp [zero, emit, divide]

/-- The run ends normally and every video has its row, in the order of their names. -/
structure ReportsEveryFile (args : Args) (videoDir : Text) (inputFiles : List Text)
    (fps : Launch → Option ℚ) (readings : Text → List (Option ℚ)) (items : List (Nat × Nat))
    (run : Program Action Unit) : Prop where
  /-- No exception is left. -/
  normal : run.result = .ok ()
  /-- One row for every video. -/
  rows : written run.trace =
    (sorted inputFiles).map (fileRow args videoDir fps readings items)

/-- Power mode never reports: whatever the videos, the machine, the sockets and the
readings are, an exception ends the run. -/
theorem power_never_reports (args : Args) (directory : List Text) (fps : Launch → Option ℚ)
    (readings : Text → List (Option ℚ)) (lscpu : List Text) (items : List (Nat × Nat)) :
    ¬ ReportsEveryFile args (pathJoin args.vbenchRoot "videos/socket-scaling")
      (directory.filter isVideoFile) fps readings items
      (main args lscpu (startPowerProcesses args directory fps readings)) := by
  intro reported
  obtain ⟨ids, -, started⟩ := bind_ok_iff.mp reported.normal
  obtain ⟨coresInfo, -, chosen⟩ := bind_ok_iff.mp started
  obtain ⟨⟨⟩, asserted, later⟩ := bind_ok_iff.mp chosen
  obtain ⟨allItems, -, ended⟩ := bind_ok_iff.mp later
  have videos : directory.filter isVideoFile ≠ [] := by
    intro none
    rw [none] at asserted
    contradiction
  obtain ⟨first, -, run⟩ := powerLoop_excepting args
    (pathJoin args.vbenchRoot "videos/socket-scaling") fps readings allItems
    (sorted_ne_nil videos)
  rw [run] at ended
  contradiction

/-- One video, one processor and one reading. -/
theorem oneFile_unreported :
    ¬ ReportsEveryFile (defaultArgs.requesting [0])
      (pathJoin defaultArgs.vbenchRoot "videos/socket-scaling") ["bike.mkv"] (fun _ => some 2)
      (fun _ => [some 100]) [(0, 0)]
      (main (defaultArgs.requesting [0]) ([] ++ (twoSockets 1 0).map Processor.line)
        (startPowerProcesses (defaultArgs.requesting [0]) ["bike.mkv"] (fun _ => some 2)
          fun _ => [some 100])) := by
  intro reported
  have commented : ∀ line ∈ ([] : List Text), line.head? = some '#' := by simp
  obtain ⟨first, -, run⟩ := main_power_eq defaultArgs
    (show List.filter isVideoFile ["bike.mkv"] ≠ [] by decide) (fun _ => some 2)
    (fun _ => [some 100]) commented (twoSockets 1 0) (List.cons_ne_nil 0 [])
  have ended := reported.normal
  rw [run] at ended
  contradiction

end Vcodec
