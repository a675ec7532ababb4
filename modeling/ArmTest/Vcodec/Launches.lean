import ArmTest.Vcodec.Power
import ArmTest.Vcodec.Scaling

/-!
# Launch plans

In scaling and power mode every wave of processes runs on different processors.  A process deletes
the file it has written, so its path must not be the path of another process.
-/

namespace Vcodec

open Shell Python

/-! ## Processes at the same time -/

/-- At any time the running processes are on different processors and write to different paths. -/
def Apart (trace : List Action) : Prop :=
  ∀ front, front <+: trace →
    ((alive [] front).map Launch.cpu).Nodup ∧ ((alive [] front).map Launch.path).Nodup

/-- Processes on different processors write to different paths. -/
theorem nodup_path {launches : List Launch} (distinct : (launches.map Launch.cpu).Nodup) :
    (launches.map Launch.path).Nodup := by
  rw [List.Nodup, List.pairwise_map] at distinct ⊢
  exact distinct.imp fun differ same => differ (cpu_eq_of_path_eq same)

/-- Waves on different processors are apart. -/
theorem apart_waves {G : Type} {groups : List G} {jobs : G → List Launch}
    {records : G → List Record}
    (distinct : ∀ group ∈ groups, ((jobs group).map Launch.cpu).Nodup) :
    Apart (groups.flatMap fun group => wave (jobs group) (records group)) := by
  intro front start
  have cpus : ((alive [] front).map Launch.cpu).Nodup := by
    rcases alive_within_waves start with nothing | ⟨group, member, part⟩
    · rw [nothing]
      exact List.nodup_nil
    · exact (distinct group member).sublist (part.map Launch.cpu)
  exact ⟨cpus, nodup_path cpus⟩

theorem apart_wave {jobs : List Launch} {records : List Record}
    (distinct : (jobs.map Launch.cpu).Nodup) : Apart (wave jobs records) := by
  have waves : Apart ([()].flatMap fun _ => wave jobs records) :=
    apart_waves fun _ _ => distinct
  rwa [List.flatMap_singleton] at waves

/-! ## Plans -/

/-- A run of scaling mode ends normally and makes one wave for every test; the wave of a test starts
the first processors of the socket on the video of the test. -/
structure ScalingPlan (processors : List Processor) (sockets : List Nat) (videoDir : Text)
    (inputFiles : List Text) (run : Program Action Unit) : Prop where
  /-- No exception is left. -/
  normal : run.result = .ok ()
  /-- The waves. -/
  waves : ∃ (jobs : Test → List Launch) (rows : Test → Record),
    run.trace = (scalingTests processors sockets inputFiles).flatMap
      (fun test => wave (jobs test) [rows test]) ∧
    ∀ test ∈ scalingTests processors sockets inputFiles,
      ((jobs test).map fun launch => (launch.cpu, launch.nodeId)) =
          (socketItems processors test.socketId).take test.coresNumber ∧
        ∀ launch ∈ jobs test, launch.inputFile = pathJoin videoDir test.inputFile

/-- A run of power mode starts every requested processor once for every video. -/
def PowerPlan (processors : List Processor) (sockets : List Nat) (videoDir : Text)
    (inputFiles : List Text) (run : Program Action Unit) : Prop :=
  ∀ inputFile ∈ inputFiles, Occupies processors sockets videoDir [inputFile]
    ((started run.trace).filter fun launch => launch.inputFile = pathJoin videoDir inputFile)

/-- What scaling mode and power mode promise of a machine, a list of sockets and the entries of the
video directory. -/
structure LaunchPlans (args : Args) (processors : List Processor) (sockets : List Nat)
    (comments directory : List Text) (fps : Launch → Option ℚ)
    (readings : Text → List (Option ℚ)) : Prop where
  /-- One core and the multiples of eight are tested. -/
  numbers : ∀ maxCores, 1 ≤ maxCores →
    (coresNumbersToTest maxCores).head? = some 1 ∧
    (coresNumbersToTest maxCores).Pairwise (· < ·) ∧
    ∀ number, number ∈ coresNumbersToTest maxCores ↔
      number = 1 ∨ 0 < number ∧ number ≤ maxCores ∧ 8 ∣ number
  /-- The waves of scaling mode. -/
  scaling : ScalingPlan processors sockets (pathJoin args.vbenchRoot "videos/socket-scaling")
    (directory.filter isVideo)
    (main (args.requesting sockets) (comments ++ processors.map Processor.line)
      (startScalingProcesses (args.requesting sockets) directory fps))
  scalingApart : Apart (main (args.requesting sockets) (comments ++ processors.map Processor.line)
    (startScalingProcesses (args.requesting sockets) directory fps)).trace
  /-- The processes of power mode. -/
  power : PowerPlan processors sockets (pathJoin args.vbenchRoot "videos/socket-scaling")
    (directory.filter isVideoFile)
    (main (args.requesting sockets) (comments ++ processors.map Processor.line)
      (startPowerProcesses (args.requesting sockets) directory fps readings))
  powerApart : Apart (main (args.requesting sockets) (comments ++ processors.map Processor.line)
    (startPowerProcesses (args.requesting sockets) directory fps readings)).trace

/-- Names without slashes are told apart in a directory. -/
theorem pathJoin_injective {directory first second : Text} (plain : '/' ∉ first)
    (plain' : '/' ∉ second) (same : pathJoin directory first = pathJoin directory second) :
    first = second := by
  have relative : ∀ name : Text, '/' ∉ name → name.head? ≠ some '/' := by
    intro name free absolute
    exact free (List.mem_of_mem_head? absolute)
  rw [pathJoin, pathJoin, if_neg (relative first plain), if_neg (relative second plain')] at same
  split at same
  · exact List.append_cancel_left same
  · exact List.cons.inj (List.append_cancel_left same) |>.2

theorem jobs_entries (args : Args) (videoDir : Text) (test : Test) (items : List (Nat × Nat)) :
    ((test.jobs args videoDir items).map fun launch => (launch.cpu, launch.nodeId)) =
      items.take test.coresNumber := by
  rw [Test.jobs, List.map_map]
  exact List.map_id _

section

variable (args : Args) (processors : List Processor) {sockets : List Nat}
  (distinct : (processors.map Processor.cpu).Nodup) {comments : List Text}
  (commented : ∀ line ∈ comments, line.head? = some '#') (nonempty : sockets ≠ [])

include commented nonempty in
theorem scalingPlan_main {directory : List Text} (videos : directory.filter isVideo ≠ [])
    (fps : Launch → Option ℚ) :
    ScalingPlan processors sockets (pathJoin args.vbenchRoot "videos/socket-scaling")
      (directory.filter isVideo)
      (main (args.requesting sockets) (comments ++ processors.map Processor.line)
        (startScalingProcesses (args.requesting sockets) directory fps)) := by
  rw [main_scaling_eq args videos fps commented processors nonempty]
  refine ⟨rfl, _, _, rfl, ?_⟩
  intro test _
  refine ⟨jobs_entries _ _ test _, ?_⟩
  intro launch member
  obtain ⟨entry, -, rfl⟩ := List.mem_map.mp member
  rfl

include distinct commented nonempty in
theorem apart_main_scaling {directory : List Text} (videos : directory.filter isVideo ≠ [])
    (fps : Launch → Option ℚ) :
    Apart (main (args.requesting sockets) (comments ++ processors.map Processor.line)
      (startScalingProcesses (args.requesting sockets) directory fps)).trace := by
  rw [main_scaling_eq args videos fps commented processors nonempty]
  apply apart_waves
  intro test _
  have cpus : ((test.jobs (args.requesting sockets)
      (pathJoin args.vbenchRoot "videos/socket-scaling")
      (socketItems processors test.socketId)).map Launch.cpu) =
        ((socketItems processors test.socketId).take test.coresNumber).map Prod.fst := by
    rw [← jobs_entries, List.map_map]
    rfl
  rw [cpus]
  exact (nodup_socketItems distinct test.socketId).sublist
    ((List.take_sublist _ _).map Prod.fst)

include distinct in
/-- The processes for a video in power mode. -/
theorem encode_plan (unrepeated : sockets.Nodup) (videoDir inputFile : Text) :
    Occupies processors sockets videoDir [inputFile]
        (started (encode args videoDir (requested processors sockets) inputFile).trace) ∧
      Apart (encode args videoDir (requested processors sockets) inputFile).trace := by
  rw [encode_eq, started_wave]
  constructor
  · apply occupies_requested distinct unrepeated (fun _ => rfl) (fun _ => rfl)
    intro entry _
    exact ⟨inputFile, List.mem_singleton_self inputFile, rfl⟩
  · apply apart_wave
    rw [List.map_map]
    exact nodup_requested distinct unrepeated

include distinct commented nonempty in
/-- Power mode starts the processes of one video. -/
theorem powerPlan_iff (unrepeated : sockets.Nodup) {directory : List Text}
    (names : ∀ name ∈ directory, '/' ∉ name) (videos : directory.filter isVideoFile ≠ [])
    (fps : Launch → Option ℚ) (readings : Text → List (Option ℚ)) :
    PowerPlan processors sockets (pathJoin args.vbenchRoot "videos/socket-scaling")
        (directory.filter isVideoFile)
        (main (args.requesting sockets) (comments ++ processors.map Processor.line)
          (startPowerProcesses (args.requesting sockets) directory fps readings)) ↔
      (∀ first ∈ directory.filter isVideoFile, ∀ second ∈ directory.filter isVideoFile,
          first = second) ∨
        ∀ processor ∈ processors, processor.socket ∉ sockets := by
  obtain ⟨first, listed, run⟩ :=
    main_power_eq args videos fps readings commented processors nonempty
  rw [run]
  constructor
  · intro plan
    by_contra several
    obtain ⟨different, occupied⟩ := not_or.mp several
    obtain ⟨processor, known, asked⟩ : ∃ processor ∈ processors, processor.socket ∈ sockets := by
      simpa using occupied
    -- a video other than the first one is never encoded
    obtain ⟨other, present, unlike⟩ : ∃ other ∈ directory.filter isVideoFile, first ≠ other := by
      by_contra none
      refine different fun one member two member' => ?_
      have same : ∀ name ∈ directory.filter isVideoFile, first = name := fun name member =>
        by_contra fun unlike => none ⟨name, member, unlike⟩
      rw [← same one member, ← same two member']
    obtain ⟨launch, selected, -⟩ := (plan other present).once processor known asked
    have member := List.mem_of_mem_filter (selected ▸ List.mem_singleton_self launch)
    obtain ⟨began, reads⟩ := List.mem_filter.mp member
    rw [started_wave] at began
    obtain ⟨entry, -, rfl⟩ := List.mem_map.mp began
    exact unlike (pathJoin_injective (names first (List.mem_of_mem_filter listed))
      (names other (List.mem_of_mem_filter present)) (of_decide_eq_true reads))
  · intro single inputFile member
    have plan := (encode_plan (args.requesting sockets) processors distinct unrepeated
      (pathJoin args.vbenchRoot "videos/socket-scaling") inputFile).1
    rw [encode_eq] at plan
    rcases single with same | free
    · have whole : ((started (wave ((requested processors sockets).map
          (powerLaunch (args.requesting sockets)
            (pathJoin args.vbenchRoot "videos/socket-scaling") first)) ([] : List Record))).filter
              fun launch => launch.inputFile =
                pathJoin (pathJoin args.vbenchRoot "videos/socket-scaling") inputFile) =
            (requested processors sockets).map (powerLaunch (args.requesting sockets)
              (pathJoin args.vbenchRoot "videos/socket-scaling") inputFile) := by
        rw [started_wave, same first listed inputFile member, List.filter_eq_self]
        intro launch began
        obtain ⟨entry, -, rfl⟩ := List.mem_map.mp began
        exact decide_eq_true rfl
      rw [whole]
      rwa [started_wave] at plan
    · have nobody : requested processors sockets = [] := by
        rw [List.eq_nil_iff_forall_not_mem]
        intro entry member
        obtain ⟨processor, known, asked, -⟩ := mem_requested.mp member
        exact free processor known asked
      rw [nobody] at plan ⊢
      exact plan

include distinct commented nonempty in
/-- The processes of power mode that run at the same time are apart. -/
theorem apart_main_power (unrepeated : sockets.Nodup) {directory : List Text}
    (videos : directory.filter isVideoFile ≠ []) (fps : Launch → Option ℚ)
    (readings : Text → List (Option ℚ)) :
    Apart (main (args.requesting sockets) (comments ++ processors.map Processor.line)
      (startPowerProcesses (args.requesting sockets) directory fps readings)).trace := by
  obtain ⟨first, -, run⟩ :=
    main_power_eq args videos fps readings commented processors nonempty
  have plan := (encode_plan (args.requesting sockets) processors distinct unrepeated
    (pathJoin args.vbenchRoot "videos/socket-scaling") first).2
  rw [encode_eq] at plan
  rwa [run]

include distinct commented nonempty in
/-- Scaling mode tests one core and the multiples of eight and starts the first processors of a
socket, and processes that run at the same time are apart.  Power mode starts every requested
processor once for every video exactly if there is one video, or no processor to start. -/
theorem launchPlans_iff (unrepeated : sockets.Nodup) {directory : List Text}
    (names : ∀ name ∈ directory, '/' ∉ name) (videos : directory.filter isVideo ≠ [])
    (files : directory.filter isVideoFile ≠ []) (fps : Launch → Option ℚ)
    (readings : Text → List (Option ℚ)) :
    LaunchPlans args processors sockets comments directory fps readings ↔
      (∀ first ∈ directory.filter isVideoFile, ∀ second ∈ directory.filter isVideoFile,
          first = second) ∨
        ∀ processor ∈ processors, processor.socket ∉ sockets := by
  rw [← powerPlan_iff args processors distinct commented nonempty unrepeated names files fps
    readings]
  refine ⟨LaunchPlans.power, fun power => ⟨fun maxCores _ => ⟨?_, ?_, fun _ =>
    mem_coresNumbersToTest⟩, scalingPlan_main args processors commented nonempty videos fps,
    apart_main_scaling args processors distinct commented nonempty videos fps, power,
    apart_main_power args processors distinct commented nonempty unrepeated files fps readings⟩⟩
  · rw [coresNumbersToTest_eq]
    rfl
  · rw [coresNumbersToTest_eq]
    exact coresNumbersToTest_pairwise maxCores

end

/-- Two sockets with eight processors each and one video. -/
theorem launchPlans_iff_twoSockets :
    LaunchPlans defaultArgs (twoSockets 8 8) [1, 0] [] ["bike.mkv"] (fun _ => some 2)
      fun _ => [] := by
  have distinct : ((twoSockets 8 8).map Processor.cpu).Nodup := by
    rw [twoSockets_cpu]
    exact List.nodup_range
  have commented : ∀ line ∈ ([] : List Text), line.head? = some '#' := by simp
  have videos : List.filter isVideo ["bike.mkv"] ≠ [] := by decide
  have files : List.filter isVideoFile ["bike.mkv"] ≠ [] := by decide
  refine (launchPlans_iff defaultArgs (twoSockets 8 8) distinct commented (List.cons_ne_nil 1 [0])
    (by decide) (by simp) videos files (fun _ => some 2) fun _ => []).mpr (Or.inl ?_)
  intro first member second member'
  rw [List.mem_singleton.mp (List.mem_of_mem_filter member),
    List.mem_singleton.mp (List.mem_of_mem_filter member')]

/-- One processor and two videos, of which the second is never encoded. -/
theorem twoFiles_unplanned :
    ¬ LaunchPlans defaultArgs (twoSockets 1 0) [0] [] ["bike.mkv", "car.mkv"] (fun _ => some 2)
      fun _ => [some 100] := by
  intro plans
  have distinct : ((twoSockets 1 0).map Processor.cpu).Nodup := by
    rw [twoSockets_cpu]
    exact List.nodup_range
  have commented : ∀ line ∈ ([] : List Text), line.head? = some '#' := by simp
  have files : List.filter isVideoFile ["bike.mkv", "car.mkv"] ≠ [] := by decide
  rcases (powerPlan_iff defaultArgs (twoSockets 1 0) distinct commented (List.cons_ne_nil 0 [])
    (by decide) (by simp) files (fun _ => some 2) fun _ => [some 100]).mp plans.power with
    same | free
  · exact absurd (same "bike.mkv" (by decide) "car.mkv" (by decide)) (by decide)
  · exact free _ List.mem_cons_self (by decide)

end Vcodec
