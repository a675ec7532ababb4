import ArmTest.Mem.Linearity
import ArmTest.Nginx.Numactl

/-!
# The memory bandwidth script

`stream.sh` runs one benchmark on single processors, from one socket to the memory of the other,
and on growing numbers of threads.  It takes the processors from `numactl -H`; the number of nodes
is in a variable that the script never sets.
-/

namespace Mem

open Shell

/-! ## The program -/

/-- What the programs print. -/
structure Host where
  /-- Lines of `lscpu`. -/
  lscpu : List Text
  /-- Lines of `numactl -H`. -/
  numactl : List Text
  /-- The variable `DATE`. -/
  date : Text

/-- The variables of the environment; a variable that is not set is empty. -/
abbrev Environment := Text → Text

/-- A call of `numactl` with `stream_c.exe`. -/
structure Run where
  /-- The option `-C`. -/
  cpus : Text
  /-- The option `-m`; without it `-l` is given. -/
  memory : Option Text
  /-- The file that the output goes to. -/
  log : Text

namespace Host

/-- The variable `SOCKET_SIZE`. -/
def socketSize (host : Host) : Text :=
  capture ((host.lscpu.filter fun line => ("Socket(s)" : Text).isPrefixOf line).map (awkWord 2))

/-- The array `CORE_LIST`. -/
def coreList (host : Host) : List Text :=
  words (capture ((grep "cpus" host.numactl).map (awkField ':' 2)))

/-- The variable `NUM_CORES`. -/
def numCores (host : Host) : Nat := host.coreList.length / 2

/-- The variable `CORES_CPU0`. -/
def coresCpu0 (host : Host) : Text :=
  (List.range' 1 (host.numCores - 1)).foldl
    (fun coresCpu0 i => coresCpu0 ++ ',' :: host.coreList.getD i []) "0"

/-- A file in the directory of results. -/
def log (host : Host) (name : Text) : Text := "./results/" ++ host.date ++ '/' :: name

end Host

/-- The variable `NUMA_SIZE` in arithmetic. -/
def numaSize (environment : Environment) : Nat := shellNat (environment "NUMA_SIZE")

/-- The variable `nodeListOfCPU0`. -/
def nodeListOfCpu0 (numaSize : Nat) : Text :=
  (List.range' 1 (numaSize / 2 - 1)).foldl
    (fun nodeListOfCpu0 i => nodeListOfCpu0 ++ ',' :: decimal i) "0"

/-- The variable `nodeListOfCPU1`. -/
def nodeListOfCpu1 (numaSize : Nat) : Text :=
  (List.range' 1 (numaSize / 2 - 1)).foldl
    (fun nodeListOfCpu1 i => nodeListOfCpu1 ++ ',' :: decimal (numaSize / 2 + i))
    (decimal (numaSize / 2))

/-- The run of a single processor. -/
def singleCoreRun (host : Host) (k : Nat) : Run :=
  ⟨host.coreList.getD k [], none, host.log ("streamCore" ++ host.coreList.getD k [] ++ ".log")⟩

/-- The run from the first socket to remote memory. -/
def crossSocketRun (environment : Environment) (host : Host) : Run :=
  ⟨host.coresCpu0, some (nodeListOfCpu1 (numaSize environment)),
    host.log "streamCPU0CrossSocket.log"⟩

/-- The run of a number of threads. -/
def threadRun (host : Host) (threadSize : Int) : Run :=
  let threadList := (List.range threadSize.toNat).foldl
    (fun threadList j => threadList ++ ',' :: host.coreList.getD j []) (host.coreList.getD 0 [])
  ⟨threadList, none,
    host.log ("streamServerLineratyThreads" ++ integer threadSize ++ ".log")⟩

/-- The runs of `stream.sh`, and whether it ends without an error.  There is no result while the
rounds do not suffice. -/
def stream (environment : Environment) (host : Host) (rounds : Nat) : Option (List Run × Bool) :=
  if shellNat host.socketSize = 1 then some ([], true)
  else
    (linearity host.numCores rounds 0 0).map fun sizes =>
      ((List.range host.numCores).map (singleCoreRun host) ++
        crossSocketRun environment host :: sizes.1.map (threadRun host), sizes.2)

/-! ## Two sockets -/

/-- A machine with two sockets that have as many nodes and as many processors. -/
structure Host.Describes (host : Host) (nodes : List (List Nat)) (half : Nat) : Prop where
  /-- `lscpu` reports two sockets. -/
  sockets : host.socketSize = "2".toList
  /-- `numactl -H` has one line of processors for each node, in order. -/
  cpus : grep "cpus" host.numactl = nodes.mapIdx Nginx.cpusLine
  /-- The nodes of a socket. -/
  count : nodes.length = 2 * half
  /-- The sockets have as many processors. -/
  even : (nodes.take half).flatten.length = (nodes.drop half).flatten.length
  /-- Processor 0 is listed first. -/
  first : nodes.flatten.head? = some 0

/-- A list of numbers between commas that stands for a set. -/
def Denotes (text : Text) (numbers : Set Nat) : Prop :=
  ∃ listed, readNumbers ',' text = some listed ∧ ∀ number, number ∈ listed ↔ number ∈ numbers

/-- The lists of processors and nodes are right. -/
structure CrossSocket (nodes : List (List Nat)) (half : Nat) (environment : Environment)
    (host : Host) : Prop where
  /-- The processors of the first socket. -/
  cores : Denotes host.coresCpu0 {cpu | cpu ∈ (nodes.take half).flatten}
  /-- The nodes of the first socket. -/
  near : Denotes (nodeListOfCpu0 (numaSize environment)) {node | node < half}
  /-- The nodes of the second socket. -/
  far : Denotes (nodeListOfCpu1 (numaSize environment)) {node | half ≤ node ∧ node < 2 * half}

/-! ## Processors -/

theorem coreList_eq {host : Host} {nodes : List (List Nat)} {half : Nat}
    (describes : host.Describes nodes half) : host.coreList = nodes.flatten.map decimal := by
  have fields : (nodes.mapIdx Nginx.cpusLine).map (awkField ':' 2) = nodes.map Nginx.cpusText := by
    apply List.ext_getElem
    · simp
    · intro node _ _
      simp [Nginx.awkField_cpusLine]
  rw [Host.coreList, words_capture, describes.cpus, fields, List.flatMap_map]
  simp only [Nginx.words_cpusText]
  rw [← List.map_flatMap, List.flatMap_id']

/-- The list of processors is right. -/
theorem coresCpu0_denotes {host : Host} {nodes : List (List Nat)} {half : Nat}
    (describes : host.Describes nodes half) :
    Denotes host.coresCpu0 {cpu | cpu ∈ (nodes.take half).flatten} := by
  have joined : nodes.flatten = (nodes.take half).flatten ++ (nodes.drop half).flatten := by
    rw [← List.flatten_append, List.take_append_drop]
  obtain ⟨rest, listed⟩ : ∃ rest, nodes.flatten = 0 :: rest :=
    List.head?_eq_some_iff.mp describes.first
  have total : nodes.flatten.length = 2 * (nodes.take half).flatten.length := by
    rw [joined, List.length_append, ← describes.even]
    omega
  have counted : rest.length + 1 = 2 * (nodes.take half).flatten.length := by
    rw [← total, listed, List.length_cons]
  have number : host.numCores = (nodes.take half).flatten.length := by
    rw [Host.numCores, coreList_eq describes, List.length_map, total]
    omega
  have others : (List.range' 1 (host.numCores - 1)).map (fun i => host.coreList.getD i []) =
      (rest.take (host.numCores - 1)).map decimal := by
    have entry : ∀ i, host.coreList.getD (1 + i) [] = (rest.map decimal).getD (0 + i) [] := by
      intro i
      rw [coreList_eq describes, listed, Nat.add_comm 1 i, Nat.zero_add, List.map_cons,
        List.getD_cons_succ]
    have inside : 0 + (host.numCores - 1) ≤ (rest.map decimal).length := by
      rw [List.length_map]
      omega
    rw [List.range'_eq_map_range, List.map_map, List.map_take,
      ← List.drop_zero (l := rest.map decimal), Nginx.take_drop_eq_map_getD _ [] inside]
    exact List.map_congr_left fun i _ => entry i
  have socket : (nodes.take half).flatten = 0 :: rest.take (host.numCores - 1) := by
    have front : (nodes.take half).flatten = nodes.flatten.take host.numCores := by
      rw [joined, number, List.take_left]
    obtain ⟨size, positive⟩ : ∃ size, host.numCores = size + 1 := ⟨host.numCores - 1, by omega⟩
    rw [front, listed, positive, List.take_succ_cons]
    rfl
  refine ⟨(nodes.take half).flatten, ?_, fun _ => Iff.rfl⟩
  rw [Host.coresCpu0, foldl_separator, others, socket]
  exact readNumbers_joinWith (List.cons_ne_nil 0 _) (show (',' : Char).isDigit = false from rfl)

/-! ## Nodes -/

theorem nodeListOfCpu0_eq (size : Nat) :
    readNumbers ',' (nodeListOfCpu0 size) = some (0 :: List.range' 1 (size / 2 - 1)) := by
  rw [nodeListOfCpu0, foldl_separator]
  exact readNumbers_joinWith (List.cons_ne_nil 0 _) (show (',' : Char).isDigit = false from rfl)

theorem nodeListOfCpu1_eq (size : Nat) :
    readNumbers ',' (nodeListOfCpu1 size) =
      some (size / 2 :: (List.range' 1 (size / 2 - 1)).map fun i => size / 2 + i) := by
  have printed : (List.range' 1 (size / 2 - 1)).map (fun i => decimal (size / 2 + i)) =
      ((List.range' 1 (size / 2 - 1)).map fun i => size / 2 + i).map decimal := by
    rw [List.map_map]
    rfl
  rw [nodeListOfCpu1, foldl_separator, printed, ← List.map_cons]
  exact readNumbers_joinWith (List.cons_ne_nil _ _) (show (',' : Char).isDigit = false from rfl)

/-- The second list begins at half of the variable. -/
theorem half_of_far {size half : Nat}
    (far : Denotes (nodeListOfCpu1 size) {node | half ≤ node ∧ node < 2 * half}) :
    size / 2 = half := by
  obtain ⟨listed, read, same⟩ := far
  rw [nodeListOfCpu1_eq, Option.some.injEq] at read
  subst read
  have least : ∀ node ∈ size / 2 :: (List.range' 1 (size / 2 - 1)).map fun i => size / 2 + i,
      size / 2 ≤ node := by
    intro node member
    rcases List.mem_cons.mp member with rfl | later
    · exact Nat.le_refl _
    · obtain ⟨i, -, rfl⟩ := List.mem_map.mp later
      exact Nat.le_add_right _ i
  have inside : half ≤ size / 2 ∧ size / 2 < 2 * half := (same (size / 2)).mp List.mem_cons_self
  have first : half ∈ size / 2 :: (List.range' 1 (size / 2 - 1)).map fun i => size / 2 + i :=
    (same half).mpr ⟨Nat.le_refl half, by omega⟩
  exact Nat.le_antisymm (least half first) inside.1

/-- The lists of a machine are right exactly when the variable counts its nodes. -/
theorem crossSocket_iff {host : Host} {nodes : List (List Nat)} {half : Nat}
    (describes : host.Describes nodes half) (populated : 1 ≤ half) (environment : Environment) :
    CrossSocket nodes half environment host ↔ numaSize environment / 2 = half := by
  constructor
  · exact fun right => half_of_far right.far
  · intro counted
    refine ⟨coresCpu0_denotes describes, ⟨_, nodeListOfCpu0_eq _, ?_⟩, ⟨_, nodeListOfCpu1_eq _, ?_⟩⟩
    · intro node
      rw [List.mem_cons, List.mem_range'_1, counted, Set.mem_ofPred_eq]
      omega
    · intro node
      rw [List.mem_cons, List.mem_map, counted, Set.mem_ofPred_eq]
      simp only [List.mem_range'_1]
      constructor
      · rintro (rfl | ⟨i, inside, rfl⟩)
        · omega
        · omega
      · intro inside
        by_cases least : node = half
        · exact Or.inl least
        · exact Or.inr ⟨node - half, by omega, by omega⟩

/-- In an environment that does not set the number of nodes, the lists are wrong on
every machine. -/
theorem crossSocket_never {environment : Environment} (undefined : environment "NUMA_SIZE" = [])
    {host : Host} {nodes : List (List Nat)} {half : Nat} (describes : host.Describes nodes half)
    (populated : 1 ≤ half) : ¬ CrossSocket nodes half environment host := by
  have zero : numaSize environment = 0 := by
    rw [numaSize, undefined]
    rfl
  rw [crossSocket_iff describes populated, zero]
  omega

/-- A machine with two sockets of one node and two processors each. -/
def twoNodeHost : Host :=
  { lscpu := ["CPU(s):                4", "Socket(s):             2"],
    numactl := ["available: 2 nodes (0-1)", "node 0 cpus: 0 1", "node 0 size: 64 MB",
      "node 1 cpus: 2 3", "node 1 size: 64 MB"],
    date := "2023_03_28_15_55_16" }

theorem twoNodeHost_describes : twoNodeHost.Describes [[0, 1], [2, 3]] 1 where
  sockets := rfl
  cpus := rfl
  count := rfl
  even := rfl
  first := rfl

/-- The theorem applies to a machine. -/
theorem crossSocket_never_twoNodes :
    ¬ CrossSocket [[0, 1], [2, 3]] 1 (fun _ => []) twoNodeHost :=
  crossSocket_never rfl twoNodeHost_describes (Nat.le_refl 1)

/-- The first socket is measured with its own memory. -/
theorem twoNodes_local :
    crossSocketRun (fun _ => []) twoNodeHost =
        ⟨"0,1", some "0", "./results/2023_03_28_15_55_16/streamCPU0CrossSocket.log"⟩ ∧
      ¬ CrossSocket [[0, 1], [2, 3]] 1 (fun _ => []) twoNodeHost := by
  refine ⟨rfl, fun right => ?_⟩
  exact absurd (half_of_far right.far) (by decide)

end Mem
