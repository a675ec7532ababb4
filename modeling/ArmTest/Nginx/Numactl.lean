import ArmTest.Nginx.Server
import ArmTest.Shell.Filter
import Mathlib.Data.List.Nodup

/-!
# Reading the topology

The server script learns its processors from the output of other programs.  This file follows it
from that output to the word list of one socket or node, and shows that the words are the
processors of the topology.
-/

namespace Nginx

open Shell

/-! ## What the script reads -/

/-- Output of the programs the script calls to learn about its machine. -/
structure Host where
  /-- Lines of `dmidecode -t processor`. -/
  dmidecode : List Text
  /-- Lines of `numactl -H`. -/
  numactl : List Text
  /-- Lines of `ethtool -i` for the network card. -/
  ethtool : List Text
  /-- Lines of `lspci -vv` for a device. -/
  lspci : Text → List Text

/-- The number a shell test sees in a word, with a sign or without. -/
def shellInt : Text → Int
  | '-' :: digits => -(shellNat digits : Int)
  | digits => shellNat digits

namespace Host

/-- The variable `nic_pciaddr`. -/
def nicPciaddr (host : Host) : Text :=
  capture ((grep "bus-info" host.ethtool).map (awkWord 2))

/-- The output of `get_nic_node`. -/
def getNicNode (host : Host) : Text :=
  capture ((grep "node" (host.lspci host.nicPciaddr)).map (awkWord 3))

/-- The variable `socket_num`. -/
def socketNum (host : Host) : Int := (grep "Socket Designation" host.dmidecode).length

/-- The variable `node_num`. -/
def nodeNum (host : Host) : Int := (grep "cpus:" host.numactl).length

/-- The variable `cpulist` or `node_cpuid` for a node. -/
def nodeCpuid (host : Host) (node : Int) : Text :=
  capture ((grep ("node " ++ integer node ++ " cpus:") host.numactl).map (awkField ':' 2))

/-- The variables `start_node` and `end_node`. -/
def nodeBounds (host : Host) (side : Side) : Int × Int :=
  let nicNode := shellInt host.getNicNode
  let result := host.nodeNum / host.socketNum
  if nicNode < result then
    match side with
    | .localSide => (0, result - 1)
    | .remoteSide => (result, host.nodeNum - 1)
  else
    match side with
    | .localSide => (result, host.nodeNum - 1)
    | .remoteSide => (0, result - 1)

/-- The variable `socket_cpulist` of `nginx_on_one_socket_handle`. -/
def socketCpulist (host : Host) (side : Side) : Text :=
  if host.socketNum ≠ host.nodeNum then
    let bounds := host.nodeBounds side
    (forRange bounds.1 bounds.2).foldl
      (fun socketCpulist node => socketCpulist ++ " " ++ host.nodeCpuid node) []
  else
    match side with
    | .localSide => host.nodeCpuid (shellInt host.getNicNode)
    | .remoteSide => host.nodeCpuid (1 - shellInt host.getNicNode)

/-- The variable `socket_cpucount`: the number of fields of each line. -/
def socketCpucount (host : Host) (side : Side) : Text :=
  capture (((host.socketCpulist side).splitOn '\n').map fun line => decimal (words line).length)

end Host

/-! ## What the programs print -/

/-- The processors of a node as `numactl -H` prints them. -/
def cpusText (cpus : List Nat) : Text := cpus.flatMap fun cpu => ' ' :: decimal cpu

/-- The line of `numactl -H` with the processors of a node. -/
def cpusLine (node : Nat) (cpus : List Nat) : Text :=
  "node " ++ decimal node ++ " cpus:" ++ cpusText cpus

/-- The programs report a topology. -/
structure Host.Describes (host : Host) (topology : Topology) : Prop where
  /-- `dmidecode` has one entry for each socket. -/
  sockets : (grep "Socket Designation" host.dmidecode).length = topology.socketNum
  /-- `numactl -H` has one line of processors for each node, in order. -/
  cpus : grep "cpus:" host.numactl = topology.nodes.mapIdx cpusLine
  /-- `lspci -vv` has one line with the node of the network card. -/
  nic : grep "node" (host.lspci host.nicPciaddr) = ["\tNUMA node: " ++ integer topology.nicNode]

/-! ## One line of processors -/

theorem mem_cpusText {cpus : List Nat} {c : Char} (member : c ∈ cpusText cpus) :
    c = ' ' ∨ c.isDigit = true := by
  obtain ⟨cpu, -, inside⟩ := List.mem_flatMap.mp member
  rcases List.mem_cons.mp inside with blank | digit
  · exact Or.inl blank
  · exact Or.inr (isDigit_of_mem_decimal digit)

theorem not_mem_cpusText {cpus : List Nat} {c : Char} (notBlank : c ≠ ' ')
    (notDigit : c.isDigit = false) : c ∉ cpusText cpus := by
  intro member
  rcases mem_cpusText member with blank | digit
  · exact notBlank blank
  · rw [notDigit] at digit
    contradiction

/-- The line of a node behind its first character. -/
def cpusTail (node : Nat) (cpus : List Nat) : Text :=
  "ode ".toList ++ (decimal node ++ ' ' :: ("cpus:".toList ++ cpusText cpus))

theorem cpusLine_eq (node : Nat) (cpus : List Nat) :
    cpusLine node cpus = 'n' :: cpusTail node cpus := by
  have assoc : ∀ first second third fourth : Text,
      first ++ second ++ third ++ fourth = first ++ (second ++ (third ++ fourth)) := by
    intros
    simp only [List.append_assoc]
  exact assoc "node " (decimal node) " cpus:" (cpusText cpus)

theorem not_mem_cpusTail {node : Nat} {cpus : List Nat} {c : Char} (notDigit : c.isDigit = false)
    (fresh : c ∉ "ode cpus:".toList) : c ∉ cpusTail node cpus := by
  have word : c ∉ "ode ".toList := fun member => fresh (List.mem_append_left "cpus:".toList member)
  have word' : c ∉ "cpus:".toList := fun member => fresh (List.mem_append_right "ode ".toList member)
  have notBlank : c ≠ ' ' := by
    rintro rfl
    exact word (by decide)
  unfold cpusTail
  rw [List.mem_append, List.mem_append, List.mem_cons, List.mem_append]
  rintro (inside | inside | inside | inside | inside)
  · exact word inside
  · exact not_mem_decimal notDigit inside
  · exact notBlank inside
  · exact word' inside
  · exact not_mem_cpusText notBlank notDigit inside

/-- The line of a node is found by its own number only. -/
theorem grepQ_cpusLine (wanted : Int) (node : Nat) (cpus : List Nat) :
    grepQ ("node " ++ integer wanted ++ " cpus:") (cpusLine node cpus) =
      decide ((node : Int) = wanted) := by
  rw [cpusLine_eq]
  cases wanted with
  | ofNat wanted =>
      have pattern : "node ".toList ++ integer (.ofNat wanted) ++ " cpus:".toList =
          'n' :: ("ode ".toList ++ (decimal wanted ++ ' ' :: "cpus:".toList)) :=
        List.append_assoc "node ".toList (decimal wanted) " cpus:".toList
      have fresh : 'n' ∉ cpusTail node cpus := not_mem_cpusTail (by decide) (by decide)
      have numbers : decimal wanted ++ ' ' :: "cpus:".toList <+:
          decimal node ++ ' ' :: ("cpus:".toList ++ cpusText cpus) ↔ node = wanted := by
        rw [prefix_separated_iff (not_mem_decimal (by decide)) (not_mem_decimal (by decide)),
          decimal_injective.eq_iff]
        exact ⟨fun both => both.1.symm, fun same => ⟨same.symm, List.prefix_append _ _⟩⟩
      rw [pattern, grepQ]
      apply decide_eq_decide.mpr
      rw [infix_freshHead_iff fresh, cpusTail, List.prefix_append_right_inj, numbers]
      exact Int.ofNat_inj.symm
  | negSucc wanted =>
      have needed : '-' ∈ "node ".toList ++ integer (.negSucc wanted) ++ " cpus:".toList :=
        List.mem_append_left _ (List.mem_append_right _ List.mem_cons_self)
      have absent : '-' ∉ 'n' :: cpusTail node cpus := by
        rw [List.mem_cons, not_or]
        exact ⟨by decide, not_mem_cpusTail (by decide) (by decide)⟩
      rw [grepQ_eq_false needed absent]
      simp

theorem awkField_cpusLine (node : Nat) (cpus : List Nat) :
    awkField ':' 2 (cpusLine node cpus) = cpusText cpus := by
  have line : cpusLine node cpus =
      ("node ".toList ++ (decimal node ++ " cpus".toList)) ++ ':' :: cpusText cpus := by
    have colon : " cpus:".toList = " cpus".toList ++ [':'] := rfl
    unfold cpusLine
    rw [colon]
    simp only [List.append_assoc, List.singleton_append]
  have free : ':' ∉ "node ".toList ++ (decimal node ++ " cpus".toList) := by
    rw [List.mem_append, List.mem_append]
    rintro (inside | inside | inside)
    · exact absurd inside (by decide)
    · exact not_mem_decimal (by decide) inside
    · exact absurd inside (by decide)
  rw [awkField, line, List.splitOn_append_cons_self_of_not_mem free,
    List.splitOn_eq_singleton (not_mem_cpusText (by decide) (by decide))]
  rfl

variable {host : Host} {topology : Topology}

/-- The processors of a node as the script reads them. -/
theorem nodeCpuid_eq (describes : host.Describes topology) (node : Int) :
    host.nodeCpuid node = cpusText (topology.nodeCpus node) := by
  have shorter : "cpus:".toList <:+: "node ".toList ++ integer node ++ " cpus:".toList :=
    ⟨"node ".toList ++ integer node ++ [' '], [], by simp⟩
  rw [Host.nodeCpuid, ← grep_grep shorter, describes.cpus, Topology.nodeCpus, grep]
  cases node with
  | ofNat node =>
      have known : ∀ i cpus,
          grepQ ("node ".toList ++ integer (.ofNat node) ++ " cpus:".toList) (cpusLine i cpus) =
            decide (i = node) := by
        intro i cpus
        rw [grepQ_cpusLine]
        exact decide_eq_decide.mpr Int.ofNat_inj
      have found : topology.nodes.getD (Int.ofNat node).toNat [] = topology.nodes[node]?.getD [] :=
        List.getD_eq_getElem?_getD
      rw [filter_mapIdx topology.nodes known, if_neg (by simp), found]
      cases topology.nodes[node]? with
      | none => rfl
      | some cpus =>
          have oneLine : '\n' ∉ cpusText cpus := not_mem_cpusText (by decide) (by decide)
          simp only [Option.map_some, Option.toList_some, List.map_cons, List.map_nil,
            awkField_cpusLine, capture_singleton oneLine, Option.getD_some]
  | negSucc node =>
      have nothing : (topology.nodes.mapIdx cpusLine).filter
          (grepQ ("node ".toList ++ integer (.negSucc node) ++ " cpus:".toList)) = [] := by
        rw [List.filter_eq_nil_iff]
        intro line member
        obtain ⟨i, inside, rfl⟩ := List.mem_mapIdx.mp member
        rw [grepQ_cpusLine]
        simp
      rw [nothing, if_pos (Int.negSucc_lt_zero node)]
      rfl

theorem words_cpusText (cpus : List Nat) : words (cpusText cpus) = cpus.map decimal :=
  words_numbers cpus

/-! ## The processors of a socket -/

theorem shellInt_integer (n : Int) : shellInt (integer n) = n := by
  cases n with
  | ofNat n =>
      have unsigned : ∀ text : Text, '-' ∉ text → shellInt text = shellNat text := by
        intro text free
        unfold shellInt
        split
        · simp at free
        · rfl
      rw [integer, unsigned _ (not_mem_decimal (by decide)), shellNat_decimal]
      rfl
  | negSucc n =>
      rw [integer, shellInt, shellNat_decimal]
      rfl

theorem getNicNode_eq (describes : host.Describes topology) :
    host.getNicNode = integer topology.nicNode := by
  have oneLine : '\n' ∉ integer topology.nicNode := by
    intro member
    exact absurd (isBlank_of_mem_integer member) (by decide)
  have third : awkWord 3 ("\tNUMA node: ".toList ++ integer topology.nicNode) =
      integer topology.nicNode := by
    have line : "\tNUMA node: ".toList ++ integer topology.nicNode =
        "\tNUMA node:".toList ++ ' ' :: integer topology.nicNode := rfl
    rw [awkWord, line, words_append_blank _ _ (by decide), 
      words_word (integer_ne_nil _) fun _ => isBlank_of_mem_integer]
    rfl
  rw [Host.getNicNode, describes.nic, List.map_singleton, third, capture_singleton oneLine]

/-- Lists joined by blanks have the words of all of them. -/
theorem words_foldl_blank {X : Type} (text : X → Text) (items : List X) (start : Text) :
    words (items.foldl (fun list item => list ++ " " ++ text item) start) =
      words start ++ items.flatMap fun item => words (text item) := by
  induction items generalizing start with
  | nil => simp
  | cons item items induction =>
      have blank : words (start ++ " ".toList ++ text item) = words start ++ words (text item) := by
        rw [List.append_assoc]
        exact words_append_blank start (text item) (by decide)
      rw [List.foldl_cons, induction, blank, List.append_assoc, List.flatMap_cons]

theorem nodeBounds_eq (describes : host.Describes topology) (side : Side) :
    host.nodeBounds side = topology.socketNodes side := by
  have nodeNum : host.nodeNum = topology.nodes.length := by
    rw [Host.nodeNum, describes.cpus, List.length_mapIdx]
  have socketNum : host.socketNum = topology.socketNum := congrArg Int.ofNat describes.sockets
  cases side <;>
    simp only [Host.nodeBounds, Topology.socketNodes, getNicNode_eq describes, shellInt_integer,
      nodeNum, socketNum]

/-- The words of `socket_cpulist` are the processors of the socket. -/
theorem words_socketCpulist (describes : host.Describes topology) (side : Side) :
    words (host.socketCpulist side) = (topology.socketCpulist side).map decimal := by
  have nodeNum : host.nodeNum = topology.nodes.length := by
    rw [Host.nodeNum, describes.cpus, List.length_mapIdx]
  have socketNum : host.socketNum = topology.socketNum := congrArg Int.ofNat describes.sockets
  have several : host.socketNum ≠ host.nodeNum ↔ topology.socketNum ≠ topology.nodes.length := by
    rw [nodeNum, socketNum]
    exact not_congr Int.ofNat_inj
  unfold Host.socketCpulist Topology.socketCpulist
  by_cases multiple : topology.socketNum ≠ topology.nodes.length
  · rw [if_pos (several.mpr multiple), if_pos multiple]
    simp only [words_foldl_blank, nodeBounds_eq describes, nodeCpuid_eq describes, words_cpusText,
      words_nil, List.nil_append, List.map_flatMap]
  · rw [if_neg fun different => multiple (several.mp different), if_neg multiple]
    cases side <;>
      simp only [getNicNode_eq describes, shellInt_integer, nodeCpuid_eq describes, words_cpusText]

theorem not_mem_socketCpulist (describes : host.Describes topology) (side : Side) :
    '\n' ∉ host.socketCpulist side := by
  have ofNode : ∀ node, '\n' ∉ host.nodeCpuid node := by
    intro node
    rw [nodeCpuid_eq describes]
    exact not_mem_cpusText (by decide) (by decide)
  have ofNodes : ∀ (nodes : List Int) (start : Text), '\n' ∉ start →
      '\n' ∉ nodes.foldl (fun list node => list ++ " " ++ host.nodeCpuid node) start := by
    intro nodes
    induction nodes with
    | nil => exact fun start free => free
    | cons node nodes induction =>
        intro start free
        apply induction
        rw [List.mem_append, List.mem_append]
        rintro ((inside | inside) | inside)
        · exact free inside
        · exact absurd inside (by decide)
        · exact ofNode node inside
  unfold Host.socketCpulist
  split
  · exact ofNodes _ _ (List.not_mem_nil)
  · cases side <;> exact ofNode _

/-- The variable `socket_cpucount` is the number of processors of the socket. -/
theorem socketCpucount_eq (describes : host.Describes topology) (side : Side) :
    host.socketCpucount side = decimal (topology.socketCpulist side).length := by
  have oneLine := not_mem_socketCpulist describes side
  rw [Host.socketCpucount, List.splitOn_eq_singleton oneLine, List.map_singleton,
    words_socketCpulist describes, List.length_map,
    capture_singleton (not_mem_decimal (by decide))]

/-! ## Local and remote processors -/

theorem take_drop_eq_map_getD {X : Type} (items : List X) (default : X) {first count : Nat}
    (inside : first + count ≤ items.length) :
    (items.drop first).take count =
      (List.range count).map fun offset => items.getD (first + offset) default := by
  apply List.ext_getElem
  · simp
    omega
  · intro i _ below
    have bound : first + i < items.length := by
      rw [List.length_map, List.length_range] at below
      omega
    simp [List.getElem?_eq_getElem bound]

theorem forRange_eq (first last : Int) :
    forRange first last =
      (List.range (last + 1 - first).toNat).map fun offset : Nat => first + (offset : Int) := by
  rw [forRange]
  simp only [bind_pure_comp, List.map_eq_map, List.map_map, Function.comp_def]

/-- A loop over neighbouring nodes collects their processors. -/
theorem flatMap_forRange (topology : Topology) {first last : Nat} (order : first ≤ last)
    (inside : last ≤ topology.nodes.length) :
    (forRange first ((last : Int) - 1)).flatMap topology.nodeCpus =
      ((topology.nodes.drop first).take (last - first)).flatten := by
  have count : ((last : Int) - 1 + 1 - first).toNat = last - first := by omega
  rw [take_drop_eq_map_getD topology.nodes [] (by omega), forRange_eq, count, List.flatMap_map,
    ← List.flatMap_def]
  apply List.flatMap_congr
  intro offset _
  have natural : ¬ (first : Int) + (offset : Int) < 0 := by omega
  have position : ((first : Int) + (offset : Int)).toNat = first + offset := by omega
  rw [Topology.nodeCpus, if_neg natural, position]

/-- Nodes of the socket of the network card, on two sockets of `m` nodes each. -/
def Topology.nicSocket (topology : Topology) (m : Nat) : List (List Nat) :=
  if topology.nicNode < m then topology.nodes.take m else topology.nodes.drop m

/-- Nodes of the other socket. -/
def Topology.otherSocket (topology : Topology) (m : Nat) : List (List Nat) :=
  if topology.nicNode < m then topology.nodes.drop m else topology.nodes.take m

/-- Each branch of the script takes the nodes of one socket. -/
theorem socketCpulist_twoSockets {m k : Nat} (positive : 0 < m) (two : topology.socketNum = 2)
    (even : topology.nodes.length = 2 * m) (nic : topology.nicNode = (k : Int))
    (inside : k < 2 * m) :
    topology.socketCpulist .localSide = (topology.nicSocket m).flatten ∧
      topology.socketCpulist .remoteSide = (topology.otherSocket m).flatten := by
  by_cases single : m = 1
  · subst single
    obtain ⟨first, second, nodes⟩ := List.length_eq_two.mp even
    simp only [Topology.socketCpulist, Topology.nicSocket, Topology.otherSocket, nic, two, nodes,
      Topology.nodeCpus]
    obtain rfl | rfl : k = 0 ∨ k = 1 := by omega
    · simp
    · simp
  · have several : topology.socketNum ≠ topology.nodes.length := by omega
    have result : ((topology.nodes.length : Int) / (topology.socketNum : Int)) = m := by
      rw [even, two]
      omega
    have front := flatMap_forRange topology (Nat.zero_le m) (by omega)
    have back : (forRange (m : Int) ((topology.nodes.length : Int) - 1)).flatMap
        topology.nodeCpus = _ := flatMap_forRange topology (by omega : m ≤ _) le_rfl
    have whole : (topology.nodes.drop m).take (topology.nodes.length - m) = topology.nodes.drop m :=
      List.take_of_length_le (by rw [List.length_drop])
    rw [List.drop_zero, Nat.sub_zero] at front
    rw [whole] at back
    simp only [Topology.socketCpulist, if_pos several, Topology.socketNodes, result,
      Topology.nicSocket, Topology.otherSocket]
    by_cases early : topology.nicNode < m
    · simp only [if_pos early]
      exact ⟨front, back⟩
    · simp only [if_neg early]
      exact ⟨back, front⟩

/-- The local list holds the processors of the socket of the network card, the remote list those of
the other socket, and together they hold every processor once. -/
structure SocketSplit (host : Host) (topology : Topology) (m : Nat) : Prop where
  /-- The local list. -/
  localList : words (host.socketCpulist .localSide) = (topology.nicSocket m).flatten.map decimal
  /-- The remote list. -/
  remoteList : words (host.socketCpulist .remoteSide) = (topology.otherSocket m).flatten.map decimal
  /-- No processor is in both lists. -/
  disjoint :
    (words (host.socketCpulist .localSide)).Disjoint (words (host.socketCpulist .remoteSide))
  /-- Every processor of the machine is in one of the lists. -/
  complete : (words (host.socketCpulist .localSide) ++
    words (host.socketCpulist .remoteSide)).Perm (topology.nodes.flatten.map decimal)
  /-- No processor is listed twice. -/
  once : (words (host.socketCpulist .localSide) ++ words (host.socketCpulist .remoteSide)).Nodup
  /-- The counts belong to their lists. -/
  counts : ∀ side, host.socketCpucount side = decimal (words (host.socketCpulist side)).length

theorem perm_sockets (topology : Topology) (m : Nat) :
    ((topology.nicSocket m).flatten ++ (topology.otherSocket m).flatten).Perm
      topology.nodes.flatten := by
  have parts : (topology.nodes.take m).flatten ++ (topology.nodes.drop m).flatten =
      topology.nodes.flatten := by
    rw [← List.flatten_append, List.take_append_drop]
  unfold Topology.nicSocket Topology.otherSocket
  split
  · rw [parts]
  · rw [← parts]
    exact List.perm_append_comm

/-- On two sockets of `m` nodes each, the script splits the processors by socket. -/
theorem two_sockets_split {m k : Nat} (describes : host.Describes topology) (positive : 0 < m)
    (two : topology.socketNum = 2) (even : topology.nodes.length = 2 * m)
    (nic : topology.nicNode = (k : Int)) (inside : k < 2 * m)
    (distinct : topology.nodes.flatten.Nodup) : SocketSplit host topology m := by
  obtain ⟨own, other⟩ := socketCpulist_twoSockets positive two even nic inside
  have localList := words_socketCpulist describes .localSide
  have remoteList := words_socketCpulist describes .remoteSide
  rw [own] at localList
  rw [other] at remoteList
  have complete : (words (host.socketCpulist .localSide) ++
      words (host.socketCpulist .remoteSide)).Perm (topology.nodes.flatten.map decimal) := by
    rw [localList, remoteList, ← List.map_append]
    exact (perm_sockets topology m).map decimal
  have once := complete.nodup_iff.mpr (List.Nodup.map decimal_injective distinct)
  refine ⟨localList, remoteList, List.disjoint_of_nodup_append once, complete, once, ?_⟩
  intro side
  rw [socketCpucount_eq describes, words_socketCpulist describes, List.length_map]

/-- Two sockets of two nodes, the network card on node 2. -/
def fourNodes : Topology where
  socketNum := 2
  socketNum_pos := Nat.two_pos
  nodes := [[0, 1], [2, 3], [4, 5], [6, 7]]
  nicNode := 2
  hostName := "server"

/-- What the programs print on that machine. -/
def fourNodesHost : Host where
  dmidecode := ["\tSocket Designation: CPU0", "\tVersion: 1", "\tSocket Designation: CPU1"]
  numactl :=
    ["available: 4 nodes (0-3)", "node 0 cpus: 0 1", "node 0 size: 64 MB", "node 1 cpus: 2 3",
      "node 2 cpus: 4 5", "node 3 cpus: 6 7", "node distances:", "node   0   1   2   3"]
  ethtool := ["driver: mlx5_core", "bus-info: 0000:25:00.0"]
  lspci device :=
    if device = "0000:25:00.0" then ["25:00.0 Ethernet controller", "\tNUMA node: 2"] else []

theorem two_sockets_split_fourNodes : SocketSplit fourNodesHost fourNodes 2 :=
  two_sockets_split (k := 2) ⟨by decide, by decide, by decide⟩ (by decide) rfl rfl rfl (by decide)
    (by decide)

end Nginx
