import ArmTest.Nginx.Numactl
import ArmTest.Shell.Columns
import ArmTest.Shell.RoundRobin

/-!
# Placement of interrupts and of memcached

The pipeline binds the interrupts of the network card to the first processors of its node, one
after the other, and starts memcached on the processors behind them.  Both stages compute their
part of the node on their own, in one way on aarch64 and in another way on x86_64.
-/

namespace Memcached

open Shell Nginx

/-! ## The program -/

/-- What the stages read on the server. -/
structure Server where
  /-- The output of `uname -m`. -/
  machine : Text
  /-- The parameter `ethname`. -/
  ethname : Text
  /-- Lines of `ethtool -i`. -/
  ethtool : List Text
  /-- The file `numa_node` of the network card. -/
  numaNode : Text
  /-- Lines of `lscpu`. -/
  lscpu : List Text
  /-- Lines of `numactl -H`. -/
  numactl : List Text
  /-- Lines of `/tmp/turbo.txt`. -/
  turbostat : List Text
  /-- The output of `nproc`. -/
  nproc : Nat
  /-- Lines of `/proc/interrupts`. -/
  interrupts : List Text

namespace Server

variable (server : Server)

/-- The variable `nodes`. -/
def nodes : Text := capture ((grep "NUMA node(" server.lscpu).map (awkWord 3))

/-- The array `arr`. -/
def arr : List Text := words (capture ((tailLines server.nproc server.turbostat).map (awkWord 4)))

/-- `$(nproc)/$nodes`, times the node of the network card. -/
def offset : Nat := server.nproc / shellNat server.nodes * shellNat server.numaNode

/-- `numactl -H |grep "node $eth_node"|head -1`. -/
def nodeLine : List Text := headLines 1 (grep ("node " ++ server.numaNode) server.numactl)

/-- The array `cpu_arr`. -/
def cpuArr (ethCombined : Nat) : List Text :=
  if server.machine = "aarch64".toList then
    words (capture (server.nodeLine.map (cutFields 4 (ethCombined + 3))))
  else if server.machine = "x86_64".toList then slice server.offset ethCombined server.arr
  else []

/-- The variable `cpus`. -/
def cpus (ethCombined memcachedThreads : Nat) : Text :=
  if server.machine = "aarch64".toList then
    capture (server.nodeLine.map fun line =>
      tr ' ' ',' (cutFields (4 + ethCombined) (4 + ethCombined - 1 + memcachedThreads) line))
  else if server.machine = "x86_64".toList then
    tr ' ' ',' (joinWith ' '
      (slice (server.offset + ethCombined) memcachedThreads server.arr))
  else []

end Server

/-! ## Machines -/

/-- Nodes with as many processors each, and the node of the network card. -/
structure Layout where
  /-- The processors of the nodes. -/
  nodes : List (List Nat)
  /-- The number of processors of a node. -/
  size : Nat
  /-- The node of the network card. -/
  nic : Nat
  /-- The node exists. -/
  inside : nic < nodes.length
  /-- All nodes have as many processors. -/
  uniform : ∀ node ∈ nodes, node.length = size
  /-- A processor is listed once. -/
  distinct : nodes.flatten.Nodup

/-- The processors of the node of the network card. -/
def Layout.nicNode (layout : Layout) : List Nat := layout.nodes.getD layout.nic []

section

variable {server : Server} {layout : Layout}

/-- The parts of the node that the stages compute. -/
structure Server.Splits (server : Server) (node : List Nat) (ethCombined memcachedThreads : Nat) :
    Prop where
  /-- The processors of the interrupts. -/
  interrupts : server.cpuArr ethCombined = (node.take ethCombined).map decimal
  /-- The processors of memcached. -/
  workers : server.cpus ethCombined memcachedThreads =
    joinWith ',' (((node.drop ethCombined).take memcachedThreads).map decimal)

end

end Memcached
