import ArmTest.Nginx.Conf
import ArmTest.Nginx.Sweep
import ArmTest.Rendezvous.Process

/-!
# The server script

`nginx.sh` prepares a configuration, restarts the web server and waits for the client, once for
every test point.  Its commands never depend on what the client answers, except that an unexpected
message ends the script, so each mode is a list of commands computed from the topology.
-/

namespace Nginx

open Shell Rendezvous

/-! ## Labels -/

/-- The five kinds of requests. -/
inductive Mode where
  | httpshort
  | httplong
  | httpsshort
  | httpslong
  | httplonggzip
  deriving DecidableEq

/-- The word of a kind of requests. -/
def Mode.text : Mode → Text
  | .httpshort => "httpshort"
  | .httplong => "httplong"
  | .httpsshort => "httpsshort"
  | .httpslong => "httpslong"
  | .httplonggzip => "httplonggzip"

/-- The order in which both scripts walk through the kinds of requests. -/
def nginxmode : List Mode := [.httpshort, .httplong, .httpsshort, .httpslong, .httplonggzip]

/-- The socket of the network card, or the other one. -/
inductive Side where
  | localSide
  | remoteSide
  deriving DecidableEq

/-- The variable `crc` for a socket test. -/
def Side.crc : Side → Text
  | .localSide => "localsocket"
  | .remoteSide => "remotesocket"

/-- A test point. -/
inductive Label where
  | socket (mode : Mode) (side : Side) (core : Nat)
  | node (mode : Mode) (number : Nat) (core : Nat)
  | server (mode : Mode)
  deriving DecidableEq

/-- The label both scripts write for a test point. -/
def Label.text : Label → Text
  | .socket mode side core => mode.text ++ "-" ++ side.crc ++ "-core" ++ decimal core
  | .node mode number core => mode.text ++ "-node" ++ decimal number ++ "-core" ++ decimal core
  | .server mode => mode.text ++ "-server"

/-- A question of the client about the server. -/
inductive Query where
  | cpuNum (side : Side)
  | nodeNum
  | nodeCpus (mode : Mode) (node : Nat)
  | serverName
  deriving DecidableEq

/-- The text of a question. -/
def Query.text : Query → Text
  | .cpuNum side => "getcpunumof" ++ side.crc
  | .nodeNum => "getnodenum"
  | .nodeCpus mode node => mode.text ++ "-node" ++ decimal node
  | .serverName => "getservername"

/-- One handshake of the two scripts. -/
inductive Note where
  | conf (query : Query)
  | start (label : Label)
  | finish (label : Label)
  deriving DecidableEq

/-- The line that opens a handshake. -/
def Note.message : Note → Text
  | .conf query => "conf" ++ query.text
  | .start label => "start" ++ label.text
  | .finish label => "finish" ++ label.text

/-! ## The machine -/

/-- What the script reads about its machine. -/
structure Topology where
  /-- Number of processor sockets reported by `dmidecode`. -/
  socketNum : Nat
  /-- A machine has a socket. -/
  socketNum_pos : 0 < socketNum
  /-- Processors of each node, as `numactl -H` lists them. -/
  nodes : List (List Nat)
  /-- Node of the network card. -/
  nicNode : Int
  /-- Output of `uname -n`. -/
  hostName : Text

/-- Processors on the line `node $node cpus:` of `numactl -H`. -/
def Topology.nodeCpus (topology : Topology) (node : Int) : List Nat :=
  if node < 0 then [] else topology.nodes.getD node.toNat []

/-- Values of a shell loop from `first` to `last`. -/
def forRange (first last : Int) : List Int :=
  (List.range (last + 1 - first).toNat).map fun offset => first + (offset : Int)

/-- First and last node of a socket when a socket has several nodes. -/
def Topology.socketNodes (topology : Topology) (side : Side) : Int × Int :=
  let nodeNum : Int := topology.nodes.length
  let result : Int := topology.nodes.length / topology.socketNum
  if topology.nicNode < result then
    match side with
    | .localSide => (0, result - 1)
    | .remoteSide => (result, nodeNum - 1)
  else
    match side with
    | .localSide => (result, nodeNum - 1)
    | .remoteSide => (0, result - 1)

/-- The variable `socket_cpulist` of `nginx_on_one_socket_handle`. -/
def Topology.socketCpulist (topology : Topology) (side : Side) : List Nat :=
  if topology.socketNum ≠ topology.nodes.length then
    let nodes := topology.socketNodes side
    (forRange nodes.1 nodes.2).flatMap topology.nodeCpus
  else
    match side with
    | .localSide => topology.nodeCpus topology.nicNode
    | .remoteSide => topology.nodeCpus (1 - topology.nicNode)

/-! ## Commands -/

/-- Local actions of the script. -/
inductive ServerAction where
  /-- A call of one of the three handshake functions. -/
  | enter (note : Note)
  /-- Reinstall the shipped configuration. -/
  | installConf
  /-- Switch compression with `sed`. -/
  | sedGzip (value : Text)
  /-- Set the number of workers with `sed`. -/
  | sedWorkers (value : Text)
  /-- Set the masks with `sed`. -/
  | sedAffinity (value : Text)
  /-- Delete the masks with `sed`. -/
  | deleteAffinity
  /-- Restart the web server. -/
  | nginxRestart
  deriving DecidableEq

/-- The installed configuration and the one the web server was last started with. -/
structure ServerState where
  /-- Lines of the installed `nginx.conf`. -/
  conf : List Text
  /-- Configuration at the last restart. -/
  running : Option (List Text)
  deriving DecidableEq

/-- Effect of an action on the machine. -/
def ServerAction.perform : ServerAction → ServerState → ServerState
  | .enter _, state => state
  | .installConf, state => { state with conf := nginxConf }
  | .sedGzip value, state => { state with conf := state.conf.map (setDirective "gzip" value) }
  | .sedWorkers value, state =>
      { state with conf := state.conf.map (setDirective "worker_processes" value) }
  | .sedAffinity value, state =>
      { state with conf := state.conf.map (setDirective "worker_cpu_affinity" value) }
  | .deleteAffinity, state =>
      { state with conf := deleteLines "worker_cpu_affinity" state.conf }
  | .nginxRestart, state => { state with running := some state.conf }

/-- Commands of the script. -/
inductive ServerOp where
  | action (action : ServerAction)
  | getNginxServerInfo (query : Query) (content : Text)
  | waitTestStart (label : Label)
  | waitTestFinish (label : Label)

/-- Listen for the message of a handshake, check it and answer. -/
def answer (note : Note) (reply : Text) (next : Proc Text ServerAction) :
    Proc Text ServerAction :=
  .act (.enter note) (.listen fun result =>
    if grepQ note.message result then .send reply next else .exit)

/-- The program of a list of commands. -/
def serverProc : List ServerOp → Proc Text ServerAction
  | [] => .done
  | .action action :: ops => .act action (serverProc ops)
  | .getNginxServerInfo query content :: ops => answer (.conf query) content (serverProc ops)
  | .waitTestStart label :: ops =>
      answer (.start label) (Note.start label).message (serverProc ops)
  | .waitTestFinish label :: ops =>
      answer (.finish label) (Note.finish label).message (serverProc ops)

/-! ## The modes of the script -/

/-- Write the configuration of a test point, restart and wait for the client. -/
def testPoint (core : Nat) (affinity : Text) (label : Label) : List ServerOp :=
  [.action (.sedWorkers (decimal core ++ ";")), .action (.sedAffinity (affinity ++ ";")),
    .action .nginxRestart, .waitTestStart label, .waitTestFinish label]

/-- The core sweep over a processor list. -/
def sweepOps (cpus : List Nat) (label : Nat → Label) : List ServerOp :=
  let count := cpus.length
  let core := (coreSweep count).2
  ((coreSweep count).1.flatMap fun core =>
      testPoint core (cpuStrToAffinity cpus core) (label core)) ++
    if count * 2 ≠ core then testPoint core (cpuStrToAffinity cpus count) (label core) else []

/-- The `sed` command that switches compression for a kind of requests. -/
def gzipOp (mode : Mode) : ServerOp :=
  if mode = .httplonggzip then .action (.sedGzip "on;") else .action (.sedGzip "off;")

/-- Tests on the processors of one socket. -/
def nginxOnOneSocketHandle (topology : Topology) (side : Side) : List ServerOp :=
  let cpus := topology.socketCpulist side
  [.action .installConf, .getNginxServerInfo (.cpuNum side) (decimal cpus.length)] ++
    nginxmode.flatMap fun mode => gzipOp mode :: sweepOps cpus (.socket mode side)

/-- Tests on the processors of one node. -/
def nodeOps (topology : Topology) (mode : Mode) (node : Nat) : List ServerOp :=
  let cpus := topology.nodeCpus node
  .getNginxServerInfo (.nodeCpus mode node) (decimal cpus.length) ::
    sweepOps cpus (.node mode node)

/-- Tests on every node. -/
def nodehandle (topology : Topology) : List ServerOp :=
  let nodeNum := topology.nodes.length
  [.action .installConf, .getNginxServerInfo .nodeNum (decimal nodeNum)] ++
    nginxmode.flatMap fun mode =>
      gzipOp mode :: (List.range nodeNum).flatMap (nodeOps topology mode)

/-- Tests on the whole server. -/
def serverhandle : List ServerOp :=
  nginxmode.flatMap fun mode =>
    [gzipOp mode, .action (.sedWorkers "auto;"), .action .deleteAffinity, .action .nginxRestart,
      .waitTestStart (.server mode), .waitTestFinish (.server mode)]

/-- Tell the client the name of the server. -/
def statisticshandle (topology : Topology) : List ServerOp :=
  [.getNginxServerInfo .serverName topology.hostName]

/-- The test mode given to both scripts. -/
inductive TestMode where
  | socketl
  | socketr
  | node
  | server
  | stats
  | all
  deriving DecidableEq

/-- Commands of the script for a test mode. -/
def serverOps (topology : Topology) : TestMode → List ServerOp
  | .socketl => nginxOnOneSocketHandle topology .localSide
  | .socketr => nginxOnOneSocketHandle topology .remoteSide
  | .node => nodehandle topology
  | .server => serverhandle
  | .stats => statisticshandle topology
  | .all =>
      nginxOnOneSocketHandle topology .localSide ++ nginxOnOneSocketHandle topology .remoteSide ++
        nodehandle topology ++ serverhandle ++ statisticshandle topology

end Nginx
