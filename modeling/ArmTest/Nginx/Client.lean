import ArmTest.Nginx.Server

/-!
# The client script

`wrk.sh` asks the server for its sizes, and opens and closes every test point.  Its loops run over
numbers received from the server, so its program is a tree that branches on the messages.  Every
function takes the program that follows it.
-/

namespace Wrk

open Shell Rendezvous Nginx

/-- Local actions of the script. -/
inductive ClientAction where
  /-- A call of one of the three handshake functions. -/
  | enter (note : Note)
  /-- Empty the result file. -/
  | clearResult
  /-- Append a line to the result file. -/
  | record (line : Text)
  /-- Run `wrk` once, its output going to the result file. -/
  | wrk (label : Label)
  /-- Extract the numbers of the result file for the named server. -/
  | extract (name : Text)
  deriving DecidableEq

/-- The remaining program of the client. -/
abbrev Client := Proc Text ClientAction

/-- Flags of `wrk` for a kind of requests. -/
def wrkHeader : Mode → Text
  | .httpshort | .httpsshort => "-H \"Connection: Close\" "
  | .httplong | .httpslong => ""
  | .httplonggzip => "-H \"Accept-Encoding: gzip\" "

/-- Protocol and file requested for a kind of requests. -/
def url (host : Text) : Mode → Text
  | .httpshort | .httplong => "http://" ++ host ++ "/0kb.bin"
  | .httpsshort | .httpslong => "https://" ++ host ++ "/0kb.bin"
  | .httplonggzip => "http://" ++ host ++ "/9kb.bin"

/-- The command line of `wrk` for a kind of requests. -/
def wrkcmd (host : Text) (mode : Mode) : Text :=
  "./wrk -t 32 -c 1000 -d 30 --latency " ++ wrkHeader mode ++ url host mode

/-- Ask the server a question; the program continues with the answer. -/
def getNginxServerInfo (query : Query) (next : Text → Client) : Client :=
  .act (.enter (.conf query)) (.send (Note.conf query).message (.listen next))

/-- Announce a test point and wait until the server is ready. -/
def requestTestStart (label : Label) (next : Client) : Client :=
  .act (.enter (.start label)) (.send (Note.start label).message (.listen fun result =>
    if grepQ (Note.start label).message result then
      .act (.record ("start " ++ label.text ++ " ")) next
    else
      .act (.record ("start " ++ label.text ++ "-error ")) .exit))

/-- Tell the server that a test point is over. -/
def requestTestFinish (label : Label) (next : Client) : Client :=
  .act (.enter (.finish label)) (.send (Note.finish label).message (.listen fun result =>
    if grepQ (Note.finish label).message result then
      .act (.record ("finish " ++ label.text)) next
    else
      .act (.record ("finish " ++ label.text ++ "-error ")) .exit))

/-- One test point. -/
def wrkPoint (cmdt : Text) (label : Label) (next : Client) : Client :=
  requestTestStart label <| .act (.record cmdt) <| .act (.wrk label) <|
    requestTestFinish label next

/-- The core sweep over a number of processors. -/
def coreTests (cmdt : Text) (count : Nat) (label : Nat → Label) (next : Client) : Client :=
  (sweepCores count).foldr (fun core next => wrkPoint cmdt (label core) next) next

/-- Tests on the processors of one socket. -/
def sockethandle (host : Text) (side : Side) (next : Client) : Client :=
  getNginxServerInfo (.cpuNum side) fun socketCpucount =>
    nginxmode.foldr
      (fun mode next =>
        coreTests (wrkcmd host mode) (shellNat socketCpucount) (.socket mode side) next)
      next

/-- Tests on the socket of the network card. -/
def socketlocalhandle (host : Text) (next : Client) : Client := sockethandle host .localSide next

/-- Tests on the other socket. -/
def socketremotehandle (host : Text) (next : Client) : Client := sockethandle host .remoteSide next

/-- Tests on the processors of one node. -/
def nodePoints (host : Text) (mode : Mode) (node : Nat) (next : Client) : Client :=
  getNginxServerInfo (.nodeCpus mode node) fun cpuidCount =>
    coreTests (wrkcmd host mode) (shellNat cpuidCount) (.node mode node) next

/-- Tests on every node. -/
def nodehandle (host : Text) (next : Client) : Client :=
  getNginxServerInfo .nodeNum fun nodeNum =>
    nginxmode.foldr
      (fun mode next =>
        (List.range (shellNat nodeNum)).foldr (fun node next => nodePoints host mode node next) next)
      next

/-- Tests on the whole server. -/
def serverhandle (host : Text) (next : Client) : Client :=
  .act (.record "========server Test========") <|
    nginxmode.foldr (fun mode next => wrkPoint (wrkcmd host mode) (.server mode) next) next

/-- Ask for the name of the server and extract the numbers. -/
def statisticshandle (next : Client) : Client :=
  getNginxServerInfo .serverName fun name => .act (.extract name) next

/-- Program of the script for a test mode. -/
def script (host : Text) : TestMode → Client
  | .socketl => .act .clearResult <| socketlocalhandle host .done
  | .socketr => .act .clearResult <| socketremotehandle host .done
  | .node => .act .clearResult <| nodehandle host .done
  | .server => .act .clearResult <| serverhandle host .done
  | .stats => statisticshandle .done
  | .all =>
      .act .clearResult <| socketlocalhandle host <| socketremotehandle host <|
        nodehandle host <| serverhandle host <| statisticshandle .done

end Wrk
