import ArmTest.Nginx.Client
import ArmTest.Rendezvous.Lockstep

/-!
# The handshake of the two scripts

The server script is the left party and the client script the right one.  This file matches their
programs handshake by handshake: every question meets its answer, and every test point is opened
only after the server has written its configuration and restarted.
-/

namespace Nginx

open Shell Rendezvous

/-- The machine of the server and the behaviour of `nc` around the two scripts. -/
def medium : Medium ServerAction Wrk.ClientAction Text ServerState where
  perform := ServerAction.perform
  again
    | .wrk (.server _) => false
    | .wrk _ => true
    | _ => false
  retries diagnostic := grepQ "refused" diagnostic

/-- Both scripts at their start. -/
def start (topology : Topology) (host : Text) (mode : TestMode) (conf : List Text) :
    Config Text ServerAction Wrk.ClientAction ServerState :=
  .start (serverProc (serverOps topology mode)) (Wrk.script host mode)
    { conf := conf, running := none }

/-! ## What a test point asks of the server -/

/-- The values of the edited lines that belong to a test point. -/
def settingsOf (topology : Topology) : Label → Settings
  | .socket mode side core =>
      { gzip := if mode = .httplonggzip then .on else .off
        workers := .count core
        affinity := some (.cpus ((topology.socketCpulist side).take core)) }
  | .node mode number core =>
      { gzip := if mode = .httplonggzip then .on else .off
        workers := .count core
        affinity := some (.cpus ((topology.nodeCpus number).take core)) }
  | .server mode =>
      { gzip := if mode = .httplonggzip then .on else .off
        workers := .auto
        affinity := none }

/-- The server does nothing to its machine before it receives a message. -/
def Quiet : Proc Text ServerAction → Prop
  | .act (.enter _) next => Quiet next
  | .listen _ => True
  | _ => False

/-- While `wrk` runs, the web server runs with the configuration of the test point, the server
script is quiet, and the next message of the client closes the test point. -/
def Guard (topology : Topology) :
    Wrk.ClientAction → Wrk.Client → Proc Text ServerAction → ServerState → Prop
  | .wrk label, next, server, state =>
      state.running = some (render (settingsOf topology label)) ∧ Quiet server ∧
        next.nextSend? = some (Note.finish label).message
  | _, _, _, _ => True

theorem guard_stable (topology : Topology) (needed : Wrk.ClientAction) (next : Wrk.Client)
    (action : ServerAction) (server : Proc Text ServerAction) (state : ServerState)
    (guarded : Guard topology needed next (.act action server) state) :
    Guard topology needed next server (medium.perform action state) := by
  cases needed with
  | wrk label =>
      obtain ⟨running, quiet, closes⟩ := guarded
      cases action with
      | enter note => exact ⟨running, quiet, closes⟩
      | installConf | sedGzip | sedWorkers | sedAffinity | deleteAffinity | nginxRestart =>
          exact quiet.elim
  | enter | clearResult | record | extract => trivial

/-- Handshake opened by an action of the server. -/
def serverNote : ServerAction → Option Note
  | .enter note => some note
  | _ => none

/-- Handshake opened by an action of the client. -/
def clientNote : Wrk.ClientAction → Option Note
  | .enter note => some note
  | _ => none

/-- Handshakes of a list of server commands. -/
def notes : List ServerOp → List Note
  | [] => []
  | .action action :: ops => (serverNote action).toList ++ notes ops
  | .getNginxServerInfo query _ :: ops => .conf query :: notes ops
  | .waitTestStart label :: ops => .start label :: notes ops
  | .waitTestFinish label :: ops => .finish label :: notes ops

/-- The handshakes of both scripts in a test mode. -/
def schedule (topology : Topology) (mode : TestMode) : List Note :=
  notes (serverOps topology mode)

/-! ## Matching programs -/

/-- Lockstep of a server and a client program. -/
abbrev InStep (topology : Topology) (server : Proc Text ServerAction) (client : Wrk.Client)
    (state : ServerState) (serverRest clientRest : List Note) : Prop :=
  Lockstep ServerAction.perform (Guard topology) serverNote clientNote server client state
    serverRest clientRest

/-- No measurement is ahead of the client before it communicates. -/
def Unguarded : Wrk.Client → Prop
  | .act (.wrk _) _ => False
  | .act _ next => Unguarded next
  | _ => True

theorem cleared_of_unguarded (topology : Topology) (server : Proc Text ServerAction)
    (state : ServerState) {client : Wrk.Client} (unguarded : Unguarded client) :
    Cleared (Guard topology) server state client := by
  induction client with
  | act action next induction =>
      cases action with
      | wrk => exact unguarded.elim
      | enter | clearResult | record | extract => exact ⟨trivial, induction unguarded⟩
  | done | exit | send | listen => trivial

/-- The remaining programs match whenever the machine satisfies the precondition. -/
structure Paired (topology : Topology) (pre : ServerState → Prop) (ops : List ServerOp)
    (client : Wrk.Client) : Prop where
  /-- The client is not about to measure. -/
  unguarded : Unguarded client
  /-- The programs are in lockstep and go through the handshakes of the commands. -/
  inStep : ∀ state, pre state →
    InStep topology (serverProc ops) client state (notes ops) (notes ops)

variable {topology : Topology} {pre post : ServerState → Prop} {ops : List ServerOp}
variable {client : Wrk.Client}

theorem paired_nil : Paired topology pre [] .done :=
  ⟨trivial, fun state _ => .done state⟩

theorem Paired.weaken (paired : Paired topology post ops client)
    (weaker : ∀ state, pre state → post state) : Paired topology pre ops client :=
  ⟨paired.unguarded, fun state holds => paired.inStep state (weaker state holds)⟩

/-- A server action between two handshakes. -/
theorem paired_action {action : ServerAction} (establishes : ∀ state, pre state →
      post (action.perform state)) (silent : serverNote action = none)
    (later : Paired topology post ops client) :
    Paired topology pre (.action action :: ops) client := by
  refine ⟨later.unguarded, fun state holds => ?_⟩
  have labels : notes (.action action :: ops) = (serverNote action).toList ++ notes ops := rfl
  have unlabelled : (serverNote action).toList ++ notes ops = notes ops := by simp [silent]
  have moved := later.inStep _ (establishes state holds)
  have acted : InStep topology (.act action (serverProc ops)) client state
      ((serverNote action).toList ++ notes ops) (notes ops) :=
    .left (cleared_of_unguarded topology _ state later.unguarded) moved
  rw [labels]
  rwa [unlabelled] at acted ⊢

/-- A client action between two handshakes. -/
theorem paired_clientAction {action : Wrk.ClientAction} (harmless : ∀ label, action ≠ .wrk label)
    (silent : clientNote action = none) (later : Paired topology pre ops client) :
    Paired topology pre ops (.act action client) := by
  have unguarded : Unguarded (.act action client) := by
    cases action with
    | wrk label => exact (harmless label rfl).elim
    | enter | clearResult | record | extract => exact later.unguarded
  refine ⟨unguarded, fun state holds => ?_⟩
  have acted : InStep topology (serverProc ops) (.act action client) state (notes ops)
      ((clientNote action).toList ++ notes ops) :=
    .right (cleared_of_unguarded topology _ state unguarded) (later.inStep state holds)
  simpa [silent] using acted

/-- The two sides of one handshake up to the reply of the server. -/
theorem inStep_handshake {note : Note} {reply : Text} {server : Proc Text ServerAction}
    {next : Text → Wrk.Client} {state : ServerState} {serverRest clientRest : List Note}
    (later : InStep topology server (next reply) state serverRest clientRest) :
    InStep topology (answer note reply server)
      (.act (.enter note) (.send note.message (.listen next))) state
      (note :: serverRest) (note :: clientRest) := by
  have answered : InStep topology
      (if grepQ note.message note.message then .send reply server else .exit)
      (.listen next) state serverRest clientRest := by
    rw [grepQ_self, if_pos rfl]
    exact .toRight later
  have received : InStep topology
      (.listen fun result => if grepQ note.message result then .send reply server else .exit)
      (.act (.enter note) (.send note.message (.listen next))) state
      serverRest (note :: clientRest) :=
    .right (cleared_of_unguarded topology _ state trivial) (.toLeft answered)
  exact .left (cleared_of_unguarded topology _ state trivial) received

/-- A question and its answer. -/
theorem paired_info {query : Query} {content : Text} {next : Text → Wrk.Client}
    (later : Paired topology pre ops (next content)) :
    Paired topology pre (.getNginxServerInfo query content :: ops)
      (Wrk.getNginxServerInfo query next) :=
  ⟨trivial, fun state holds => inStep_handshake (later.inStep state holds)⟩

/-- Everything a measurement needs while the server waits for its end. -/
theorem cleared_measurement {label : Label} {state : ServerState} (cmdt : Text)
    (server : Proc Text ServerAction) (client : Wrk.Client)
    (running : state.running = some (render (settingsOf topology label))) :
    Cleared (Guard topology)
      (answer (.finish label) (Note.finish label).message server) state
      (.act (.record cmdt) (.act (.wrk label) (Wrk.requestTestFinish label client))) :=
  ⟨trivial, ⟨running, trivial, rfl⟩, trivial, trivial⟩

/-- A test point, once the web server runs with its configuration. -/
theorem inStep_testPoint {label : Label} {cmdt : Text} {state : ServerState}
    (running : state.running = some (render (settingsOf topology label)))
    (holds : pre state) (later : Paired topology pre ops client) :
    InStep topology (serverProc (.waitTestStart label :: .waitTestFinish label :: ops))
      (Wrk.wrkPoint cmdt label client) state
      (.start label :: .finish label :: notes ops)
      (.start label :: .finish label :: notes ops) := by
  have finished : InStep topology
      (answer (.finish label) (Note.finish label).message (serverProc ops))
      (Wrk.requestTestFinish label client) state
      (.finish label :: notes ops) (.finish label :: notes ops) := by
    have recorded : Paired topology pre ops
        (.act (.record ("finish " ++ label.text)) client) :=
      paired_clientAction (by simp) rfl later
    apply inStep_handshake
    rw [grepQ_self, if_pos rfl]
    exact recorded.inStep state holds
  have cleared := cleared_measurement cmdt (serverProc ops) client running
  have measured : InStep topology
      (answer (.finish label) (Note.finish label).message (serverProc ops))
      (.act (.record ("start " ++ label.text ++ " ")) (.act (.record cmdt) (.act (.wrk label)
        (Wrk.requestTestFinish label client)))) state
      (.finish label :: notes ops) (.finish label :: notes ops) :=
    .right ⟨trivial, cleared⟩ (.right cleared (.right cleared.2 finished))
  apply inStep_handshake
  rw [grepQ_self, if_pos rfl]
  exact measured

/-! ## Configurations along the scripts -/

/-- The installed file has values satisfying the predicate in its edited lines. -/
def Holds (P : Settings → Prop) (state : ServerState) : Prop :=
  ∃ settings, state.conf = render settings ∧ P settings

/-- The switch value of a kind of requests. -/
def Mode.gzip (mode : Mode) : Gzip := if mode = .httplonggzip then .on else .off

/-- The file is set up for a kind of requests and has a mask line. -/
def Ready (mode : Mode) (settings : Settings) : Prop :=
  settings.gzip = mode.gzip ∧ settings.affinity.isSome = true

theorem holds_install (P : Settings → Prop) (shipped : P .shipped) (state : ServerState) :
    Holds P (ServerAction.installConf.perform state) :=
  ⟨.shipped, rfl, shipped⟩

theorem holds_sedWorkers {settings : Settings} {state : ServerState} (workers : Workers)
    (contents : state.conf = render settings) :
    ((ServerAction.sedWorkers workers.text).perform state).conf =
      render { settings with workers := workers } := by
  simp only [ServerAction.perform, contents, render_setWorkers]

theorem holds_sedAffinity {settings : Settings} {state : ServerState} (affinity : Affinity)
    (present : settings.affinity.isSome = true) (contents : state.conf = render settings) :
    ((ServerAction.sedAffinity affinity.text).perform state).conf =
      render { settings with affinity := some affinity } := by
  obtain ⟨before, isBefore⟩ := Option.isSome_iff_exists.mp present
  simp only [ServerAction.perform, contents, render_setAffinity isBefore]

theorem paired_gzip {mode : Mode} {P Q : Settings → Prop}
    (switched : ∀ settings, P settings → Q { settings with gzip := mode.gzip })
    (later : Paired topology (Holds Q) ops client) :
    Paired topology (Holds P) (gzipOp mode :: ops) client := by
  have command : gzipOp mode = .action (.sedGzip mode.gzip.text) := by
    cases mode <;> rfl
  rw [command]
  refine paired_action (fun state holds => ?_) rfl later
  obtain ⟨settings, contents, established⟩ := holds
  refine ⟨{ settings with gzip := mode.gzip }, ?_, switched settings established⟩
  simp only [ServerAction.perform, contents, render_setGzip]

/-- The configuration of a test point is written, the web server restarted and the test run. -/
theorem paired_testPoint {mode : Mode} {core : Nat} {ids : List Nat} {label : Label}
    {cmdt : Text}
    (values : settingsOf topology label =
      { gzip := mode.gzip, workers := .count core, affinity := some (.cpus ids) })
    (later : Paired topology (Holds (Ready mode)) ops client) :
    Paired topology (Holds (Ready mode)) (testPoint core (maskList ids) label ++ ops)
      (Wrk.wrkPoint cmdt label client) := by
  have tested : Paired topology
      (fun state => Holds (Ready mode) state ∧
        state.running = some (render (settingsOf topology label)))
      (.waitTestStart label :: .waitTestFinish label :: ops) (Wrk.wrkPoint cmdt label client) :=
    ⟨trivial, fun state holds => inStep_testPoint holds.2 holds.1 later⟩
  have restarted : Paired topology (Holds fun settings => settings = settingsOf topology label)
      (.action .nginxRestart :: .waitTestStart label :: .waitTestFinish label :: ops)
      (Wrk.wrkPoint cmdt label client) := by
    refine paired_action ?_ rfl tested
    rintro state ⟨settings, contents, rfl⟩
    refine ⟨⟨_, contents, ?_⟩, congrArg some contents⟩
    rw [values]
    exact ⟨rfl, rfl⟩
  have bound : Paired topology
      (Holds fun settings => Ready mode settings ∧ settings.workers = .count core)
      (.action (.sedAffinity (maskList ids ++ ";")) :: .action .nginxRestart ::
        .waitTestStart label :: .waitTestFinish label :: ops)
      (Wrk.wrkPoint cmdt label client) := by
    refine paired_action ?_ rfl restarted
    rintro state ⟨settings, contents, ⟨gzip, present⟩, workers⟩
    refine ⟨_, holds_sedAffinity (.cpus ids) present contents, ?_⟩
    rw [values, ← gzip, ← workers]
  refine paired_action ?_ rfl bound
  rintro state ⟨settings, contents, ready⟩
  exact ⟨_, holds_sedWorkers (.count core) contents, ready, rfl⟩

/-- Loops over the same list match when their bodies do. -/
theorem paired_loop {X : Type} {serverBody : X → List ServerOp}
    {clientBody : X → Wrk.Client → Wrk.Client} (items : List X)
    (body : ∀ item ∈ items, ∀ ops client, Paired topology pre ops client →
      Paired topology pre (serverBody item ++ ops) (clientBody item client))
    (later : Paired topology pre ops client) :
    Paired topology pre (items.flatMap serverBody ++ ops) (items.foldr clientBody client) := by
  induction items with
  | nil => simpa using later
  | cons item items induction =>
      have rest := induction fun other member => body other (List.mem_cons_of_mem item member)
      have first := body item List.mem_cons_self _ _ rest
      simpa [List.append_assoc] using first

theorem paired_sweep {mode : Mode} {cpus : List Nat} {label : Nat → Label} {cmdt : Text}
    (values : ∀ core, settingsOf topology (label core) =
      { gzip := mode.gzip, workers := .count core, affinity := some (.cpus (cpus.take core)) })
    (later : Paired topology (Holds (Ready mode)) ops client) :
    Paired topology (Holds (Ready mode)) (sweepOps cpus label ++ ops)
      (Wrk.coreTests cmdt cpus.length label client) := by
  obtain ⟨steps, sweep, -, above⟩ := coreSweep_spec cpus.length
  have whole : cpus.take cpus.length = cpus.take (2 ^ steps) := by
    rw [List.take_length, List.take_of_length_le above.le]
  have extra : Paired topology (Holds (Ready mode))
      ((if cpus.length * 2 ≠ 2 ^ steps then
          testPoint (2 ^ steps) (maskList (cpus.take cpus.length)) (label (2 ^ steps))
        else []) ++ ops)
      ((if cpus.length * 2 ≠ 2 ^ steps then [2 ^ steps] else []).foldr
        (fun core next => Wrk.wrkPoint cmdt (label core) next) client) := by
    by_cases another : cpus.length * 2 ≠ 2 ^ steps
    · rw [if_pos another, if_pos another, whole]
      exact paired_testPoint (values _) later
    · rw [if_neg another, if_neg another]
      exact later
  simp only [sweepOps, Wrk.coreTests, sweepCores, sweep, cpuStrToAffinity_eq, List.append_assoc,
    List.foldr_append]
  exact paired_loop _ (fun core _ _ _ rest => paired_testPoint (values core) rest) extra

/-! ## The test modes -/

/-- The file has a mask line. -/
def Masked (settings : Settings) : Prop := settings.affinity.isSome = true

theorem paired_modes {serverBody : Mode → List ServerOp}
    {clientBody : Mode → Wrk.Client → Wrk.Client}
    (body : ∀ mode ops client, Paired topology (Holds (Ready mode)) ops client →
      Paired topology (Holds (Ready mode)) (serverBody mode ++ ops) (clientBody mode client))
    (later : Paired topology (Holds Masked) ops client) :
    Paired topology (Holds Masked)
      ((nginxmode.flatMap fun mode => gzipOp mode :: serverBody mode) ++ ops)
      (nginxmode.foldr clientBody client) := by
  refine paired_loop nginxmode (fun mode _ ops client rest => ?_) later
  have tested := body mode ops client (rest.weaken fun state holds =>
    holds.imp fun _ ready => ⟨ready.1, ready.2.2⟩)
  exact paired_gzip (fun settings masked => ⟨rfl, masked⟩) tested

theorem paired_socket {side : Side} {host : Text} (pre : ServerState → Prop)
    (later : Paired topology (Holds Masked) ops client) :
    Paired topology pre (nginxOnOneSocketHandle topology side ++ ops)
      (Wrk.sockethandle host side client) := by
  refine paired_action (fun state _ => holds_install Masked rfl state) rfl ?_
  refine paired_info ?_
  rw [shellNat_decimal]
  exact paired_modes (fun mode ops client rest => paired_sweep (fun core => rfl) rest) later

theorem paired_node {host : Text} (pre : ServerState → Prop)
    (later : Paired topology (Holds Masked) ops client) :
    Paired topology pre (nodehandle topology ++ ops) (Wrk.nodehandle host client) := by
  refine paired_action (fun state _ => holds_install Masked rfl state) rfl ?_
  refine paired_info ?_
  rw [shellNat_decimal]
  refine paired_modes (fun mode ops client rest => ?_) later
  refine paired_loop _ (fun number _ ops client rest => ?_) rest
  refine paired_info ?_
  rw [shellNat_decimal]
  exact paired_sweep (fun core => rfl) rest

theorem paired_server {host : Text} (later : Paired topology (Holds fun _ => True) ops client) :
    Paired topology (Holds fun _ => True) (serverhandle ++ ops)
      (Wrk.serverhandle host client) := by
  refine paired_clientAction (by simp) rfl ?_
  refine paired_loop nginxmode (fun mode _ ops client rest => ?_) later
  let label : Label := .server mode
  have tested : Paired topology
      (fun state => Holds (fun _ => True) state ∧
        state.running = some (render (settingsOf topology label)))
      (.waitTestStart label :: .waitTestFinish label :: ops)
      (Wrk.wrkPoint (Wrk.wrkcmd host mode) label client) :=
    ⟨trivial, fun state holds => inStep_testPoint holds.2 holds.1 rest⟩
  have restarted : Paired topology (Holds fun settings => settings = settingsOf topology label)
      (.action .nginxRestart :: .waitTestStart label :: .waitTestFinish label :: ops)
      (Wrk.wrkPoint (Wrk.wrkcmd host mode) label client) := by
    refine paired_action ?_ rfl tested
    rintro state ⟨settings, contents, rfl⟩
    exact ⟨⟨_, contents, trivial⟩, congrArg some contents⟩
  have unbound : Paired topology
      (Holds fun settings => settings.gzip = mode.gzip ∧ settings.workers = .auto)
      (.action .deleteAffinity :: .action .nginxRestart ::
        .waitTestStart label :: .waitTestFinish label :: ops)
      (Wrk.wrkPoint (Wrk.wrkcmd host mode) label client) := by
    refine paired_action ?_ rfl restarted
    rintro state ⟨settings, contents, gzip, workers⟩
    refine ⟨{ settings with affinity := none }, ?_, ?_⟩
    · simp only [ServerAction.perform, contents, render_deleteAffinity]
    · rw [gzip, workers]
      rfl
  have automatic : Paired topology (Holds fun settings => settings.gzip = mode.gzip)
      (.action (.sedWorkers "auto;") :: .action .deleteAffinity :: .action .nginxRestart ::
        .waitTestStart label :: .waitTestFinish label :: ops)
      (Wrk.wrkPoint (Wrk.wrkcmd host mode) label client) := by
    refine paired_action ?_ rfl unbound
    rintro state ⟨settings, contents, gzip⟩
    exact ⟨_, holds_sedWorkers .auto contents, gzip, rfl⟩
  exact paired_gzip (fun settings _ => rfl) automatic

theorem paired_stats (pre : ServerState → Prop) (later : Paired topology pre ops client) :
    Paired topology pre (statisticshandle topology ++ ops) (Wrk.statisticshandle client) := by
  refine paired_info ?_
  exact paired_clientAction (by simp) rfl later

/-- The two scripts match in every test mode. -/
theorem paired_script (topology : Topology) (host : Text) (mode : TestMode) :
    Paired topology (Holds fun _ => True) (serverOps topology mode) (Wrk.script host mode) := by
  have forget : ∀ {ops client}, Paired topology (Holds fun _ => True) ops client →
      Paired topology (Holds Masked) ops client :=
    fun paired => paired.weaken fun state holds => holds.imp fun _ masked => ⟨masked.1, trivial⟩
  cases mode with
  | socketl =>
      have tested : Paired topology (Holds fun _ => True)
          (nginxOnOneSocketHandle topology .localSide ++ [])
          (Wrk.socketlocalhandle host .done) := paired_socket _ paired_nil
      rw [List.append_nil] at tested
      exact paired_clientAction (by simp) rfl tested
  | socketr =>
      have tested : Paired topology (Holds fun _ => True)
          (nginxOnOneSocketHandle topology .remoteSide ++ [])
          (Wrk.socketremotehandle host .done) := paired_socket _ paired_nil
      rw [List.append_nil] at tested
      exact paired_clientAction (by simp) rfl tested
  | node =>
      have tested : Paired topology (Holds fun _ => True) (nodehandle topology ++ [])
          (Wrk.nodehandle host .done) := paired_node _ paired_nil
      rw [List.append_nil] at tested
      exact paired_clientAction (by simp) rfl tested
  | server =>
      have tested : Paired topology (Holds fun _ => True) (serverhandle ++ [])
          (Wrk.serverhandle host .done) := paired_server paired_nil
      rw [List.append_nil] at tested
      exact paired_clientAction (by simp) rfl tested
  | stats => exact paired_stats _ paired_nil
  | all =>
      have server : Paired topology (Holds fun _ => True)
          (serverhandle ++ (statisticshandle topology ++ []))
          (Wrk.serverhandle host (Wrk.statisticshandle .done)) :=
        paired_server (paired_stats _ paired_nil)
      have tested : Paired topology (Holds fun _ => True)
          (nginxOnOneSocketHandle topology .localSide ++
            (nginxOnOneSocketHandle topology .remoteSide ++
              (nodehandle topology ++ (serverhandle ++ (statisticshandle topology ++ [])))))
          (Wrk.socketlocalhandle host <| Wrk.socketremotehandle host <| Wrk.nodehandle host <|
            Wrk.serverhandle host <| Wrk.statisticshandle .done) :=
        paired_socket _ (paired_socket _ (paired_node _ (forget server)))
      have sequence : serverOps topology .all =
          nginxOnOneSocketHandle topology .localSide ++
            (nginxOnOneSocketHandle topology .remoteSide ++
              (nodehandle topology ++ (serverhandle ++ (statisticshandle topology ++ [])))) := by
        simp only [serverOps, List.append_assoc, List.append_nil]
      rw [sequence]
      exact paired_clientAction (by simp) rfl tested

end Nginx
