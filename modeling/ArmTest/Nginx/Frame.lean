import ArmTest.Nginx.Points

/-!
# The configuration file over many invocations

The server script may be invoked again and again, in any mode, and an invocation may end after any
of its commands.  Whatever came before, the file at a restart is the shipped one with the values of
the current test point in its three edited lines.
-/

namespace Nginx

open Shell

/-! ## Commands that keep the file in shape -/

/-- Commands whose edits write one of the known values. -/
inductive Known : ServerOp → Prop
  | enter (note : Note) : Known (.action (.enter note))
  | install : Known (.action .installConf)
  | gzip (gzip : Gzip) : Known (.action (.sedGzip gzip.text))
  | workers (workers : Workers) : Known (.action (.sedWorkers workers.text))
  | affinity (affinity : Affinity) : Known (.action (.sedAffinity affinity.text))
  | deleteAffinity : Known (.action .deleteAffinity)
  | restart : Known (.action .nginxRestart)
  | info (query : Query) (content : Text) : Known (.getNginxServerInfo query content)
  | waitStart (label : Label) : Known (.waitTestStart label)
  | waitFinish (label : Label) : Known (.waitTestFinish label)

/-- The file is the shipped one up to the values of its edited lines. -/
abbrev InShape : ServerState → Prop := Holds fun _ => True

/-- Every known command keeps the file in shape, with or without a mask line. -/
theorem inShape_command {op : ServerOp} (known : Known op) {state : ServerState}
    (inShape : InShape state) : InShape (finalState [op] state) := by
  obtain ⟨settings, contents, -⟩ := inShape
  cases known with
  | enter | restart | info | waitStart | waitFinish => exact ⟨settings, contents, trivial⟩
  | install => exact holds_install _ trivial state
  | gzip gzip =>
      refine ⟨{ settings with gzip := gzip }, ?_, trivial⟩
      simp only [finalState, ServerAction.perform, contents, render_setGzip]
  | workers workers => exact ⟨_, holds_sedWorkers workers contents, trivial⟩
  | affinity affinity =>
      cases present : settings.affinity with
      | some before =>
          exact ⟨_, holds_sedAffinity affinity (by rw [present]; rfl) contents, trivial⟩
      | none =>
          refine ⟨settings, ?_, trivial⟩
          simp only [finalState, ServerAction.perform, contents,
            render_setAffinity_absent present]
  | deleteAffinity =>
      refine ⟨{ settings with affinity := none }, ?_, trivial⟩
      simp only [finalState, ServerAction.perform, contents, render_deleteAffinity]

theorem inShape_commands {ops : List ServerOp} (known : ∀ op ∈ ops, Known op) {state : ServerState}
    (inShape : InShape state) : InShape (finalState ops state) := by
  induction ops generalizing state with
  | nil => exact inShape
  | cons op ops induction =>
      rw [← List.singleton_append, finalState_append]
      exact induction (fun other member => known other (List.mem_cons_of_mem op member))
        (inShape_command (known op List.mem_cons_self) inShape)

/-! ## The commands of the script -/

theorem known_gzipOp (mode : Mode) : Known (gzipOp mode) := by
  have command : gzipOp mode = .action (.sedGzip mode.gzip.text) := by
    cases mode <;> rfl
  rw [command]
  exact .gzip mode.gzip

theorem known_testPoint (core : Nat) (ids : List Nat) (label : Label) :
    ∀ op ∈ testPoint core (maskList ids) label, Known op := by
  intro op member
  simp only [testPoint, List.mem_cons, List.not_mem_nil, or_false] at member
  rcases member with rfl | rfl | rfl | rfl | rfl
  · exact .workers (.count core)
  · exact .affinity (.cpus ids)
  · exact .restart
  · exact .waitStart label
  · exact .waitFinish label

theorem known_sweep (cpus : List Nat) (label : Nat → Label) :
    ∀ op ∈ sweepOps cpus label, Known op := by
  intro op member
  simp only [sweepOps, cpuStrToAffinity_eq, List.mem_append, List.mem_flatMap] at member
  rcases member with ⟨core, -, inside⟩ | inside
  · exact known_testPoint _ _ _ op inside
  · split at inside
    · exact known_testPoint _ _ _ op inside
    · simp at inside

theorem known_socket (topology : Topology) (side : Side) :
    ∀ op ∈ nginxOnOneSocketHandle topology side, Known op := by
  intro op member
  simp only [nginxOnOneSocketHandle, List.mem_append, List.mem_cons, List.not_mem_nil, or_false,
    List.mem_flatMap] at member
  rcases member with (rfl | rfl) | ⟨mode, -, rfl | inside⟩
  · exact .install
  · exact .info _ _
  · exact known_gzipOp mode
  · exact known_sweep _ _ op inside

theorem known_node (topology : Topology) : ∀ op ∈ nodehandle topology, Known op := by
  intro op member
  simp only [nodehandle, nodeOps, List.mem_append, List.mem_cons, List.not_mem_nil, or_false,
    List.mem_flatMap] at member
  rcases member with (rfl | rfl) | ⟨mode, -, rfl | ⟨number, -, rfl | inside⟩⟩
  · exact .install
  · exact .info _ _
  · exact known_gzipOp mode
  · exact .info _ _
  · exact known_sweep _ _ op inside

theorem known_server : ∀ op ∈ serverhandle, Known op := by
  intro op member
  simp only [serverhandle, List.mem_cons, List.not_mem_nil, or_false, List.mem_flatMap] at member
  obtain ⟨mode, -, rfl | rfl | rfl | rfl | rfl | rfl⟩ := member
  · exact known_gzipOp mode
  · exact .workers .auto
  · exact .deleteAffinity
  · exact .restart
  · exact .waitStart _
  · exact .waitFinish _

theorem known_stats (topology : Topology) : ∀ op ∈ statisticshandle topology, Known op := by
  intro op member
  rw [statisticshandle, List.mem_singleton] at member
  subst member
  exact .info _ _

theorem known_script (topology : Topology) (mode : TestMode) :
    ∀ op ∈ serverOps topology mode, Known op := by
  cases mode with
  | socketl => exact known_socket topology .localSide
  | socketr => exact known_socket topology .remoteSide
  | node => exact known_node topology
  | server => exact known_server
  | stats => exact known_stats topology
  | all =>
      intro op member
      simp only [serverOps, List.mem_append] at member
      rcases member with (((inside | inside) | inside) | inside) | inside
      · exact known_socket topology .localSide op inside
      · exact known_socket topology .remoteSide op inside
      · exact known_node topology op inside
      · exact known_server op inside
      · exact known_stats topology op inside

/-! ## A restart belongs to the test point behind it -/

/-- Every restart is followed by the start of a test point. -/
def RestartsAwait : List ServerOp → Prop
  | [] => True
  | op :: ops =>
      (op = .action .nginxRestart → ∃ label, ops.head? = some (.waitTestStart label)) ∧
        RestartsAwait ops

theorem RestartsAwait.append {front back : List ServerOp} (first : RestartsAwait front)
    (second : RestartsAwait back) : RestartsAwait (front ++ back) := by
  induction front with
  | nil => exact second
  | cons op front induction =>
      refine ⟨fun restart => ?_, induction first.2⟩
      obtain ⟨label, awaited⟩ := first.1 restart
      have joined : (front ++ back).head? = some (.waitTestStart label) := by
        rw [List.head?_append, awaited]
        rfl
      exact ⟨label, joined⟩

theorem RestartsAwait.suffix {front back : List ServerOp} (whole : RestartsAwait (front ++ back)) :
    RestartsAwait back := by
  induction front with
  | nil => exact whole
  | cons op front induction => exact induction whole.2

theorem restartsAwait_flatMap {X : Type} {body : X → List ServerOp} (items : List X)
    (each : ∀ item, RestartsAwait (body item)) : RestartsAwait (items.flatMap body) := by
  induction items with
  | nil => trivial
  | cons item items induction => exact (each item).append induction

theorem restartsAwait_cons {op : ServerOp} {ops : List ServerOp}
    (other : op ≠ .action .nginxRestart) (rest : RestartsAwait ops) : RestartsAwait (op :: ops) :=
  ⟨fun same => (other same).elim, rest⟩

theorem gzipOp_ne_restart (mode : Mode) : gzipOp mode ≠ .action .nginxRestart := by
  cases mode <;> simp [gzipOp]

theorem restartsAwait_testPoint (core : Nat) (affinity : Text) (label : Label) :
    RestartsAwait (testPoint core affinity label) := by
  simp [testPoint, RestartsAwait]

theorem restartsAwait_sweep (cpus : List Nat) (label : Nat → Label) :
    RestartsAwait (sweepOps cpus label) := by
  refine (restartsAwait_flatMap _ fun core => restartsAwait_testPoint _ _ _).append ?_
  split
  · exact restartsAwait_testPoint _ _ _
  · trivial

theorem restartsAwait_socket (topology : Topology) (side : Side) :
    RestartsAwait (nginxOnOneSocketHandle topology side) := by
  refine restartsAwait_cons (by simp) (restartsAwait_cons (by simp) ?_)
  exact restartsAwait_flatMap _ fun mode =>
    restartsAwait_cons (gzipOp_ne_restart mode) (restartsAwait_sweep _ _)

theorem restartsAwait_node (topology : Topology) : RestartsAwait (nodehandle topology) := by
  refine restartsAwait_cons (by simp) (restartsAwait_cons (by simp) ?_)
  exact restartsAwait_flatMap _ fun mode =>
    restartsAwait_cons (gzipOp_ne_restart mode) (restartsAwait_flatMap _ fun number =>
      restartsAwait_cons (by simp) (restartsAwait_sweep _ _))

theorem restartsAwait_server : RestartsAwait serverhandle := by
  refine restartsAwait_flatMap _ fun mode => restartsAwait_cons (gzipOp_ne_restart mode) ?_
  simp [RestartsAwait]

theorem restartsAwait_stats (topology : Topology) : RestartsAwait (statisticshandle topology) :=
  restartsAwait_cons (by simp) trivial

theorem restartsAwait_script (topology : Topology) (mode : TestMode) :
    RestartsAwait (serverOps topology mode) := by
  cases mode with
  | socketl => exact restartsAwait_socket topology .localSide
  | socketr => exact restartsAwait_socket topology .remoteSide
  | node => exact restartsAwait_node topology
  | server => exact restartsAwait_server
  | stats => exact restartsAwait_stats topology
  | all =>
      exact ((((restartsAwait_socket topology .localSide).append
        (restartsAwait_socket topology .remoteSide)).append (restartsAwait_node topology)).append
          restartsAwait_server).append (restartsAwait_stats topology)

/-! ## The configurations of a whole invocation -/

/-- Every test point of a list of commands has the file of its label. -/
def PointsRight (topology : Topology) (ops : List ServerOp) : Prop :=
  ∀ state, InShape state → ∀ point ∈ testConfs ops state,
    point.2 = render (settingsOf topology point.1)

theorem PointsRight.append {topology : Topology} {front back : List ServerOp}
    (known : ∀ op ∈ front, Known op) (first : PointsRight topology front)
    (second : PointsRight topology back) : PointsRight topology (front ++ back) := by
  intro state inShape point member
  rw [testConfs_append, List.mem_append] at member
  rcases member with early | late
  · exact first state inShape point early
  · exact second _ (inShape_commands known inShape) point late

theorem pointsRight_socket (topology : Topology) (side : Side) :
    PointsRight topology (nginxOnOneSocketHandle topology side) := by
  intro state _ point member
  rw [testConfs_socket] at member
  simp only [sweepPoints, List.mem_flatMap, List.mem_map] at member
  obtain ⟨mode, -, _, ⟨core, -, rfl⟩, rfl⟩ := member
  rfl

theorem pointsRight_node (topology : Topology) : PointsRight topology (nodehandle topology) := by
  intro state _ point member
  rw [testConfs_node] at member
  simp only [sweepPoints, List.mem_flatMap, List.mem_map] at member
  obtain ⟨mode, -, number, -, _, ⟨core, -, rfl⟩, rfl⟩ := member
  rfl

theorem writes_serverPoint (mode : Mode) :
    Writes (fun _ => True)
      [gzipOp mode, .action (.sedWorkers "auto;"), .action .deleteAffinity, .action .nginxRestart,
        .waitTestStart (.server mode), .waitTestFinish (.server mode)]
      [(.server mode, render ⟨mode.gzip, .auto, none⟩)] := by
  have command : gzipOp mode = .action (.sedGzip mode.gzip.text) := by
    cases mode <;> rfl
  have written : ∀ state, InShape state →
      (ServerAction.deleteAffinity.perform ((ServerAction.sedWorkers Workers.auto.text).perform
        ((ServerAction.sedGzip mode.gzip.text).perform state))).conf =
          render ⟨mode.gzip, .auto, none⟩ := by
    rintro state ⟨settings, contents, -⟩
    simp only [ServerAction.perform, contents, render_setGzip, render_setWorkers,
      render_deleteAffinity]
  rw [command]
  exact ⟨fun state holds => ⟨_, written state holds, trivial⟩,
    fun state holds => by rw [← written state holds]; rfl⟩

theorem pointsRight_server (topology : Topology) : PointsRight topology serverhandle := by
  intro state inShape point member
  have written : Writes (fun _ => True) serverhandle
      (nginxmode.flatMap fun mode => [(Label.server mode, render ⟨mode.gzip, .auto, none⟩)]) :=
    writes_flatMap nginxmode fun mode _ => writes_serverPoint mode
  rw [written.confs state inShape] at member
  simp only [List.mem_flatMap, List.mem_singleton] at member
  obtain ⟨mode, -, rfl⟩ := member
  rfl

theorem pointsRight_stats (topology : Topology) :
    PointsRight topology (statisticshandle topology) := by
  intro state _ point member
  simp [statisticshandle, testConfs] at member

theorem pointsRight_script (topology : Topology) (mode : TestMode) :
    PointsRight topology (serverOps topology mode) := by
  cases mode with
  | socketl => exact pointsRight_socket topology .localSide
  | socketr => exact pointsRight_socket topology .remoteSide
  | node => exact pointsRight_node topology
  | server => exact pointsRight_server topology
  | stats => exact pointsRight_stats topology
  | all =>
      simp only [serverOps, List.append_assoc]
      exact (pointsRight_socket topology .localSide).append (known_socket topology .localSide)
        ((pointsRight_socket topology .remoteSide).append (known_socket topology .remoteSide)
          ((pointsRight_node topology).append (known_node topology)
            ((pointsRight_server topology).append known_server (pointsRight_stats topology))))

/-! ## Invocations one after another -/

/-- The commands still ahead of the current invocation and the machine, after any invocations. -/
inductive Reaches : Topology → List ServerOp → ServerState → Prop
  /-- The setup has installed the shipped file and the script has not been called yet. -/
  | setup (topology : Topology) (running : Option (List Text)) :
      Reaches topology [] { conf := nginxConf, running := running }
  /-- The script is called; the invocation before it may have ended early. -/
  | invoke {before : Topology} {ahead : List ServerOp} {state : ServerState} (topology : Topology)
      (mode : TestMode) (reached : Reaches before ahead state) :
      Reaches topology (serverOps topology mode) state
  /-- The current invocation executes its next command. -/
  | command {topology : Topology} {op : ServerOp} {ops : List ServerOp} {state : ServerState}
      (reached : Reaches topology (op :: ops) state) :
      Reaches topology ops (finalState [op] state)

variable {topology : Topology} {ops : List ServerOp} {state : ServerState}

/-- The current invocation has a beginning with the file in shape. -/
def Underway (topology : Topology) (ops : List ServerOp) (state : ServerState) : Prop :=
  ∃ done start, InShape start ∧ state = finalState done start ∧
    (∀ op ∈ done ++ ops, Known op) ∧ RestartsAwait (done ++ ops) ∧
      PointsRight topology (done ++ ops)

theorem Underway.inShape (underway : Underway topology ops state) : InShape state := by
  obtain ⟨done, start, inShape, rfl, known, -, -⟩ := underway
  exact inShape_commands (fun op member => known op (List.mem_append_left ops member)) inShape

theorem underway_of_reaches (reached : Reaches topology ops state) :
    Underway topology ops state := by
  induction reached with
  | setup topology running =>
      exact ⟨[], _, ⟨.shipped, rfl, trivial⟩, rfl, by simp, trivial, fun _ _ _ member => by
        simp [testConfs] at member⟩
  | invoke topology mode _ induction =>
      exact ⟨[], _, induction.inShape, rfl, known_script topology mode,
        restartsAwait_script topology mode, pointsRight_script topology mode⟩
  | @command topology op ops state _ induction =>
      obtain ⟨done, start, inShape, rfl, known, await, right⟩ := induction
      have shifted : done ++ op :: ops = (done ++ [op]) ++ ops := by simp
      rw [shifted] at known await right
      exact ⟨done ++ [op], start, inShape, (finalState_append done [op] start).symm, known, await,
        right⟩

/-! ## The frame at a restart -/

/-- The file is the shipped one except for its three edited lines, each of which stands there once
with the given value; the mask line stands there only when there is a value. -/
structure Framed (settings : Settings) (conf : List Text) : Prop where
  /-- The edited lines are where the shipped file has them. -/
  lines : conf = render settings
  /-- All other lines are the shipped ones. -/
  others : conf.filter bystander = nginxConf.filter bystander
  /-- The only compression switch. -/
  gzip : conf.filter (mentions "gzip") = ["    gzip " ++ settings.gzip.text]
  /-- The only number of workers. -/
  workers : conf.filter (mentions "worker_processes") =
    ["worker_processes " ++ settings.workers.text]
  /-- The only masks. -/
  affinity : conf.filter (mentions "worker_cpu_affinity") = affinityLines settings.affinity

theorem filter_render (keep : Text → Bool) (settings : Settings) :
    (render settings).filter keep =
      confHead.filter keep ++ ["worker_processes " ++ settings.workers.text].filter keep ++
        (affinityLines settings.affinity).filter keep ++ confMiddle.filter keep ++
          ["    gzip " ++ settings.gzip.text].filter keep ++ confTail.filter keep := by
  simp only [render, List.filter_append]

theorem frame_cases {P : List Text → Prop}
    (each : ∀ lines, (∀ line ∈ lines, bystander line = true) → P lines) :
    P confHead ∧ P confMiddle ∧ P confTail := by
  have frame := frame_bystander
  rw [List.all_append, List.all_append, Bool.and_eq_true, Bool.and_eq_true] at frame
  obtain ⟨⟨head, middle⟩, tail⟩ := frame
  exact ⟨each _ (List.all_eq_true.mp head), each _ (List.all_eq_true.mp middle),
    each _ (List.all_eq_true.mp tail)⟩

theorem not_mentions_of_bystander {line : Text} (silent : bystander line = true) :
    mentions "worker_processes" line = false ∧ mentions "worker_cpu_affinity" line = false ∧
      mentions "gzip" line = false := by
  simp only [bystander, Bool.and_eq_true, Bool.not_eq_true'] at silent
  exact ⟨silent.1.1.1.1.1, silent.1.1.1.1.2, silent.1.1.1.2⟩

/-- A filter for one of the directives drops the frame. -/
theorem filter_mentions_render {directive : Text} (settings : Settings)
    (frame : ∀ line, bystander line = true → mentions directive line = false) :
    (render settings).filter (mentions directive) =
      ["worker_processes " ++ settings.workers.text].filter (mentions directive) ++
        (affinityLines settings.affinity).filter (mentions directive) ++
          ["    gzip " ++ settings.gzip.text].filter (mentions directive) := by
  obtain ⟨head, middle, tail⟩ := frame_cases (P := fun lines =>
    lines.filter (mentions directive) = []) fun lines silent =>
      List.filter_eq_nil_iff.mpr fun line member found =>
        Bool.false_ne_true ((frame line (silent line member)).symm.trans found)
  rw [filter_render, head, middle, tail]
  simp only [List.nil_append, List.append_nil]

theorem bystander_workers (workers : Workers) :
    bystander ("worker_processes " ++ workers.text) = false := by
  by_contra silent
  have absent := (not_mentions_of_bystander (by simpa using silent)).1
  exact Bool.false_ne_true (absent.symm.trans (mentions_workers_own workers))

theorem bystander_affinity (affinity : Affinity) :
    bystander ("worker_cpu_affinity " ++ affinity.text) = false := by
  by_contra silent
  have absent := (not_mentions_of_bystander (by simpa using silent)).2.1
  exact Bool.false_ne_true (absent.symm.trans (mentions_affinity_own affinity))

theorem bystander_gzip (gzip : Gzip) : bystander ("    gzip " ++ gzip.text) = false := by
  by_contra silent
  have absent := (not_mentions_of_bystander (by simpa using silent)).2.2
  exact Bool.false_ne_true (absent.symm.trans (mentions_gzip_own gzip))

theorem filter_affinityLines_false {keep : Text → Bool} (affinity : Option Affinity)
    (dropped : ∀ present, keep ("worker_cpu_affinity " ++ Affinity.text present) = false) :
    (affinityLines affinity).filter keep = [] := by
  cases affinity with
  | none => rfl
  | some affinity =>
      simp only [affinityLines, List.filter_singleton, dropped affinity, cond_false]

theorem filter_bystander_render (settings : Settings) :
    (render settings).filter bystander = confHead ++ confMiddle ++ confTail := by
  obtain ⟨head, middle, tail⟩ := frame_cases (P := fun lines =>
    lines.filter bystander = lines) fun lines silent => List.filter_eq_self.mpr silent
  rw [filter_render, head, middle, tail, filter_affinityLines_false _ bystander_affinity]
  simp only [List.filter_singleton, bystander_workers, bystander_gzip, cond_false, List.append_nil]

theorem framed_render (settings : Settings) : Framed settings (render settings) where
  lines := rfl
  others := by rw [nginxConf, filter_bystander_render, filter_bystander_render]
  gzip := by
    rw [filter_mentions_render settings fun line silent => (not_mentions_of_bystander silent).2.2,
      filter_affinityLines_false _ mentions_gzip_affinity]
    simp only [List.filter_singleton, mentions_gzip_workers, mentions_gzip_own, cond_false,
      cond_true, List.nil_append]
  workers := by
    rw [filter_mentions_render settings fun line silent => (not_mentions_of_bystander silent).1,
      filter_affinityLines_false _ mentions_workers_affinity]
    simp only [List.filter_singleton, mentions_workers_own, mentions_workers_gzip, cond_false,
      cond_true, List.append_nil]
  affinity := by
    have own : (affinityLines settings.affinity).filter (mentions "worker_cpu_affinity") =
        affinityLines settings.affinity := by
      cases settings.affinity with
      | none => rfl
      | some affinity =>
          simp only [affinityLines, List.filter_singleton, mentions_affinity_own, cond_true]
    rw [filter_mentions_render settings fun line silent => (not_mentions_of_bystander silent).2.1,
      own]
    simp only [List.filter_singleton, mentions_affinity_workers, mentions_affinity_gzip,
      cond_false, List.nil_append, List.append_nil]

/-- At a restart the file has the values of the test point that follows. -/
theorem conf_at_restart (reached : Reaches topology (.action .nginxRestart :: ops) state) :
    ∃ label, ops.head? = some (.waitTestStart label) ∧
      state.conf = render (settingsOf topology label) := by
  obtain ⟨done, start, inShape, rfl, -, await, right⟩ := underway_of_reaches reached
  obtain ⟨label, awaited⟩ := await.suffix.1 rfl
  refine ⟨label, awaited, ?_⟩
  obtain ⟨rest, rfl⟩ := List.head?_eq_some_iff.mp awaited
  apply right start inShape (label, (finalState done start).conf)
  rw [testConfs_append]
  exact List.mem_append_right _ List.mem_cons_self

/-- After any invocations, the file at a restart is the shipped one with the three lines of the
current test point. -/
theorem frame_at_restart (reached : Reaches topology (.action .nginxRestart :: ops) state) :
    ∃ label, ops.head? = some (.waitTestStart label) ∧
      Framed (settingsOf topology label) state.conf := by
  obtain ⟨label, awaited, contents⟩ := conf_at_restart reached
  exact ⟨label, awaited, contents ▸ framed_render _⟩

/-- The first restart of a server test, called right after the setup. -/
theorem frame_at_restart_afterSetup :
    ∃ label, (serverhandle.drop 4).head? = some (.waitTestStart label) ∧
      Framed (settingsOf (oneNode [0, 1]) label)
        (finalState (serverhandle.take 3) { conf := nginxConf, running := none }).conf := by
  have called : Reaches (oneNode [0, 1]) serverhandle { conf := nginxConf, running := none } :=
    .invoke (oneNode [0, 1]) .server (.setup (oneNode [0, 1]) none)
  exact frame_at_restart (.command (.command (.command called)))

end Nginx
