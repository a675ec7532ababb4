import ArmTest.Nginx.Placement
import Mathlib.Data.List.Perm.Subperm

/-!
# The test points of the core sweeps

Which configuration stands in `nginx.conf` at each test point of a socket or node test, and whether
its workers are placed as the label of the point says.
-/

namespace Nginx

open Shell

/-! ## Configurations of the test points -/

/-- The configuration installed at each test point of a list of commands. -/
def testConfs : List ServerOp → ServerState → List (Label × List Text)
  | [], _ => []
  | .action action :: ops, state => testConfs ops (action.perform state)
  | .getNginxServerInfo _ _ :: ops, state => testConfs ops state
  | .waitTestStart label :: ops, state => (label, state.conf) :: testConfs ops state
  | .waitTestFinish _ :: ops, state => testConfs ops state

/-- The state of the machine after a list of commands. -/
def finalState : List ServerOp → ServerState → ServerState
  | [], state => state
  | .action action :: ops, state => finalState ops (action.perform state)
  | .getNginxServerInfo _ _ :: ops, state => finalState ops state
  | .waitTestStart _ :: ops, state => finalState ops state
  | .waitTestFinish _ :: ops, state => finalState ops state

theorem testConfs_append (front back : List ServerOp) (state : ServerState) :
    testConfs (front ++ back) state =
      testConfs front state ++ testConfs back (finalState front state) := by
  induction front generalizing state with
  | nil => rfl
  | cons op front induction =>
      cases op with
      | action action => exact induction (action.perform state)
      | getNginxServerInfo => exact induction state
      | waitTestStart label =>
          simp only [List.cons_append, testConfs, finalState, induction state]
      | waitTestFinish => exact induction state

theorem finalState_append (front back : List ServerOp) (state : ServerState) :
    finalState (front ++ back) state = finalState back (finalState front state) := by
  induction front generalizing state with
  | nil => rfl
  | cons op front induction =>
      cases op with
      | action action => exact induction (action.perform state)
      | getNginxServerInfo => exact induction state
      | waitTestStart => exact induction state
      | waitTestFinish => exact induction state

/-- Commands that keep a condition on the machine and write known configurations. -/
structure Writes (P : Settings → Prop) (ops : List ServerOp)
    (expected : List (Label × List Text)) : Prop where
  /-- The condition holds again at the end. -/
  keeps : ∀ state, Holds P state → Holds P (finalState ops state)
  /-- The configurations at the test points. -/
  confs : ∀ state, Holds P state → testConfs ops state = expected

theorem writes_nil (P : Settings → Prop) : Writes P [] [] :=
  ⟨fun _ holds => holds, fun _ _ => rfl⟩

theorem Writes.append {P : Settings → Prop} {front back : List ServerOp}
    {frontConfs backConfs : List (Label × List Text)} (first : Writes P front frontConfs)
    (second : Writes P back backConfs) : Writes P (front ++ back) (frontConfs ++ backConfs) := by
  refine ⟨fun state holds => ?_, fun state holds => ?_⟩
  · rw [finalState_append]
    exact second.keeps _ (first.keeps state holds)
  · rw [testConfs_append, first.confs state holds, second.confs _ (first.keeps state holds)]

theorem writes_flatMap {X : Type} {P : Settings → Prop} {body : X → List ServerOp}
    {confs : X → List (Label × List Text)} (items : List X)
    (each : ∀ item ∈ items, Writes P (body item) (confs item)) :
    Writes P (items.flatMap body) (items.flatMap confs) := by
  induction items with
  | nil => exact writes_nil P
  | cons item items induction =>
      exact (each item List.mem_cons_self).append
        (induction fun other member => each other (List.mem_cons_of_mem item member))

theorem writes_testPoint {mode : Mode} (core : Nat) (ids : List Nat) (label : Label) :
    Writes (Ready mode) (testPoint core (maskList ids) label)
      [(label, render ⟨mode.gzip, .count core, some (.cpus ids)⟩)] := by
  have written : ∀ state, Holds (Ready mode) state →
      ((ServerAction.sedAffinity (Affinity.cpus ids).text).perform
        ((ServerAction.sedWorkers (Workers.count core).text).perform state)).conf =
          render ⟨mode.gzip, .count core, some (.cpus ids)⟩ := by
    rintro state ⟨settings, contents, gzip, masked⟩
    have counted := holds_sedWorkers (.count core) contents
    have present : ({ settings with workers := .count core } : Settings).affinity.isSome = true :=
      masked
    rw [holds_sedAffinity (.cpus ids) present counted, gzip]
  exact ⟨fun state holds => ⟨_, written state holds, rfl, rfl⟩,
    fun state holds => by rw [← written state holds]; rfl⟩

/-- The sweep writes, for every number of cores it visits, that many workers and masks. -/
theorem writes_sweep {mode : Mode} (cpus : List Nat) (label : Nat → Label) :
    Writes (Ready mode) (sweepOps cpus label)
      ((sweepCores cpus.length).map fun core =>
        (label core, render ⟨mode.gzip, .count core, some (.cpus (cpus.take core))⟩)) := by
  obtain ⟨steps, sweep, -, above⟩ := coreSweep_spec cpus.length
  have whole : cpus.take cpus.length = cpus.take (2 ^ steps) := by
    rw [List.take_length, List.take_of_length_le above.le]
  have extra : Writes (Ready mode)
      (if cpus.length * 2 ≠ 2 ^ steps then
          testPoint (2 ^ steps) (maskList (cpus.take cpus.length)) (label (2 ^ steps))
        else [])
      ((if cpus.length * 2 ≠ 2 ^ steps then [2 ^ steps] else []).map fun core =>
        (label core, render ⟨mode.gzip, .count core, some (.cpus (cpus.take core))⟩)) := by
    by_cases another : cpus.length * 2 ≠ 2 ^ steps
    · rw [if_pos another, if_pos another, whole]
      exact writes_testPoint _ _ _
    · rw [if_neg another, if_neg another]
      exact writes_nil _
  simp only [sweepOps, sweepCores, sweep, cpuStrToAffinity_eq, List.map_append]
  refine Writes.append ?_ extra
  have points : Writes (Ready mode)
      (((List.range steps).map fun i => 2 ^ i).flatMap fun core =>
        testPoint core (maskList (cpus.take core)) (label core))
      (((List.range steps).map fun i => 2 ^ i).flatMap fun core =>
        [(label core, render ⟨mode.gzip, .count core, some (.cpus (cpus.take core))⟩)]) :=
    writes_flatMap _ fun core _ => writes_testPoint core (cpus.take core) (label core)
  simpa only [List.map_eq_flatMap] using points

theorem writes_mode {mode : Mode} {body : List ServerOp} {expected : List (Label × List Text)}
    (swept : Writes (Ready mode) body expected) :
    Writes Masked (gzipOp mode :: body) expected := by
  have command : gzipOp mode = .action (.sedGzip mode.gzip.text) := by
    cases mode <;> rfl
  have ready : ∀ state, Holds Masked state →
      Holds (Ready mode) ((ServerAction.sedGzip mode.gzip.text).perform state) := by
    rintro state ⟨settings, contents, masked⟩
    refine ⟨{ settings with gzip := mode.gzip }, ?_, rfl, masked⟩
    simp only [ServerAction.perform, contents, render_setGzip]
  rw [command]
  refine ⟨fun state holds => ?_, fun state holds => swept.confs _ (ready state holds)⟩
  obtain ⟨settings, contents, -, masked⟩ := swept.keeps _ (ready state holds)
  exact ⟨settings, contents, masked⟩

/-- The numbers of cores of a sweep with the configurations of their test points. -/
def sweepPoints (mode : Mode) (cpus : List Nat) : List (Nat × List Text) :=
  (sweepCores cpus.length).map fun core =>
    (core, render ⟨mode.gzip, .count core, some (.cpus (cpus.take core))⟩)

theorem writes_sweepPoints {mode : Mode} (cpus : List Nat) (label : Nat → Label) :
    Writes (Ready mode) (sweepOps cpus label)
      ((sweepPoints mode cpus).map fun point => (label point.1, point.2)) := by
  simpa [sweepPoints, Function.comp_def] using writes_sweep cpus label

theorem testConfs_socket (topology : Topology) (side : Side) (state : ServerState) :
    testConfs (nginxOnOneSocketHandle topology side) state =
      nginxmode.flatMap fun mode =>
        (sweepPoints mode (topology.socketCpulist side)).map fun point =>
          (Label.socket mode side point.1, point.2) := by
  have swept : Writes Masked
      (nginxmode.flatMap fun mode =>
        gzipOp mode :: sweepOps (topology.socketCpulist side) (.socket mode side)) _ :=
    writes_flatMap nginxmode fun mode _ => writes_mode (writes_sweepPoints _ _)
  exact swept.confs _ (holds_install Masked rfl state)

theorem testConfs_node (topology : Topology) (state : ServerState) :
    testConfs (nodehandle topology) state =
      nginxmode.flatMap fun mode =>
        (List.range topology.nodes.length).flatMap fun (number : Nat) =>
          (sweepPoints mode (topology.nodeCpus number)).map fun point =>
            (Label.node mode number point.1, point.2) := by
  have each : ∀ (mode : Mode) (number : Nat), Writes (Ready mode) (nodeOps topology mode number)
      ((sweepPoints mode (topology.nodeCpus number)).map fun point =>
        (Label.node mode number point.1, point.2)) := by
    intro mode number
    have swept : Writes (Ready mode)
        (sweepOps (topology.nodeCpus number) (.node mode number)) _ := writes_sweepPoints _ _
    exact ⟨swept.keeps, swept.confs⟩
  have swept : Writes Masked
      (nginxmode.flatMap fun mode =>
        gzipOp mode :: (List.range topology.nodes.length).flatMap (nodeOps topology mode)) _ :=
    writes_flatMap nginxmode fun mode _ => writes_mode (writes_flatMap _ fun number _ =>
      each mode number)
  exact swept.confs _ (holds_install Masked rfl state)

/-! ## One sweep among the tests -/

/-- Where a core sweep runs. -/
inductive Place where
  | socket (side : Side)
  | node (number : Nat)
  deriving DecidableEq

/-- The variable `socket_cpulist` or `node_cpuid` of the sweep. -/
def Place.cpus (topology : Topology) : Place → List Nat
  | .socket side => topology.socketCpulist side
  | .node number => topology.nodeCpus number

/-- The loop over the nodes reaches the place. -/
def Place.Present (topology : Topology) : Place → Prop
  | .socket _ => True
  | .node number => number < topology.nodes.length

/-- The function of the script with the sweep. -/
def Place.ops (topology : Topology) : Place → List ServerOp
  | .socket side => nginxOnOneSocketHandle topology side
  | .node _ => nodehandle topology

/-- The number at the end of a label of the sweep. -/
def Place.core? (mode : Mode) : Place → Label → Option Nat
  | .socket side, .socket kind place core =>
      if kind = mode ∧ place = side then some core else none
  | .node number, .node kind place core =>
      if kind = mode ∧ place = number then some core else none
  | _, _ => none

/-- The test points of one sweep: the number in the label and the configuration written for it. -/
def sweepConfs (topology : Topology) (place : Place) (mode : Mode) (state : ServerState) :
    List (Nat × List Text) :=
  (testConfs (place.ops topology) state).filterMap fun point =>
    (place.core? mode point.1).map fun core => (core, point.2)

theorem flatMap_eq_of_others_nil {X Y : Type} {items : List X} {f : X → List Y} {chosen : X}
    (distinct : items.Nodup) (member : chosen ∈ items)
    (others : ∀ item, item ≠ chosen → f item = []) : items.flatMap f = f chosen := by
  induction items with
  | nil => simp at member
  | cons item items induction =>
      rw [List.nodup_cons] at distinct
      rw [List.flatMap_cons]
      by_cases first : item = chosen
      · subst first
        have rest : items.flatMap f = [] := by
          rw [List.flatMap_eq_nil_iff]
          intro other inside
          exact others other fun same => distinct.1 (same ▸ inside)
        rw [rest, List.append_nil]
      · have inside : chosen ∈ items :=
          (List.mem_cons.mp member).resolve_left fun same => first same.symm
        rw [others item first, List.nil_append, induction distinct.2 inside]

/-- The test points of a sweep are those of its processor list. -/
theorem sweepConfs_eq {topology : Topology} {place : Place} (present : place.Present topology)
    (mode : Mode) (state : ServerState) :
    sweepConfs topology place mode state = sweepPoints mode (place.cpus topology) := by
  have modes : nginxmode.Nodup := by decide
  have member : mode ∈ nginxmode := by cases mode <;> decide
  cases place with
  | socket side =>
      rw [sweepConfs, Place.ops, testConfs_socket, List.filterMap_flatMap]
      refine (flatMap_eq_of_others_nil modes member ?_).trans ?_
      · simp +contextual [Place.core?]
      · simp [Place.core?, Place.cpus]
  | node number =>
      rw [sweepConfs, Place.ops, testConfs_node, List.filterMap_flatMap]
      refine (flatMap_eq_of_others_nil modes member ?_).trans ?_
      · intro kind other
        simp [List.filterMap_flatMap, Place.core?, other]
      · rw [List.filterMap_flatMap]
        refine (flatMap_eq_of_others_nil List.nodup_range (List.mem_range.mpr present) ?_).trans ?_
        · simp +contextual [Place.core?]
        · simp [Place.core?, Place.cpus]

/-! ## Placement at the test points -/

/-- As many workers and masks as the label says, no more than there are processors, and no
processor given to two workers. -/
def WellPlaced (ngxNcpu : Nat) (cpus : List Nat) (core : Nat) (conf : List Text) : Prop :=
  ∃ ccf, readCore ngxNcpu conf = some ccf ∧ ccf.workerProcesses = core ∧
    ccf.cpuAffinity.length = core ∧ core ≤ cpus.length ∧
    ∀ i < ccf.workerProcesses, ∀ j < ccf.workerProcesses, i ≠ j → ∀ first second,
      ccf.ngxGetCpuAffinity i = some first → ccf.ngxGetCpuAffinity j = some second →
        first.Disjoint second

/-- The workers are bound to all processors of the list. -/
def UsesAll (ngxNcpu : Nat) (cpus : List Nat) (conf : List Text) : Prop :=
  ∃ ccf, readCore ngxNcpu conf = some ccf ∧ ∀ cpu, cpu ∈ cpus ↔
    ∃ i < ccf.workerProcesses, ∃ set, ccf.ngxGetCpuAffinity i = some set ∧ cpu ∈ set

/-- Every point of a sweep is placed as its label says and the last one uses all processors. -/
def SweepPlaced (ngxNcpu : Nat) (cpus : List Nat) (points : List (Nat × List Text)) : Prop :=
  (∀ point ∈ points, WellPlaced ngxNcpu cpus point.1 point.2) ∧
    ∃ point, points.getLast? = some point ∧ UsesAll ngxNcpu cpus point.2

variable {cpus : List Nat} {ngxNcpu core : Nat}

theorem length_le_of_bound (distinct : cpus.Nodup) (bound : ∀ cpu ∈ cpus, cpu < 1024) :
    cpus.length ≤ 1024 := by
  have inside : cpus ⊆ List.range 1024 := fun cpu member => List.mem_range.mpr (bound cpu member)
  simpa using (List.Nodup.subperm distinct inside).length_le

theorem readCore_point (mode : Mode) (bound : ∀ cpu ∈ cpus, cpu < 1024) (positive : 0 < core)
    (fits : core ≤ cpus.length) (small : core ≤ 1024) :
    readCore ngxNcpu (render ⟨mode.gzip, .count core, some (.cpus (cpus.take core))⟩) =
      some ⟨core, (cpus.take core).map fun cpu => [cpu]⟩ := by
  refine readCore_render rfl rfl (by omega) ?_ fun cpu member =>
    bound cpu (List.mem_of_mem_take member)
  intro empty
  have none := congrArg List.length empty
  simp only [List.length_take, List.length_nil] at none
  omega

/-- Worker `i` of a point that fits is bound to the processor `i` of the list. -/
theorem ngxGetCpuAffinity_point {i : Nat} (fits : core ≤ cpus.length) (worker : i < core) :
    CoreConf.ngxGetCpuAffinity ⟨core, (cpus.take core).map fun cpu => [cpu]⟩ i =
      cpus[i]?.map fun cpu => [cpu] := by
  have counted : i < ((cpus.take core).map fun cpu => [cpu]).length := by
    simp only [List.length_map, List.length_take]
    omega
  rw [CoreConf.ngxGetCpuAffinity, if_pos counted, List.getElem?_map, List.getElem?_take,
    if_pos worker]

theorem wellPlaced_point (mode : Mode) (distinct : cpus.Nodup) (bound : ∀ cpu ∈ cpus, cpu < 1024)
    (positive : 0 < core) (fits : core ≤ cpus.length) :
    WellPlaced ngxNcpu cpus core
      (render ⟨mode.gzip, .count core, some (.cpus (cpus.take core))⟩) := by
  have small := length_le_of_bound distinct bound
  refine ⟨_, readCore_point mode bound positive fits (by omega), rfl, by simpa using fits, fits, ?_⟩
  intro i worker j other apart first second ofFirst ofSecond
  rw [ngxGetCpuAffinity_point fits worker, Option.map_eq_some_iff] at ofFirst
  rw [ngxGetCpuAffinity_point fits other, Option.map_eq_some_iff] at ofSecond
  obtain ⟨cpu, atFirst, rfl⟩ := ofFirst
  obtain ⟨cpu', atSecond, rfl⟩ := ofSecond
  rw [List.singleton_disjoint, List.mem_singleton]
  rintro rfl
  have inside : i < cpus.length := worker.trans_le fits
  exact apart ((List.getElem?_inj inside distinct).mp (atFirst.trans atSecond.symm))

theorem usesAll_point (mode : Mode) (distinct : cpus.Nodup) (bound : ∀ cpu ∈ cpus, cpu < 1024)
    (nonempty : cpus ≠ []) :
    UsesAll ngxNcpu cpus
      (render ⟨mode.gzip, .count cpus.length, some (.cpus (cpus.take cpus.length))⟩) := by
  have small := length_le_of_bound distinct bound
  have positive := List.length_pos_of_ne_nil nonempty
  refine ⟨_, readCore_point mode bound positive le_rfl small, fun cpu => ?_⟩
  rw [List.mem_iff_getElem?]
  constructor
  · rintro ⟨i, found⟩
    have worker : i < cpus.length := (List.getElem?_eq_some_iff.mp found).1
    refine ⟨i, worker, [cpu], ?_, List.mem_singleton_self cpu⟩
    rw [ngxGetCpuAffinity_point le_rfl worker, found]
    rfl
  · rintro ⟨i, worker, set, ofWorker, member⟩
    rw [ngxGetCpuAffinity_point le_rfl worker, Option.map_eq_some_iff] at ofWorker
    obtain ⟨other, found, rfl⟩ := ofWorker
    rw [List.mem_singleton] at member
    exact ⟨i, member ▸ found⟩

theorem sweepPlaced_of_powerOfTwo (mode : Mode) (distinct : cpus.Nodup)
    (bound : ∀ cpu ∈ cpus, cpu < 1024) {exponent : Nat} (power : cpus.length = 2 ^ exponent) :
    SweepPlaced ngxNcpu cpus (sweepPoints mode cpus) := by
  have cores := sweepCores_two_pow exponent
  have nonempty : cpus ≠ [] := by
    rintro rfl
    exact (Nat.two_pow_pos exponent).ne power
  constructor
  · intro point member
    rw [sweepPoints, power, cores] at member
    simp only [List.map_map, List.mem_map, List.mem_range, Function.comp_apply] at member
    obtain ⟨i, below, rfl⟩ := member
    refine wellPlaced_point mode distinct bound (Nat.two_pow_pos i) ?_
    rw [power]
    exact Nat.pow_le_pow_right Nat.two_pos (by omega)
  · refine ⟨(cpus.length,
      render ⟨mode.gzip, .count cpus.length, some (.cpus (cpus.take cpus.length))⟩), ?_,
      usesAll_point mode distinct bound nonempty⟩
    simp [sweepPoints, power, cores, List.range_succ]

theorem not_sweepPlaced {mode : Mode} (notPower : ∀ exponent, cpus.length ≠ 2 ^ exponent) :
    ¬ SweepPlaced ngxNcpu cpus (sweepPoints mode cpus) := by
  rintro ⟨placed, -⟩
  obtain ⟨core, member, above⟩ := exists_sweepCores_gt notPower
  obtain ⟨-, -, -, -, fits, -⟩ := placed _ (List.mem_map_of_mem member)
  omega

/-- The sweeps place their workers as the labels say exactly on power-of-two processor lists. -/
theorem sweepPlaced_iff_powerOfTwo (topology : Topology) (place : Place)
    (present : place.Present topology) (ngxNcpu : Nat) (state : ServerState)
    (distinct : (place.cpus topology).Nodup)
    (bound : ∀ cpu ∈ place.cpus topology, cpu < 1024) :
    (∀ mode, SweepPlaced ngxNcpu (place.cpus topology) (sweepConfs topology place mode state)) ↔
      ∃ exponent, (place.cpus topology).length = 2 ^ exponent := by
  simp only [sweepConfs_eq present]
  constructor
  · intro placed
    by_contra notPower
    exact not_sweepPlaced (fun exponent power => notPower ⟨exponent, power⟩) (placed .httpshort)
  · rintro ⟨exponent, power⟩ mode
    exact sweepPlaced_of_powerOfTwo mode distinct bound power

/-- A machine with one socket and one node. -/
def oneNode (cpus : List Nat) : Topology where
  socketNum := 1
  socketNum_pos := Nat.one_pos
  nodes := [cpus]
  nicNode := 0
  hostName := "server"

theorem sweepPlaced_twoCpus :
    SweepPlaced 2 [0, 1]
      (sweepConfs (oneNode [0, 1]) (.socket .localSide) .httpslong
        { conf := [], running := none }) :=
  (sweepPlaced_iff_powerOfTwo (oneNode [0, 1]) (.socket .localSide) trivial 2
    { conf := [], running := none } (by decide) (by decide)).mpr ⟨1, rfl⟩ .httpslong

/-- Three processors get a test point of four workers, two of them on the last processor. -/
theorem threeCpus_share :
    (∃ conf, (4, conf) ∈ sweepConfs (oneNode [0, 1, 2]) (.socket .localSide) .httpshort
        { conf := [], running := none } ∧
      readCore 3 conf = some ⟨4, [[0], [1], [2]]⟩ ∧
      CoreConf.ngxGetCpuAffinity ⟨4, [[0], [1], [2]]⟩ 2 = some [2] ∧
      CoreConf.ngxGetCpuAffinity ⟨4, [[0], [1], [2]]⟩ 3 = some [2]) ∧
    ¬ ∀ mode, SweepPlaced 3 [0, 1, 2]
      (sweepConfs (oneNode [0, 1, 2]) (.socket .localSide) mode
        { conf := [], running := none }) := by
  have present : (Place.socket .localSide).Present (oneNode [0, 1, 2]) := trivial
  have points : ∀ mode, sweepConfs (oneNode [0, 1, 2]) (.socket .localSide) mode
      { conf := [], running := none } = sweepPoints mode [0, 1, 2] :=
    fun mode => sweepConfs_eq present mode _
  constructor
  · refine ⟨render ⟨.off, .count 4, some (.cpus [0, 1, 2])⟩, ?_, ?_, by decide, by decide⟩
    · rw [points]
      exact List.mem_map_of_mem (show 4 ∈ sweepCores 3 by decide)
    · have workers : (⟨.off, .count 4, some (.cpus [0, 1, 2])⟩ : Settings).workers = .count 4 :=
        rfl
      have affinity : (⟨.off, .count 4, some (.cpus [0, 1, 2])⟩ : Settings).affinity =
          some (.cpus [0, 1, 2]) := rfl
      rw [readCore_render workers affinity (by decide) (by decide) (by decide)]
      rfl
  · intro placed
    have placed := placed .httpshort
    rw [points] at placed
    obtain ⟨-, -, -, -, fits, -⟩ :=
      placed.1 _ (List.mem_map_of_mem (show 4 ∈ sweepCores 3 by decide))
    exact absurd fits (by decide)

end Nginx
