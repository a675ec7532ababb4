import ArmTest.Nginx.Placement
import ArmTest.Nginx.Syntax
import Mathlib.Data.Nat.Count
import Mathlib.Data.Finset.Card
import Mathlib.Data.Int.CardIntervalMod

/-!
# The worker directives

The core module keeps the number of workers and their processor masks.  Each worker is bound to the
mask of its number, to the last mask when there are fewer, or, with `auto`, to one processor of the
last mask chosen by its number.
-/

namespace Nginx.ConfFile

open Shell

/-! ## Directives -/

/-- `CPU_SETSIZE`. -/
def cpuSetsize : Nat := 1024

/-- The fields of `ngx_core_conf_t` behind the two worker directives; none stands for unset. -/
structure CoreModule where
  workerProcesses : Option Nat
  /-- `cpu_affinity`, with `cpu_affinity_n` masks. -/
  cpuAffinity : Option (List (List Nat))
  cpuAffinityAuto : Bool
  deriving DecidableEq

/-- `ngx_core_module_create_conf`. -/
def CoreModule.createConf : CoreModule where
  workerProcesses := none
  cpuAffinity := none
  cpuAffinityAuto := false

/-- Masks of the words behind the directive, up to the first that is refused. -/
def readMasks : List Text → Except SetFailure (List (List Nat))
  | [] => .ok []
  | value :: values =>
      if cpuSetsize < value.length then
        .error (.logged "\"worker_cpu_affinity\" supports up to 1024 CPUs only")
      else
        match scanMask 0 value.reverse with
        | none =>
            let ch := (value.reverse.find? fun ch => ch != ' ' && ch != '0' && ch != '1').getD ' '
            .error (.logged ("invalid character \"" ++ [ch] ++ "\" in \"worker_cpu_affinity\""))
        | some set => (readMasks values).map (set :: ·)

/-- `ngx_set_worker_processes`. -/
def CoreModule.setWorkerProcesses (ngxNcpu : Nat) (ccf : CoreModule) (value : List Text) :
    Except SetFailure CoreModule :=
  if ccf.workerProcesses ≠ none then .error (.text "is duplicate")
  else if value.getD 1 [] = "auto" then .ok { ccf with workerProcesses := some ngxNcpu }
  else
    match ngxAtoi (value.getD 1 []) with
    | none => .error (.text "invalid value")
    | some n => .ok { ccf with workerProcesses := some n }

/-- `ngx_set_cpu_affinity`. -/
def CoreModule.setCpuAffinity (ngxNcpu : Nat) (ccf : CoreModule) (value : List Text) :
    Except SetFailure CoreModule :=
  if ccf.cpuAffinity ≠ none then .error (.text "is duplicate")
  else if value.getD 1 [] = "auto" then
    if 3 < value.length then
      .error (.logged "invalid number of arguments in \"worker_cpu_affinity\" directive")
    else
      (readMasks (value.drop 2)).map fun masks =>
        { ccf with
          cpuAffinity := some (List.range (min ngxNcpu cpuSetsize) :: masks)
          cpuAffinityAuto := true }
  else (readMasks (value.drop 1)).map fun masks => { ccf with cpuAffinity := some masks }

/-! ## Workers -/

/-- `worker_processes` after `ngx_core_module_init_conf`. -/
def CoreModule.processes (ccf : CoreModule) : Nat := ccf.workerProcesses.getD 1

/-- Whether `ngx_core_module_init_conf` warns that the last mask serves the remaining workers. -/
def CoreModule.warns (ccf : CoreModule) : Bool :=
  let n := (ccf.cpuAffinity.getD []).length
  !ccf.cpuAffinityAuto && n != 0 && n != 1 && n != ccf.processes

/-- The loop of `ngx_get_cpu_affinity` for `auto`, for at most `fuel` rounds. -/
def autoLoop (mask : List Nat) (n : Nat) : Nat → Nat → Nat → Option (Option Nat)
  | 0, _, _ => none
  | fuel + 1, i, j =>
      let isset := mask.contains (i % cpuSetsize)
      if isset ∧ j = 0 then some (some (i % cpuSetsize))
      else
        let j := if isset then j - 1 else j
        if i = cpuSetsize ∧ j = n then some none else autoLoop mask n fuel (i + 1) j

/-- `ngx_get_cpu_affinity`: the mask of a worker, or none for NULL.  The rounds of the loop are
bounded; there is no result when they do not suffice. -/
def CoreModule.getCpuAffinity (ccf : CoreModule) (n : Nat) : Option (Option (List Nat)) :=
  match ccf.cpuAffinity with
  | none => some none
  | some masks =>
      if ccf.cpuAffinityAuto then
        (autoLoop (masks.getLast?.getD []) n (cpuSetsize * (n + 1) + 1) 0 n).map
          (Option.map ([·]))
      else some (if n < masks.length then masks[n]? else masks.getLast?)

/-- Where `ngx_start_worker_processes` lets its workers run; NULL stands for everywhere. -/
def CoreModule.workers (ccf : CoreModule) : List (Option (Option (List Nat))) :=
  (List.range ccf.processes).map ccf.getCpuAffinity

/-! ## The choice of `auto` -/

section

variable {mask : List Nat}

/-- In an increasing list as many members lie below a member as stand in front of it. -/
theorem count_getElem (increasing : mask.Pairwise (· < ·)) {r : Nat} (inside : r < mask.length) :
    Nat.count (fun i => i ∈ mask) mask[r] = r := by
  have front : (Finset.range mask[r]).filter (fun i => i ∈ mask) = (mask.take r).toFinset := by
    ext i
    rw [Finset.mem_filter, Finset.mem_range, List.mem_toFinset, List.mem_take_iff_getElem]
    constructor
    · rintro ⟨below, member⟩
      obtain ⟨s, bound, rfl⟩ := List.mem_iff_getElem.mp member
      refine ⟨s, ?_, rfl⟩
      by_contra late
      have order : mask[r] ≤ mask[s] := by
        rcases Nat.lt_or_ge r s with later | same
        · exact (List.pairwise_iff_getElem.mp increasing r s inside bound later).le
        · have equal : r = s := by omega
          subst equal
          exact le_rfl
      omega
    · rintro ⟨s, bound, rfl⟩
      have order : s < r := by omega
      exact ⟨List.pairwise_iff_getElem.mp increasing s r (by omega) inside order,
        List.getElem_mem _⟩
  have distinct : (mask.take r).Nodup :=
    (increasing.imp Nat.ne_of_lt).sublist (List.take_sublist r mask)
  rw [Nat.count_eq_card_filter_range, front, List.toFinset_card_of_nodup distinct,
    List.length_take]
  omega

/-- Beyond all members the count is the length. -/
theorem count_of_bound (increasing : mask.Pairwise (· < ·)) {bound : Nat}
    (below : ∀ i ∈ mask, i < bound) : Nat.count (fun i => i ∈ mask) bound = mask.length := by
  have all : (Finset.range bound).filter (fun i => i ∈ mask) = mask.toFinset := by
    ext i
    rw [Finset.mem_filter, Finset.mem_range, List.mem_toFinset]
    exact ⟨And.right, fun member => ⟨below i member, member⟩⟩
  rw [Nat.count_eq_card_filter_range, all,
    List.toFinset_card_of_nodup (increasing.imp Nat.ne_of_lt)]

/-- The test of the loop, as a predicate on the loop variable. -/
abbrev IsSet (mask : List Nat) (i : Nat) : Prop := i % cpuSetsize ∈ mask

theorem count_isSet {bound : Nat} (small : bound ≤ cpuSetsize) :
    Nat.count (IsSet mask) bound = Nat.count (fun i => i ∈ mask) bound := by
  rw [Nat.count_eq_card_filter_range, Nat.count_eq_card_filter_range]
  congr 1
  apply Finset.filter_congr
  intro i member
  rw [IsSet, Nat.mod_eq_of_lt ((Finset.mem_range.mp member).trans_le small)]

/-- Every round through the mask meets all its members. -/
theorem count_isSet_round (increasing : mask.Pairwise (· < ·)) (below : ∀ i ∈ mask, i < cpuSetsize)
    (rounds rest : Nat) : Nat.count (IsSet mask) (cpuSetsize * rounds + rest) =
      mask.length * rounds + Nat.count (IsSet mask) rest := by
  induction rounds with
  | zero => simp
  | succ rounds induction =>
      have periodic : (fun i => IsSet mask (cpuSetsize + i)) = IsSet mask := by
        funext i
        rw [IsSet, Nat.add_mod_left]
      have shifted : cpuSetsize * (rounds + 1) + rest =
          cpuSetsize + (cpuSetsize * rounds + rest) := by ring
      rw [shifted, Nat.count_add, count_isSet le_rfl, count_of_bound increasing below]
      simp only [periodic, induction]
      ring

/-- The loop finds the member at which the count reaches the number of the worker. -/
theorem autoLoop_of_count {n fuel i target : Nat} (nonempty : 1 ≤ Nat.count (IsSet mask) cpuSetsize)
    (isset : IsSet mask target) (reached : Nat.count (IsSet mask) target = n) (ahead : i ≤ target)
    (enough : target < i + fuel) :
    autoLoop mask n fuel i (n - Nat.count (IsSet mask) i) = some (some (target % cpuSetsize)) := by
  induction fuel generalizing i with
  | zero => omega
  | succ fuel induction =>
      rcases Nat.eq_or_lt_of_le ahead with rfl | before
      · have found : mask.contains (i % cpuSetsize) = true := List.contains_iff_mem.mpr isset
        simp only [autoLoop, found, reached, Nat.sub_self, and_self, if_true]
      · have counted : Nat.count (IsSet mask) (i + 1) ≤ n :=
          reached ▸ Nat.count_monotone _ before
        have next := Nat.count_succ (IsSet mask) i
        have stays : ¬ (mask.contains (i % cpuSetsize) = true ∧
            n - Nat.count (IsSet mask) i = 0) := by
          rintro ⟨found, last⟩
          rw [if_pos (List.contains_iff_mem.mp found)] at next
          omega
        have decreases : (if mask.contains (i % cpuSetsize) = true
            then n - Nat.count (IsSet mask) i - 1 else n - Nat.count (IsSet mask) i) =
              n - Nat.count (IsSet mask) (i + 1) := by
          rw [next]
          by_cases found : IsSet mask i
          · rw [if_pos (List.contains_iff_mem.mpr found), if_pos found]
            omega
          · rw [if_neg (fun contained => found (List.contains_iff_mem.mp contained)), if_neg found,
              Nat.add_zero]
        have notEmpty : ¬ (i = cpuSetsize ∧ n - Nat.count (IsSet mask) (i + 1) = n) := by
          rintro ⟨rfl, same⟩
          omega
        rw [autoLoop]
        simp only [stays, if_false, decreases, notEmpty]
        exact induction before (by omega)

/-- With `auto` the workers go round the processors of the mask. -/
theorem autoLoop_eq (increasing : mask.Pairwise (· < ·)) (below : ∀ i ∈ mask, i < cpuSetsize)
    (nonempty : mask ≠ []) (n : Nat) :
    autoLoop mask n (cpuSetsize * (n + 1) + 1) 0 n = some mask[n % mask.length]? := by
  have positive := List.length_pos_of_ne_nil nonempty
  have inside := Nat.mod_lt n positive
  have small := below _ (List.getElem_mem inside)
  have target_mod : (cpuSetsize * (n / mask.length) + mask[n % mask.length]) % cpuSetsize =
      mask[n % mask.length] := by
    rw [Nat.mul_add_mod, Nat.mod_eq_of_lt small]
  have reached : Nat.count (IsSet mask)
      (cpuSetsize * (n / mask.length) + mask[n % mask.length]) = n := by
    rw [count_isSet_round increasing below, count_isSet small.le, count_getElem increasing inside]
    exact Nat.div_add_mod n mask.length
  have rounds : cpuSetsize * (n / mask.length) ≤ cpuSetsize * n :=
    Nat.mul_le_mul_left _ (Nat.div_le_self n _)
  have found := @autoLoop_of_count mask n (cpuSetsize * (n + 1) + 1) 0 _
    (by rw [count_isSet le_rfl, count_of_bound increasing below]; exact positive)
    (by rw [IsSet, target_mod]; exact List.getElem_mem inside) reached (Nat.zero_le _)
    (by rw [Nat.mul_add]; omega)
  rw [Nat.count_zero, Nat.sub_zero, target_mod] at found
  rw [found, List.getElem?_eq_getElem inside]

/-- An empty mask is noticed after one round. -/
theorem autoLoop_nil {n fuel i : Nat} (start : i ≤ cpuSetsize) (enough : cpuSetsize < i + fuel) :
    autoLoop [] n fuel i n = some none := by
  induction fuel generalizing i with
  | zero => omega
  | succ fuel induction =>
      rw [autoLoop]
      by_cases last : i = cpuSetsize
      · simp [last]
      · simp only [List.contains_nil, Bool.false_eq_true, false_and, if_false, last]
        exact induction (by omega) (by omega)

/-- The places of the ones of a mask, from its right end, come in increasing order. -/
theorem scanMask_increasing {i : Nat} {value : Text} {cpus : List Nat}
    (read : scanMask i value = some cpus) :
    cpus.Pairwise (· < ·) ∧ ∀ cpu ∈ cpus, i ≤ cpu ∧ cpu < i + value.length := by
  induction value generalizing i cpus with
  | nil =>
      injection read with none
      subst none
      exact ⟨.nil, by simp⟩
  | cons ch value induction =>
      rw [scanMask] at read
      rw [List.length_cons]
      split at read
      · obtain ⟨increasing, bounds⟩ := induction read
        exact ⟨increasing, fun cpu member => ⟨(bounds cpu member).1, by
          have upper := (bounds cpu member).2
          omega⟩⟩
      · split at read
        · obtain ⟨increasing, bounds⟩ := induction read
          exact ⟨increasing, fun cpu member => by
            have between := bounds cpu member
            omega⟩
        · split at read
          · obtain ⟨others, later, rfl⟩ := Option.map_eq_some_iff.mp read
            obtain ⟨increasing, bounds⟩ := induction later
            refine ⟨List.pairwise_cons.mpr ⟨fun cpu member => ?_, increasing⟩, ?_⟩
            · have between := bounds cpu member
              omega
            · intro cpu member
              rcases List.mem_cons.mp member with rfl | member
              · omega
              · have between := bounds cpu member
                omega
          · contradiction

/-- Every accepted mask is increasing and within the limit. -/
theorem readMasks_increasing {values : List Text} {masks : List (List Nat)}
    (read : readMasks values = .ok masks) :
    ∀ cpus ∈ masks, cpus.Pairwise (· < ·) ∧ ∀ cpu ∈ cpus, cpu < cpuSetsize := by
  induction values generalizing masks with
  | nil =>
      injection read with none
      subst none
      simp
  | cons value values induction =>
      rw [readMasks] at read
      split at read
      · contradiction
      next short =>
        split at read
        · contradiction
        next first decoded =>
          cases later : readMasks values with
          | error error => simp [later, Except.map] at read
          | ok others =>
              simp only [later, Except.map, Except.ok.injEq] at read
              subst read
              intro cpus member
              rcases List.mem_cons.mp member with rfl | member
              · obtain ⟨increasing, bounds⟩ := scanMask_increasing decoded
                refine ⟨increasing, fun cpu inside => ?_⟩
                have upper := (bounds cpu inside).2
                rw [List.length_reverse] at upper
                omega
              · exact induction later cpus member

/-- Workers of a given number in a round of `k` are spread evenly. -/
theorem count_mod_even {k r : Nat} (inside : r < k) (workers : Nat) :
    workers / k ≤ (List.range workers).countP (fun n => n % k = r) ∧
      (List.range workers).countP (fun n => n % k = r) ≤ workers / k + 1 := by
  have counted := Nat.count_modEq_card workers (Nat.zero_lt_of_lt inside) r
  have same : Nat.count (fun n => n ≡ r [MOD k]) workers =
      (List.range workers).countP (fun n => n % k = r) := by
    rw [Nat.count]
    apply List.countP_congr
    intro n _
    simp only [decide_eq_true_eq, Nat.ModEq, Nat.mod_eq_of_lt inside]
  rw [← same, counted]
  split <;> omega

/-- Workers that go round a list of processors are spread evenly over it. -/
theorem even_of_worker {cpus : List Nat} {affinity : Nat → Option (Option (List Nat))}
    (distinct : cpus.Nodup)
    (worker : ∀ n, affinity n = some (cpus[n % cpus.length]?.map ([·]))) (workers : Nat) {cpu : Nat}
    (member : cpu ∈ cpus) :
    let bound := (List.range workers).countP fun n => affinity n = some (some [cpu])
    workers / cpus.length ≤ bound ∧ bound ≤ workers / cpus.length + 1 := by
  obtain ⟨r, inside, rfl⟩ := List.mem_iff_getElem.mp member
  have same : (fun n => decide (affinity n = some (some [cpus[r]]))) =
      fun n => decide (n % cpus.length = r) := by
    funext n
    rw [worker, List.getElem?_eq_getElem (Nat.mod_lt n (Nat.zero_lt_of_lt inside))]
    simp only [Option.map_some, Option.some.injEq, List.cons.injEq, and_true]
    exact decide_eq_decide.mpr (List.Nodup.getElem_inj_iff distinct)
  simp only [same]
  exact count_mod_even inside workers

end

/-- With `auto` the workers go round the processors of the last mask in increasing order; however
many workers there are, the numbers of workers on two processors differ by at most one.  The loop
ends for every worker, on an empty mask without a processor. -/
theorem workers_auto {ngxNcpu : Nat} {ccf ccf' : CoreModule} {value : List Text}
    (auto : value.getD 1 [] = "auto") (accepted : ccf.setCpuAffinity ngxNcpu value = .ok ccf') :
    ∃ cpus : List Nat, ccf'.cpuAffinity.bind List.getLast? = some cpus ∧
      cpus.Pairwise (· < ·) ∧
      (∀ n, ccf'.getCpuAffinity n = some (cpus[n % cpus.length]?.map ([·]))) ∧
      (cpus = [] → ∀ n, ccf'.getCpuAffinity n = some none) ∧
      ∀ workers, ∀ cpu ∈ cpus,
        let bound := (List.range workers).countP fun n => ccf'.getCpuAffinity n = some (some [cpu])
        workers / cpus.length ≤ bound ∧ bound ≤ workers / cpus.length + 1 := by
  rw [CoreModule.setCpuAffinity] at accepted
  split at accepted
  · contradiction
  · split at accepted
    · contradiction
    · cases read : readMasks (value.drop 2) with
      | error error => simp [read, Except.map] at accepted
      | ok masks =>
          simp only [read, Except.map, Except.ok.injEq] at accepted
          subst accepted
          obtain ⟨cpus, last⟩ : ∃ cpus,
              (List.range (min ngxNcpu cpuSetsize) :: masks).getLast? = some cpus :=
            Option.isSome_iff_exists.mp (by simp)
          have bounded : cpus.Pairwise (· < ·) ∧ ∀ cpu ∈ cpus, cpu < cpuSetsize := by
            rcases List.mem_cons.mp (List.mem_of_getLast? last) with rfl | member
            · exact ⟨List.pairwise_lt_range, fun cpu inside =>
                (List.mem_range.mp inside).trans_le (min_le_right _ _)⟩
            · exact readMasks_increasing read cpus member
          have worker : ∀ n, CoreModule.getCpuAffinity
              ⟨ccf.workerProcesses, some (List.range (min ngxNcpu cpuSetsize) :: masks), true⟩ n =
                some (cpus[n % cpus.length]?.map ([·])) := by
            intro n
            simp only [CoreModule.getCpuAffinity, last, Option.getD_some, if_true]
            cases cpus with
            | nil =>
                rw [autoLoop_nil (Nat.zero_le _) (by rw [Nat.mul_add]; omega)]
                simp
            | cons cpu cpus =>
                rw [autoLoop_eq bounded.1 bounded.2 (List.cons_ne_nil cpu cpus)]
                rfl
          exact ⟨cpus, by rw [Option.bind_some, last], bounded.1, worker,
            fun none n => by rw [worker, none]; rfl,
            fun workers cpu member => even_of_worker (bounded.1.imp Nat.ne_of_lt) worker workers
              member⟩

/-- On eight processors, with a mask of two. -/
theorem workers_auto_mask :
    ∃ cpus : List Nat, (some [List.range 8, [1, 3]]).bind List.getLast? = some cpus ∧
      cpus.Pairwise (· < ·) ∧
      (∀ n, CoreModule.getCpuAffinity ⟨none, some [List.range 8, [1, 3]], true⟩ n =
        some (cpus[n % cpus.length]?.map ([·]))) ∧
      (cpus = [] → ∀ n,
        CoreModule.getCpuAffinity ⟨none, some [List.range 8, [1, 3]], true⟩ n = some none) ∧
      ∀ workers, ∀ cpu ∈ cpus,
        let bound := (List.range workers).countP fun n =>
          CoreModule.getCpuAffinity ⟨none, some [List.range 8, [1, 3]], true⟩ n =
            some (some [cpu])
        workers / cpus.length ≤ bound ∧ bound ≤ workers / cpus.length + 1 := by
  have accepted : CoreModule.setCpuAffinity 8 .createConf
      ["worker_cpu_affinity", "auto", "1010"] =
        .ok ⟨none, some [List.range 8, [1, 3]], true⟩ := by decide
  exact workers_auto rfl accepted

end Nginx.ConfFile
