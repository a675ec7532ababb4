import Mathlib.Algebra.Order.BigOperators.Group.List
import Mathlib.Algebra.Order.Ring.Int
import Mathlib.Algebra.Order.Ring.Nat
import Mathlib.Data.List.Induction
import Mathlib.Logic.OpClass

/-!
# Threads over a shared memory

Several threads run the same program on their own variables and one shared memory.  A step is one
atomic access of one thread, which may be any of them.  The rules of this file carry what one step
keeps, or makes smaller, to every interleaving.
-/

namespace Concurrency

variable {S L : Type}

/-- The shared memory and the variables of every thread. -/
structure Config (S L : Type) where
  shared : S
  locals : List L

/-- One atomic access of one thread. -/
inductive Step (next : L → S → L → S → Prop) : Config S L → Config S L → Prop
  | thread {before after : L} {memory memory' : S} (front back : List L)
      (access : next before memory after memory') :
      Step next ⟨memory, front ++ before :: back⟩ ⟨memory', front ++ after :: back⟩

/-- An interleaving of a given length. -/
inductive Steps (next : L → S → L → S → Prop) : Nat → Config S L → Config S L → Prop
  | none (config : Config S L) : Steps next 0 config config
  | step {count : Nat} {first middle last : Config S L} (steps : Steps next count first middle)
      (step : Step next middle last) : Steps next (count + 1) first last

/-- No thread has a next access. -/
def Config.Ended (next : L → S → L → S → Prop) (config : Config S L) : Prop :=
  ∀ l ∈ config.locals, ∀ l' s', ¬ next l config.shared l' s'

section

variable {next : L → S → L → S → Prop} {count : Nat} {first last : Config S L}

/-- What every step keeps holds in every interleaving. -/
theorem Steps.invariant {Inv : Config S L → Prop}
    (kept : ∀ {before after}, Step next before after → Inv before → Inv after)
    (steps : Steps next count first last) (holds : Inv first) : Inv last := by
  induction steps with
  | none => exact holds
  | step _ step induction => exact kept step (induction holds)

/-- A quantity that no step changes, as long as an invariant holds, is the same in every
interleaving. -/
theorem Steps.conserved {X : Type} {Inv : Config S L → Prop} {quantity : Config S L → X}
    (kept : ∀ {before after}, Step next before after → Inv before → Inv after)
    (same : ∀ {before after}, Step next before after → Inv before →
      quantity after = quantity before)
    (steps : Steps next count first last) (holds : Inv first) : quantity last = quantity first := by
  induction steps with
  | none => rfl
  | step early step induction =>
      exact (same step (early.invariant kept holds)).trans (induction holds)

/-- A measure that every step makes smaller bounds the length of every interleaving. -/
theorem Steps.length_le {Inv : Config S L → Prop} {measure : Config S L → Nat}
    (kept : ∀ {before after}, Step next before after → Inv before → Inv after)
    (smaller : ∀ {before after}, Step next before after → Inv before →
      measure after < measure before)
    (steps : Steps next count first last) (holds : Inv first) :
    count + measure last ≤ measure first := by
  induction steps with
  | none => omega
  | step early step induction =>
      have before := induction holds
      have decreased := smaller step (early.invariant kept holds)
      omega

end

/-! ## Threads that run a program -/

/-- The accesses of a program. -/
def Moves (next : L → S → Option (L × S)) (l : L) (s : S) (l' : L) (s' : S) : Prop :=
  next l s = some (l', s')

section

variable {next : L → S → Option (L × S)} {first last : Config S L}

/-- The access of the thread at a position. -/
def Config.act (next : L → S → Option (L × S)) (config : Config S L) (i : Nat) :
    Option (Config S L) :=
  match config.locals[i]? with
  | none => none
  | some l => (next l config.shared).map fun access => ⟨access.2, config.locals.set i access.1⟩

theorem step_of_act {config after : Config S L} {i : Nat} (acted : config.act next i = some after) :
    Step (Moves next) config after := by
  rw [Config.act] at acted
  split at acted
  · contradiction
  next l found =>
    obtain ⟨access, taken, rfl⟩ := Option.map_eq_some_iff.mp acted
    obtain ⟨memory, locals⟩ := config
    obtain ⟨inside, rfl⟩ := List.getElem?_eq_some_iff.mp found
    have around : locals = locals.take i ++ locals[i] :: locals.drop (i + 1) := by simp
    have replaced : locals.set i access.1 =
        locals.take i ++ access.1 :: locals.drop (i + 1) := List.set_eq_take_cons_drop _ inside
    have moved : Moves next locals[i] memory access.1 access.2 := taken
    have step := Step.thread (locals.take i) (locals.drop (i + 1)) moved
    rw [← around, ← replaced] at step
    exact step

/-- A schedule names the thread of each step. -/
theorem steps_of_schedule {schedule : List Nat}
    (ran : schedule.foldlM (Config.act next) first = some last) :
    Steps (Moves next) schedule.length first last := by
  induction schedule using List.reverseRecOn generalizing last with
  | nil =>
      cases ran
      exact .none first
  | append_singleton schedule i induction =>
      rw [List.foldlM_append] at ran
      obtain ⟨middle, before, acted⟩ := Option.bind_eq_some_iff.mp ran
      rw [List.length_append]
      exact .step (induction before) (step_of_act (by simpa using acted))

end

/-! ## Conditions on single threads -/

/-- A condition on the memory and on each thread with the memory. -/
def Config.Each (Shared : S → Prop) (Local : S → L → Prop) (config : Config S L) : Prop :=
  Shared config.shared ∧ ∀ l ∈ config.locals, Local config.shared l

section

variable {next : L → S → L → S → Prop} {Shared : S → Prop} {Local : S → L → Prop}
variable {before after : Config S L}

/-- A thread keeps its own condition and, whatever it does to the memory, those of the others. -/
theorem Step.each (step : Step next before after)
    (own : ∀ {l s l' s'}, next l s l' s' → Shared s → Local s l → Shared s' ∧ Local s' l')
    (others : ∀ {l s l' s'}, next l s l' s' → Shared s → Local s l →
      ∀ k, Local s k → Local s' k)
    (holds : before.Each Shared Local) :
    after.Each Shared Local := by
  obtain ⟨front, back, access⟩ := step
  obtain ⟨memory, locals⟩ := holds
  have acting := locals _ (List.mem_append_right front List.mem_cons_self)
  obtain ⟨memory', acted⟩ := own access memory acting
  refine ⟨memory', fun k member => ?_⟩
  rcases List.mem_append.mp member with inFront | behind
  · exact others access memory acting k (locals k (List.mem_append_left _ inFront))
  · rcases List.mem_cons.mp behind with rfl | inBack
    · exact acted
    · exact others access memory acting k
        (locals k (List.mem_append_right _ (List.mem_cons_of_mem _ inBack)))

/-- Threads neither appear nor disappear. -/
theorem Step.length_eq (step : Step next before after) :
    after.locals.length = before.locals.length := by
  obtain ⟨front, back, -⟩ := step
  simp

/-- What every thread keeps of its own is kept position by position. -/
theorem Step.map_eq {X : Type} {f : L → X} (step : Step next before after)
    (same : ∀ {l s l' s'}, next l s l' s' → Shared s → f l' = f l)
    (holds : before.Each Shared Local) :
    after.locals.map f = before.locals.map f := by
  obtain ⟨front, back, access⟩ := step
  simp [same access holds.1]

end

/-! ## Contributions -/

/-- What the memory and all threads contribute together. -/
def Config.total {M : Type} (op : M → M → M) (memory : S → M) (pending : L → M)
    (config : Config S L) : M :=
  (config.locals.map pending).foldr op (memory config.shared)

section

variable {M : Type} {op : M → M → M} [LeftCommutative op]

theorem foldr_op (x a : M) (entries : List M) :
    entries.foldr op (op x a) = op x (entries.foldr op a) := by
  induction entries with
  | nil => rfl
  | cons y entries induction =>
      rw [List.foldr_cons, List.foldr_cons, induction]
      exact LeftCommutative.left_comm y x _

/-- One thread and the memory, and the contributions of the others. -/
theorem Config.total_eq (memory : S → M) (pending : L → M) (s : S) (front back : List L) (l : L) :
    Config.total op memory pending ⟨s, front ++ l :: back⟩ =
      ((front ++ back).map pending).foldr op (op (pending l) (memory s)) := by
  simp only [Config.total, List.map_append, List.map_cons, List.foldr_append, List.foldr_cons,
    foldr_op]

/-- A total does not change when each thread moves its contribution to the memory. -/
theorem Step.total_eq {next : L → S → L → S → Prop} {Shared : S → Prop} {Local : S → L → Prop}
    {memory : S → M} {pending : L → M} {before after : Config S L}
    (step : Step next before after)
    (same : ∀ {l s l' s'}, next l s l' s' → Shared s → Local s l →
      op (pending l') (memory s') = op (pending l) (memory s))
    (holds : before.Each Shared Local) :
    after.total op memory pending = before.total op memory pending := by
  obtain ⟨front, back, access⟩ := step
  have acting := holds.2 _ (List.mem_append_right front List.mem_cons_self)
  rw [Config.total_eq, Config.total_eq, same access holds.1 acting]

end

/-! ## Costs -/

/-- The costs of all threads; a unit of weight pays for one unit of cost of every thread. -/
def Config.measure (weight cost : S → L → Nat) (config : Config S L) : Nat :=
  (config.locals.length + 1) * (config.locals.map (weight config.shared)).sum +
    (config.locals.map (cost config.shared)).sum

theorem sum_map_le_add {f g : L → Nat} (each : ∀ k, f k ≤ g k + 1) (locals : List L) :
    (locals.map f).sum ≤ (locals.map g).sum + locals.length :=
  calc
    (locals.map f).sum ≤ (locals.map fun k => g k + 1).sum :=
      List.sum_le_sum fun k _ => each k
    _ = (locals.map g).sum + locals.length := by simp [List.sum_map_add]

/-- Weights never grow.  If a thread either lowers its own cost and changes no other, or gives up
weight while no cost grows by more than one, then every step makes the measure smaller. -/
theorem Step.measure_lt {next : L → S → L → S → Prop} {Shared : S → Prop}
    {Local : S → L → Prop} {weight cost : S → L → Nat} {before after : Config S L}
    (step : Step next before after)
    (works : ∀ {l s l' s'}, next l s l' s' → Shared s → Local s l →
      (∀ k, weight s' k ≤ weight s k) ∧
      ((weight s' l' ≤ weight s l ∧ cost s' l' < cost s l ∧ ∀ k, cost s' k = cost s k) ∨
        (weight s' l' < weight s l ∧ cost s' l' ≤ cost s l + 1 ∧
          ∀ k, cost s' k ≤ cost s k + 1)))
    (holds : before.Each Shared Local) :
    after.measure weight cost < before.measure weight cost := by
  obtain ⟨front, back, access⟩ := step
  have acting := holds.2 _ (List.mem_append_right front List.mem_cons_self)
  obtain ⟨weights, moved⟩ := works access holds.1 acting
  have front_weights := List.sum_le_sum (l := front) fun k _ => weights k
  have back_weights := List.sum_le_sum (l := back) fun k _ => weights k
  simp only [Config.measure, List.map_append, List.map_cons, List.sum_append, List.sum_cons,
    List.length_append, List.length_cons]
  rcases moved with ⟨lighter, less, same⟩ | ⟨lighter, own, others⟩
  · rw [List.map_congr_left fun k _ => same k, List.map_congr_left fun k _ => same k]
    refine Nat.add_lt_add_of_le_of_lt (Nat.mul_le_mul_left _ ?_) ?_ <;> omega
  · have front_costs := sum_map_le_add others front
    have back_costs := sum_map_le_add others back
    have total := Nat.add_lt_add_of_le_of_lt front_weights
      (Nat.add_lt_add_of_lt_of_le lighter back_weights)
    have paid := Nat.mul_le_mul_left (front.length + (back.length + 1) + 1)
      (Nat.succ_le_of_lt total)
    rw [Nat.mul_succ] at paid
    omega

/-! ## Balances -/

/-- The balance of the memory and all threads. -/
def Config.balance (memory : S → Int) (own : S → L → Int) (config : Config S L) : Int :=
  memory config.shared + (config.locals.map (own config.shared)).sum

/-- If a thread does not lower the balance of the memory and its own, and takes nothing from the
balances of the others, no interleaving lowers the balance. -/
theorem Steps.balance_le {next : L → S → L → S → Prop} {Shared : S → Prop} {Local : S → L → Prop}
    (memory : S → Int) (own : S → L → Int) {count : Nat} {first last : Config S L}
    (kept : ∀ {before after}, Step next before after → before.Each Shared Local →
      after.Each Shared Local)
    (works : ∀ {l s l' s'}, next l s l' s' → Shared s → Local s l →
      memory s + own s l ≤ memory s' + own s' l' ∧ ∀ k, own s k ≤ own s' k)
    (steps : Steps next count first last) (holds : first.Each Shared Local) :
    first.balance memory own ≤ last.balance memory own := by
  induction steps with
  | none => exact le_rfl
  | step early step induction =>
      refine (induction holds).trans ?_
      have middle := early.invariant kept holds
      obtain ⟨front, back, access⟩ := step
      have acting := middle.2 _ (List.mem_append_right front List.mem_cons_self)
      obtain ⟨acted, others⟩ := works access middle.1 acting
      have inFront := List.sum_le_sum (l := front) fun k _ => others k
      have inBack := List.sum_le_sum (l := back) fun k _ => others k
      simp only [Config.balance, List.map_append, List.map_cons, List.sum_append, List.sum_cons]
      omega

end Concurrency
