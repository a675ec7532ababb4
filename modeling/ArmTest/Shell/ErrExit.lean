import Mathlib.Data.List.Basic

/-!
# Scripts that stop at the first error

Under `set -e` a script is a list of commands that ends early when one of them fails.  A triple
states what holds after all commands and what holds whenever the script is stopped on the way.
-/

namespace Shell

section

variable {C S : Type} (perform fail : C → S → S)

/-- The state after all commands. -/
def finish : List C → S → S
  | [], state => state
  | command :: commands, state => finish commands (perform command state)

/-- The state at the end of a script whose command number `stop`, counted from zero, fails.  A
number behind the last command stands for a script that succeeds. -/
def execute : List C → Nat → S → S
  | [], _, state => state
  | command :: _, 0, state => fail command state
  | command :: commands, stop + 1, state => execute commands stop (perform command state)

theorem finish_append (front back : List C) (state : S) :
    finish perform (front ++ back) state = finish perform back (finish perform front state) := by
  induction front generalizing state with
  | nil => rfl
  | cons command front induction => exact induction (perform command state)

theorem execute_of_length_le {commands : List C} {stop : Nat} (all : commands.length ≤ stop)
    (state : S) : execute perform fail commands stop state = finish perform commands state := by
  induction commands generalizing stop state with
  | nil => rfl
  | cons command commands induction =>
      cases stop with
      | zero => simp at all
      | succ stop => exact induction (by simpa using all) (perform command state)

theorem execute_append_left {front : List C} (back : List C) {stop : Nat}
    (early : stop < front.length) (state : S) :
    execute perform fail (front ++ back) stop state = execute perform fail front stop state := by
  induction front generalizing stop state with
  | nil => simp at early
  | cons command front induction =>
      cases stop with
      | zero => rfl
      | succ stop => exact induction (by simpa using early) (perform command state)

theorem execute_append_right (front back : List C) (stop : Nat) (state : S) :
    execute perform fail (front ++ back) (front.length + stop) state =
      execute perform fail back stop (finish perform front state) := by
  induction front generalizing state with
  | nil => simp [finish]
  | cons command front induction =>
      rw [List.length_cons, Nat.add_right_comm]
      exact induction (perform command state)

/-- A number of a command lies behind all bodies of a loop or inside one of them. -/
theorem stop_flatMap {X : Type} (body : X → List C) (items : List X) (stop : Nat) :
    (items.flatMap body).length ≤ stop ∨ ∃ done item rest within, items = done ++ item :: rest ∧
      within < (body item).length ∧ stop = (done.flatMap body).length + within := by
  induction items generalizing stop with
  | nil => exact Or.inl (Nat.zero_le stop)
  | cons item items induction =>
      by_cases early : stop < (body item).length
      · exact Or.inr ⟨[], item, items, stop, rfl, early, (Nat.zero_add stop).symm⟩
      · obtain ⟨later, rfl⟩ := Nat.exists_eq_add_of_le (Nat.le_of_not_lt early)
        rw [List.flatMap_cons, List.length_append]
        rcases induction later with all | ⟨done, found, rest, within, rfl, inside, rfl⟩
        · exact Or.inl (Nat.add_le_add_left all _)
        · refine Or.inr ⟨item :: done, found, rest, within, rfl, inside, ?_⟩
          rw [List.flatMap_cons, List.length_append, Nat.add_assoc]

/-- A loop that is stopped inside one of its bodies. -/
theorem execute_flatMap {X : Type} {body : X → List C} (done : List X) {item : X} (rest : List X)
    {within : Nat} (early : within < (body item).length) (state : S) :
    execute perform fail ((done ++ item :: rest).flatMap body)
        ((done.flatMap body).length + within) state =
      execute perform fail (body item) within (finish perform (done.flatMap body) state) := by
  rw [List.flatMap_append, execute_append_right, List.flatMap_cons,
    execute_append_left perform fail _ early]

/-- A log that every command extends by what is observed of it. -/
theorem finish_log {X : Type} (log : S → List X) {observe : C → Option X}
    (extended : ∀ command state,
      log (perform command state) = log state ++ (observe command).toList)
    (commands : List C) (state : S) :
    log (finish perform commands state) = log state ++ commands.filterMap observe := by
  induction commands generalizing state with
  | nil => rw [finish, List.filterMap_nil, List.append_nil]
  | cons command commands induction =>
      rw [finish, induction, extended, List.append_assoc]
      cases seen : observe command with
      | none => rw [List.filterMap_cons_none seen, Option.toList_none, List.nil_append]
      | some entry => rw [List.filterMap_cons_some seen, Option.toList_some, List.singleton_append]

/-- A loop with a condition on the items that are done. -/
theorem finish_flatMap {X : Type} {body : X → List C} {I : List X → S → Prop}
    (step : ∀ done item state, I done state →
      I (done ++ [item]) (finish perform (body item) state))
    (items done : List X) {state : S} (holds : I done state) :
    I (done ++ items) (finish perform (items.flatMap body) state) := by
  induction items generalizing done state with
  | nil =>
      rw [List.append_nil]
      exact holds
  | cons item items induction =>
      rw [List.flatMap_cons, finish_append, ← List.singleton_append, ← List.append_assoc]
      exact induction (done ++ [item]) (step done item state holds)

/-- From `P` the commands reach `Q`, and `I` holds wherever they are stopped. -/
structure Triple (P : S → Prop) (commands : List C) (Q I : S → Prop) : Prop where
  /-- After all commands. -/
  finishes : ∀ state, P state → Q (finish perform commands state)
  /-- After a command that failed. -/
  stops : ∀ state, P state → ∀ stop < commands.length,
    I (execute perform fail commands stop state)

end

section

variable {C S : Type} (step : C → S → S × Bool)

/-- Run commands whose success depends on the state.  The flag says whether all have succeeded. -/
def attempt : List C → S → S × Bool
  | [], state => (state, true)
  | command :: commands, state =>
      if (step command state).2 then attempt commands (step command state).1
      else ((step command state).1, false)

theorem attempt_cons_succeeds {command : C} {state : S} (succeeds : (step command state).2 = true)
    (commands : List C) :
    attempt step (command :: commands) state = attempt step commands (step command state).1 := by
  rw [attempt, if_pos succeeds]

theorem attempt_cons_fails {command : C} {state : S} (fails : (step command state).2 = false)
    (commands : List C) :
    attempt step (command :: commands) state = ((step command state).1, false) := by
  rw [attempt, fails]
  rfl

theorem attempt_cons_succeeds_iff {command : C} {commands : List C} {state : S} :
    (attempt step (command :: commands) state).2 = true ↔
      (step command state).2 = true ∧
        (attempt step commands (step command state).1).2 = true := by
  rw [attempt]
  split
  · next succeeds => simp [succeeds]
  · next fails => simp [fails]

/-- If no command fails, all of them are executed. -/
theorem attempt_eq_finish {commands : List C} {state : S}
    (succeeds : (attempt step commands state).2 = true) :
    (attempt step commands state).1 =
      finish (fun command before => (step command before).1) commands state := by
  induction commands generalizing state with
  | nil => rfl
  | cons command commands induction =>
      obtain ⟨first, rest⟩ := (attempt_cons_succeeds_iff step).mp succeeds
      rw [attempt_cons_succeeds step first, induction rest]
      rfl

/-- What every command keeps is kept until the script ends or fails. -/
theorem attempt_keeps {I : S → Prop} (commands : List C)
    (keeps : ∀ command ∈ commands, ∀ state, I state → I (step command state).1) {state : S}
    (holds : I state) : I (attempt step commands state).1 := by
  induction commands generalizing state with
  | nil => exact holds
  | cons command commands induction =>
      have next := keeps command List.mem_cons_self state holds
      rw [attempt]
      split
      · exact induction (fun other member => keeps other (List.mem_cons_of_mem command member)) next
      · exact next

end

section

variable {C S : Type} {perform fail : C → S → S} {P Q R I : S → Prop}

theorem Triple.nil : Triple perform fail P [] P I :=
  ⟨fun _ holds => holds, fun _ _ _ impossible => absurd impossible (Nat.not_lt_zero _)⟩

theorem Triple.single {command : C} (succeeds : ∀ state, P state → Q (perform command state))
    (fails : ∀ state, P state → I (fail command state)) :
    Triple perform fail P [command] Q I := by
  refine ⟨succeeds, fun state holds stop early => ?_⟩
  rw [List.length_singleton, Nat.lt_one_iff] at early
  subst early
  exact fails state holds

theorem Triple.append {front back : List C} (first : Triple perform fail P front Q I)
    (second : Triple perform fail Q back R I) : Triple perform fail P (front ++ back) R I := by
  refine ⟨fun state holds => ?_, fun state holds stop early => ?_⟩
  · rw [finish_append]
    exact second.finishes _ (first.finishes state holds)
  · by_cases inFront : stop < front.length
    · rw [execute_append_left perform fail back inFront]
      exact first.stops state holds stop inFront
    · obtain ⟨later, rfl⟩ := Nat.exists_eq_add_of_le (Nat.le_of_not_lt inFront)
      rw [execute_append_right]
      refine second.stops _ (first.finishes state holds) later ?_
      rw [List.length_append] at early
      omega

theorem Triple.cons {command : C} {commands : List C}
    (first : Triple perform fail P [command] Q I)
    (rest : Triple perform fail Q commands R I) :
    Triple perform fail P (command :: commands) R I :=
  first.append rest

/-- A loop whose body keeps its condition. -/
theorem Triple.flatMap {X : Type} {body : X → List C} (items : List X)
    (each : ∀ item ∈ items, Triple perform fail P (body item) P I) :
    Triple perform fail P (items.flatMap body) P I := by
  induction items with
  | nil => exact .nil
  | cons item items induction =>
      exact (each item List.mem_cons_self).append
        (induction fun other member => each other (List.mem_cons_of_mem item member))

end

end Shell
