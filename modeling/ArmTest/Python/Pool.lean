import Mathlib.Data.List.Basic
import Mathlib.Data.List.Infix

/-!
# Processes that are started and joined

A program starts processes and waits for them.  A wave starts some jobs, waits for all of them and
then writes records.  Between waves nothing runs, so what runs at the same time belongs to one wave.
-/

namespace Python

section

variable {J X G : Type}

/-- Starting a process, waiting for its end, and writing a record. -/
inductive Event (J X : Type) where
  | start (job : J)
  | join (job : J)
  | write (record : X)
  deriving DecidableEq

/-- The processes that a trace starts. -/
def started (events : List (Event J X)) : List J :=
  events.filterMap fun
    | .start job => some job
    | _ => none

/-- The records that a trace writes. -/
def written (events : List (Event J X)) : List X :=
  events.filterMap fun
    | .write record => some record
    | _ => none

/-- Start all jobs and wait for all of them. -/
def wave (jobs : List J) (records : List X) : List (Event J X) :=
  jobs.map .start ++ (jobs.map .join ++ records.map .write)

theorem started_append (front back : List (Event J X)) :
    started (front ++ back) = started front ++ started back :=
  List.filterMap_append

theorem started_starts (jobs : List J) : started (jobs.map (Event.start (X := X))) = jobs := by
  induction jobs with
  | nil => rfl
  | cons job jobs induction => exact congrArg (job :: ·) induction

theorem started_wave (jobs : List J) (records : List X) : started (wave jobs records) = jobs := by
  have joins : started (jobs.map (Event.join (X := X))) = [] := by
    rw [started, List.filterMap_map]
    exact List.filterMap_eq_nil_iff.mpr fun _ _ => rfl
  have writes : started (records.map (Event.write (J := J))) = [] := by
    rw [started, List.filterMap_map]
    exact List.filterMap_eq_nil_iff.mpr fun _ _ => rfl
  rw [wave, started_append, started_append, started_starts, joins, writes, List.append_nil,
    List.append_nil]

/-! ## Processes that are alive -/

variable [DecidableEq J]

/-- The processes that run after a trace. -/
def alive (running : List J) : List (Event J X) → List J
  | [] => running
  | .start job :: events => alive (running ++ [job]) events
  | .join job :: events => alive (running.erase job) events
  | .write _ :: events => alive running events

theorem alive_append (running : List J) (front back : List (Event J X)) :
    alive running (front ++ back) = alive (alive running front) back := by
  induction front generalizing running with
  | nil => rfl
  | cons event front induction =>
      cases event with
      | start job => exact induction (running ++ [job])
      | join job => exact induction (running.erase job)
      | write record => exact induction running

theorem alive_starts (running jobs : List J) :
    alive running (jobs.map (Event.start (X := X))) = running ++ jobs := by
  induction jobs generalizing running with
  | nil => exact (List.append_nil running).symm
  | cons job jobs induction =>
      rw [List.map_cons, alive, induction, List.append_assoc]
      rfl

/-- Jobs are joined in the order in which they were started. -/
theorem alive_joins (jobs later : List J) :
    alive (jobs ++ later) (jobs.map (Event.join (X := X))) = later := by
  induction jobs with
  | nil => rfl
  | cons job jobs induction =>
      rw [List.map_cons, alive, List.cons_append, List.erase_cons_head, induction]

theorem alive_writes (running : List J) (records : List X) :
    alive running (records.map (Event.write (J := J))) = running := by
  induction records with
  | nil => rfl
  | cons record records induction => exact induction

/-- After a wave nothing runs. -/
theorem alive_wave (jobs : List J) (records : List X) : alive [] (wave jobs records) = [] := by
  have ended : alive (jobs ++ []) (jobs.map (Event.join (X := X))) = [] := alive_joins jobs []
  rw [List.append_nil] at ended
  rw [wave, alive_append, alive_append, alive_starts, List.nil_append, ended, alive_writes]

/-- The beginning of a concatenation ends in its first part or behind it. -/
theorem prefix_append_split {front first second : List X} (start : front <+: first ++ second) :
    front <+: first ∨ ∃ rest, front = first ++ rest ∧ rest <+: second := by
  rcases List.prefix_or_prefix_of_prefix start (List.prefix_append first second) with early |
    ⟨rest, rfl⟩
  · exact Or.inl early
  · exact Or.inr ⟨rest, rfl, (List.prefix_append_right_inj first).mp start⟩

/-- During a wave some of its jobs run. -/
theorem alive_within_wave {jobs : List J} {records : List X} {front : List (Event J X)}
    (start : front <+: wave jobs records) : (alive [] front).Sublist jobs := by
  rcases prefix_append_split start with starting | ⟨rest, rfl, behind⟩
  · obtain ⟨part, begun, rfl⟩ := List.prefix_map_iff.mp starting
    rw [alive_starts, List.nil_append]
    exact begun.sublist
  · rw [alive_append, alive_starts, List.nil_append]
    rcases prefix_append_split behind with joining | ⟨last, rfl, writing⟩
    · obtain ⟨part, ⟨later, rfl⟩, rfl⟩ := List.prefix_map_iff.mp joining
      rw [alive_joins]
      exact List.sublist_append_right part later
    · obtain ⟨part, -, rfl⟩ := List.prefix_map_iff.mp writing
      have ended : alive (jobs ++ []) (jobs.map (Event.join (X := X))) = [] := alive_joins jobs []
      rw [List.append_nil] at ended
      rw [alive_append, ended, alive_writes]
      exact List.nil_sublist jobs

/-- What runs at the same time in a sequence of waves belongs to one of them. -/
theorem alive_within_waves {groups : List G} {jobs : G → List J} {records : G → List X}
    {front : List (Event J X)}
    (start : front <+: groups.flatMap fun group => wave (jobs group) (records group)) :
    alive [] front = [] ∨ ∃ group ∈ groups, (alive [] front).Sublist (jobs group) := by
  induction groups generalizing front with
  | nil =>
      rw [List.flatMap_nil, List.prefix_nil] at start
      subst start
      exact Or.inl rfl
  | cons group groups induction =>
      rw [List.flatMap_cons] at start
      rcases prefix_append_split start with inside | ⟨rest, rfl, later⟩
      · exact Or.inr ⟨group, List.mem_cons_self, alive_within_wave inside⟩
      · rw [alive_append, alive_wave]
        rcases induction later with nothing | ⟨other, member, part⟩
        · exact Or.inl nothing
        · exact Or.inr ⟨other, List.mem_cons_of_mem group member, part⟩

end

end Python
