import Mathlib.Logic.Function.Iterate

/-!
# Machines that are prepared by runs and reboots

A program edits what a machine boots from, and asks for a reboot while it finds something that it
had to edit or that only a boot can change, unless it fails on the way.  A run ends; whoever started
it reboots the machine, or does not.  This file has the histories of such a machine, with and
without obedience to the requests, and the rules that carry facts about one run to whole histories.
-/

namespace Provision

/-- What a machine boots from, and what runs on it now. -/
@[ext]
structure Machine (Disk Running : Type) where
  disk : Disk
  running : Running

/-- How a run ends. -/
inductive Answer where
  /-- Everything is in place. -/
  | content
  /-- A reboot is needed. -/
  | asks
  /-- Something failed, and the rest of the run was left out. -/
  | fails
  deriving DecidableEq

/-- The runs of the program towards a goal, each with its answer, and the boots. -/
structure Scheme (Goal Disk Running : Type) where
  /-- The machine after a run and how the run ends. -/
  run : Goal → Machine Disk Running → Machine Disk Running × Answer
  /-- What may run after booting from a disk. -/
  Boots : Disk → Running → Prop

variable {Goal Disk Running : Type} {scheme : Scheme Goal Disk Running} {Allowed : Goal → Prop}
  {machine first last : Machine Disk Running} {answer : Answer} {goal : Goal} {disk : Disk}
  {running : Running}

/-- Runs and reboots in any order. -/
inductive Reached (scheme : Scheme Goal Disk Running) (Allowed : Goal → Prop)
    (first : Machine Disk Running) : Machine Disk Running → Prop
  | start : Reached scheme Allowed first first
  | run {last : Machine Disk Running} {goal : Goal} (early : Reached scheme Allowed first last)
      (allowed : Allowed goal) : Reached scheme Allowed first (scheme.run goal last).1
  | reboot {last : Machine Disk Running} {running : Running}
      (early : Reached scheme Allowed first last) (boots : scheme.Boots last.disk running) :
      Reached scheme Allowed first ⟨last.disk, running⟩

/-- Histories from a boot on in which every request is followed by a reboot, and what was answered
last. -/
inductive Obeyed (scheme : Scheme Goal Disk Running) (Allowed : Goal → Prop) (disk : Disk) :
    Machine Disk Running → Answer → Prop
  | boot {running : Running} (boots : scheme.Boots disk running) :
      Obeyed scheme Allowed disk ⟨disk, running⟩ .content
  | run {machine : Machine Disk Running} {answer : Answer} {goal : Goal}
      (early : Obeyed scheme Allowed disk machine answer) (free : answer ≠ .asks)
      (allowed : Allowed goal) :
      Obeyed scheme Allowed disk (scheme.run goal machine).1 (scheme.run goal machine).2
  | reboot {machine : Machine Disk Running} {answer : Answer} {running : Running}
      (early : Obeyed scheme Allowed disk machine answer)
      (boots : scheme.Boots machine.disk running) :
      Obeyed scheme Allowed disk ⟨machine.disk, running⟩ .content

/-- What every run and every boot keeps holds after every history. -/
theorem Reached.invariant {Holds : Machine Disk Running → Prop}
    (kept : ∀ {goal machine}, Allowed goal → Holds machine → Holds (scheme.run goal machine).1)
    (boots : ∀ {machine running}, scheme.Boots machine.disk running → Holds machine →
      Holds ⟨machine.disk, running⟩)
    (reached : Reached scheme Allowed first last) (holds : Holds first) : Holds last := by
  induction reached with
  | start => exact holds
  | run _ allowed induction => exact kept allowed induction
  | reboot _ booted induction => exact boots booted induction

/-- What every run keeps of the disk holds while the requests are obeyed. -/
theorem Obeyed.invariant {Holds : Disk → Prop}
    (kept : ∀ {goal machine}, Allowed goal → Holds machine.disk →
      Holds (scheme.run goal machine).1.disk)
    (obeyed : Obeyed scheme Allowed disk machine answer) (holds : Holds disk) :
    Holds machine.disk := by
  induction obeyed with
  | boot => exact holds
  | run _ _ allowed induction => exact kept allowed induction
  | reboot _ _ induction => exact induction

/-- If a content run leaves the machine alone, and a failing one leaves it stuck, so that no run is
content before a reboot, then the machine runs what it would boot or is stuck whenever no request is
pending. -/
theorem Obeyed.booted {Holds : Disk → Prop} {Stuck : Machine Disk Running → Prop}
    (kept : ∀ {goal machine}, Allowed goal → Holds machine.disk →
      Holds (scheme.run goal machine).1.disk)
    (content : ∀ {goal machine}, Allowed goal → Holds machine.disk →
      (scheme.run goal machine).2 = .content →
        (scheme.run goal machine).1 = machine ∧ ¬ Stuck machine)
    (fails : ∀ {goal machine}, Allowed goal → Holds machine.disk →
      (scheme.run goal machine).2 = .fails → Stuck (scheme.run goal machine).1)
    (obeyed : Obeyed scheme Allowed disk machine answer) (holds : Holds disk)
    (free : answer ≠ .asks) : scheme.Boots machine.disk machine.running ∨ Stuck machine := by
  induction obeyed with
  | boot boots => exact Or.inl boots
  | @run machine answer goal early freeBefore allowed induction =>
      have files := early.invariant kept holds
      cases ended : (scheme.run goal machine).2 with
      | content =>
          obtain ⟨same, notStuck⟩ := content allowed files ended
          rw [same]
          exact Or.inl ((induction freeBefore).resolve_right notStuck)
      | asks => exact absurd ended free
      | fails => exact Or.inr (fails allowed files ended)
  | reboot _ boots => exact Or.inl boots

/-- The machine has booted from the disk and has not changed it. -/
def Booted (scheme : Scheme Goal Disk Running) (disk : Disk) (machine : Machine Disk Running) :
    Prop :=
  machine.disk = disk ∧ scheme.Boots disk machine.running

/-- On a machine that has booted from the disk a run is content and changes nothing. -/
def Settled (scheme : Scheme Goal Disk Running) (goal : Goal) (disk : Disk) : Prop :=
  ∀ machine, Booted scheme disk machine → scheme.run goal machine = (machine, .content)

/-- A settled machine stays as it is over further runs towards the goal and reboots. -/
theorem Settled.reached (settled : Settled scheme goal disk) (booted : Booted scheme disk first)
    (reached : Reached scheme (· = goal) first last) :
    last.disk = disk ∧ scheme.run goal last = (last, .content) := by
  have stays : Booted scheme disk last := by
    apply reached.invariant _ _ booted
    · rintro _ machine rfl here
      rwa [settled machine here]
    · rintro machine running boots ⟨same, -⟩
      exact ⟨same, same ▸ boots⟩
  exact ⟨stays.1, settled last stays⟩

/-- The machine after some runs towards one goal without a reboot. -/
def Scheme.repeated (scheme : Scheme Goal Disk Running) (goal : Goal) (count : Nat)
    (machine : Machine Disk Running) : Machine Disk Running :=
  (fun before => (scheme.run goal before).1)^[count] machine

theorem Scheme.repeated_add (scheme : Scheme Goal Disk Running) (goal : Goal) (early late : Nat)
    (machine : Machine Disk Running) :
    scheme.repeated goal (early + late) machine =
      scheme.repeated goal late (scheme.repeated goal early machine) := by
  rw [repeated, Nat.add_comm, Function.iterate_add_apply]
  rfl

/-- What every run keeps holds after any number of them. -/
theorem Scheme.repeated_invariant {Holds : Machine Disk Running → Prop}
    (kept : ∀ {machine}, Holds machine → Holds (scheme.run goal machine).1) (holds : Holds machine)
    (count : Nat) : Holds (scheme.repeated goal count machine) := by
  induction count with
  | zero => exact holds
  | succ count induction =>
      rw [repeated, Function.iterate_succ_apply']
      exact kept induction

end Provision
