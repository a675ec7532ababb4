import Mathlib.Data.List.Count
import Mathlib.Data.List.Induction
import Mathlib.Data.List.Nodup

/-!
# Dealing in turn

A loop deals items to targets and begins again behind the last target.  After every step the targets
before the next one have one item more than the others.
-/

namespace Shell

section

variable {X Y : Type} (targets : List Y) (absent : Y)

/-- What has been dealt, and the position of the next target. -/
structure Deal (X Y : Type) where
  /-- The next target. -/
  next : Nat
  /-- Items with their targets. -/
  given : List (X × Y)

/-- Nothing has been dealt. -/
def Deal.start : Deal X Y := ⟨0, []⟩

/-- Deal an item; a position without a target gives the item to the absent one. -/
def Deal.step (state : Deal X Y) (entry : X) : Deal X Y :=
  let next := state.next + 1
  { next := if next = targets.length then 0 else next
    given := state.given ++ [(entry, targets.getD state.next absent)] }

variable [DecidableEq Y]

/-- The number of items of a target. -/
def load (given : List (X × Y)) (target : Y) : Nat := (given.map Prod.snd).count target

/-- The targets before the next one are one item ahead. -/
structure Deal.Even (state : Deal X Y) : Prop where
  /-- The next target exists. -/
  inside : state.next < targets.length
  /-- Items go to targets. -/
  targeted : ∀ pair ∈ state.given, pair.2 ∈ targets
  /-- The number of items of a target. -/
  loads : ∃ rounds, ∀ (position : Nat) (below : position < targets.length),
    load state.given targets[position] = rounds + if position < state.next then 1 else 0

end

end Shell
