import ArmTest.Shell.Text

/-!
# Variables with presets

Commands assign a variable, or preset it when it is empty.  The last assigned value wins over all
presets, and the first preset wins over the later ones.
-/

namespace Shell

/-- What a command does to a variable. -/
inductive Effect where
  | assign (value : Text)
  | preset (value : Text)
  | skip

namespace Effect

/-- The variable behind a command. -/
def run (current : Text) : Effect → Text
  | .assign value => value
  | .preset value => if current = [] then value else current
  | .skip => current

/-- The assigned value. -/
def assigned : Effect → Option Text
  | .assign value => some value
  | _ => none

/-- The preset value. -/
def presetValue : Effect → Option Text
  | .preset value => some value
  | _ => none

end Effect

/-- The last assigned value, or else the first preset one. -/
def chosen (effects : List Effect) : Option Text :=
  (effects.filterMap Effect.assigned).getLast?.or (effects.filterMap Effect.presetValue).head?

/-- Assigned and preset values are not empty. -/
def Effect.Nonempty : Effect → Prop
  | .assign value => value ≠ []
  | .preset value => value ≠ []
  | .skip => True

theorem chosen_ne_nil {effects : List Effect} (nonempty : ∀ effect ∈ effects, effect.Nonempty)
    {value : Text} (choice : chosen effects = some value) : value ≠ [] := by
  rcases Option.or_eq_some_iff.mp choice with last | ⟨-, first⟩
  · obtain ⟨effect, member, assigned⟩ := List.mem_filterMap.mp (List.mem_of_getLast? last)
    have fine := nonempty effect member
    cases effect with
    | assign text =>
        obtain rfl : text = value := Option.some.inj assigned
        exact fine
    | preset text => contradiction
    | skip => contradiction
  · obtain ⟨effect, member, preset⟩ := List.mem_filterMap.mp (List.mem_of_mem_head? first)
    have fine := nonempty effect member
    cases effect with
    | assign text => contradiction
    | preset text =>
        obtain rfl : text = value := Option.some.inj preset
        exact fine
    | skip => contradiction

/-- A sequence of commands leaves the chosen value. -/
theorem foldl_run {effects : List Effect} (nonempty : ∀ effect ∈ effects, effect.Nonempty) :
    effects.foldl Effect.run [] = (chosen effects).getD [] := by
  induction effects using List.reverseRecOn with
  | nil => rfl
  | append_singleton effects effect induction =>
      have earlier : ∀ other ∈ effects, other.Nonempty :=
        fun other member => nonempty other (List.mem_append_left [effect] member)
      rw [List.foldl_append, induction earlier, List.foldl_cons, List.foldl_nil]
      cases effect with
      | assign value => simp [chosen, Effect.run, Effect.assigned]
      | preset value =>
          have later : chosen (effects ++ [.preset value]) = (chosen effects).or (some value) := by
            simp [chosen, Effect.assigned, Effect.presetValue]
          rw [later]
          cases choice : chosen effects with
          | none => rfl
          | some text => exact if_neg (chosen_ne_nil earlier choice)
      | skip => simp [chosen, Effect.run, Effect.assigned, Effect.presetValue]

end Shell
