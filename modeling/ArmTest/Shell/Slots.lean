import ArmTest.Shell.Sed
import Mathlib.Data.List.Chain

/-!
# Templates with slots

A template is filled by a sequence of `sed` commands, one for each slot.  A slot is a word in
capital letters between two number signs.  This file shows that the commands never mistake the text
between two slots for a slot, so that a line is its slots with the first value given to each.
-/

namespace Shell

/-- The text of a slot that is still open. -/
def slot (name : Text) : Text := '#' :: (name ++ ['#'])

/-- A text, and slots each with the text behind it. -/
structure SlotLine where
  front : Text
  slots : List (Text × Text)
  deriving DecidableEq

/-- Slots and texts, where a slot with a value stands for the value. -/
def fillSlots (values : Text → Option Text) (slots : List (Text × Text)) : Text :=
  slots.flatMap fun entry => (values entry.1).getD (slot entry.1) ++ entry.2

/-- The line with the given values. -/
def SlotLine.fill (values : Text → Option Text) (line : SlotLine) : Text :=
  line.front ++ fillSlots values line.slots

/-- A name of capital letters. -/
structure Capital (name : Text) : Prop where
  nonempty : name ≠ []
  upper : ∀ c ∈ name, c.isUpper = true

/-- Texts without number signs between slots with proper names; between two slots there is more than
capital letters. -/
structure SlotLine.Plain (line : SlotLine) : Prop where
  front : '#' ∉ line.front
  text : ∀ entry ∈ line.slots, '#' ∉ entry.2
  name : ∀ entry ∈ line.slots, Capital entry.1
  separate : line.slots.IsChain fun entry _ => ∃ c ∈ entry.2, c.isUpper = false

/-- One more value; a slot that has one keeps it. -/
def assign (values : Text → Option Text) (edit : Text × Text) : Text → Option Text :=
  fun name => (values name).or (if name = edit.1 then some edit.2 else none)

/-! ## One command -/

variable {name other value : Text} {values : Text → Option Text}

theorem Capital.not_mem (capital : Capital name) : '#' ∉ name := by
  intro member
  exact absurd (capital.upper '#' member) (by decide)

theorem Capital.special {c : Char} (capital : Capital name) (member : c ∈ slot name) :
    special c = false := by
  rcases List.mem_cons.mp member with rfl | later
  · decide
  rcases List.mem_append.mp later with letter | last
  · have upper := capital.upper c letter
    have alphanum : ((c.isUpper || c.isLower) || c.isDigit) = true := by
      rw [upper, Bool.true_or, Bool.true_or]
    exact (literal_of_isAlphanum alphanum).1
  · rw [List.mem_singleton.mp last]
    decide

theorem Capital.matches_iff {text : Text} (capital : Capital name) :
    matchesHere (atoms (slot name)) text = true ↔ slot name <+: text := by
  rw [atoms_plain fun c member => capital.special member, matchesHere_char_iff]

/-- Text without a number sign is copied. -/
theorem scan_signless (capital : Capital name) (value : Text) {front : Text} (free : '#' ∉ front)
    (rest : Text) :
    scan (atoms (slot name)) value 0 (front ++ rest) =
      front ++ scan (atoms (slot name)) value 0 rest := by
  apply scan_append_of_no_match
  rintro left right rfl nonempty
  cases right with
  | nil => contradiction
  | cons c right =>
      by_contra matched
      rw [Bool.not_eq_false, capital.matches_iff, slot, List.cons_append] at matched
      obtain ⟨rfl, -⟩ := List.cons_prefix_cons.mp matched
      exact free (by simp)

/-- The slot that the command is about gets the value. -/
theorem scan_slot (capital : Capital name) (inert : ∀ c ∈ value, active c = false) (rest : Text) :
    scan (atoms (slot name)) value 0 (slot name ++ rest) =
      value ++ scan (atoms (slot name)) value 0 rest := by
  have pattern : atoms (slot name) = (slot name).map .char :=
    atoms_plain fun c member => capital.special member
  rw [scan_match value (slot name) rest (by rw [pattern]; simp [slot])
    (by rw [pattern, List.length_map]) (capital.matches_iff.mpr (List.prefix_refl _)),
    expand_inert _ inert]

/-- Another open slot is copied, if the text behind it cannot be taken for the slot. -/
theorem scan_other (capital : Capital name) (otherCapital : Capital other)
    (different : other ≠ name) (value : Text) {rest : Text} (behind : ¬ name ++ ['#'] <+: rest) :
    scan (atoms (slot name)) value 0 (slot other ++ rest) =
      slot other ++ scan (atoms (slot name)) value 0 rest := by
  have first : matchesHere (atoms (slot name)) ('#' :: (other ++ '#' :: rest)) = false := by
    by_contra matched
    rw [Bool.not_eq_false, capital.matches_iff, slot, List.prefix_cons_inj] at matched
    obtain ⟨tail, same⟩ := matched
    rw [List.append_assoc, List.singleton_append] at same
    exact different (append_separator_inj capital.not_mem otherCapital.not_mem same).1.symm
  have second : matchesHere (atoms (slot name)) ('#' :: rest) = false := by
    by_contra matched
    rw [Bool.not_eq_false, capital.matches_iff, slot, List.prefix_cons_inj] at matched
    exact behind matched
  have line : slot other ++ rest = '#' :: (other ++ '#' :: rest) := by simp [slot]
  rw [line, scan, if_neg (by rw [first]; exact Bool.false_ne_true),
    scan_signless capital value otherCapital.not_mem, scan,
    if_neg (by rw [second]; exact Bool.false_ne_true)]
  simp [slot]

/-- Between two slots there is no room for a third. -/
theorem not_prefix_behind (capital : Capital name) {text : Text} (free : '#' ∉ text)
    {slots : List (Text × Text)} (wide : slots ≠ [] → ∃ c ∈ text, c.isUpper = false) :
    ¬ name ++ ['#'] <+: text ++ fillSlots values slots := by
  rintro ⟨tail, same⟩
  by_cases last : slots = []
  · rw [last, fillSlots, List.flatMap_nil, List.append_nil] at same
    exact free (same ▸ by simp)
  · obtain ⟨c, member, lower⟩ := wide last
    rcases List.append_eq_append_iff.mp same with ⟨left, rfl, -⟩ | ⟨left, sameName, -⟩
    · exact free (by simp)
    · have inside : c ∈ name ++ ['#'] := sameName ▸ List.mem_append_left left member
      rcases List.mem_append.mp inside with letter | sign
      · rw [capital.upper c letter] at lower
        contradiction
      · exact free (List.mem_singleton.mp sign ▸ member)

/-- Texts without number signs between slots, each with more than capital letters if another slot
follows. -/
theorem scan_fillSlots (capital : Capital name) (inert : ∀ c ∈ value, active c = false)
    (signless : ∀ n v, values n = some v → '#' ∉ v) {slots : List (Text × Text)} {front : Text}
    (plain : SlotLine.Plain { front := front, slots := slots }) :
    scan (atoms (slot name)) value 0 (front ++ fillSlots values slots) =
      front ++ fillSlots (assign values (name, value)) slots := by
  induction slots generalizing front with
  | nil =>
      have frontFree : '#' ∉ front := plain.front
      rw [scan_signless capital value frontFree]
      rfl
  | cons entry slots induction =>
      obtain ⟨n, text⟩ := entry
      have textFree : '#' ∉ text := plain.text (n, text) List.mem_cons_self
      have inner : SlotLine.Plain { front := text, slots := slots } :=
        { front := textFree
          text := fun entry member => plain.text entry (List.mem_cons_of_mem _ member)
          name := fun entry member => plain.name entry (List.mem_cons_of_mem _ member)
          separate := plain.separate.tail }
      have split : ∀ values, fillSlots values ((n, text) :: slots) =
          (values n).getD (slot n) ++ (text ++ fillSlots values slots) := by
        intro values
        simp [fillSlots]
      have frontFree : '#' ∉ front := plain.front
      rw [split, split, scan_signless capital value frontFree]
      cases given : values n with
      | some v =>
          have kept : assign values (name, value) n = some v := by rw [assign, given]; rfl
          rw [kept, Option.getD_some, scan_signless capital value (signless n v given),
            induction inner]
      | none =>
          by_cases same : n = name
          · subst same
            have filled : assign values (n, value) n = some value := by simp [assign, given]
            rw [filled, Option.getD_some, Option.getD_none, scan_slot capital inert,
              induction inner]
          · have open' : assign values (name, value) n = none := by simp [assign, given, same]
            have wide : slots ≠ [] → ∃ c ∈ text, c.isUpper = false := by
              intro nonempty
              cases slots with
              | nil => contradiction
              | cons next slots => exact (List.isChain_cons_cons.mp plain.separate).1
            rw [open', Option.getD_none, scan_other capital
              (plain.name (n, text) List.mem_cons_self) same value
              (not_prefix_behind capital textFree wide), induction inner]

/-- A command gives its slot the value wherever it is still open on the line. -/
theorem substitute_fill (capital : Capital name) (inert : ∀ c ∈ value, active c = false)
    (signless : ∀ n v, values n = some v → '#' ∉ v) {line : SlotLine} (plain : line.Plain) :
    substitute (slot name) value (line.fill values) = line.fill (assign values (name, value)) :=
  scan_fillSlots capital inert signless plain

/-! ## A sequence of commands -/

/-- The commands of a sequence have proper names and values without special characters. -/
structure Fillable (edit : Text × Text) : Prop where
  name : Capital edit.1
  inert : ∀ c ∈ edit.2, active c = false
  signless : '#' ∉ edit.2

/-- One command on every line of a file. -/
def editLines (edit : Text × Text) (lines : List Text) : List Text :=
  lines.map (substitute (slot edit.1) edit.2)

/-- A file is the template with the values of the commands so far; the first command for a slot
counts. -/
theorem editLines_fill {edit : Text × Text} (sound : Fillable edit)
    (signless : ∀ n v, values n = some v → '#' ∉ v) {template : List SlotLine}
    (plain : ∀ line ∈ template, line.Plain) :
    editLines edit (template.map (SlotLine.fill values)) =
      template.map (SlotLine.fill (assign values edit)) := by
  rw [editLines, List.map_map]
  exact List.map_congr_left fun line member =>
    substitute_fill sound.name sound.inert signless (plain line member)

theorem assign_lookup (edits : List (Text × Text)) (edit : Text × Text) :
    assign (fun name => edits.lookup name) edit = fun name => (edits ++ [edit]).lookup name := by
  funext name
  rw [assign, List.lookup_append]
  congr 1
  obtain ⟨other, value⟩ := edit
  by_cases same : name = other
  · simp [same]
  · simp [List.lookup_cons, beq_eq_false_iff_ne.mpr same, same]

theorem signless_lookup {edits : List (Text × Text)} (sound : ∀ edit ∈ edits, Fillable edit) :
    ∀ n v, edits.lookup n = some v → '#' ∉ v := by
  intro n v found
  obtain ⟨early, late, rfl, -⟩ := List.lookup_eq_some_iff.mp found
  exact (sound (n, v) (by simp)).signless

/-- After a sequence of commands every slot has the value of the first command for it. -/
theorem foldl_editLines {template : List SlotLine} (plain : ∀ line ∈ template, line.Plain)
    (early late : List (Text × Text)) (sound : ∀ edit ∈ early ++ late, Fillable edit) :
    late.foldl (fun lines edit => editLines edit lines)
        (template.map (SlotLine.fill fun name => early.lookup name)) =
      template.map (SlotLine.fill fun name => (early ++ late).lookup name) := by
  induction late generalizing early with
  | nil => rw [List.append_nil]; rfl
  | cons edit late induction =>
      have split : early ++ edit :: late = (early ++ [edit]) ++ late := by simp
      have soundEarly : ∀ other ∈ early, Fillable other := fun other member =>
        sound other (List.mem_append_left _ member)
      rw [List.foldl_cons, editLines_fill (sound edit (by simp)) (signless_lookup soundEarly) plain,
        assign_lookup, split]
      exact induction (early ++ [edit]) fun other member => sound other (split ▸ member)

end Shell
