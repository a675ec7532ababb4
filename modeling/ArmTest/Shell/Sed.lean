import ArmTest.Shell.Text
import Mathlib.Data.List.TakeWhile

/-!
# The stream editor

`sed` programs of the form `s|pattern|replacement|g`, for basic regular expressions in which every
atom matches exactly one character.  A line is scanned from the left, a match is replaced as a
whole and scanning resumes behind it.
-/

namespace Shell

/-! ## Patterns -/

/-- One atom of a pattern. -/
inductive Atom where
  /-- The character itself. -/
  | char (c : Char)
  /-- A dot. -/
  | any
  /-- A bracket expression. -/
  | oneOf (cs : List Char)
  deriving DecidableEq

/-- Does the atom match the character? -/
def Atom.accepts : Atom → Char → Bool
  | .char p, c => p == c
  | .any, _ => true
  | .oneOf cs, c => cs.contains c

/-- Read the text of a pattern; the first argument holds an open bracket expression. -/
def parseAtoms : Option (List Char) → Text → List Atom
  | none, [] => []
  | none, '\\' :: c :: cs => .char c :: parseAtoms none cs
  | none, '.' :: cs => .any :: parseAtoms none cs
  | none, '[' :: cs => parseAtoms (some []) cs
  | none, c :: cs => .char c :: parseAtoms none cs
  | some _, [] => []
  | some set, ']' :: cs => .oneOf set :: parseAtoms none cs
  | some set, c :: cs => parseAtoms (some (set ++ [c])) cs

/-- The atoms of a pattern. -/
def atoms (pattern : Text) : List Atom := parseAtoms none pattern

/-- Characters that start a special form inside a pattern. -/
def special (c : Char) : Bool := c == '\\' || c == '.' || c == '['

theorem parseAtoms_cons {c : Char} (cs : Text) (plain : special c = false) :
    parseAtoms none (c :: cs) = .char c :: parseAtoms none cs := by
  simp only [special, Bool.or_eq_false_iff, beq_eq_false_iff_ne] at plain
  obtain ⟨⟨notBackslash, notDot⟩, notBracket⟩ := plain
  rw [parseAtoms.eq_def]
  split <;> simp_all

@[simp]
theorem parseAtoms_dot (cs : Text) :
    parseAtoms none ('.' :: cs) = .any :: parseAtoms none cs := by
  simp [parseAtoms]

/-- A pattern without special characters matches only itself. -/
theorem atoms_plain {pattern : Text} (plain : ∀ c ∈ pattern, special c = false) :
    atoms pattern = pattern.map .char := by
  induction pattern with
  | nil => rfl
  | cons c cs induction =>
      have head := plain c List.mem_cons_self
      have tail : atoms cs = cs.map .char :=
        induction fun d member => plain d (List.mem_cons_of_mem c member)
      rw [atoms, parseAtoms_cons cs head]
      simpa [atoms] using tail

/-- The atom of a character outside bracket expressions and without a backslash before it. -/
def wild (c : Char) : Atom := if c = '.' then .any else .char c

/-- Without backslashes and brackets every character is an atom of its own. -/
theorem atoms_wild {pattern : Text} (simple : ∀ c ∈ pattern, c ≠ '\\' ∧ c ≠ '[') :
    atoms pattern = pattern.map wild := by
  induction pattern with
  | nil => rfl
  | cons c cs induction =>
      have tail : parseAtoms none cs = cs.map wild :=
        induction fun d member => simple d (List.mem_cons_of_mem c member)
      obtain ⟨notBackslash, notBracket⟩ := simple c List.mem_cons_self
      rw [List.map_cons, atoms]
      by_cases dot : c = '.'
      · subst dot
        rw [parseAtoms_dot, tail]
        rfl
      · rw [parseAtoms_cons cs (by simp [special, notBackslash, notBracket, dot]), tail, wild,
          if_neg dot]

/-- Do the atoms match the beginning of the text? -/
def matchesHere : List Atom → Text → Bool
  | [], _ => true
  | _ :: _, [] => false
  | atom :: rest, c :: cs => atom.accepts c && matchesHere rest cs

/-- The atoms match somewhere in the line. -/
def Occurs (pattern : List Atom) (line : Text) : Prop :=
  ∃ before after, line = before ++ after ∧ matchesHere pattern after = true

theorem matchesHere_append_left {pattern : List Atom} {text : Text} (rest : Text)
    (matched : matchesHere pattern text = true) :
    matchesHere pattern (text ++ rest) = true := by
  induction pattern generalizing text with
  | nil => rfl
  | cons atom pattern induction =>
      cases text with
      | nil => simp [matchesHere] at matched
      | cons c cs =>
          simp only [matchesHere, Bool.and_eq_true, List.cons_append] at matched ⊢
          exact ⟨matched.1, induction matched.2⟩

/-- Only the first `pattern.length` characters decide a match. -/
theorem matchesHere_append_iff {pattern : List Atom} {text : Text} (rest : Text)
    (enough : pattern.length ≤ text.length) :
    matchesHere pattern (text ++ rest) = matchesHere pattern text := by
  induction pattern generalizing text with
  | nil => rfl
  | cons atom pattern induction =>
      cases text with
      | nil => simp at enough
      | cons c cs =>
          simp only [List.cons_append, matchesHere]
          rw [induction (by simpa using enough)]

/-- A match of a concatenation starts with a match of its first part. -/
theorem matchesHere_of_append {front back : List Atom} {text : Text}
    (matched : matchesHere (front ++ back) text = true) : matchesHere front text = true := by
  induction front generalizing text with
  | nil => rfl
  | cons atom front induction =>
      cases text with
      | nil => simp [matchesHere] at matched
      | cons c cs =>
          simp only [List.cons_append, matchesHere, Bool.and_eq_true] at matched ⊢
          exact ⟨matched.1, induction matched.2⟩

/-- Two parts of a pattern match on two parts of a text, if the first ones are of the same length. -/
theorem matchesHere_append_append {front back : List Atom} {first second : Text}
    (length : front.length = first.length) :
    matchesHere (front ++ back) (first ++ second) =
      (matchesHere front first && matchesHere back second) := by
  induction front generalizing first with
  | nil =>
      obtain rfl := List.length_eq_zero_iff.mp length.symm
      rfl
  | cons atom front induction =>
      cases first with
      | nil => simp at length
      | cons c first =>
          simp only [List.cons_append, matchesHere]
          rw [induction (by simpa using length), Bool.and_assoc]

/-- Every text is matched by itself. -/
theorem matchesHere_wild_self (text : Text) : matchesHere (text.map wild) text = true := by
  induction text with
  | nil => rfl
  | cons c text induction =>
      have accepts : (wild c).accepts c = true := by
        unfold wild
        split <;> simp [Atom.accepts]
      rw [List.map_cons, matchesHere, accepts, induction]
      rfl

/-- A plain pattern matches at the beginning exactly when it is a prefix. -/
theorem matchesHere_char_iff {word text : Text} :
    matchesHere (word.map .char) text = true ↔ word <+: text := by
  induction word generalizing text with
  | nil => simp [matchesHere]
  | cons w word induction =>
      cases text with
      | nil => simp [matchesHere]
      | cons c cs =>
          simp [matchesHere, Atom.accepts, induction, List.cons_prefix_cons]

theorem occurs_char_iff {word line : Text} :
    Occurs (word.map .char) line ↔ word <:+: line := by
  constructor
  · rintro ⟨before, after, rfl, matched⟩
    obtain ⟨rest, rfl⟩ := matchesHere_char_iff.mp matched
    exact ⟨before, rest, by simp⟩
  · rintro ⟨before, rest, rfl⟩
    exact ⟨before, word ++ rest, by simp, matchesHere_char_iff.mpr (List.prefix_append word rest)⟩

/-- A character that the line lacks prevents every match. -/
theorem not_occurs_of_not_mem {pattern : List Atom} {c : Char} {line : Text}
    (required : .char c ∈ pattern) (absent : c ∉ line) : ¬ Occurs pattern line := by
  have noMatch : ∀ text : Text, c ∉ text → matchesHere pattern text = false := by
    induction pattern with
    | nil => simp at required
    | cons atom pattern induction =>
        intro text free
        cases text with
        | nil => rfl
        | cons d ds =>
            simp only [List.mem_cons, not_or] at free
            rcases List.mem_cons.mp required with rfl | later
            · simp [matchesHere, Atom.accepts, free.1]
            · simp [matchesHere, induction later ds free.2]
  rintro ⟨before, after, rfl, matched⟩
  rw [noMatch after (fun member => absent (List.mem_append_right before member))] at matched
  contradiction

/-! ## Substitution -/

/-- Expand a replacement: an ampersand is the matched text, a backslash quotes its successor. -/
def expand (matched : Text) : Text → Text
  | [] => []
  | '\\' :: c :: cs => c :: expand matched cs
  | '&' :: cs => matched ++ expand matched cs
  | c :: cs => c :: expand matched cs

/-- Characters that are not copied literally from a replacement. -/
def active (c : Char) : Bool := c == '\\' || c == '&'

/-- A character that `sed` takes literally, in a pattern as well as in a replacement. -/
def Literal (c : Char) : Prop := special c = false ∧ active c = false

theorem literal_of_isAlphanum {c : Char} (letter : c.isAlphanum = true) : Literal c := by
  constructor
  · by_contra matched
    simp only [special, Bool.not_eq_false, Bool.or_eq_true, beq_iff_eq] at matched
    rcases matched with (rfl | rfl) | rfl <;> simp at letter
  · by_contra matched
    simp only [active, Bool.not_eq_false, Bool.or_eq_true, beq_iff_eq] at matched
    rcases matched with rfl | rfl <;> simp at letter

theorem literal_of_isDigit {c : Char} (digit : c.isDigit = true) : Literal c := by
  apply literal_of_isAlphanum
  rw [Char.isAlphanum, digit, Bool.or_true]

theorem expand_cons {c : Char} (matched cs : Text) (inert : active c = false) :
    expand matched (c :: cs) = c :: expand matched cs := by
  simp only [active, Bool.or_eq_false_iff, beq_eq_false_iff_ne] at inert
  obtain ⟨notBackslash, notAmpersand⟩ := inert
  rw [expand.eq_def]
  split <;> simp_all

/-- A replacement without active characters is inserted as it is. -/
theorem expand_inert {replacement : Text} (matched : Text)
    (inert : ∀ c ∈ replacement, active c = false) : expand matched replacement = replacement := by
  induction replacement with
  | nil => rfl
  | cons c cs induction =>
      rw [expand_cons matched cs (inert c List.mem_cons_self)]
      rw [induction fun d member => inert d (List.mem_cons_of_mem c member)]

/-- Text without active characters in front of a replacement is copied. -/
theorem expand_append {front : Text} (matched back : Text)
    (inert : ∀ c ∈ front, active c = false) :
    expand matched (front ++ back) = front ++ expand matched back := by
  induction front with
  | nil => rfl
  | cons c front induction =>
      rw [List.cons_append, expand_cons matched _ (inert c List.mem_cons_self),
        induction fun d member => inert d (List.mem_cons_of_mem c member), List.cons_append]

@[simp]
theorem expand_ampersand (matched cs : Text) :
    expand matched ('&' :: cs) = matched ++ expand matched cs := by
  simp [expand]

/-- Scan a line; the number counts the characters still covered by the last match. -/
def scan (pattern : List Atom) (replacement : Text) : Nat → Text → Text
  | _, [] => []
  | skip + 1, _ :: cs => scan pattern replacement skip cs
  | 0, c :: cs =>
      if matchesHere pattern (c :: cs) then
        expand ((c :: cs).take pattern.length) replacement ++
          scan pattern replacement (pattern.length - 1) cs
      else
        c :: scan pattern replacement 0 cs

/-- The command `s|pattern|replacement|g` on one line, for a nonempty pattern. -/
def substitute (pattern replacement line : Text) : Text :=
  scan (atoms pattern) replacement 0 line

theorem scan_skip (pattern : List Atom) (replacement covered rest : Text) :
    scan pattern replacement covered.length (covered ++ rest) =
      scan pattern replacement 0 rest := by
  induction covered with
  | nil => rfl
  | cons c covered induction => simpa [scan] using induction

theorem scan_of_not_occurs {pattern : List Atom} (replacement : Text) {line : Text}
    (absent : ¬ Occurs pattern line) : scan pattern replacement 0 line = line := by
  induction line with
  | nil => rfl
  | cons c cs induction =>
      have headFails : matchesHere pattern (c :: cs) = false := by
        by_contra matched
        exact absent ⟨[], c :: cs, rfl, by simpa using matched⟩
      have tailAbsent : ¬ Occurs pattern cs := by
        rintro ⟨before, after, rfl, matched⟩
        exact absent ⟨c :: before, after, rfl, matched⟩
      simp [scan, headFails, induction tailAbsent]

/-- A line on which the pattern matches nowhere is copied. -/
theorem substitute_of_not_occurs {pattern : Text} (replacement : Text) {line : Text}
    (absent : ¬ Occurs (atoms pattern) line) : substitute pattern replacement line = line :=
  scan_of_not_occurs replacement absent

/-- Characters before the first possible match are copied. -/
theorem scan_append_of_no_match {pattern : List Atom} (replacement before rest : Text)
    (early : ∀ left right : Text, before = left ++ right → right ≠ [] →
      matchesHere pattern (right ++ rest) = false) :
    scan pattern replacement 0 (before ++ rest) =
      before ++ scan pattern replacement 0 rest := by
  induction before with
  | nil => rfl
  | cons c before induction =>
      have headFails := early [] (c :: before) rfl (by simp)
      have tailEarly : ∀ left right : Text, before = left ++ right → right ≠ [] →
          matchesHere pattern (right ++ rest) = false := by
        rintro left right rfl nonempty
        exact early (c :: left) right rfl nonempty
      simp only [List.cons_append] at headFails ⊢
      simp [scan, headFails, induction tailEarly]

/-- The match at the scan position is replaced and scanning resumes behind it. -/
theorem scan_match {pattern : List Atom} (replacement middle after : Text)
    (nonempty : pattern ≠ []) (sameLength : middle.length = pattern.length)
    (matched : matchesHere pattern middle = true) :
    scan pattern replacement 0 (middle ++ after) =
      expand middle replacement ++ scan pattern replacement 0 after := by
  cases middle with
  | nil =>
      have empty : pattern = [] := List.length_eq_zero_iff.mp sameLength.symm
      contradiction
  | cons c middle =>
      have whole := matchesHere_append_left after matched
      have front : (c :: (middle ++ after)).take pattern.length = c :: middle := by
        rw [← sameLength, ← List.cons_append, List.take_left]
      have remaining : pattern.length - 1 = middle.length := by
        rw [← sameLength]
        simp
      simp only [List.cons_append] at whole ⊢
      rw [scan, if_pos whole, front, remaining, scan_skip]

/-- A pattern that matches at one place only is replaced there and nowhere else. -/
theorem substitute_unique {pattern : Text} (replacement before middle after : Text)
    (nonempty : atoms pattern ≠ [])
    (sameLength : middle.length = (atoms pattern).length)
    (matched : matchesHere (atoms pattern) middle = true)
    (early : ∀ left right : Text, before = left ++ right → right ≠ [] →
      matchesHere (atoms pattern) (right ++ (middle ++ after)) = false)
    (late : ¬ Occurs (atoms pattern) after) :
    substitute pattern replacement (before ++ (middle ++ after)) =
      before ++ (expand middle replacement ++ after) := by
  rw [substitute, scan_append_of_no_match replacement before (middle ++ after) early,
    scan_match replacement middle after nonempty sameLength matched,
    scan_of_not_occurs replacement late]

/-- A plain word with a character that the text before it lacks does not match earlier. -/
theorem not_prefix_early {word right : Text} {c : Char} (after : Text) (member : c ∈ word)
    (absent : c ∉ right) (nonempty : right ≠ []) : ¬ word <+: right ++ (word ++ after) := by
  rintro ⟨rest, equality⟩
  have before : ∀ d ∈ right, decide (d ≠ c) = true := by
    intro d inside
    rw [decide_eq_true_eq]
    rintro rfl
    exact absent inside
  have stops : (word.takeWhile fun d => decide (d ≠ c)).length ≠ word.length := by
    intro whole
    have all := List.takeWhile_eq_self_iff.mp ((List.takeWhile_prefix _).eq_of_length whole)
    have differs := all c member
    simp at differs
  have firstAt := congrArg (List.takeWhile fun d => decide (d ≠ c)) equality
  rw [List.takeWhile_append_of_pos before, List.takeWhile_append, if_neg stops,
    List.takeWhile_append, if_neg stops] at firstAt
  have lengths := congrArg List.length firstAt
  rw [List.length_append] at lengths
  exact nonempty (List.length_eq_zero_iff.mp (by omega))

/-- A word behind a separator that it does not contain matches no earlier than that, unless it
occurs before the separator. -/
theorem not_prefix_separated {key word left right : Text} {separator : Char} (after : Text)
    (separate : separator ∉ word) (absent : ¬ word <:+: key)
    (split : key ++ [separator] = left ++ right) (nonempty : right ≠ []) :
    ¬ word <+: right ++ (word ++ after) := by
  intro matched
  obtain ⟨front, rfl⟩ : ∃ front, right = front ++ [separator] := by
    have last := congrArg List.getLast? split
    rw [List.getLast?_concat, List.getLast?_append_of_ne_nil left nonempty] at last
    exact ⟨right.dropLast, (List.dropLast_append_getLast? separator last.symm).symm⟩
  have keyParts : key = left ++ front := by
    rw [← List.append_assoc] at split
    exact List.append_cancel_right split
  rw [List.append_assoc] at matched
  by_cases short : word.length ≤ front.length
  · have inside := List.prefix_of_prefix_length_le matched (List.prefix_append front _) short
    rw [keyParts] at absent
    exact absent (inside.isInfix.trans (List.suffix_append left front).isInfix)
  · have whole : front ++ [separator] <+: front ++ ([separator] ++ (word ++ after)) :=
      ⟨word ++ after, by simp⟩
    have long : (front ++ [separator]).length ≤ word.length := by
      rw [List.length_append, List.length_singleton]
      omega
    have inside := List.prefix_of_prefix_length_le whole matched long
    exact separate (inside.subset (by simp))

/-- A word without the separator occurs on one of its sides or not at all. -/
theorem not_infix_separated {key word text : Text} {separator : Char} (separate : separator ∉ word)
    (before : ¬ word <:+: key) (behind : ¬ word <:+: text) :
    ¬ word <:+: key ++ separator :: text := by
  have crosses : ∀ {back : Text}, back ≠ [] → back <+: separator :: text → separator ∈ back := by
    intro back nonempty start
    cases back with
    | nil => contradiction
    | cons c back =>
        obtain ⟨rfl, -⟩ := List.cons_prefix_cons.mp start
        exact List.mem_cons_self
  intro inside
  rcases List.infix_append_iff_ne_nil.mp inside with inKey | inText | ⟨front, back, -, nonempty,
    rfl, -, start⟩
  · exact before inKey
  · rcases List.infix_cons_iff.mp inText with start | later
    · have nonempty : word ≠ [] := by
        rintro rfl
        exact before List.nil_infix
      exact separate (crosses nonempty start)
    · exact behind later
  · exact separate (List.mem_append_right front (crosses nonempty start))

/-- A plain word is replaced where it stands first, and the rest of the line is kept if the word
does not occur there. -/
theorem substitute_word {word before after : Text} (replacement : Text)
    (plain : ∀ c ∈ word, special c = false) (nonempty : word ≠ [])
    (early : ∀ left right : Text, before = left ++ right → right ≠ [] →
      ¬ word <+: right ++ (word ++ after))
    (late : ¬ word <:+: after) :
    substitute word replacement (before ++ (word ++ after)) =
      before ++ (expand word replacement ++ after) := by
  have pattern := atoms_plain plain
  apply substitute_unique
  · rw [pattern]
    simpa using nonempty
  · rw [pattern, List.length_map]
  · rw [pattern]
    exact matchesHere_char_iff.mpr (List.prefix_refl word)
  · intro left right split rightNonempty
    by_contra matched
    rw [Bool.not_eq_false, pattern, matchesHere_char_iff] at matched
    exact early left right split rightNonempty matched
  · rw [pattern, occurs_char_iff]
    exact late

/-- A plain word at the end of a line is replaced. -/
theorem substitute_end {word before : Text} {c : Char} (replacement : Text)
    (plain : ∀ d ∈ word, special d = false) (member : c ∈ word) (absent : c ∉ before) :
    substitute word replacement (before ++ word) = before ++ expand word replacement := by
  have nonempty := List.ne_nil_of_mem member
  have replaced : substitute word replacement (before ++ (word ++ [])) = _ :=
    substitute_word replacement plain nonempty
      (fun left right split rightNonempty => not_prefix_early [] member
        (fun inside => absent (split ▸ List.mem_append_right left inside)) rightNonempty)
      (by rwa [List.infix_nil])
  simpa using replaced

/-- The edit of the command `s|pattern|replacement|g`, for texts without bars and a replacement
without backslashes.  A line break ends the command early, and an empty pattern stands for the one
before it; then `sed` fails. -/
def sedCommand (pattern replacement : Text) : Option (Text → Text) :=
  if pattern = [] ∨ '\n' ∈ pattern ++ replacement then none
  else some (substitute pattern replacement)

theorem sedCommand_of_oneLine {pattern replacement : Text} (nonempty : pattern ≠ [])
    (first : '\n' ∉ pattern) (second : '\n' ∉ replacement) :
    sedCommand pattern replacement = some (substitute pattern replacement) := by
  have oneLine : '\n' ∉ pattern ++ replacement := by
    rw [List.mem_append]
    exact not_or.mpr ⟨first, second⟩
  rw [sedCommand, if_neg (not_or.mpr ⟨nonempty, oneLine⟩)]

theorem sedCommand_of_break {pattern replacement : Text} (broken : '\n' ∈ pattern ++ replacement) :
    sedCommand pattern replacement = none := if_pos (Or.inr broken)

/-- Apply an edit to the line with the given number, counted from one. -/
def editLine (number : Nat) (edit : Text → Text) (lines : List Text) : List Text :=
  lines.modify (number - 1) edit

end Shell
