import Mathlib.Data.List.Basic
import Mathlib.Data.List.Infix

/-!
# Text as the scripts see it

Command output, file lines and shell words are lists of characters.  This file fixes the decimal
notation shared by all of them and the separators used to read lists back.
-/

namespace Shell

/-- A line, a word or the output of a command. -/
abbrev Text := List Char

instance : Coe String Text := ⟨String.toList⟩

/-! ## Decimal notation -/

/-- Decimal digits of a natural number, without leading zeros. -/
def decimal (n : Nat) : Text := Nat.toDigits 10 n

/-- Decimal notation of an integer. -/
def integer : Int → Text
  | .ofNat n => decimal n
  | .negSucc n => '-' :: decimal (n + 1)

/-- Read a nonempty run of decimal digits. -/
def parseNat? (text : Text) : Option Nat :=
  if text ≠ [] ∧ text.all Char.isDigit then some (Nat.ofDigitChars 10 text 0) else none

/-- A word in shell arithmetic: a numeral has its value, any other word is an unset name. -/
def shellNat (text : Text) : Nat := (parseNat? text).getD 0

theorem decimal_ne_nil (n : Nat) : decimal n ≠ [] := Nat.toDigits_ne_nil

theorem isDigit_of_mem_decimal {n : Nat} {c : Char} (member : c ∈ decimal n) : c.isDigit :=
  Nat.isDigit_of_mem_toDigits (by decide) (by decide) member

/-- Only digits occur in decimal notation. -/
theorem not_mem_decimal {n : Nat} {c : Char} (notDigit : c.isDigit = false) : c ∉ decimal n := by
  intro member
  have digit := isDigit_of_mem_decimal member
  rw [notDigit] at digit
  contradiction

@[simp]
theorem parseNat?_decimal (n : Nat) : parseNat? (decimal n) = some n := by
  have digits : (decimal n).all Char.isDigit = true :=
    List.all_eq_true.mpr fun _ member => isDigit_of_mem_decimal member
  rw [parseNat?, if_pos ⟨decimal_ne_nil n, digits⟩]
  exact congrArg some Nat.ofDigitChars_ten_toDigits

theorem decimal_injective : Function.Injective decimal := by
  intro m n same
  have read := congrArg parseNat? same
  simpa using read

@[simp]
theorem shellNat_decimal (n : Nat) : shellNat (decimal n) = n := by
  simp [shellNat]

@[simp]
theorem integer_natCast (n : Nat) : integer (n : Int) = decimal n := rfl

@[simp]
theorem parseNat?_nil : parseNat? [] = none := rfl

/-! ## Separated lists -/

/-- Join words with one separator character between neighbours. -/
def joinWith (separator : Char) (words : List Text) : Text :=
  [separator].intercalate words

theorem joinWith_cons_cons (separator : Char) (word next : Text) (rest : List Text) :
    joinWith separator (word :: next :: rest) =
      word ++ separator :: joinWith separator (next :: rest) := by
  rw [joinWith, List.intercalate_cons_cons, List.append_assoc]
  rfl

/-- Splitting recovers the joined words when none of them holds the separator. -/
theorem splitOn_joinWith {separator : Char} {words : List Text} (nonempty : words ≠ [])
    (free : ∀ word ∈ words, separator ∉ word) :
    (joinWith separator words).splitOn separator = words :=
  List.splitOn_intercalate separator free nonempty

theorem mem_joinWith {separator c : Char} {words : List Text}
    (member : c ∈ joinWith separator words) : c = separator ∨ ∃ word ∈ words, c ∈ word := by
  induction words with
  | nil => simp [joinWith] at member
  | cons word words induction =>
      cases words with
      | nil => exact Or.inr ⟨word, List.mem_cons_self, by simpa [joinWith] using member⟩
      | cons next words =>
          rw [joinWith, List.intercalate_cons_cons, List.mem_append, List.mem_append,
            List.mem_singleton] at member
          rcases member with (first | between) | rest
          · exact Or.inr ⟨word, List.mem_cons_self, first⟩
          · exact Or.inl between
          · rcases induction rest with between | ⟨other, inside, later⟩
            · exact Or.inl between
            · exact Or.inr ⟨other, List.mem_cons_of_mem word inside, later⟩

theorem joinWith_append (separator : Char) {front back : List Text} (first : front ≠ [])
    (second : back ≠ []) : joinWith separator (front ++ back) =
      joinWith separator front ++ separator :: joinWith separator back := by
  induction front with
  | nil => contradiction
  | cons word front induction =>
      cases front with
      | nil =>
          obtain ⟨next, rest, rfl⟩ := List.exists_cons_of_ne_nil second
          rw [List.singleton_append, joinWith_cons_cons]
          simp [joinWith]
      | cons next front =>
          rw [List.cons_append, List.cons_append, joinWith_cons_cons, ← List.cons_append,
            induction (List.cons_ne_nil next front), joinWith_cons_cons, List.append_assoc]
          rfl

/-- The words behind the first one, each behind its separator. -/
theorem joinWith_cons (separator : Char) (word : Text) (back : List Text) :
    joinWith separator (word :: back) = word ++ back.flatMap (separator :: ·) := by
  induction back generalizing word with
  | nil => simp [joinWith]
  | cons next back induction =>
      rw [joinWith_cons_cons, induction, List.flatMap_cons]
      rfl

/-- A word with the words around it. -/
theorem joinWith_middle (separator : Char) (front : List Text) (word : Text) (back : List Text) :
    joinWith separator (front ++ word :: back) =
      front.flatMap (· ++ [separator]) ++ (word ++ back.flatMap (separator :: ·)) := by
  induction front with
  | nil => exact joinWith_cons separator word back
  | cons first front induction =>
      cases front with
      | nil =>
          rw [List.singleton_append, joinWith_cons_cons, joinWith_cons]
          simp
      | cons next front =>
          rw [List.cons_append, List.cons_append, joinWith_cons_cons, ← List.cons_append, induction]
          simp

/-- Joined groups are joined again. -/
theorem joinWith_flatMap {X : Type} (separator : Char) (group : X → List Text) {items : List X}
    (nonempty : ∀ entry ∈ items, group entry ≠ []) :
    joinWith separator (items.map fun entry => joinWith separator (group entry)) =
      joinWith separator (items.flatMap group) := by
  induction items with
  | nil => rfl
  | cons entry items induction =>
      have here := nonempty entry List.mem_cons_self
      have later := induction fun other member => nonempty other (List.mem_cons_of_mem entry member)
      cases items with
      | nil => simp [joinWith]
      | cons next items =>
          have others : (next :: items).flatMap group ≠ [] := by
            intro none
            exact nonempty next (by simp) (List.flatMap_eq_nil_iff.mp none next List.mem_cons_self)
          rw [List.flatMap_cons, joinWith_append separator here others, ← later, List.map_cons,
            List.map_cons, joinWith_cons_cons]

/-- A loop that appends words behind separators joins them. -/
theorem foldl_separator {X : Type} (separator : Char) (text : X → Text) (items : List X)
    (first : Text) :
    items.foldl (fun list entry => list ++ separator :: text entry) first =
      joinWith separator (first :: items.map text) := by
  have merge : ∀ (front back : Text) (rest : List Text),
      joinWith separator ((front ++ separator :: back) :: rest) =
        joinWith separator (front :: back :: rest) := by
    intro front back rest
    cases rest with
    | nil => simp [joinWith, List.intercalate]
    | cons next rest =>
        rw [joinWith_cons_cons, joinWith_cons_cons, joinWith_cons_cons]
        simp
  induction items generalizing first with
  | nil => simp [joinWith]
  | cons entry items induction => rw [List.foldl_cons, induction, merge, List.map_cons]

/-- The expansion `${name#*c}`: the text behind the first `c`. -/
def behindFirst (c : Char) (text : Text) : Text :=
  if c ∈ text then (text.dropWhile (· ≠ c)).drop 1 else text

/-- The expansion `${name%c*}`: the text before the last `c`. -/
def beforeLast (c : Char) (text : Text) : Text := (behindFirst c text.reverse).reverse

theorem behindFirst_append {c : Char} {front : Text} (back : Text) (free : c ∉ front) :
    behindFirst c (front ++ c :: back) = back := by
  have front_ne : ∀ d ∈ front, (d ≠ c : Bool) = true := by
    intro d member
    simpa using fun same : d = c => free (same ▸ member)
  rw [behindFirst, if_pos (by simp), List.dropWhile_append_of_pos front_ne]
  simp

theorem beforeLast_append {c : Char} (front : Text) {back : Text} (free : c ∉ back) :
    beforeLast c (front ++ c :: back) = front := by
  have reversed : (front ++ c :: back).reverse = back.reverse ++ c :: front.reverse := by
    simp
  rw [beforeLast, reversed, behindFirst_append _ (by simpa using free), List.reverse_reverse]

/-- The text behind the first occurrence of a word, `${name#*word}` where there is one. -/
def behindWord (word : Text) : Text → Option Text
  | [] => if word.isPrefixOf [] then some [] else none
  | c :: cs => if word.isPrefixOf (c :: cs) then some ((c :: cs).drop word.length)
      else behindWord word cs

theorem behindWord_append {word : Text} (rest : Text) (nonempty : word ≠ []) :
    behindWord word (word ++ rest) = some rest := by
  cases word with
  | nil => contradiction
  | cons c word => simp [behindWord]

/-- Read a list of numerals between separators. -/
def readNumbers (separator : Char) (text : Text) : Option (List Nat) :=
  (text.splitOn separator).mapM parseNat?

theorem mapM_parseNat?_decimal (numbers : List Nat) :
    (numbers.map decimal).mapM parseNat? = some numbers := by
  induction numbers with
  | nil => rfl
  | cons number numbers induction => simp [List.mapM_cons, induction]

/-- Reading a printed list of numbers gives it back. -/
theorem readNumbers_joinWith {separator : Char} {numbers : List Nat} (nonempty : numbers ≠ [])
    (notDigit : separator.isDigit = false) :
    readNumbers separator (joinWith separator (numbers.map decimal)) = some numbers := by
  have words : (joinWith separator (numbers.map decimal)).splitOn separator =
      numbers.map decimal := by
    apply splitOn_joinWith
    · simpa using nonempty
    · intro word member
      obtain ⟨number, -, rfl⟩ := List.mem_map.mp member
      exact not_mem_decimal notDigit
  rw [readNumbers, words, mapM_parseNat?_decimal]

/-- `grep -q` for a pattern without special characters. -/
def grepQ (pattern text : Text) : Bool := decide (pattern <:+: text)

@[simp]
theorem grepQ_self (text : Text) : grepQ text text = true := by
  simp [grepQ]

/-- A character of the pattern that the text lacks rules a match out. -/
theorem grepQ_eq_false {pattern text : Text} {c : Char} (needed : c ∈ pattern)
    (absent : c ∉ text) : grepQ pattern text = false := by
  simp only [grepQ, decide_eq_false_iff_not]
  intro inside
  exact absent (inside.subset needed)

theorem grepQ_append_right (before pattern after : Text) :
    grepQ pattern (before ++ pattern ++ after) = true := by
  simp only [grepQ, decide_eq_true_eq]
  exact ⟨before, after, rfl⟩

/-! ## Texts with a number inside -/

/-- The first separator splits a text in one way only. -/
theorem append_separator_inj {separator : Char} {front front' back back' : Text}
    (free : separator ∉ front) (free' : separator ∉ front')
    (equality : front ++ separator :: back = front' ++ separator :: back') :
    front = front' ∧ back = back' := by
  have sameBack : back = back' := by
    have cut := congrArg (behindFirst separator) equality
    rwa [behindFirst_append back free, behindFirst_append back' free'] at cut
  subst sameBack
  exact ⟨List.append_cancel_right equality, rfl⟩

/-- Texts whose first fields end at the same separator are compared field by field. -/
theorem prefix_separated_iff {separator : Char} {front front' back back' : Text}
    (free : separator ∉ front) (free' : separator ∉ front') :
    front ++ separator :: back <+: front' ++ separator :: back' ↔
      front = front' ∧ back <+: back' := by
  constructor
  · rintro ⟨rest, equality⟩
    rw [List.append_assoc, List.cons_append] at equality
    obtain ⟨fields, tails⟩ := append_separator_inj free free' equality
    exact ⟨fields, rest, tails⟩
  · rintro ⟨rfl, rest, rfl⟩
    exact ⟨rest, by simp⟩

/-- A word occurs only at the beginning of a text that does not repeat its first character. -/
theorem infix_freshHead_iff {c : Char} {word rest : Text} (fresh : c ∉ rest) :
    c :: word <:+: c :: rest ↔ word <+: rest := by
  constructor
  · intro inside
    rcases List.infix_cons_iff.mp inside with start | later
    · exact (List.cons_prefix_cons.mp start).2
    · exact absurd (later.subset List.mem_cons_self) fresh
  · intro start
    exact (List.cons_prefix_cons.mpr ⟨rfl, start⟩).isInfix

/-- A word with its terminator occurs at the first terminator or behind it. -/
theorem infix_terminated_iff {terminator : Char} {word front rest : Text}
    (wordFree : terminator ∉ word) (frontFree : terminator ∉ front) :
    word ++ [terminator] <:+: front ++ terminator :: rest ↔
      word <:+ front ∨ word ++ [terminator] <:+: rest := by
  constructor
  · rintro ⟨before, after, equality⟩
    have shape : before ++ word ++ terminator :: after = front ++ terminator :: rest := by
      rw [← equality]
      simp
    by_cases early : terminator ∈ before
    · obtain ⟨first, second, rfl, firstFree⟩ := List.eq_append_cons_of_mem early
      have behind : first ++ terminator :: (second ++ word ++ terminator :: after) =
          front ++ terminator :: rest := by
        rw [← shape]
        simp
      obtain ⟨-, rfl⟩ := append_separator_inj firstFree frontFree behind
      exact Or.inr ⟨second, after, by simp⟩
    · have free : terminator ∉ before ++ word := by
        rw [List.mem_append, not_or]
        exact ⟨early, wordFree⟩
      obtain ⟨rfl, -⟩ := append_separator_inj free frontFree shape
      exact Or.inl (List.suffix_append before word)
  · rintro (⟨before, rfl⟩ | ⟨before, after, rfl⟩)
    · exact ⟨before, rest, by simp⟩
    · exact ⟨front ++ terminator :: before, after, by simp⟩

/-- The characters of a text that are not digits. -/
def letters (text : Text) : Text := text.filter fun c => !c.isDigit

theorem letters_append (front back : Text) : letters (front ++ back) = letters front ++ letters back :=
  List.filter_append front back

@[simp]
theorem letters_decimal (n : Nat) : letters (decimal n) = [] := by
  apply List.filter_eq_nil_iff.mpr
  intro c member
  simp [isDigit_of_mem_decimal member]

theorem mem_letters {text : Text} {c : Char} (member : c ∈ text) (notDigit : c.isDigit = false) :
    c ∈ letters text := by
  rw [letters, List.mem_filter]
  exact ⟨member, by simp [notDigit]⟩

/-- A word without digits is found only where it is found among the other characters. -/
theorem infix_letters {word text : Text} (wordLetters : letters word = word)
    (inside : word <:+: text) : word <:+: letters text := by
  rw [← wordLetters]
  exact inside.filter _

end Shell
