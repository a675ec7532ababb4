import ArmTest.Shell.Text
import Mathlib.Data.List.DropRight

/-!
# Filters

Pipelines of the scripts treat the output of a command as a list of lines: `grep` selects lines,
`awk` selects a field of each line, and a command substitution turns the lines that are left into
one word list.  Patterns have no special characters here.
-/

namespace Shell

/-! ## Words of a text -/

/-- Characters between words. -/
def isBlank (c : Char) : Bool := c == ' ' || c == '\t' || c == '\n'

/-- Words of a text, as the shell and `awk` separate them. -/
def words (text : Text) : List Text := (text.splitOnP isBlank).filter fun word => !word.isEmpty

@[simp]
theorem words_nil : words [] = [] := rfl

/-- A blank ends a word, whatever stands on its sides. -/
theorem words_append_blank {c : Char} (front back : Text) (blank : isBlank c = true) :
    words (front ++ c :: back) = words front ++ words back := by
  rw [words, List.splitOnP_append_cons front back blank, List.filter_append]
  rfl

theorem words_cons_blank {c : Char} (text : Text) (blank : isBlank c = true) :
    words (c :: text) = words text :=
  words_append_blank [] text blank

theorem words_replicate_blank (count : Nat) (text : Text) :
    words (List.replicate count ' ' ++ text) = words text := by
  induction count with
  | zero => rfl
  | succ count induction =>
      rw [List.replicate_succ, List.cons_append, words_cons_blank _ (by decide), induction]

/-- A text without blanks is one word. -/
theorem words_word {word : Text} (nonempty : word ≠ []) (plain : ∀ c ∈ word, isBlank c = false) :
    words word = [word] := by
  rw [words, List.splitOnP_eq_singleton plain]
  simpa using nonempty

/-- Without tabulators and line breaks only blanks separate words. -/
theorem words_eq_splitOn {text : Text} (tab : '\t' ∉ text) (newline : '\n' ∉ text) :
    words text = (text.splitOn ' ').filter fun word => !word.isEmpty := by
  have pieces : text.splitOnP isBlank = text.splitOn ' ' := by
    rw [List.splitOn]
    induction text with
    | nil => rfl
    | cons c text induction =>
        rw [List.mem_cons, not_or] at tab newline
        have same : isBlank c = (c == ' ') := by
          have noTab : (c == '\t') = false := beq_false_of_ne (Ne.symm tab.1)
          have noNewline : (c == '\n') = false := beq_false_of_ne (Ne.symm newline.1)
          rw [isBlank, noTab, noNewline, Bool.or_false, Bool.or_false]
        rw [List.splitOnP_cons_eq_if_modifyHead, List.splitOnP_cons_eq_if_modifyHead,
          induction tab.2 newline.2, same]
  rw [words, pieces]

/-- A word is not empty and has no blank. -/
theorem mem_words {text word : Text} (member : word ∈ words text) :
    word ≠ [] ∧ ∀ c ∈ word, isBlank c = false := by
  obtain ⟨inside, nonempty⟩ := List.mem_filter.mp member
  refine ⟨by simpa using nonempty, ?_⟩
  clear member nonempty
  induction text generalizing word with
  | nil => simp_all
  | cons c text induction =>
      rw [List.splitOnP_cons_eq_if_modifyHead] at inside
      split at inside
      · rcases List.mem_cons.mp inside with rfl | later
        · simp
        · exact induction later
      · rename_i notBlank
        obtain ⟨first, rest, pieces⟩ := List.exists_cons_of_ne_nil (List.splitOnP_ne_nil isBlank text)
        rw [pieces, List.modifyHead_cons, List.mem_cons] at inside
        rw [pieces] at induction
        rcases inside with rfl | later
        · intro d member
          rcases List.mem_cons.mp member with rfl | behind
          · simpa using notBlank
          · exact induction List.mem_cons_self d behind
        · exact induction (List.mem_cons_of_mem first later)

theorem isBlank_of_mem_decimal {n : Nat} {c : Char} (member : c ∈ decimal n) :
    isBlank c = false := by
  have digit := isDigit_of_mem_decimal member
  by_contra blank
  simp only [isBlank, Bool.not_eq_false, Bool.or_eq_true, beq_iff_eq] at blank
  rcases blank with (rfl | rfl) | rfl <;> simp at digit

theorem isBlank_of_mem_integer {n : Int} {c : Char} (member : c ∈ integer n) :
    isBlank c = false := by
  cases n with
  | ofNat n => exact isBlank_of_mem_decimal member
  | negSucc n =>
      rcases List.mem_cons.mp member with rfl | digit
      · decide
      · exact isBlank_of_mem_decimal digit

theorem integer_ne_nil (n : Int) : integer n ≠ [] := by
  cases n with
  | ofNat n => exact decimal_ne_nil n
  | negSucc n => exact List.cons_ne_nil _ _

/-- Words written one after another, each after a blank, are read back. -/
theorem words_blank_words {X : Type} {text : X → Text} (items : List X)
    (nonempty : ∀ item ∈ items, text item ≠ [])
    (plain : ∀ item ∈ items, ∀ c ∈ text item, isBlank c = false) :
    words (items.flatMap fun item => ' ' :: text item) = items.map text := by
  induction items using List.reverseRecOn with
  | nil => rfl
  | append_singleton items item induction =>
      have member : item ∈ items ++ [item] := by simp
      have before := induction
        (fun other inside => nonempty other (List.mem_append_left _ inside))
        (fun other inside => plain other (List.mem_append_left _ inside))
      rw [List.flatMap_append, List.flatMap_singleton, words_append_blank _ _ (by decide), before,
        words_word (nonempty item member) (plain item member), List.map_append]
      rfl

theorem words_numbers (numbers : List Nat) :
    words (numbers.flatMap fun number => ' ' :: decimal number) = numbers.map decimal :=
  words_blank_words numbers (fun number _ => decimal_ne_nil number)
    fun _ _ _ member => isBlank_of_mem_decimal member

/-! ## Lines -/

/-- Lines in which the pattern occurs. -/
def grep (pattern : Text) (lines : List Text) : List Text := lines.filter (grepQ pattern)

/-- Lines in which the pattern does not occur: `grep -v`. -/
def grepV (pattern : Text) (lines : List Text) : List Text :=
  lines.filter fun line => !grepQ pattern line

/-- A field of a line: `awk -F` with the separator, `{print $n}`. -/
def awkField (separator : Char) (n : Nat) (line : Text) : Text :=
  (line.splitOn separator).getD (n - 1) []

/-- A word of a line: `awk '{print $n}'`. -/
def awkWord (n : Nat) (line : Text) : Text := (words line).getD (n - 1) []

/-- Command substitution: newlines between the lines stay, those at the end are dropped. -/
def capture (lines : List Text) : Text :=
  (joinWith '\n' lines).rdropWhile (· == '\n')

theorem capture_singleton {line : Text} (oneLine : '\n' ∉ line) : capture [line] = line := by
  rw [capture, joinWith, List.intercalate_singleton, List.rdropWhile_eq_self_iff]
  intro nonempty newline
  have last := List.getLast_mem nonempty
  rw [beq_iff_eq.mp newline] at last
  exact oneLine last

/-- The words of a command's output are the words of its lines. -/
theorem words_capture (lines : List Text) : words (capture lines) = lines.flatMap words := by
  have ends : ∀ text : Text, words (text.rdropWhile (· == '\n')) = words text := by
    intro text
    induction text using List.reverseRecOn with
    | nil => rfl
    | append_singleton text c induction =>
        by_cases newline : c = '\n'
        · subst newline
          rw [List.rdropWhile_concat_pos _ _ _ rfl, induction, words_append_blank text [] rfl]
          exact (List.append_nil _).symm
        · rw [List.rdropWhile_concat_neg _ _ _ (by simpa using newline)]
  rw [capture, ends]
  induction lines with
  | nil => rfl
  | cons line lines induction =>
      cases lines with
      | nil => simp [joinWith]
      | cons next lines =>
          rw [joinWith_cons_cons, words_append_blank line _ rfl, induction]
          rfl

/-- A longer pattern selects among the lines of a shorter one. -/
theorem grep_grep {short long : Text} (inside : short <:+: long) (lines : List Text) :
    grep long (grep short lines) = grep long lines := by
  rw [grep, grep, List.filter_filter, grep]
  apply List.filter_congr
  intro line _
  cases found : grepQ long line with
  | false => rfl
  | true =>
      have whole : long <:+: line := by simpa [grepQ] using found
      simpa [grepQ] using inside.trans whole

/-! ## Parts of a line -/

/-- A word counted from the end: `awk '{print $(NF-n)}'`.  The field `$0` is the whole line, and
there is no field below it. -/
def awkFromEnd (n : Nat) (line : Text) : Text :=
  let fields := words line
  if n < fields.length then fields.getD (fields.length - n - 1) []
  else if n = fields.length then line
  else []

/-- The text behind the last occurrence of a marker, as `s/.*marker\(.*\)/\1/` finds it. -/
def behindLast (marker : Text) : Text → Option Text
  | [] => none
  | c :: cs =>
      match behindLast marker cs with
      | some rest => some rest
      | none =>
          if marker.isPrefixOf (c :: cs) then some ((c :: cs).drop marker.length) else none

/-- Lines with one of two patterns: `grep -E "first|second"`. -/
def grepEither (first second : Text) (lines : List Text) : List Text :=
  lines.filter fun line => grepQ first line || grepQ second line

/-- The loop of `grep -A`: how many lines are still printed after the last match, whether anything
has been printed, and whether a line has been left out since. -/
def grepAfterLoop (pattern : Text) (context : Nat) : Nat → Bool → Bool → List Text → List Text
  | _, _, _, [] => []
  | pending, seen, gap, line :: rest =>
      if grepQ pattern line then
        (if seen && gap then ["--".toList] else []) ++
          line :: grepAfterLoop pattern context context true false rest
      else if pending = 0 then grepAfterLoop pattern context 0 seen true rest
      else line :: grepAfterLoop pattern context (pending - 1) seen gap rest

/-- `grep -A context pattern`, with `--` between groups that are not neighbours. -/
def grepAfter (pattern : Text) (context : Nat) (lines : List Text) : List Text :=
  grepAfterLoop pattern context 0 false false lines

/-- The selected lines without the separators. -/
def contextLines (pattern : Text) (context : Nat) : Nat → List Text → List Text
  | _, [] => []
  | pending, line :: rest =>
      if grepQ pattern line then line :: contextLines pattern context context rest
      else if pending = 0 then contextLines pattern context 0 rest
      else line :: contextLines pattern context (pending - 1) rest

/-- `grep -v "\-\-"` removes the separators and nothing else. -/
theorem grepV_grepAfterLoop {pattern : Text} {context pending : Nat} {seen gap : Bool}
    {lines : List Text} (plain : ∀ line ∈ lines, grepQ "--" line = false) :
    grepV "--" (grepAfterLoop pattern context pending seen gap lines) =
      contextLines pattern context pending lines := by
  induction lines generalizing pending seen gap with
  | nil => rfl
  | cons line rest induction =>
      have later : ∀ other ∈ rest, grepQ "--" other = false :=
        fun other member => plain other (List.mem_cons_of_mem line member)
      have kept : ∀ tail, grepV "--" (line :: tail) = line :: grepV "--" tail := by
        intro tail
        rw [grepV, List.filter_cons_of_pos (by rw [plain line List.mem_cons_self]; rfl)]
        rfl
      have separator : ∀ tail, grepV "--" ((if seen && gap then ["--".toList] else []) ++ tail) =
          grepV "--" tail := by
        intro tail
        cases seen && gap <;> rfl
      rw [grepAfterLoop, contextLines]
      by_cases found : grepQ pattern line = true
      · rw [if_pos found, if_pos found, separator, kept, induction later]
      · rw [if_neg found, if_neg found]
        by_cases ended : pending = 0
        · rw [if_pos ended, if_pos ended, induction later]
        · rw [if_neg ended, if_neg ended, kept, induction later]

/-- A line and the two lines behind it are selected together, and the selection starts afresh. -/
theorem contextLines_three {pattern second third : Text} (first : Text) (rest : List Text)
    (notSecond : grepQ pattern second = false) (notThird : grepQ pattern third = false) :
    contextLines pattern 2 0 (first :: second :: third :: rest) =
      (if grepQ pattern first then [first, second, third] else []) ++
        contextLines pattern 2 0 rest := by
  cases found : grepQ pattern first with
  | true => simp [contextLines, found, notSecond, notThird]
  | false => simp [contextLines, found, notSecond, notThird]

theorem mem_contextLines {pattern line : Text} {context pending : Nat} {lines : List Text}
    (member : line ∈ lines) (found : grepQ pattern line = true) :
    line ∈ contextLines pattern context pending lines := by
  induction lines generalizing pending with
  | nil => simp at member
  | cons first rest induction =>
      rw [contextLines]
      rcases List.mem_cons.mp member with rfl | later
      · rw [if_pos found]
        exact List.mem_cons_self
      · split
        · exact List.mem_cons_of_mem first (induction later)
        · split
          · exact induction later
          · exact List.mem_cons_of_mem first (induction later)

/-- A filter that knows the position of a line selects that line. -/
theorem filter_mapIdx {X Y : Type} {keep : Y → Bool} {f : Nat → X → Y} (items : List X)
    {position : Nat} (known : ∀ i item, keep (f i item) = decide (i = position)) :
    (items.mapIdx f).filter keep = (items[position]?.map (f position)).toList := by
  induction items generalizing f position with
  | nil => rfl
  | cons item items induction =>
      rw [List.mapIdx_cons, List.filter_cons, known]
      cases position with
      | zero =>
          have others : (items.mapIdx fun i => f (i + 1)).filter keep = [] := by
            rw [List.filter_eq_nil_iff]
            intro line member
            obtain ⟨i, inside, rfl⟩ := List.mem_mapIdx.mp member
            simp [known]
          simp [others]
      | succ position =>
          have shifted : ∀ i item, keep (f (i + 1) item) = decide (i = position) := by
            intro i item
            simp [known]
          simpa using induction shifted

end Shell
