import ArmTest.Shell.Text

/-!
# Command lines

The part of the shell grammar that generated command lines use: words with backquoted commands
inside them, comments, lists of commands joined by `&&` and `||`, and the arithmetic of `expr`.
-/

namespace Shell

/-! ## Words -/

/-- Split a line at blanks outside backquotes; the flag says whether a backquote is open. -/
def wordsFrom : Bool → Text → Text → List Text
  | _, word, [] => if word = [] then [] else [word]
  | quoted, word, c :: cs =>
      if c = '`' then
        wordsFrom (!quoted) (word ++ [c]) cs
      else if c = ' ' ∧ quoted = false then
        (if word = [] then [] else [word]) ++ wordsFrom false [] cs
      else
        wordsFrom quoted (word ++ [c]) cs

/-- The words of a line up to a comment. -/
def shellWords (line : Text) : List Text :=
  (wordsFrom false [] line).takeWhile fun word => word.head? ≠ some '#'

theorem wordsFrom_plain {text : Text} (word rest : Text) (noBlank : ' ' ∉ text)
    (noQuote : '`' ∉ text) :
    wordsFrom false word (text ++ rest) = wordsFrom false (word ++ text) rest := by
  induction text generalizing word with
  | nil => simp
  | cons c text induction =>
      rw [List.mem_cons, not_or] at noBlank noQuote
      rw [List.cons_append, wordsFrom, if_neg (Ne.symm noQuote.1),
        if_neg fun blank => noBlank.1 blank.1.symm, induction (word ++ [c]) noBlank.2 noQuote.2]
      simp

theorem wordsFrom_inside {text : Text} (word rest : Text) (noQuote : '`' ∉ text) :
    wordsFrom true word (text ++ '`' :: rest) = wordsFrom false (word ++ text ++ ['`']) rest := by
  induction text generalizing word with
  | nil => simp [wordsFrom]
  | cons c text induction =>
      rw [List.mem_cons, not_or] at noQuote
      rw [List.cons_append, wordsFrom, if_neg (Ne.symm noQuote.1), if_neg (by simp),
        induction (word ++ [c]) noQuote.2]
      simp

/-- A backquoted command belongs to the word around it, blanks included. -/
theorem wordsFrom_quoted {command : Text} (word rest : Text) (noQuote : '`' ∉ command) :
    wordsFrom false word ('`' :: (command ++ '`' :: rest)) =
      wordsFrom false (word ++ '`' :: (command ++ ['`'])) rest := by
  rw [wordsFrom, if_pos rfl, Bool.not_false, wordsFrom_inside (word ++ ['`']) rest noQuote]
  simp

theorem wordsFrom_blank {word : Text} (rest : Text) (nonempty : word ≠ []) :
    wordsFrom false word (' ' :: rest) = word :: wordsFrom false [] rest := by
  rw [wordsFrom, if_neg (by decide), if_pos ⟨rfl, rfl⟩, if_neg nonempty]
  rfl

theorem wordsFrom_end {word : Text} (nonempty : word ≠ []) : wordsFrom false word [] = [word] := by
  rw [wordsFrom, if_neg nonempty]

/-! ## Lists of commands -/

section

variable {E : Type}

/-- Run a list of commands.  The flags say whether the command being read is due and how the last
one that ran ended. -/
def runList (simple : List Text → List E × Bool) : Bool → Bool → List Text → List Text → List E
  | due, _, command, [] => if due then (simple command).1 else []
  | due, success, command, word :: words =>
      if word = "&&" ∨ word = "||" then
        let result := if due then simple command else ([], success)
        result.1 ++ runList simple (result.2 == decide (word = "&&")) result.2 [] words
      else
        runList simple due success (command ++ [word]) words

/-- Run a line. -/
def runLine (simple : List Text → List E × Bool) (line : Text) : List E :=
  runList simple true true [] (shellWords line)

theorem runList_words {simple : List Text → List E × Bool} {words : List Text} (due success : Bool)
    (command rest : List Text) (plain : ∀ word ∈ words, word ≠ "&&" ∧ word ≠ "||") :
    runList simple due success command (words ++ rest) =
      runList simple due success (command ++ words) rest := by
  induction words generalizing command with
  | nil => simp
  | cons word words induction =>
      have head := plain word List.mem_cons_self
      have tail := induction (command ++ [word]) fun other member =>
        plain other (List.mem_cons_of_mem word member)
      rw [List.cons_append, runList, if_neg (not_or.mpr head), tail]
      simp

/-- A line with one command. -/
theorem runLine_simple {simple : List Text → List E × Bool} {line : Text} {words : List Text}
    (split : shellWords line = words) (plain : ∀ word ∈ words, word ≠ "&&" ∧ word ≠ "||") :
    runLine simple line = (simple words).1 := by
  have whole : runList simple true true [] (words ++ []) = runList simple true true words [] :=
    runList_words true true [] [] plain
  rw [List.append_nil] at whole
  rw [runLine, split, whole]
  rfl

end

/-! ## Arithmetic -/

/-- Operators of `expr` from the left; the numbers hold the finished sum and the open product. -/
def exprLoop (arg : Text → Option Nat) : Nat → Nat → List Text → Option Nat
  | sum, product, [] => some (sum + product)
  | _, _, [_] => none
  | sum, product, operator :: word :: words =>
      (arg word).bind fun value =>
        if operator = "+" then exprLoop arg (sum + product) value words
        else if operator = "/" then
          if value = 0 then none else exprLoop arg sum (product / value) words
        else if operator = "%" then
          if value = 0 then none else exprLoop arg sum (product % value) words
        else none

/-- The value of a command `expr`, with the given reading of its arguments. -/
def expr (arg : Text → Option Nat) : List Text → Option Nat
  | name :: word :: words =>
      if name = "expr" then (arg word).bind fun value => exprLoop arg 0 value words else none
  | _ => none

example : expr parseNat? [("expr" : Text), "8", "+", "5", "/", "2"] = some 10 := by decide

end Shell
