import ArmTest.Shell.Filter
import ArmTest.Shell.Sed

/-!
# Columns and slices

Filters that take some of the lines, fields or characters of a text, and slices of arrays.
-/

namespace Shell

/-! ## Filters -/

/-- `head -n`. -/
def headLines (count : Nat) (lines : List Text) : List Text := lines.take count

/-- `tail -n`. -/
def tailLines (count : Nat) (lines : List Text) : List Text := lines.drop (lines.length - count)

/-- `cut -d " " -f first-last`; a line without a blank is printed whole. -/
def cutFields (first last : Nat) (line : Text) : Text :=
  if ' ' ∈ line then joinWith ' ' (((line.splitOn ' ').drop (first - 1)).take (last + 1 - first))
  else line

/-- `tr`. -/
def tr (old new : Char) (text : Text) : Text := text.map fun c => if c = old then new else c

/-- The expansion `${array[@]:offset:length}`. -/
def slice {X : Type} (offset length : Nat) (array : List X) : List X :=
  (array.drop offset).take length

/-! ## Fields -/

end Shell
