import ArmTest.Shell.Text
import Mathlib.Data.Set.Basic
import Mathlib.Order.Interval.Set.Basic

/-!
# Processor lists of the kernel

Lists such as `0-7,16-23`, as `lscpu` prints them and as the kernel reads them from parameters of
its command line, with the sets of processors they stand for.
-/

namespace Linux

open Shell

/-! ## Lists -/

/-- One entry of a processor list. -/
inductive Segment where
  | one (cpu : Nat)
  | range (first last : Nat)
  deriving DecidableEq

/-- The text of an entry. -/
def Segment.text : Segment → Text
  | .one cpu => decimal cpu
  | .range first last => decimal first ++ "-" ++ decimal last

/-- The first processor of an entry. -/
def Segment.first : Segment → Nat
  | .one cpu => cpu
  | .range first _ => first

/-- The processors of an entry. -/
def Segment.cpus : Segment → Set Nat
  | .one cpu => {cpu}
  | .range first last => Set.Icc first last

/-- The text of a list. -/
def cpuString (segments : List Segment) : Text := joinWith ',' (segments.map Segment.text)

/-- The processors of a list. -/
def cpus (segments : List Segment) : Set Nat :=
  { cpu | ∃ segment ∈ segments, cpu ∈ segment.cpus }

/-- Every entry is an interval in the right order below the bound. -/
def Proper (bound : Nat) (segments : List Segment) : Prop :=
  ∀ segment ∈ segments, ∃ first last, segment = .range first last ∧ first ≤ last ∧ last < bound

/-- Read one entry. -/
def parseSegment (text : Text) : Option Segment :=
  match text.splitOn '-' with
  | [cpu] => (parseNat? cpu).map .one
  | [first, last] =>
      (parseNat? first).bind fun first => (parseNat? last).map fun last => .range first last
  | _ => none

/-- Read a list. -/
def parseCpuList (text : Text) : Option (List Segment) := (text.splitOn ',').mapM parseSegment

theorem Segment.text_range (first last : Nat) :
    (Segment.range first last).text = decimal first ++ '-' :: decimal last := by
  simp [Segment.text]

theorem Segment.dash_mem_text_range (first last : Nat) :
    '-' ∈ (Segment.range first last).text := by
  rw [Segment.text_range]
  exact List.mem_append_right _ List.mem_cons_self

theorem splitOn_one (cpu : Nat) : (Segment.one cpu).text.splitOn '-' = [decimal cpu] :=
  List.splitOn_eq_singleton (not_mem_decimal rfl)

theorem splitOn_range (first last : Nat) :
    (Segment.range first last).text.splitOn '-' = [decimal first, decimal last] := by
  rw [Segment.text_range, List.splitOn_append_cons_self_of_not_mem (not_mem_decimal rfl),
    List.splitOn_eq_singleton (not_mem_decimal rfl)]

theorem parseSegment_text (segment : Segment) : parseSegment segment.text = some segment := by
  cases segment with
  | one cpu => simp [parseSegment, splitOn_one]
  | range first last => simp [parseSegment, splitOn_range]

theorem not_mem_segment {c : Char} (segment : Segment) (notDigit : c.isDigit = false)
    (notDash : c ≠ '-') : c ∉ segment.text := by
  cases segment with
  | one cpu => exact not_mem_decimal notDigit
  | range first last => simp [Segment.text, not_mem_decimal notDigit, notDash]

theorem splitOn_cpuString {segments : List Segment} (nonempty : segments ≠ []) :
    (cpuString segments).splitOn ',' = segments.map Segment.text := by
  apply splitOn_joinWith
  · simpa using nonempty
  · intro word member
    obtain ⟨segment, -, rfl⟩ := List.mem_map.mp member
    exact not_mem_segment segment rfl (by decide)

/-- The text before the first dash of an entry is its first processor. -/
theorem splitOn_segment_headD (segment : Segment) :
    (segment.text.splitOn '-').headD [] = decimal segment.first := by
  cases segment with
  | one cpu => simp [splitOn_one, Segment.first]
  | range first last => simp [splitOn_range, Segment.first]

/-- Reading a printed list gives it back. -/
theorem parseCpuList_cpuString {segments : List Segment} (nonempty : segments ≠ []) :
    parseCpuList (cpuString segments) = some segments := by
  rw [parseCpuList, splitOn_cpuString nonempty]
  clear nonempty
  induction segments with
  | nil => rfl
  | cons segment segments induction =>
      simp [List.mapM_cons, parseSegment_text, induction]

theorem not_mem_cpuString {c : Char} (segments : List Segment) (notDigit : c.isDigit = false)
    (notDash : c ≠ '-') (notComma : c ≠ ',') : c ∉ cpuString segments := by
  intro member
  rcases mem_joinWith member with comma | ⟨word, inside, later⟩
  · exact notComma comma
  · obtain ⟨segment, -, rfl⟩ := List.mem_map.mp inside
    exact not_mem_segment segment notDigit notDash later

/-! ## Parameters of the command line -/

/-- The value of a word `key=value`. -/
def wordValue (key word : Text) : Option Text :=
  if word.takeWhile (· ≠ '=') = key ∧ '=' ∈ word then
    some ((word.dropWhile (· ≠ '=')).drop 1)
  else
    none

/-- The value of a parameter. -/
def kernelParam (key cmdline : Text) : Option Text :=
  (cmdline.splitOn ' ').findSome? (wordValue key)

/-- The text of a list of parameters. -/
def paramString (params : List (Text × Text)) : Text :=
  joinWith ' ' (params.map fun param => param.1 ++ "=" ++ param.2)

theorem wordValue_param (key : Text) {name value : Text} (plain : '=' ∉ name) :
    wordValue key (name ++ "=" ++ value) = if name = key then some value else none := by
  have before : ∀ c ∈ name, (c ≠ '=' : Bool) = true := by
    intro c member
    simp only [ne_eq, decide_not, Bool.not_eq_true', decide_eq_false_iff_not]
    rintro rfl
    exact plain member
  have split : name ++ "=" ++ value = name ++ '=' :: value := by simp
  rw [wordValue, split, List.takeWhile_append_of_pos before, List.dropWhile_append_of_pos before]
  simp

/-- Each parameter of a printed command line is found again. -/
theorem kernelParam_paramString {params : List (Text × Text)} {name value : Text}
    (member : (name, value) ∈ params) (distinct : (params.map Prod.fst).Nodup)
    (plain : ∀ param ∈ params, '=' ∉ param.1 ∧ ' ' ∉ param.1 ∧ ' ' ∉ param.2) :
    kernelParam name (paramString params) = some value := by
  have words : (paramString params).splitOn ' ' =
      params.map fun param => param.1 ++ ("=" : Text) ++ param.2 := by
    apply splitOn_joinWith
    · simpa using List.ne_nil_of_mem member
    · intro word wordMember
      obtain ⟨param, inside, rfl⟩ := List.mem_map.mp wordMember
      obtain ⟨-, nameFree, valueFree⟩ := plain param inside
      simp [nameFree, valueFree]
  rw [kernelParam, words]
  clear words
  induction params with
  | nil => simp at member
  | cons param params induction =>
      have head : wordValue name (param.1 ++ "=" ++ param.2) =
          if param.1 = name then some param.2 else none :=
        wordValue_param name (plain param List.mem_cons_self).1
      rw [List.map_cons, List.nodup_cons] at distinct
      rw [List.map_cons, List.findSome?_cons, head]
      rcases List.mem_cons.mp member with rfl | later
      · rw [if_pos rfl]
      · have other : param.1 ≠ name := by
          rintro rfl
          exact distinct.1 (List.mem_map.mpr ⟨(param.1, value), later, rfl⟩)
        rw [if_neg other]
        exact induction later distinct.2 fun param inside =>
          plain param (List.mem_cons_of_mem _ inside)

end Linux
