import ArmTest.Shell.Sed

/-!
# Job files of the storage benchmark

The shipped job files have three placeholders, each at the end of a line.  The script fills them in
and empties them again with `sed` substitutions on fixed line numbers.
-/

namespace Fio

open Shell

/-! ## Job files -/

/-- The test types of the script. -/
inductive FioTest where
  | iops
  | bw
  deriving DecidableEq

/-- The access modes. -/
inductive RwMode where
  | read
  | write
  | randread
  | randwrite
  deriving DecidableEq

/-- The word of an access mode. -/
def RwMode.text : RwMode → Text
  | .read => "read"
  | .write => "write"
  | .randread => "randread"
  | .randwrite => "randwrite"

/-- The variable `TEST_ARRAY`. -/
def testArray : FioTest → List RwMode
  | .iops => [.randread, .randwrite]
  | .bw => [.read, .write]

/-- A job file with the given values in its three open lines. -/
def jobFile (test : FioTest) (device rw cpus : Text) : List Text :=
  ["[global]", "filename=/dev" ++ '/' :: device, "rw" ++ '=' :: rw, "ioengine=libaio", "direct=1",
    "iodepth=32", "thread",
    match test with
    | .iops => "numjobs=8"
    | .bw => "numjobs=2",
    match test with
    | .iops => "bs=4k"
    | .bw => "bs=1m",
    "runtime=60", "time_based", "cpus_allowed" ++ '=' :: cpus, "cpus_allowed_policy=split",
    "numa_mem_policy=local", "group_reporting", "",
    match test with
    | .iops => "[iops-test]"
    | .bw => "[throughout-test]"]

/-- The job file as it is shipped. -/
def shipped (test : FioTest) : List Text := jobFile test "DEVICE" "RWMODE" "CPU_LIST"

/-! ## Values -/

/-- A word that stands behind a separator and can be replaced there and restored. -/
structure Replaceable (key : Text) (separator : Char) (word : Text) : Prop where
  /-- The word is not empty. -/
  nonempty : word ≠ []
  /-- `sed` takes all its characters literally. -/
  literal : ∀ c ∈ word, Literal c
  /-- It does not contain the separator. -/
  separate : separator ∉ word
  /-- It does not occur in the key. -/
  absent : ¬ word <:+: key

/-- A replaceable word at the end of its line is replaced by the other text. -/
theorem Replaceable.substitute {key word replacement : Text} {separator : Char}
    (value : Replaceable key separator word) (inert : ∀ c ∈ replacement, active c = false) :
    substitute word replacement (key ++ separator :: word) = key ++ separator :: replacement := by
  have line : ∀ text, key ++ separator :: text = (key ++ [separator]) ++ text := by
    intro text
    simp
  have replaced : Shell.substitute word replacement ((key ++ [separator]) ++ (word ++ [])) = _ :=
    substitute_word replacement (fun c member => (value.literal c member).1) value.nonempty
      (fun left right split rightNonempty =>
        not_prefix_separated [] value.separate value.absent split rightNonempty)
      (by
        rw [List.infix_nil]
        exact value.nonempty)
  rw [expand_inert _ inert, List.append_nil, List.append_nil] at replaced
  rw [line word, line replacement, replaced]

/-- A word that does not occur on the line changes nothing. -/
theorem substitute_absent {word line : Text} (replacement : Text)
    (plain : ∀ c ∈ word, special c = false) (absent : ¬ word <:+: line) :
    substitute word replacement line = line := by
  apply substitute_of_not_occurs
  rwa [atoms_plain plain, occurs_char_iff]

/-! ## Filling and emptying the placeholders -/

/-- Edit the line of the device. -/
theorem editLine_device {device device' : Text} (test : FioTest) (rw cpus : Text)
    {edit : Text → Text}
    (edits : edit ("filename=/dev" ++ '/' :: device) = "filename=/dev" ++ '/' :: device') :
    editLine 2 edit (jobFile test device rw cpus) = jobFile test device' rw cpus := by
  simp only [editLine, jobFile, Nat.reduceSub, List.modify_succ_cons, List.modify_zero_cons, edits]

/-- Edit the line of the mode. -/
theorem editLine_mode {rw rw' : Text} (test : FioTest) (device cpus : Text) {edit : Text → Text}
    (edits : edit ("rw" ++ '=' :: rw) = "rw" ++ '=' :: rw') :
    editLine 3 edit (jobFile test device rw cpus) = jobFile test device rw' cpus := by
  simp only [editLine, jobFile, Nat.reduceSub, List.modify_succ_cons, List.modify_zero_cons, edits]

/-- Edit the line of the processors. -/
theorem editLine_cpus {cpus cpus' : Text} (test : FioTest) (device rw : Text) {edit : Text → Text}
    (edits : edit ("cpus_allowed" ++ '=' :: cpus) = "cpus_allowed" ++ '=' :: cpus') :
    editLine 12 edit (jobFile test device rw cpus) = jobFile test device rw cpus' := by
  simp only [editLine, jobFile, Nat.reduceSub, List.modify_succ_cons, List.modify_zero_cons, edits]

theorem replaceable_device : Replaceable "filename=/dev" '/' "DEVICE" where
  nonempty := by simp
  literal := by simp [Literal, special, active]
  separate := by simp
  absent := by decide

theorem replaceable_rwmode : Replaceable "rw" '=' "RWMODE" where
  nonempty := by simp
  literal := by simp [Literal, special, active]
  separate := by simp
  absent := by decide

theorem replaceable_cpuList : Replaceable "cpus_allowed" '=' "CPU_LIST" where
  nonempty := by simp
  literal := by simp [Literal, special, active]
  separate := by simp
  absent := by decide

theorem replaceable_mode (mode : RwMode) : Replaceable "rw" '=' mode.text := by
  cases mode <;> unfold RwMode.text <;>
  · refine { nonempty := ?_, literal := ?_, separate := ?_, absent := ?_ }
    · simp
    · simp [Literal, special, active]
    · simp
    · decide

end Fio
