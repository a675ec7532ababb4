import ArmTest.Shell.Filter
import Mathlib.Algebra.Order.Ring.Nat
import Mathlib.Data.Nat.Log

/-!
# The BIOS stage of the pipeline

The pipeline writes a NUMA setting into the BIOS of a server with few nodes and reboots it.  The
number of nodes is compared as text, and the flag for the reboot is set behind all branches.
-/

namespace Nginx

open Shell

/-! ## The program -/

/-- What the server reports. -/
structure Reported where
  /-- Lines of `lscpu`. -/
  lscpu : List Text
  /-- Lines of `numactl -H`. -/
  numactl : List Text
  /-- The output of `uname -r`. -/
  uname : Text

/-- `String.trim`. -/
def trim (text : Text) : Text :=
  (text.dropWhile fun c => c.toNat ≤ 32).rdropWhile fun c => c.toNat ≤ 32

/-- `String.compareTo`, as the operator `<` uses it. -/
def textLess : Text → Text → Bool
  | _, [] => false
  | [], _ :: _ => true
  | c :: first, d :: second => c.toNat < d.toNat || c.toNat == d.toNat && textLess first second

namespace Reported

/-- The variable `cpu_type`. -/
def cpuType (server : Reported) : Text :=
  trim (joinWith '\n' ((server.lscpu.filter fun line =>
    ("Model name:" : Text).isPrefixOf line).map (awkField ':' 2)))

/-- The number of nodes. -/
def nodeCount (server : Reported) : Nat := (grep "cpus:" server.numactl).length

/-- The variable `numa_num`: the output of `wc -l`. -/
def numaNum (server : Reported) : Text := decimal server.nodeCount ++ "\n"

/-- The kernel stage upgrades the kernel. -/
def upgrades (server : Reported) : Bool := !("5.10" : Text).isPrefixOf (trim server.uname)

end Reported

/-- Processors that the stage handles. -/
inductive Family where
  | ampere
  | kunpeng
  | intel
  | amd
  deriving DecidableEq

/-- The first family whose name begins the type of the processor. -/
def familyOf (cpuType : Text) : Option Family :=
  if ("Ampere" : Text).isPrefixOf cpuType then some .ampere
  else if ("Kunpeng" : Text).isPrefixOf cpuType then some .kunpeng
  else if ("Intel" : Text).isPrefixOf cpuType then some .intel
  else if ("AMD" : Text).isPrefixOf cpuType then some .amd
  else none

/-- A call of `bios.py`. -/
structure BiosCall where
  /-- The option `--ability`. -/
  ability : Text
  /-- The option `--reboot`. -/
  reboot : Bool
  /-- The option `--attributes`. -/
  attributes : Text
  deriving DecidableEq

/-- The branches for the families: the call, and the variable `need_reboot`. -/
def setNuma (family : Option Family) (needReboot : Nat) : List BiosCall × Nat :=
  match family with
  | some .ampere => ([⟨"set", false, "\x7b\"CPU003\":\"CPU003Monolithic\"\x7d"⟩], needReboot)
  | some .kunpeng =>
      ([⟨"set", false, "\x7b\"RankInterleaving\":\"4-way Interleave\",\"NUMAEn\":\"Enabled\"\x7d"⟩],
        needReboot)
  | some .intel => ([⟨"set", true, "\x7b\"SubNumaCluster\":\"2-Way\"\x7d"⟩], 0)
  | some .amd => ([⟨"set", true, "\x7b\"NumaNodesPerSocket\":\"4\"\x7d"⟩], 0)
  | none => ([], needReboot)

/-- The first part of the stage; behind the branches `need_reboot` is set. -/
def setNumaNodes (numaNum cpuType : Text) (needReboot : Nat) : List BiosCall × Nat :=
  if textLess numaNum "4" then ((setNuma (familyOf cpuType) needReboot).1, 1)
  else ([], needReboot)

/-- The stage `setBIOS`. -/
def setBios (numaNum cpuType : Text) (needReboot : Nat) : List BiosCall :=
  let numa := setNumaNodes numaNum cpuType needReboot
  numa.1 ++ if numa.2 = 1 then [⟨"reboot", true, "\x7b\x7d"⟩] else []

/-- The stages `updateKernel` and `setBIOS`. -/
def biosCalls (server : Reported) : List BiosCall :=
  let needReboot := if server.upgrades then 1 else 0
  setBios server.numaNum server.cpuType needReboot

/-! ## What the stage is for -/

/-- A setting is written. -/
def WritesSetting (calls : List BiosCall) : Prop := ∃ call ∈ calls, call.ability = "set".toList

/-- A setting is written on a server with fewer than four nodes and a known processor, and the
server is rebooted once if a setting was written or the kernel was upgraded, and else not. -/
structure SetsUp (server : Reported) (calls : List BiosCall) : Prop where
  /-- When a setting is written. -/
  written : WritesSetting calls ↔ server.nodeCount < 4 ∧ familyOf server.cpuType ≠ none
  /-- There is at most one reboot. -/
  once : (calls.filter BiosCall.reboot).length ≤ 1
  /-- When there is a reboot. -/
  rebooted : (∃ call ∈ calls, call.reboot = true) ↔ WritesSetting calls ∨ server.upgrades = true

/-! ## Numbers as text -/

/-- The first decimal digit. -/
def leadingDigit (n : Nat) : Nat := n / 10 ^ Nat.log 10 n

theorem leadingDigit_of_lt {n : Nat} (small : n < 10) : leadingDigit n = n := by
  rw [leadingDigit, Nat.log_of_lt small, Nat.pow_zero, Nat.div_one]

theorem leadingDigit_div {n : Nat} (large : 10 ≤ n) : leadingDigit n = leadingDigit (n / 10) := by
  rw [leadingDigit, leadingDigit, Nat.log_of_one_lt_of_le (by omega) large, Nat.pow_succ',
    Nat.div_div_eq_div_mul]

theorem leadingDigit_lt (n : Nat) : leadingDigit n < 10 := by
  induction n using Nat.strong_induction_on with
  | h n induction =>
      by_cases small : n < 10
      · rwa [leadingDigit_of_lt small]
      · rw [leadingDigit_div (by omega)]
        exact induction (n / 10) (by omega)

/-- A numeral begins with its leading digit. -/
theorem decimal_head (n : Nat) : ∃ rest, decimal n = Nat.digitChar (leadingDigit n) :: rest := by
  induction n using Nat.strong_induction_on with
  | h n induction =>
      by_cases small : n < 10
      · refine ⟨[], ?_⟩
        rw [leadingDigit_of_lt small, decimal, Nat.toDigits_of_lt_base small]
      · obtain ⟨rest, start⟩ := induction (n / 10) (by omega)
        refine ⟨rest ++ [Nat.digitChar (n % 10)], ?_⟩
        rw [leadingDigit_div (by omega), decimal, Nat.toDigits_of_base_le (by omega) (by omega)]
        exact congrArg (· ++ [Nat.digitChar (n % 10)]) start

/-- Only the leading digit is compared. -/
theorem textLess_four (n : Nat) :
    textLess (decimal n ++ "\n") "4" = decide (leadingDigit n < 4) := by
  obtain ⟨rest, start⟩ := decimal_head n
  have code := Nat.toNat_digitChar_of_lt_ten (leadingDigit_lt n)
  have ends : textLess (rest ++ "\n".toList) [] = false := by cases rest <;> rfl
  have compared : textLess (decimal n ++ "\n".toList) "4".toList =
      (decide ((Nat.digitChar (leadingDigit n)).toNat < '4'.toNat) ||
        (Nat.digitChar (leadingDigit n)).toNat == '4'.toNat &&
          textLess (rest ++ "\n".toList) []) := by
    rw [start]
    rfl
  rw [compared, ends, code, Bool.and_false, Bool.or_false]
  apply decide_eq_decide.mpr
  have four : '4'.toNat = 52 := rfl
  rw [four]
  omega

/-! ## The stage -/

section

variable {server : Reported}

/-- With a large leading digit nothing is written. -/
theorem biosCalls_large (large : 4 ≤ leadingDigit server.nodeCount) :
    biosCalls server = if server.upgrades then [⟨"reboot", true, "\x7b\x7d"⟩] else [] := by
  have compared : textLess server.numaNum "4" = false := by
    rw [Reported.numaNum, textLess_four, decide_eq_false_iff_not]
    omega
  rw [biosCalls, setBios, setNumaNodes, compared]
  cases server.upgrades <;> rfl

/-- With a small leading digit the branch of the family is taken, and the server is rebooted. -/
theorem biosCalls_small (small : leadingDigit server.nodeCount < 4) :
    biosCalls server =
      (setNuma (familyOf server.cpuType) 0).1 ++ [⟨"reboot", true, "\x7b\x7d"⟩] := by
  have compared : textLess server.numaNum "4" = true := by
    rw [Reported.numaNum, textLess_four, decide_eq_true_iff]
    exact small
  have same : ∀ needReboot, (setNuma (familyOf server.cpuType) needReboot).1 =
      (setNuma (familyOf server.cpuType) 0).1 := by
    intro needReboot
    cases familyOf server.cpuType with
    | none => rfl
    | some family => cases family <;> rfl
  rw [biosCalls, setBios, setNumaNodes, compared, if_pos rfl, if_pos rfl, same]

theorem setsUp_large (large : 4 ≤ leadingDigit server.nodeCount) :
    SetsUp server (biosCalls server) := by
  have many : ¬ server.nodeCount < 4 := by
    intro few
    rw [leadingDigit_of_lt (by omega)] at large
    omega
  have silent : ¬ WritesSetting (biosCalls server) := by
    rw [biosCalls_large large]
    cases server.upgrades <;> simp [WritesSetting]
  refine ⟨?_, ?_, ?_⟩
  · exact ⟨fun writes => absurd writes silent, fun both => absurd both.1 many⟩
  · rw [biosCalls_large large]
    cases server.upgrades <;> decide
  · rw [or_iff_right silent, biosCalls_large large]
    cases server.upgrades <;> simp

theorem reboots_behind (calls : List BiosCall) :
    ∃ call ∈ calls ++ [⟨"reboot", true, "\x7b\x7d"⟩], BiosCall.reboot call = true :=
  ⟨_, List.mem_append_right calls (List.mem_singleton_self _), rfl⟩

/-- Without a family nothing is written, and only an upgrade asks for the reboot. -/
theorem setsUp_unknown_iff (small : leadingDigit server.nodeCount < 4)
    (family : familyOf server.cpuType = none) :
    SetsUp server (biosCalls server) ↔ server.upgrades = true := by
  have calls := biosCalls_small small
  rw [family] at calls
  have silent : ¬ WritesSetting (biosCalls server) := by
    rw [calls]
    simp [WritesSetting, setNuma]
  constructor
  · intro sets
    exact (sets.rebooted.mp (calls ▸ reboots_behind _)).resolve_left silent
  · intro upgraded
    refine ⟨⟨fun writes => absurd writes silent, fun both => absurd family both.2⟩, ?_, ?_⟩
    · rw [calls]
      decide
    · exact ⟨fun _ => Or.inr upgraded, fun _ => calls ▸ reboots_behind _⟩

/-- With a family a setting is written, and two of the branches reboot themselves. -/
theorem setsUp_known_iff (small : leadingDigit server.nodeCount < 4) {kind : Family}
    (family : familyOf server.cpuType = some kind) :
    SetsUp server (biosCalls server) ↔
      server.nodeCount < 4 ∧ (kind = .ampere ∨ kind = .kunpeng) := by
  have calls := biosCalls_small small
  rw [family] at calls
  have writes : WritesSetting (biosCalls server) := by
    rw [calls]
    cases kind <;> exact ⟨_, List.mem_cons_self, rfl⟩
  have known : familyOf server.cpuType ≠ none := by simp [family]
  constructor
  · intro sets
    have few := (sets.written.mp writes).1
    have once := sets.once
    rw [calls] at once
    cases kind with
    | ampere => exact ⟨few, Or.inl rfl⟩
    | kunpeng => exact ⟨few, Or.inr rfl⟩
    | intel => exact absurd once (by decide)
    | amd => exact absurd once (by decide)
  · rintro ⟨few, handled⟩
    refine ⟨⟨fun _ => ⟨few, known⟩, fun _ => writes⟩, ?_, ?_⟩
    · rw [calls]
      rcases handled with rfl | rfl <;> decide
    · exact ⟨fun _ => Or.inl writes, fun _ => calls ▸ reboots_behind _⟩

/-- The branches reboot exactly once for the first two families and without a family. -/
theorem setsUp_small_iff (small : leadingDigit server.nodeCount < 4) :
    SetsUp server (biosCalls server) ↔
      server.nodeCount < 4 ∧ (familyOf server.cpuType = some .ampere ∨
        familyOf server.cpuType = some .kunpeng) ∨
      familyOf server.cpuType = none ∧ server.upgrades = true := by
  cases family : familyOf server.cpuType with
  | none =>
      rw [setsUp_unknown_iff small family]
      simp
  | some kind =>
      rw [setsUp_known_iff small family]
      simp

/-- The stage sets the server up exactly when the leading digit of the number of nodes
is at least four, or there are fewer than four nodes and the processor is from Ampere or Kunpeng,
or the processor is unknown and the kernel was upgraded. -/
theorem setsUp_iff (server : Reported) :
    SetsUp server (biosCalls server) ↔
      4 ≤ leadingDigit server.nodeCount ∨
      server.nodeCount < 4 ∧ (familyOf server.cpuType = some .ampere ∨
        familyOf server.cpuType = some .kunpeng) ∨
      familyOf server.cpuType = none ∧ server.upgrades = true := by
  by_cases large : 4 ≤ leadingDigit server.nodeCount
  · exact ⟨fun _ => Or.inl large, fun _ => setsUp_large large⟩
  · rw [setsUp_small_iff (by omega)]
    exact ⟨Or.inr, fun condition => condition.resolve_left large⟩

end

/-- An Intel server with two nodes and the right kernel. -/
def intelServer : Reported :=
  { lscpu := ["Model name:          Intel(R) Xeon(R) Platinum 8380 CPU @ 2.30GHz"]
    numactl := ["available: 2 nodes (0-1)", "node 0 cpus: 0 1", "node 1 cpus: 2 3"]
    uname := "5.10.0" }

/-- The server is rebooted with the setting and once more. -/
theorem intelServer_reboots_twice : ¬ SetsUp intelServer (biosCalls intelServer) := by
  intro sets
  have count : intelServer.nodeCount = 2 := rfl
  have small : leadingDigit intelServer.nodeCount < 4 := by
    rw [count, leadingDigit_of_lt (by omega)]
    omega
  have family : familyOf intelServer.cpuType = some .intel := rfl
  have once := sets.once
  rw [biosCalls_small small, family] at once
  exact absurd once (by decide)

end Nginx
