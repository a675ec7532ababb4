import ArmTest.Shell.Text

/-!
# Reading the configuration file

`ngx_conf_read_token` reads a configuration file byte by byte through a buffer of fixed size and
returns the words of one directive at a time.  This file has the reader with its flags, its buffer
and its errors, and the same reader without a buffer; the two agree as long as no parameter and no
comment is as long as the buffer.
-/

namespace Nginx.ConfFile

open Shell

/-! ## Words -/

/-- Bytes that separate words. -/
def isBlank (ch : Char) : Bool := ch == ' ' || ch == '\t' || ch == '\r' || ch == '\n'

/-- A backslash keeps its meaning before a quote, a backslash, `t`, `r` and `n` only. -/
def unescapeNext : Char → Option Char
  | '"' => some '"'
  | '\'' => some '\''
  | '\\' => some '\\'
  | 't' => some '\t'
  | 'r' => some '\r'
  | 'n' => some '\n'
  | _ => none

/-- The loop that copies the bytes of a word out of the buffer. -/
def copyWord : Text → Text
  | [] => []
  | [ch] => [ch]
  | ch :: next :: src =>
      if ch = '\\' then
        match unescapeNext next with
        | some plain => plain :: copyWord src
        | none => ch :: copyWord (next :: src)
      else ch :: copyWord (next :: src)

/-! ## The reader -/

/-- What a call returns before the end of the file. -/
inductive Token where
  /-- `NGX_OK`: words up to a semicolon. -/
  | ok (args : List Text)
  /-- `NGX_CONF_BLOCK_START`: words up to an opening brace. -/
  | blockStart (args : List Text)
  /-- `NGX_CONF_BLOCK_DONE`: a closing brace. -/
  | blockDone
  deriving DecidableEq

/-- What a call logs before it returns `NGX_ERROR`. -/
inductive TokenError where
  | unexpected (ch : Char)
  | unexpectedEnd
  | tooLong (started : Text)
  | unterminated (quote : Char)
  deriving DecidableEq

/-- The text of the log entry. -/
def TokenError.text : TokenError → Text
  | .unexpected ch => "unexpected \"" ++ [ch] ++ "\""
  | .unexpectedEnd => "unexpected end of file, expecting \";\" or \"\x7d\""
  | .tooLong started => "too long parameter \"" ++ started ++ "...\" started"
  | .unterminated quote =>
      "too long parameter, probably missing terminating \"" ++ [quote] ++ "\" character"

/-- The variables of a call between two bytes. -/
structure Scan where
  /-- Words already complete, `cf->args`. -/
  args : List Text
  /-- Bytes from `start` to `b->pos`. -/
  since : Text
  needSpace : Bool
  lastSpace : Bool
  sharpComment : Bool
  inVariable : Bool
  quoted : Bool
  sQuoted : Bool
  dQuoted : Bool
  deriving DecidableEq

/-- The variables at the beginning of a call. -/
def Scan.fresh : Scan where
  args := []
  since := []
  needSpace := false
  lastSpace := true
  sharpComment := false
  inVariable := false
  quoted := false
  sQuoted := false
  dQuoted := false

/-- One byte leads to the next byte, to the end of the call or to an error. -/
inductive Step where
  | scan (scan : Scan)
  | token (token : Token)
  | error (error : TokenError)
  deriving DecidableEq

/-- A complete word is copied, `if (found)`. -/
def Scan.found (scan : Scan) (ch : Char) : Step :=
  let args := scan.args ++ [copyWord scan.since.dropLast]
  if ch = ';' then .token (.ok args)
  else if ch = '{' then .token (.blockStart args)
  else .scan { scan with args := args }

/-- A byte behind a blank, `if (last_space)`. -/
def Scan.atSpace (scan : Scan) (ch : Char) : Step :=
  let scan := { scan with since := [ch] }
  if isBlank ch then .scan scan
  else if ch = ';' ∨ ch = '{' then
    if scan.args = [] then .error (.unexpected ch)
    else if ch = '{' then .token (.blockStart scan.args)
    else .token (.ok scan.args)
  else if ch = '}' then
    if scan.args ≠ [] then .error (.unexpected '}') else .token .blockDone
  else if ch = '#' then .scan { scan with sharpComment := true }
  else if ch = '\\' then .scan { scan with quoted := true, lastSpace := false }
  else if ch = '"' then .scan { scan with since := [], dQuoted := true, lastSpace := false }
  else if ch = '\'' then .scan { scan with since := [], sQuoted := true, lastSpace := false }
  else if ch = '$' then .scan { scan with inVariable := true, lastSpace := false }
  else .scan { scan with lastSpace := false }

/-- A byte inside a word, the `else` of `if (last_space)`. -/
def Scan.inWord (scan : Scan) (ch : Char) : Step :=
  if ch = '{' ∧ scan.inVariable = true then .scan scan
  else
    let scan := { scan with inVariable := false }
    if ch = '\\' then .scan { scan with quoted := true }
    else if ch = '$' then .scan { scan with inVariable := true }
    else if scan.dQuoted then
      if ch = '"' then { scan with dQuoted := false, needSpace := true }.found ch else .scan scan
    else if scan.sQuoted then
      if ch = '\'' then { scan with sQuoted := false, needSpace := true }.found ch else .scan scan
    else if isBlank ch ∨ ch = ';' ∨ ch = '{' then { scan with lastSpace := true }.found ch
    else .scan scan

/-- A byte behind a quoted word, `if (need_space)`. -/
def Scan.behindQuote (scan : Scan) (ch : Char) : Step :=
  if isBlank ch then .scan { scan with lastSpace := true, needSpace := false }
  else if ch = ';' then .token (.ok scan.args)
  else if ch = '{' then .token (.blockStart scan.args)
  else if ch = ')' then { scan with lastSpace := true, needSpace := false }.atSpace ch
  else .error (.unexpected ch)

/-- One byte of the loop, `ch = *b->pos++`. -/
def Scan.step (scan : Scan) (ch : Char) : Step :=
  let scan := { scan with
    since := scan.since ++ [ch]
    sharpComment := scan.sharpComment && ch != '\n' }
  if scan.sharpComment then .scan scan
  else if scan.quoted then .scan { scan with quoted := false }
  else if scan.needSpace then scan.behindQuote ch
  else if scan.lastSpace then scan.atSpace ch
  else scan.inWord ch

/-- `NGX_CONF_BUFFER`. -/
def confBuffer : Nat := 4096

/-- Refill the buffer when it is used up: the bytes since `start` move to its front and the file,
which still has `ahead` bytes, fills the rest.  The result is the number of bytes to read. -/
def Scan.refill (scan : Scan) (room ahead : Nat) : Except TokenError Nat :=
  if room ≠ 0 then .ok room
  else if scan.since.length = confBuffer then
    .error (if scan.dQuoted then .unterminated '"'
      else if scan.sQuoted then .unterminated '\''
      else .tooLong (scan.since.take 10))
  else .ok (min ahead (confBuffer - scan.since.length))

/-- The loop of `ngx_conf_read_token` on the rest of the file, with `room` unread bytes in the
buffer.  It returns the token, or none for `NGX_CONF_FILE_DONE`, the unread bytes in the buffer and
the rest of the file. -/
def ngxConfReadToken (scan : Scan) (room : Nat) :
    Text → Except TokenError (Option Token × Nat × Text)
  | [] =>
      if scan.args ≠ [] ∨ scan.lastSpace = false then .error .unexpectedEnd
      else .ok (none, room, [])
  | ch :: rest =>
      match scan.refill room (rest.length + 1) with
      | .error error => .error error
      | .ok room =>
          match scan.step ch with
          | .scan scan => ngxConfReadToken scan (room - 1) rest
          | .token token => .ok (some token, room - 1, rest)
          | .error error => .error error

/-! ## All tokens of a file -/

/-- Call after call up to the end of the file, from the middle of a call. -/
def readAll (scan : Scan) (room : Nat) : Text → Except TokenError (List Token)
  | [] => if scan.args ≠ [] ∨ scan.lastSpace = false then .error .unexpectedEnd else .ok []
  | ch :: rest =>
      match scan.refill room (rest.length + 1) with
      | .error error => .error error
      | .ok room =>
          match scan.step ch with
          | .scan scan => readAll scan (room - 1) rest
          | .token token => (readAll .fresh (room - 1) rest).map (token :: ·)
          | .error error => .error error

/-- All tokens of a file are those of its first call and those of the calls behind it. -/
theorem readAll_eq (scan : Scan) (room : Nat) (file : Text) :
    readAll scan room file =
      match ngxConfReadToken scan room file with
      | .error error => .error error
      | .ok (none, _, _) => .ok []
      | .ok (some token, room, rest) => (readAll .fresh room rest).map (token :: ·) := by
  induction file generalizing scan room with
  | nil =>
      rw [readAll, ngxConfReadToken]
      split <;> rfl
  | cons ch rest induction =>
      rw [readAll, ngxConfReadToken]
      cases scan.refill room (rest.length + 1) with
      | error error => rfl
      | ok room =>
          cases stepped : scan.step ch with
          | scan after => exact induction after (room - 1)
          | error error => rfl
          | token token => rfl

/-! ## Pieces of a file -/

/-- The loop over a piece of the file for which the buffer has room. -/
def scanText (scan : Scan) : Text → Except TokenError (List Token × Scan)
  | [] => .ok ([], scan)
  | ch :: rest =>
      match scan.step ch with
      | .scan scan => scanText scan rest
      | .token token => (scanText .fresh rest).map fun read => (token :: read.1, read.2)
      | .error error => .error error

/-- Behind a blank, with some words already read. -/
def Scan.between (args : List Text) (since : Text) : Scan :=
  { Scan.fresh with args := args, since := since }

/-- Bytes behind `start` after a step; a new call starts with none. -/
def Step.width : Step → Nat
  | .scan after => after.since.length
  | .token _ => 0
  | .error _ => 0

theorem Step.width_ite {p : Prop} [Decidable p] {first second : Step} {bound : Nat}
    (yes : first.width ≤ bound) (no : second.width ≤ bound) :
    (if p then first else second).width ≤ bound := by
  split
  · exact yes
  · exact no

theorem width_found (scan : Scan) (ch : Char) : (scan.found ch).width ≤ scan.since.length := by
  simp only [Scan.found]
  repeat' apply Step.width_ite
  all_goals simp [Step.width]

theorem width_atSpace (scan : Scan) (ch : Char) : (scan.atSpace ch).width ≤ 1 := by
  simp only [Scan.atSpace]
  repeat' apply Step.width_ite
  all_goals simp [Step.width]

theorem width_inWord (scan : Scan) (ch : Char) : (scan.inWord ch).width ≤ scan.since.length := by
  simp only [Scan.inWord]
  repeat' apply Step.width_ite
  all_goals
    first
      | exact width_found _ ch
      | simp [Step.width]

theorem width_behindQuote {scan : Scan} {ch : Char} (nonempty : 1 ≤ scan.since.length) :
    (scan.behindQuote ch).width ≤ scan.since.length := by
  refine Step.width_ite ?_ (Step.width_ite ?_ (Step.width_ite ?_ (Step.width_ite ?_ ?_)))
  · simp [Step.width]
  · simp [Step.width]
  · simp [Step.width]
  · exact (width_atSpace _ ch).trans nonempty
  · simp [Step.width]

/-- A step moves at most one byte behind `start`. -/
theorem width_step (scan : Scan) (ch : Char) :
    (scan.step ch).width ≤ scan.since.length + 1 := by
  refine Step.width_ite ?_ (Step.width_ite ?_ (Step.width_ite ?_ (Step.width_ite ?_ ?_)))
  · simp [Step.width]
  · simp [Step.width]
  · exact (width_behindQuote (by simp)).trans (by simp)
  · exact (width_atSpace _ ch).trans (by omega)
  · exact (width_inWord _ ch).trans (by simp)

/-- The buffer holds the bytes since `start`, so that it need not be refilled in vain. -/
theorem refill_of_room {scan : Scan} (room : Nat) {ahead : Nat}
    (short : scan.since.length < confBuffer) (positive : 0 < ahead) :
    ∃ room', room' ≠ 0 ∧ scan.refill room ahead = .ok room' := by
  rw [Scan.refill]
  split
  · exact ⟨room, by assumption, rfl⟩
  · rw [if_neg (by omega)]
    exact ⟨_, by omega, rfl⟩

/-- On a piece of the file shorter than the buffer the buffer does not show. -/
theorem readAll_append {scan : Scan} {room : Nat} {text : Text} (rest : Text)
    (short : scan.since.length + text.length ≤ confBuffer) :
    ∃ room', readAll scan room (text ++ rest) =
      match scanText scan text with
      | .error error => .error error
      | .ok (tokens, after) => (readAll after room' rest).map (tokens ++ ·) := by
  induction text generalizing scan room with
  | nil =>
      refine ⟨room, ?_⟩
      change readAll scan room rest = (readAll scan room rest).map ([] ++ ·)
      cases readAll scan room rest <;> rfl
  | cons ch text induction =>
      rw [List.length_cons] at short
      obtain ⟨filled, -, refilled⟩ :=
        refill_of_room room (by omega : scan.since.length < confBuffer)
          (Nat.succ_pos (text ++ rest).length)
      have width := width_step scan ch
      rw [List.cons_append, readAll, scanText, refilled]
      simp only
      cases stepped : scan.step ch with
      | error error => exact ⟨0, rfl⟩
      | scan next =>
          rw [stepped, Step.width] at width
          exact induction (by omega)
      | token token =>
          obtain ⟨room', read⟩ := @induction .fresh (filled - 1)
            (by simp only [Scan.fresh, List.length_nil]; omega)
          refine ⟨room', ?_⟩
          simp only
          rw [read]
          cases scanText .fresh text with
          | error error => rfl
          | ok out =>
              simp only [Except.map]
              cases readAll out.2 room' rest <;> rfl

/-! ## Passing over pieces -/

/-- Wherever the piece stands behind a blank, the reader passes over it with the given tokens and
stands behind a blank again; the words read before and after belong to the current directive. -/
def Passes (before : List Text) (text : Text) (tokens : List Token) (after : List Text) : Prop :=
  ∀ since room rest, since.length < confBuffer → ∃ since' room', since'.length < confBuffer ∧
    readAll (.between before since) room (text ++ rest) =
      (readAll (.between after since') room' rest).map (tokens ++ ·)

variable {before middle after : List Text} {text more : Text} {tokens others : List Token}

theorem Passes.nil (args : List Text) : Passes args [] [] args := by
  intro since room rest short
  refine ⟨since, room, short, ?_⟩
  rw [List.nil_append]
  cases readAll (.between args since) room rest <;> rfl

theorem Passes.append (first : Passes before text tokens middle)
    (second : Passes middle more others after) :
    Passes before (text ++ more) (tokens ++ others) after := by
  intro since room rest short
  obtain ⟨since₁, room₁, short₁, read₁⟩ := first since room (more ++ rest) short
  obtain ⟨since₂, room₂, short₂, read₂⟩ := second since₁ room₁ rest short₁
  refine ⟨since₂, room₂, short₂, ?_⟩
  rw [List.append_assoc, read₁, read₂]
  cases readAll (.between after since₂) room₂ rest with
  | error error => rfl
  | ok read => simp [Except.map]

/-- The bytes in front of the first byte behind a blank do not matter. -/
theorem step_between (args : List Text) (since : Text) (ch : Char) :
    (Scan.between args since).step ch = (Scan.between args []).step ch := rfl

theorem length_since_scanText {scan after : Scan}
    (read : scanText scan text = .ok (tokens, after)) :
    after.since.length ≤ scan.since.length + text.length := by
  induction text generalizing scan tokens with
  | nil =>
      injection read with same
      injection same with _ same
      simp [same]
  | cons ch text induction =>
      have width := width_step scan ch
      rw [scanText] at read
      rw [List.length_cons]
      cases stepped : scan.step ch with
      | error error =>
          rw [stepped] at read
          contradiction
      | scan next =>
          rw [stepped] at read width
          have later := induction read
          rw [Step.width] at width
          omega
      | token token =>
          rw [stepped] at read
          cases inner : scanText .fresh text with
          | error error =>
              simp only [inner, Except.map] at read
              contradiction
          | ok out =>
              simp only [inner, Except.map] at read
              injection read with same
              injection same with _ same
              have later := @induction out.1 .fresh (by rw [inner, ← same])
              have none : Scan.fresh.since.length = 0 := rfl
              omega

/-- A piece shorter than the buffer is passed over as it is read without a buffer. -/
theorem passes_of_scanText (since' : Text) (short : text.length < confBuffer)
    (read : scanText (.between before []) text = .ok (tokens, .between after since')) :
    Passes before text tokens after := by
  intro since room rest shortSince
  have width := length_since_scanText read
  have bounded : since'.length < confBuffer := by
    simp only [Scan.between, List.length_nil] at width
    omega
  cases text with
  | nil =>
      injection read with same
      injection same with none args
      injection args with args
      subst none args
      obtain ⟨_, room', short', nothing⟩ := Passes.nil before since room rest shortSince
      exact ⟨_, room', short', nothing⟩
  | cons ch text =>
      -- the bytes before this piece are given up with its first byte
      have held : (Scan.between before since).since.length < confBuffer := shortSince
      obtain ⟨filled, positive, refilled⟩ :=
        refill_of_room room held (Nat.succ_pos (text ++ rest).length)
      have again : (Scan.between before []).refill filled ((text ++ rest).length + 1) =
          .ok filled := by
        rw [Scan.refill, if_pos positive]
      have same : readAll (.between before since) room (ch :: text ++ rest) =
          readAll (.between before []) filled (ch :: text ++ rest) := by
        rw [List.cons_append, readAll, readAll, refilled, again, step_between before since]
      obtain ⟨room', skipped⟩ := @readAll_append (.between before []) filled (ch :: text)
        rest (by simpa [Scan.between] using short.le)
      refine ⟨since', room', bounded, ?_⟩
      rw [same, skipped, read]

end Nginx.ConfFile
