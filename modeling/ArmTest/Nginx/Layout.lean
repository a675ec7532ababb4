import ArmTest.Nginx.Spelling

/-!
# Files the reader accepts

Whatever file the reader accepts, it is laid out by the grammar: parts of it are taken from its
front, one after another, as the reader goes through its states.
-/

namespace Nginx.ConfFile

open Shell

/-! ## From the reader to the grammar -/

/-- At the end of the file no directive is open. -/
def Scan.Done (scan : Scan) : Prop := scan.args = [] ∧ scan.lastSpace = true

/-- Without its buffer the reader finds the same tokens. -/
theorem scanText_of_readAll {scan : Scan} {room : Nat} {file : Text} {tokens : List Token}
    (read : readAll scan room file = .ok tokens) :
    ∃ after, scanText scan file = .ok (tokens, after) ∧ after.Done := by
  induction file generalizing scan room tokens with
  | nil =>
      rw [readAll] at read
      split at read
      · contradiction
      next closed =>
        injection read with none
        subst none
        exact ⟨scan, rfl, by simpa [Scan.Done] using closed⟩
  | cons ch file induction =>
      rw [readAll] at read
      split at read
      · contradiction
      next room _ =>
        rw [scanText]
        split at read
        next next stepped => exact induction read
        next token stepped =>
          cases later : readAll .fresh (room - 1) file with
          | error error => simp [later, Except.map] at read
          | ok others =>
              simp only [later, Except.map, Except.ok.injEq] at read
              subst read
              obtain ⟨after, scanned, done⟩ := induction later
              exact ⟨after, by simp only [scanned, Except.map], done⟩
        · contradiction

section

variable {scan next after : Scan} {ch quote : Char} {text : Text} {token : Token}
  {tokens : List Token} {args : List Text} {since : Text} {dollar : Bool}

theorem done_of_nil (read : scanText scan [] = .ok (tokens, after)) (done : after.Done) :
    tokens = [] ∧ scan.Done := by
  injection read with same
  injection same with none same
  exact ⟨none.symm, same ▸ done⟩

theorem scanText_of_scan (read : scanText scan (ch :: text) = .ok (tokens, after))
    (stepped : scan.step ch = .scan next) : scanText next text = .ok (tokens, after) := by
  rw [scanText, stepped] at read
  exact read

theorem scanText_of_token (read : scanText scan (ch :: text) = .ok (tokens, after))
    (ends : scan.step ch = .token token) :
    ∃ others, tokens = token :: others ∧ scanText .fresh text = .ok (others, after) := by
  rw [scanText, ends] at read
  cases later : scanText .fresh text with
  | error error => simp [later, Except.map] at read
  | ok out =>
      simp only [later, Except.map, Except.ok.injEq, Prod.mk.injEq] at read
      obtain ⟨rfl, rfl⟩ := read
      exact ⟨out.1, rfl, rfl⟩

/-- What is read behind complete words: a blank or the end of the directive. -/
def Behind (words : List Text) (dollar : Bool) (text : Text) (tokens : List Token)
    (after : Scan) : Prop :=
  ∃ ch rest, text = ch :: rest ∧
    (isBlank ch = true ∧ (∃ since, scanText (.between words since) rest = .ok (tokens, after)) ∨
      Stops ch dollar ∧ ∃ others, tokens = endToken ch words :: others ∧
        scanText .fresh rest = .ok (others, after))

/-- No file ends behind a backslash. -/
theorem escaping_of_scanText {double single : Bool}
    (read : scanText (.escaping args since double single) text = .ok (tokens, after))
    (done : after.Done) : ∃ ch rest, text = ch :: rest ∧
      scanText (.inside args (since ++ [ch]) double single false) rest = .ok (tokens, after) := by
  cases text with
  | nil => exact absurd (done_of_nil read done).2.2 Bool.false_ne_true
  | cons ch text => exact ⟨ch, text, rfl, scanText_of_scan read step_escaping⟩

/-- A byte that is not plain in a bare word. -/
theorem special_of_not_plain (special : plainChar ch ≠ true) :
    isBlank ch = true ∨ ch = ';' ∨ ch = '{' ∨ ch = '\\' ∨ ch = '$' := by
  by_contra other
  simp only [not_or] at other
  exact special (by simp [plainChar, other])

/-- A bare word that has been begun goes on as the grammar says. -/
theorem tail_of_scanText
    (read : scanText (.inside args since false false dollar) text = .ok (tokens, after))
    (done : after.Done) : ∃ raw rest dollar', text = raw ++ rest ∧ Tail dollar raw dollar' ∧
      Behind (args ++ [copyWord (since ++ raw)]) dollar' rest tokens after := by
  -- a backslash takes two bytes, so the induction is on the length
  induction bytes : text.length using Nat.strong_induction_on generalizing text since dollar with
  | _ bytes induction =>
  subst bytes
  cases text with
  | nil => exact absurd (done_of_nil read done).2.2 Bool.false_ne_true
  | cons ch text =>
      have goesOn : ∀ (unit rest : Text) {middle : Bool}, ch :: text = unit ++ rest →
          Piece dollar unit middle → rest.length < (ch :: text).length →
          scanText (.inside args (since ++ unit) false false middle) rest = .ok (tokens, after) →
          ∃ raw rest dollar', ch :: text = raw ++ rest ∧ Tail dollar raw dollar' ∧
            Behind (args ++ [copyWord (since ++ raw)]) dollar' rest tokens after := by
        intro unit rest middle split piece shorter later
        obtain ⟨raw, rest', dollar', rfl, tail, behind⟩ :=
          induction rest.length shorter later rfl
        rw [List.append_assoc] at behind
        exact ⟨unit ++ raw, rest', dollar', by rw [split, List.append_assoc], .cons piece tail,
          behind⟩
      have here : ∀ (rest : Text), rest = ch :: text →
          (isBlank ch = true ∨ Stops ch dollar) →
          ∃ raw rest dollar', ch :: text = raw ++ rest ∧ Tail dollar raw dollar' ∧
            Behind (args ++ [copyWord (since ++ raw)]) dollar' rest tokens after := by
        rintro rest rfl (separates | stops)
        · refine ⟨[], _, dollar, rfl, .nil dollar, ch, text, rfl,
            .inl ⟨separates, since ++ [ch], ?_⟩⟩
          rw [List.append_nil]
          exact scanText_of_scan read (step_blank separates)
        · refine ⟨[], _, dollar, rfl, .nil dollar, ch, text, rfl, .inr ⟨stops, ?_⟩⟩
          rw [List.append_nil]
          exact scanText_of_token read (step_stops stops)
      by_cases plain : plainChar ch = true
      · exact goesOn [ch] text rfl (.plain plain) (by simp)
          (scanText_of_scan read (step_plain plain))
      rcases special_of_not_plain plain with separates | rfl | rfl | rfl | rfl
      · exact here _ rfl (.inl separates)
      · exact here _ rfl (.inr (.inl rfl))
      · cases dollar with
        | false => exact here _ rfl (.inr (.inr ⟨rfl, rfl⟩))
        | true =>
            exact goesOn ['{'] text rfl .brace (by simp) (scanText_of_scan read step_brace)
      · obtain ⟨ch, rest, rfl, later⟩ :=
          escaping_of_scanText (scanText_of_scan read step_backslash) done
        refine goesOn ['\\', ch] rest rfl (.escaped ch)
          (by simp only [List.length_cons]; omega) ?_
        rw [List.append_assoc] at later
        exact later
      · exact goesOn ['$'] text rfl .dollar (by simp) (scanText_of_scan read step_dollar)

/-- A quoted word that has been begun ends with its quote. -/
theorem quoted_of_scanText (kind : quote = '"' ∨ quote = '\'')
    (read : scanText (.within args since quote dollar) text = .ok (tokens, after))
    (done : after.Done) : ∃ body rest since', text = body ++ quote :: rest ∧ Quoted quote body ∧
      scanText (.closed (args ++ [copyWord (since ++ body)]) since') rest =
        .ok (tokens, after) := by
  induction bytes : text.length using Nat.strong_induction_on generalizing text since dollar with
  | _ bytes induction =>
  subst bytes
  cases text with
  | nil => exact absurd (done_of_nil read done).2.2 Bool.false_ne_true
  | cons ch text =>
      by_cases closing : ch = quote
      · subst closing
        refine ⟨[], text, since ++ [ch], rfl, .nil, ?_⟩
        rw [List.append_nil]
        exact scanText_of_scan read (step_quote kind)
      by_cases backslash : ch = '\\'
      · subst backslash
        obtain ⟨ch, rest, rfl, later⟩ :=
          escaping_of_scanText (scanText_of_scan read step_backslash) done
        obtain ⟨body, rest', since', rfl, inside, closed⟩ :=
          induction rest.length (by simp only [List.length_cons]; omega) later rfl
        have joined : since ++ ['\\'] ++ [ch] ++ body = since ++ '\\' :: ch :: body := by simp
        rw [joined] at closed
        exact ⟨'\\' :: ch :: body, rest', since', by simp, .escaped ch inside, closed⟩
      · obtain ⟨dollar', stepped⟩ := @step_within args since dollar ch quote kind closing backslash
        obtain ⟨body, rest, since', rfl, inside, closed⟩ :=
          induction text.length (by simp) (scanText_of_scan read stepped) rfl
        rw [List.append_assoc, List.singleton_append] at closed
        exact ⟨ch :: body, rest, since', rfl, .plain closing backslash inside, closed⟩

/-- Behind a closing quote stands a blank, the end of the directive or a closing parenthesis. -/
theorem closed_of_scanText
    (read : scanText (.closed args since) text = .ok (tokens, after)) (done : after.Done) :
    Behind args false text tokens after ∨ ∃ rest, text = ')' :: rest ∧
      scanText (.inside args [')'] false false false) rest = .ok (tokens, after) := by
  cases text with
  | nil => exact absurd (done_of_nil read done).2.2 Bool.false_ne_true
  | cons ch text =>
      by_cases separates : isBlank ch = true
      · exact .inl ⟨ch, text, rfl, .inl ⟨separates, _,
          scanText_of_scan read (step_closed_blank separates)⟩⟩
      by_cases stops : Stops ch false
      · exact .inl ⟨ch, text, rfl, .inr ⟨stops, scanText_of_token read (step_closed_stops stops)⟩⟩
      by_cases paren : ch = ')'
      · subst paren
        exact .inr ⟨text, rfl, scanText_of_scan read step_closed_paren⟩
      · have refused : (Scan.closed args since).step ch = .error (.unexpected ch) := by
          simp only [Stops, and_true, not_or] at stops
          simp [Scan.step, Scan.closed, Scan.between, Scan.fresh, Scan.behindQuote, separates,
            stops, paren]
        rw [scanText, refused] at read
        contradiction

/-- A byte behind a blank that is none of the separators begins words. -/
theorem spells_of_scanText
    (read : scanText (.between args since) (ch :: text) = .ok (tokens, after))
    (done : after.Done) (word : isBlank ch = false ∧ ¬ Stops ch false ∧ ch ≠ '}' ∧ ch ≠ '#') :
    ∃ words raw dollar rest, ch :: text = raw ++ rest ∧ Spells words raw dollar ∧
      Behind (args ++ words) dollar rest tokens after := by
  obtain ⟨blank, stops, closing, sharp⟩ := word
  simp only [Stops, and_true, not_or] at stops
  have begun : ∀ (first rest : Text) {middle : Bool}, ch :: text = first ++ rest →
      Piece false first middle → (∀ ch ∈ first.head?, startsBare ch = true) →
      scanText (.inside args first false false middle) rest = .ok (tokens, after) →
      ∃ words raw dollar rest, ch :: text = raw ++ rest ∧ Spells words raw dollar ∧
        Behind (args ++ words) dollar rest tokens after := by
    intro first rest middle split piece head later
    obtain ⟨raw, rest', dollar, rfl, tail, behind⟩ := tail_of_scanText later done
    exact ⟨_, first ++ raw, dollar, rest', by rw [split, List.append_assoc],
      .bare piece head tail, behind⟩
  by_cases kind : ch = '"' ∨ ch = '\''
  · obtain ⟨body, rest, since', rfl, inside, closed⟩ :=
      quoted_of_scanText kind (scanText_of_scan read (step_first_quote kind)) done
    rw [List.nil_append] at closed
    rcases closed_of_scanText closed done with behind | ⟨rest, rfl, later⟩
    · exact ⟨_, _, false, rest, by simp, .quoted kind inside, behind⟩
    · obtain ⟨raw, rest', dollar, rfl, tail, behind⟩ := tail_of_scanText later done
      rw [List.append_assoc] at behind
      exact ⟨_, _, dollar, rest', by simp, .joined kind inside tail, behind⟩
  have head : startsBare ch = true := by
    rw [not_or] at kind
    simp [startsBare, closing, sharp, kind]
  by_cases backslash : ch = '\\'
  · subst backslash
    obtain ⟨ch, rest, rfl, later⟩ :=
      escaping_of_scanText (scanText_of_scan read step_first_backslash) done
    exact begun ['\\', ch] rest rfl (.escaped ch) (by simpa using head) later
  by_cases sign : ch = '$'
  · subst sign
    exact begun ['$'] text rfl .dollar (by simpa using head)
      (scanText_of_scan read step_first_dollar)
  · have plain : plainChar ch = true := by simp [plainChar, blank, stops, backslash, sign]
    exact begun [ch] text rfl (.plain plain) (by simpa using head)
      (scanText_of_scan read (step_first plain head))

/-- A comment ends with its line or with the file. -/
theorem comment_of_scanText
    (read : scanText (.comment args since) text = .ok (tokens, after)) (done : after.Done) :
    (args = [] ∧ tokens = [] ∧ '\n' ∉ text) ∨
      ∃ comment rest since', text = comment ++ '\n' :: rest ∧ '\n' ∉ comment ∧
        scanText (.between args since') rest = .ok (tokens, after) := by
  induction text generalizing since with
  | nil =>
      obtain ⟨empty, closed⟩ := done_of_nil read done
      exact .inl ⟨closed.1, empty, by simp⟩
  | cons ch text induction =>
      by_cases line : ch = '\n'
      · subst line
        have stepped : (Scan.comment args since).step '\n' = .scan (.between args ['\n']) := rfl
        exact .inr ⟨[], text, _, rfl, by simp, scanText_of_scan read stepped⟩
      · have stepped : (Scan.comment args since).step ch =
            .scan (.comment args (since ++ [ch])) := by
          simp [Scan.step, Scan.comment, Scan.between, Scan.fresh, line]
        rcases induction (scanText_of_scan read stepped) with
          ⟨none, empty, oneLine⟩ | ⟨comment, rest, since', rfl, oneLine, later⟩
        · exact .inl ⟨none, empty, by simp [oneLine, Ne.symm line]⟩
        · exact .inr ⟨ch :: comment, rest, since', rfl, by simp [oneLine, Ne.symm line], later⟩

/-- What the reader accepts is laid out by the grammar. -/
theorem layout_of_scanText {limit : Nat}
    (read : scanText (.between args since) text = .ok (tokens, after)) (done : after.Done)
    (short : text.length < limit) : FileLayout limit args text tokens := by
  induction bytes : text.length using Nat.strong_induction_on
    generalizing text args since tokens with
  | _ bytes induction =>
  subst bytes
  cases text with
  | nil =>
      obtain ⟨rfl, closed⟩ := done_of_nil read done
      have none : args = [] := closed.1
      subst none
      exact .whole (.nil [])
  | cons ch text =>
      have fewer : text.length < (ch :: text).length := Nat.lt_succ_self _
      have shorter : text.length < limit := fewer.trans short
      by_cases separates : isBlank ch = true
      · exact .cons (.blank separates) (induction _ fewer
          (scanText_of_scan read (step_between_blank separates)) shorter rfl)
      by_cases stops : Stops ch false
      · by_cases nonempty : args = []
        · have refused : (Scan.between args since).step ch = .error (.unexpected ch) := by
            rcases stops with rfl | ⟨rfl, -⟩ <;> simp [nonempty] <;> rfl
          rw [scanText, refused] at read
          contradiction
        · obtain ⟨others, rfl, later⟩ :=
            scanText_of_token read (step_between_stops stops nonempty)
          exact .cons (.stop stops nonempty) (induction _ fewer later shorter rfl)
      by_cases closing : ch = '}'
      · subst closing
        by_cases nonempty : args = []
        · subst nonempty
          have ends : (Scan.between [] since).step '}' = .token .blockDone := rfl
          obtain ⟨others, rfl, later⟩ := scanText_of_token read ends
          exact .cons .brace (induction _ fewer later shorter rfl)
        · have refused : (Scan.between args since).step '}' = .error (.unexpected '}') := by
            simp [Scan.step, Scan.between, Scan.fresh, Scan.atSpace, isBlank, nonempty]
          rw [scanText, refused] at read
          contradiction
      by_cases sharp : ch = '#'
      · subst sharp
        rcases comment_of_scanText (scanText_of_scan read (step_sharp args since)) done with
          ⟨rfl, rfl, oneLine⟩ | ⟨comment, rest, since', rfl, oneLine, later⟩
        · exact .comment (.nil []) oneLine short
        · rw [List.length_cons, List.length_append, List.length_cons] at short
          have split : '#' :: (comment ++ '\n' :: rest) = '#' :: (comment ++ ['\n']) ++ rest := by
            simp
          rw [split]
          exact .cons (.comment oneLine (by omega))
            (induction _ (by simp; omega) later (by omega) rfl)
      obtain ⟨words, raw, dollar, rest, split, spells, next, behind, rfl, ends⟩ :=
        spells_of_scanText read done ⟨by simpa using separates, stops, closing, sharp⟩
      have bytes := congrArg List.length split
      rw [List.length_append, @List.length_cons _ next behind] at bytes
      have nonempty := spells.length_pos
      have whole : ch :: text = raw ++ [next] ++ behind := by rw [split]; simp
      rw [whole]
      rcases ends with ⟨blank, since', later⟩ | ⟨stops, others, rfl, later⟩
      · exact .cons (.words spells (by omega) blank) (induction _ (by omega) later (by omega) rfl)
      · exact .cons (.lastWords spells (by omega) stops)
          (induction _ (by omega) later (by omega) rfl)

end

end Nginx.ConfFile
