import ArmTest.Nginx.Handshake
import ArmTest.Shell.Sed

/-!
# What the handshake check can tell apart

A listener accepts a message as soon as the expected text occurs somewhere in it.  The words of a
message fix where the expected text can occur, so a foreign message passes the check exactly when
it only continues the last number of the expected one.
-/

namespace Nginx

open Shell Rendezvous

/-! ## The shape of a message -/

/-- Kind of requests of a test point. -/
def Label.mode : Label → Mode
  | .socket mode _ _ | .node mode _ _ | .server mode => mode

/-- The part of a label behind the kind of requests. -/
def Label.place : Label → Text
  | .socket _ side core => side.crc ++ '-' :: ("core" ++ decimal core)
  | .node _ number core => "node" ++ (decimal number ++ '-' :: ("core" ++ decimal core))
  | .server _ => "server"

theorem Label.text_eq (label : Label) : label.text = label.mode.text ++ '-' :: label.place := by
  have assoc : ∀ first second third fourth fifth : Text,
      first ++ second ++ third ++ fourth ++ fifth =
        first ++ (second ++ (third ++ (fourth ++ fifth))) := by
    intros
    simp only [List.append_assoc]
  cases label with
  | socket mode side core => exact assoc mode.text "-" side.crc "-core" (decimal core)
  | node mode number core => exact assoc mode.text "-node" (decimal number) "-core" (decimal core)
  | server mode => rfl

theorem Mode.not_mem_text (mode : Mode) : '-' ∉ mode.text := by
  cases mode <;> decide

theorem Mode.text_injective : Function.Injective Mode.text := by
  intro mode mode' same
  cases mode <;> cases mode' <;> first | rfl | exact absurd same (by decide)

theorem Side.not_mem_crc (side : Side) : '-' ∉ side.crc := by
  cases side <;> decide

theorem Side.crc_injective : Function.Injective Side.crc := by
  intro side side' same
  cases side <;> cases side' <;> first | rfl | exact absurd same (by decide)

/-! ## Continued messages -/

/-- The same test point with further digits behind its number of cores, if any. -/
def Label.ContinuedBy : Label → Label → Prop
  | .socket mode side core, .socket mode' side' core' =>
      mode = mode' ∧ side = side' ∧ decimal core <+: decimal core'
  | .node mode number core, .node mode' number' core' =>
      mode = mode' ∧ number = number' ∧ decimal core <+: decimal core'
  | .server mode, .server mode' => mode = mode'
  | _, _ => False

/-- The same question with further digits behind its node, if any. -/
def Query.ContinuedBy : Query → Query → Prop
  | .nodeCpus mode node, .nodeCpus mode' node' => mode = mode' ∧ decimal node <+: decimal node'
  | .cpuNum side, .cpuNum side' => side = side'
  | .nodeNum, .nodeNum => True
  | .serverName, .serverName => True
  | _, _ => False

/-- The same handshake with further digits behind its last number, if any. -/
def Note.ContinuedBy : Note → Note → Prop
  | .conf query, .conf query' => query.ContinuedBy query'
  | .start label, .start label' => label.ContinuedBy label'
  | .finish label, .finish label' => label.ContinuedBy label'
  | _, _ => False

/-- Texts with different first characters are no prefixes of each other. -/
theorem not_prefix_of_head {c d : Char} {front back : Text} (different : c ≠ d) :
    ¬ c :: front <+: d :: back := by
  intro start
  exact different (List.cons_prefix_cons.mp start).1

theorem Label.place_prefix_iff {label label' : Label} (sameMode : label.mode = label'.mode) :
    label.place <+: label'.place ↔ label.ContinuedBy label' := by
  cases label with
  | socket mode side core =>
      cases label' with
      | socket mode' side' core' =>
          have places : (Label.socket mode side core).place <+:
              (Label.socket mode' side' core').place ↔ _ :=
            prefix_separated_iff side.not_mem_crc side'.not_mem_crc
          rw [List.prefix_append_right_inj, Side.crc_injective.eq_iff] at places
          exact places.trans ⟨fun both => ⟨sameMode, both⟩, fun all => all.2⟩
      | node mode' number' core' =>
          refine iff_of_false ?_ id
          cases side <;> exact not_prefix_of_head (by decide)
      | server mode' =>
          refine iff_of_false ?_ id
          cases side <;> exact not_prefix_of_head (by decide)
  | node mode number core =>
      cases label' with
      | socket mode' side' core' =>
          refine iff_of_false ?_ id
          cases side' <;> exact not_prefix_of_head (by decide)
      | node mode' number' core' =>
          have numbers : decimal number ++ '-' :: ("core" ++ decimal core) <+:
              decimal number' ++ '-' :: ("core" ++ decimal core') ↔ _ :=
            prefix_separated_iff (not_mem_decimal (by decide)) (not_mem_decimal (by decide))
          rw [List.prefix_append_right_inj, decimal_injective.eq_iff] at numbers
          exact (List.prefix_append_right_inj "node".toList).trans
            (numbers.trans ⟨fun both => ⟨sameMode, both⟩, fun all => all.2⟩)
      | server mode' => exact iff_of_false (not_prefix_of_head (by decide)) id
  | server mode =>
      cases label' with
      | socket mode' side' core' =>
          refine iff_of_false ?_ id
          cases side' <;> exact not_prefix_of_head (by decide)
      | node mode' number' core' => exact iff_of_false (not_prefix_of_head (by decide)) id
      | server mode' => exact iff_of_true (List.prefix_refl _) sameMode

theorem Label.ContinuedBy.sameMode {label label' : Label} (continued : label.ContinuedBy label') :
    label.mode = label'.mode := by
  cases label <;> cases label' <;> first | exact continued.elim | exact continued.1 | exact continued

theorem Label.text_prefix_iff (label label' : Label) :
    label.text <+: label'.text ↔ label.ContinuedBy label' := by
  rw [label.text_eq, label'.text_eq,
    prefix_separated_iff label.mode.not_mem_text label'.mode.not_mem_text,
    Mode.text_injective.eq_iff]
  constructor
  · rintro ⟨sameMode, places⟩
    exact (Label.place_prefix_iff sameMode).mp places
  · intro continued
    exact ⟨continued.sameMode, (Label.place_prefix_iff continued.sameMode).mpr continued⟩

theorem Query.text_nodeCpus (mode : Mode) (node : Nat) :
    (Query.nodeCpus mode node).text = mode.text ++ '-' :: ("node" ++ decimal node) :=
  List.append_assoc mode.text "-node" (decimal node)

theorem Query.text_prefix_iff (query query' : Query) :
    query.text <+: query'.text ↔ query.ContinuedBy query' := by
  cases query with
  | nodeCpus mode node =>
      cases query' with
      | nodeCpus mode' node' =>
          rw [Query.text_nodeCpus, Query.text_nodeCpus,
            prefix_separated_iff mode.not_mem_text mode'.not_mem_text,
            List.prefix_append_right_inj, Mode.text_injective.eq_iff]
          exact Iff.rfl
      | cpuNum | nodeNum | serverName =>
          refine iff_of_false ?_ id
          cases mode <;> exact not_prefix_of_head (by decide)
  | cpuNum side =>
      cases query' with
      | nodeCpus mode' node' =>
          refine iff_of_false ?_ id
          cases mode' <;> exact not_prefix_of_head (by decide)
      | cpuNum side' =>
          have crcs : side.crc <+: side'.crc ↔ side = side' := by
            cases side <;> cases side' <;> decide
          exact (List.prefix_append_right_inj "getcpunumof".toList).trans crcs
      | nodeNum => exact iff_of_false (by cases side <;> decide) id
      | serverName => exact iff_of_false (by cases side <;> decide) id
  | nodeNum =>
      cases query' with
      | nodeCpus mode' node' =>
          refine iff_of_false ?_ id
          cases mode' <;> exact not_prefix_of_head (by decide)
      | cpuNum side' => exact iff_of_false (by cases side' <;> decide) id
      | nodeNum => exact iff_of_true (List.prefix_refl _) trivial
      | serverName => exact iff_of_false (by decide) id
  | serverName =>
      cases query' with
      | nodeCpus mode' node' =>
          refine iff_of_false ?_ id
          cases mode' <;> exact not_prefix_of_head (by decide)
      | cpuNum side' => exact iff_of_false (by cases side' <;> decide) id
      | nodeNum => exact iff_of_false (by decide) id
      | serverName => exact iff_of_true (List.prefix_refl _) trivial

theorem Note.message_prefix_iff (expected received : Note) :
    expected.message <+: received.message ↔ expected.ContinuedBy received := by
  cases expected with
  | conf query =>
      cases received with
      | conf query' =>
          exact (List.prefix_append_right_inj "conf".toList).trans (query.text_prefix_iff query')
      | start | finish => exact iff_of_false (not_prefix_of_head (by decide)) id
  | start label =>
      cases received with
      | start label' =>
          exact (List.prefix_append_right_inj "start".toList).trans (label.text_prefix_iff label')
      | conf | finish => exact iff_of_false (not_prefix_of_head (by decide)) id
  | finish label =>
      cases received with
      | finish label' =>
          exact (List.prefix_append_right_inj "finish".toList).trans (label.text_prefix_iff label')
      | conf | start => exact iff_of_false (not_prefix_of_head (by decide)) id

/-! ## Where the expected text can occur -/

/-- The words that open a message. -/
def keywords : List Text := ["conf", "start", "finish"]

/-- Words of a message behind the kind of requests, without their numbers. -/
def placeWords : List Text := ["localsocket", "remotesocket", "node", "core", "server"]

/-- The word that opens a message. -/
def Note.keyword : Note → Text
  | .conf _ => "conf"
  | .start _ => "start"
  | .finish _ => "finish"

theorem Note.keyword_mem (note : Note) : note.keyword ∈ keywords := by
  cases note with
  | conf => exact List.mem_cons_self
  | start => exact List.mem_cons_of_mem _ List.mem_cons_self
  | finish => exact List.mem_cons_of_mem _ (List.mem_cons_of_mem _ List.mem_cons_self)

theorem keyword_letters : ∀ word ∈ keywords, letters word = word ∧ '-' ∉ word := by
  decide

theorem letters_tail : ∀ word ∈ keywords, letters word.tail = word.tail := by
  decide

theorem keyword_not_opening : ∀ word ∈ keywords, ∀ opening ∈ keywords, ∀ mode ∈ nginxmode,
    ¬ word <:+: opening.tail ++ mode.text := by
  decide

theorem keyword_not_placeWord : ∀ word ∈ keywords, ∀ piece ∈ placeWords, ¬ word <:+: piece := by
  decide

theorem keyword_not_question : ∀ word ∈ keywords,
    ¬ word <:+: "onfgetcpunumoflocalsocket".toList ∧
    ¬ word <:+: "onfgetcpunumofremotesocket".toList ∧
    ¬ word <:+: "onfgetnodenum".toList ∧ ¬ word <:+: "onfgetservername".toList := by
  decide

theorem mem_nginxmode (mode : Mode) : mode ∈ nginxmode := by
  cases mode <;> decide

theorem letters_mode (mode : Mode) : letters mode.text = mode.text := by
  cases mode <;> decide

theorem letters_cons {c : Char} (text : Text) (notDigit : c.isDigit = false) :
    letters (c :: text) = c :: letters text := by
  simp [letters, notDigit]

/-- The words of a place without their numbers. -/
def Label.outline : Label → Text
  | .socket _ side _ => side.crc ++ '-' :: "core".toList
  | .node _ _ _ => "node".toList ++ '-' :: "core".toList
  | .server _ => "server"

/-- All outlines. -/
def outlines : List Text :=
  ["localsocket-core", "remotesocket-core", "node-core", "server"]

theorem Label.outline_mem (label : Label) : label.outline ∈ outlines := by
  cases label with
  | socket mode side core =>
      cases side with
      | localSide => exact (by decide : "localsocket-core".toList ∈ outlines)
      | remoteSide => exact (by decide : "remotesocket-core".toList ∈ outlines)
  | node mode number core => exact (by decide : "node-core".toList ∈ outlines)
  | server mode => exact (by decide : "server".toList ∈ outlines)

theorem letters_place (label : Label) : letters label.place = label.outline := by
  have coreWord : ∀ core, letters ('-' :: ("core".toList ++ decimal core)) = '-' :: "core".toList := by
    intro core
    rw [letters_cons _ (by decide), letters_append, letters_decimal]
    decide
  cases label with
  | socket mode side core =>
      have crcLetters : letters side.crc = side.crc := by cases side <;> decide
      exact (letters_append _ _).trans (congrArg₂ (· ++ ·) crcLetters (coreWord core))
  | node mode number core =>
      have digits : letters (decimal number ++ '-' :: ("core".toList ++ decimal core)) =
          '-' :: "core".toList := by
        rw [letters_append, letters_decimal, coreWord, List.nil_append]
      exact (letters_append _ _).trans (congrArg₂ (· ++ ·) (by decide) digits)
  | server mode => exact (by decide : letters "server".toList = "server".toList)

/-- The words of a label without their numbers. -/
theorem letters_label (label : Label) :
    letters label.text = label.mode.text ++ '-' :: label.outline := by
  rw [label.text_eq, letters_append, letters_mode, letters_cons _ (by decide), letters_place]

/-- A word that is none of the words of a place does not occur there. -/
theorem not_infix_outline {word : Text} (separate : '-' ∉ word)
    (absent : ∀ piece ∈ placeWords, ¬ word <:+: piece) (label : Label) :
    ¬ word <:+: label.outline := by
  cases label with
  | socket mode side core =>
      refine not_infix_separated separate ?_ (absent _ (by decide))
      cases side <;> exact absent _ (by decide)
  | node mode number core =>
      exact not_infix_separated separate (absent _ (by decide)) (absent _ (by decide))
  | server mode => exact absent "server" (by decide)

/-- A word that is none of the words of a label occurs in a label only across its beginning. -/
theorem not_infix_label {word front : Text} (wordLetters : letters word = word)
    (frontLetters : letters front = front) (separate : '-' ∉ word)
    (absent : ∀ piece ∈ placeWords, ¬ word <:+: piece) (label : Label)
    (opening : ¬ word <:+: front ++ label.mode.text) : ¬ word <:+: front ++ label.text := by
  intro inside
  have found := infix_letters wordLetters inside
  rw [letters_append, letters_label, frontLetters, ← List.append_assoc] at found
  exact not_infix_separated separate opening (not_infix_outline separate absent label) found

/-- No keyword occurs in a label, nor across the end of the keyword before it. -/
theorem keyword_not_label {word opening : Text} (isKeyword : word ∈ keywords)
    (opens : opening ∈ keywords) (label : Label) : ¬ word <:+: opening.tail ++ label.text := by
  obtain ⟨wordLetters, separate⟩ := keyword_letters word isKeyword
  exact not_infix_label wordLetters (letters_tail opening opens) separate
    (keyword_not_placeWord word isKeyword) label
    (keyword_not_opening word isKeyword opening opens label.mode (mem_nginxmode _))

/-- No keyword occurs in a question, nor across the end of the keyword before it. -/
theorem keyword_not_query {word : Text} (isKeyword : word ∈ keywords) (query : Query) :
    ¬ word <:+: "onf".toList ++ query.text := by
  have absent := keyword_not_question word isKeyword
  cases query with
  | cpuNum side =>
      cases side with
      | localSide => exact absent.1
      | remoteSide => exact absent.2.1
  | nodeNum => exact absent.2.2.1
  | serverName => exact absent.2.2.2
  | nodeCpus mode node =>
      intro inside
      obtain ⟨wordLetters, separate⟩ := keyword_letters word isKeyword
      have nodeWord : letters ("node".toList ++ decimal node) = "node".toList := by
        rw [letters_append, letters_decimal]
        decide
      have found := infix_letters wordLetters inside
      rw [letters_append, Query.text_nodeCpus, letters_append, letters_mode,
        letters_cons _ (by decide), nodeWord, ← List.append_assoc] at found
      exact not_infix_separated separate
        (keyword_not_opening word isKeyword "conf" (by decide) mode (mem_nginxmode _))
        (keyword_not_placeWord word isKeyword _ (by decide)) found

/-- The expected text occurs in a message only at its beginning. -/
theorem Note.message_infix_iff (expected received : Note) :
    expected.message <:+: received.message ↔ expected.ContinuedBy received := by
  have keywordFront : expected.keyword <+: expected.message := by
    cases expected <;> exact List.prefix_append _ _
  have behind : ¬ expected.keyword <:+: received.message.tail := by
    cases received with
    | conf query => exact keyword_not_query expected.keyword_mem query
    | start label => exact keyword_not_label expected.keyword_mem (Note.start label).keyword_mem label
    | finish label =>
        exact keyword_not_label expected.keyword_mem (Note.finish label).keyword_mem label
  rw [← expected.message_prefix_iff received]
  refine ⟨fun inside => ?_, List.IsPrefix.isInfix⟩
  obtain ⟨first, rest, shape⟩ : ∃ first rest, received.message = first :: rest := by
    cases received <;> exact ⟨_, _, rfl⟩
  rw [shape] at inside behind ⊢
  rcases List.infix_cons_iff.mp inside with start | later
  · exact start
  · exact absurd (keywordFront.isInfix.trans later) behind

/-! ## The listeners -/

/-- Every listener that expects the first handshake leaves with its error when it hears the message
of the second. -/
def Detects (expected received : Note) : Prop :=
  (∀ reply next, (answer expected reply next).hear received.message = .exit) ∧
  match expected with
  | .conf _ => True
  | .start label =>
      ∀ next, (Wrk.requestTestStart label next).hear received.message =
        .act (.record ("start " ++ label.text ++ "-error ")) .exit
  | .finish label =>
      ∀ next, (Wrk.requestTestFinish label next).hear received.message =
        .act (.record ("finish " ++ label.text ++ "-error ")) .exit

theorem hear_answer (note : Note) (reply message : Text) (next : Proc Text ServerAction) :
    (answer note reply next).hear message =
      if grepQ note.message message then .send reply next else .exit := rfl

/-- A listener whose check fails takes its error exit, and one whose check succeeds goes on. -/
theorem detects_iff_grepQ (expected received : Note) :
    Detects expected received ↔ grepQ expected.message received.message = false := by
  constructor
  · intro detects
    by_contra accepted
    have left := detects.1 [] .done
    rw [hear_answer, if_pos (by simpa using accepted)] at left
    contradiction
  · intro rejected
    have fails : ¬ grepQ expected.message received.message = true := by
      rw [rejected]
      decide
    refine ⟨fun reply next => (hear_answer _ _ _ _).trans (if_neg fails), ?_⟩
    cases expected with
    | conf query => trivial
    | start label => exact fun next => if_neg fails
    | finish label => exact fun next => if_neg fails

/-- The check misses a foreign message exactly when that message continues the last number of the
expected one. -/
theorem detects_iff_not_continued (expected received : Note) :
    Detects expected received ↔ ¬ expected.ContinuedBy received := by
  rw [detects_iff_grepQ, ← expected.message_infix_iff received, grepQ, decide_eq_false_iff_not]

/-- A machine with sixteen processors. -/
def sixteenCpus : Topology where
  socketNum := 1
  socketNum_pos := Nat.one_pos
  nodes := [List.range 16]
  nicNode := 0
  hostName := "server"

/-- On sixteen processors the message of the last point passes for that of the first. -/
theorem core16_passes_for_core1 :
    .start (.socket .httpshort .localSide 1) ∈ schedule sixteenCpus .socketl ∧
    .start (.socket .httpshort .localSide 16) ∈ schedule sixteenCpus .socketl ∧
    (Note.start (.socket .httpshort .localSide 1)).message ≠
      (Note.start (.socket .httpshort .localSide 16)).message ∧
    ¬ Detects (.start (.socket .httpshort .localSide 1))
      (.start (.socket .httpshort .localSide 16)) := by
  refine ⟨?_, ?_, ?_, ?_⟩
  · decide
  · decide
  · decide
  · rw [detects_iff_grepQ]
    decide

end Nginx
