import ArmTest.Nginx.Syntax

/-!
# What the parser accepts

The parser returns directives and a final state exactly when the reader finds the tokens of these
directives and their rows accept them one after another.  With the grammar of the reader this says
which files are accepted.
-/

namespace Nginx.ConfFile

open Shell

/-! ## The way of the parser -/

/-- The parser's way through a file or a block, call by call of the reader. -/
inductive Parses {S : Type} (commands : List (Command S)) :
    ParseType → Body S → S → Nat → Text → Directives → S → Nat → Text → Prop
  | fileDone {body : Body S} {state : S} {room room' : Nat} {file rest : Text}
      (read : ngxConfReadToken .fresh room file = .ok (none, room', rest)) :
      Parses commands .parseFile body state room file .done state room' rest
  | blockDone {body : Body S} {state : S} {room room' : Nat} {file rest : Text}
      (read : ngxConfReadToken .fresh room file = .ok (some .blockDone, room', rest)) :
      Parses commands .parseBlock body state room file .done state room' rest
  | simple {type : ParseType} {body : Body S} {state state₁ state' : S} {room room₁ room' : Nat}
      {file rest₁ rest : Text} {args : List Text} {others : Directives}
      (read : ngxConfReadToken .fresh room file = .ok (some (.ok args), room₁, rest₁))
      (taken : body.simple commands args state = .ok state₁)
      (later : Parses commands type body state₁ room₁ rest₁ others state' room' rest) :
      Parses commands type body state room file (.simple args others) state' room' rest
  | block {type : ParseType} {body : Body S} {state state₁ state₂ state₃ state' : S}
      {room room₁ room₂ room' : Nat} {file rest₁ rest₂ rest : Text} {args : List Text}
      {inside others : Directives} {cmd : Command S}
      (read : ngxConfReadToken .fresh room file = .ok (some (.blockStart args), room₁, rest₁))
      (entered : body.enter commands args state = .ok (cmd, state₁))
      (inner : Parses commands .parseBlock cmd.body state₁ room₁ rest₁ inside state₂ room₂ rest₂)
      (left : cmd.leave state₂ = .ok state₃)
      (later : Parses commands type body state₃ room₂ rest₂ others state' room' rest) :
      Parses commands type body state room file (.block args inside others) state' room' rest

section

variable {S : Type} {commands : List (Command S)} {type : ParseType} {body : Body S}
  {state state' : S} {conf : Directives} {fuel room room' : Nat} {file rest : Text}

theorem parses_of_parseLoop (parsed : parseLoop commands type body fuel state room file =
      some (.ok (conf, state', room', rest))) :
    Parses commands type body state room file conf state' room' rest := by
  induction fuel generalizing type body state room file conf state' room' rest with
  | zero => contradiction
  | succ fuel induction =>
      rw [parseLoop] at parsed
      split at parsed
      · simp at parsed
      next read =>
        split at parsed
        · simp at parsed
        next file =>
          simp only [Option.some.injEq, Except.ok.injEq, Prod.mk.injEq] at parsed
          obtain ⟨rfl, rfl, rfl, rfl⟩ := parsed
          cases type with
          | parseFile => exact .fileDone read
          | parseBlock => exact (file rfl).elim
      next read =>
        split at parsed
        next block =>
          simp only [Option.some.injEq, Except.ok.injEq, Prod.mk.injEq] at parsed
          obtain ⟨rfl, rfl, rfl, rfl⟩ := parsed
          subst block
          exact .blockDone read
        · simp at parsed
      next args room₁ rest₁ read =>
        split at parsed
        · simp at parsed
        next state₁ taken =>
          obtain ⟨result, later, mapped⟩ := Option.map_eq_some_iff.mp parsed
          cases result with
          | error error => simp [Except.map] at mapped
          | ok out =>
              simp only [Except.map, Except.ok.injEq, Prod.mk.injEq] at mapped
              obtain ⟨rfl, same⟩ := mapped
              exact .simple read taken (induction (by rw [later, ← same]))
      next args room₁ rest₁ read =>
        split at parsed
        · simp at parsed
        next cmd state₁ entered =>
          split at parsed
          · contradiction
          · simp at parsed
          next inside state₂ room₂ rest₂ inner =>
            split at parsed
            · simp at parsed
            next state₃ left =>
              obtain ⟨result, later, mapped⟩ := Option.map_eq_some_iff.mp parsed
              cases result with
              | error error => simp [Except.map] at mapped
              | ok out =>
                  simp only [Except.map, Except.ok.injEq, Prod.mk.injEq] at mapped
                  obtain ⟨rfl, same⟩ := mapped
                  exact .block read entered (induction inner) left
                    (induction (by rw [later, ← same]))

theorem Parses.length_le
    (parses : Parses commands type body state room file conf state' room' rest) :
    rest.length ≤ file.length := by
  induction parses with
  | fileDone read | blockDone read => exact length_rest_le read
  | simple read _ _ induction =>
      have shorter := length_rest_le read
      omega
  | block read _ _ _ _ inner induction =>
      have shorter := length_rest_le read
      omega

/-- What the parser accepts is accepted by the rows. -/
theorem Parses.accepted
    (parses : Parses commands type body state room file conf state' room' rest) :
    Accepted commands body state conf state' := by
  induction parses with
  | fileDone | blockDone => exact .done
  | @simple _ body _ _ _ _ _ _ _ _ _ _ _ _ taken _ induction =>
      cases body with
      | handler run => exact .custom (mapError_eq_ok_iff.mp taken) induction
      | directives cmdType =>
          obtain ⟨cmd, fits, set⟩ := simple_directives_iff.mp taken
          exact .simple fits set induction
  | block _ entered _ left _ inner induction =>
      obtain ⟨cmdType, rfl, fits, set⟩ := enter_iff.mp entered
      exact .block fits set inner (mapError_eq_ok_iff.mp left) induction

/-- The end of a block is a token of its own. -/
def ParseType.ends : ParseType → List Token
  | .parseFile => []
  | .parseBlock => [.blockDone]

/-- The parser reads the tokens of the directives it returns. -/
theorem Parses.tokens
    (parses : Parses commands type body state room file conf state' room' rest) :
    readAll .fresh room file =
      match type with
      | .parseFile => .ok conf.tokens
      | .parseBlock => (readAll .fresh room' rest).map (conf.tokens ++ .blockDone :: ·) := by
  induction parses with
  | fileDone read => rw [readAll_eq, read]; rfl
  | blockDone read => rw [readAll_eq, read]; rfl
  | @simple type _ _ _ _ _ _ room' _ _ rest _ _ read _ _ induction =>
      rw [readAll_eq, read]
      simp only
      rw [induction]
      cases type with
      | parseFile => rfl
      | parseBlock => cases readAll .fresh room' rest <;> rfl
  | @block type _ _ _ _ _ _ _ _ _ room' _ _ _ rest _ _ _ _ read _ _ _ _ inner induction =>
      rw [readAll_eq, read]
      simp only
      rw [inner]
      simp only
      rw [induction]
      cases type with
      | parseFile => simp [Except.map, Directives.tokens]
      | parseBlock => cases readAll .fresh room' rest <;> simp [Except.map, Directives.tokens]

/-- The loop finds every way of the parser. -/
theorem parseLoop_of_parses
    (parses : Parses commands type body state room file conf state' room' rest)
    (enough : file.length < fuel) :
    parseLoop commands type body fuel state room file = some (.ok (conf, state', room', rest)) := by
  obtain ⟨fuel, rfl⟩ : ∃ n, fuel = n + 1 := ⟨fuel - 1, by omega⟩
  induction parses generalizing fuel with
  | fileDone read => simp [parseLoop, read]
  | blockDone read => simp [parseLoop, read]
  | simple read taken _ induction =>
      have shorter := length_rest_lt read
      obtain ⟨less, rfl⟩ : ∃ n, fuel = n + 1 := ⟨fuel - 1, by omega⟩
      rw [parseLoop]
      simp only [read, taken]
      rw [induction less (by omega)]
      rfl
  | block read entered inside left _ inner induction =>
      have shorter := length_rest_lt read
      have shorter' := inside.length_le
      obtain ⟨less, rfl⟩ : ∃ n, fuel = n + 1 := ⟨fuel - 1, by omega⟩
      rw [parseLoop]
      simp only [read, entered]
      rw [inner less (by omega)]
      simp only [left]
      rw [induction less (by omega)]
      rfl

/-- The parser finds its way through the tokens of accepted directives. -/
theorem parses_of_tokens {more : List Token} (accepted : Accepted commands body state conf state')
    (whole : type = .parseFile → more = [])
    (read : readAll .fresh room file = .ok (conf.tokens ++ (type.ends ++ more))) :
    ∃ room' rest, Parses commands type body state room file conf state' room' rest ∧
      (type = .parseBlock → readAll .fresh room' rest = .ok more) := by
  induction accepted generalizing type room file more with
  | done =>
      cases type with
      | parseFile =>
          rw [whole rfl] at read
          obtain ⟨room', rest, called⟩ := call_of_readAll_nil read
          exact ⟨room', rest, .fileDone called, fun other => by contradiction⟩
      | parseBlock =>
          obtain ⟨room', rest, called, later, -⟩ := call_of_readAll_cons read
          exact ⟨room', rest, .blockDone called, fun _ => later⟩
  | simple fits set _ induction =>
      obtain ⟨room₁, rest₁, called, later, -⟩ := call_of_readAll_cons read
      obtain ⟨room', rest, parses, left⟩ := induction whole later
      exact ⟨room', rest, .simple called (simple_directives_iff.mpr ⟨_, fits, set⟩) parses, left⟩
  | custom handled _ induction =>
      obtain ⟨room₁, rest₁, called, later, -⟩ := call_of_readAll_cons read
      obtain ⟨room', rest, parses, left⟩ := induction whole later
      exact ⟨room', rest, .simple called (mapError_eq_ok_iff.mpr handled) parses, left⟩
  | block fits set _ close _ inner induction =>
      rw [Directives.tokens, List.cons_append, List.append_assoc, List.cons_append] at read
      obtain ⟨room₁, rest₁, called, later, -⟩ := call_of_readAll_cons read
      obtain ⟨room₂, rest₂, bodyParses, bodyLeft⟩ :=
        @inner .parseBlock _ _ _ (fun other => by contradiction) later
      obtain ⟨room', rest, parses, left⟩ := induction whole (bodyLeft rfl)
      exact ⟨room', rest, .block called (enter_iff.mpr ⟨_, rfl, fits, set⟩) bodyParses
        (mapError_eq_ok_iff.mpr close) parses, left⟩

/-- There is always enough fuel for the bytes of the file. -/
theorem parseLoop_isSome (enough : file.length < fuel) :
    (parseLoop commands type body fuel state room file).isSome := by
  induction fuel generalizing type body state room file with
  | zero => omega
  | succ fuel induction =>
      rw [parseLoop]
      split
      · rfl
      · rfl
      · rfl
      next read =>
        have shorter := length_rest_lt read
        split
        · rfl
        · rw [Option.isSome_map]
          exact induction (by omega)
      next room₁ rest₁ read =>
        have shorter := length_rest_lt read
        split
        · rfl
        next cmd state₁ _ =>
          have inside := @induction .parseBlock cmd.body state₁ room₁ rest₁ (by omega)
          split
          next stuck =>
            rw [stuck] at inside
            contradiction
          · rfl
          next inner =>
            have shorter' := (parses_of_parseLoop inner).length_le
            split
            · rfl
            · rw [Option.isSome_map]
              exact induction (by omega)

/-- Simple directives one after another. -/
def Body.simples (commands : List (Command S)) (lines : List (List Text)) (state : S)
    (body : Body S) : Except ConfError S :=
  lines.foldlM (fun state line => body.simple commands line state) state

theorem simples_cons {line : List Text} {middle : S}
    (taken : body.simple commands line state = .ok middle) (lines : List (List Text)) :
    body.simples commands (line :: lines) state = body.simples commands lines middle := by
  rw [Body.simples, List.foldlM_cons, taken]
  rfl

/-- Words that are refused stop the parser, whatever stands behind them. -/
theorem parseLoop_of_refused {args : List Text} {more : List Token} {error : ConfError}
    (read : readAll .fresh room file = .ok (.ok args :: more))
    (refused : body.simple commands args state = .error error) :
    parseLoop commands type body (fuel + 1) state room file = some (.error error) := by
  obtain ⟨room', rest, called, -, -⟩ := call_of_readAll_cons read
  rw [parseLoop]
  simp only [called, refused]

/-- Words that are taken leave the rest of the file to the parser. -/
theorem parseLoop_of_taken {args : List Text} {more : List Token} {error : ConfError}
    (read : readAll .fresh room file = .ok (.ok args :: more))
    (taken : body.simple commands args state = .ok state')
    (later : ∀ room' rest, readAll .fresh room' rest = .ok more → rest.length < file.length →
      parseLoop commands type body fuel state' room' rest = some (.error error)) :
    parseLoop commands type body (fuel + 1) state room file = some (.error error) := by
  obtain ⟨room', rest, called, tokens, shorter⟩ := call_of_readAll_cons read
  rw [parseLoop]
  simp only [called, taken]
  rw [later room' rest tokens shorter]
  rfl

/-- The parser stops at the first directive that its row refuses. -/
theorem ngxConfParse_of_refused {lines : List (List Text)} {args : List Text} {more : List Token}
    {error : ConfError}
    (read : readAll .fresh 0 file = .ok (lines.map .ok ++ .ok args :: more))
    (taken : (Body.directives .main).simples commands lines state = .ok state')
    (refused : (Body.directives .main).simple commands args state' = .error error) :
    ngxConfParse commands state file = some (.error error) := by
  have stops : ∀ (fuel room : Nat) (file : Text) (state : S), file.length < fuel →
      readAll .fresh room file = .ok (lines.map .ok ++ .ok args :: more) →
      (Body.directives .main).simples commands lines state = .ok state' →
      parseLoop commands .parseFile (.directives .main) fuel state room file =
        some (.error error) := by
    clear read taken
    induction lines with
    | nil =>
        intro fuel room file state enough read taken
        obtain ⟨fuel, rfl⟩ : ∃ n, fuel = n + 1 := ⟨fuel - 1, by omega⟩
        injection taken with same
        exact parseLoop_of_refused read (same ▸ refused)
    | cons line lines induction =>
        intro fuel room file state enough read taken
        obtain ⟨fuel, rfl⟩ : ∃ n, fuel = n + 1 := ⟨fuel - 1, by omega⟩
        cases first : (Body.directives .main).simple commands line state with
        | error error =>
            rw [Body.simples, List.foldlM_cons, first] at taken
            contradiction
        | ok middle =>
            rw [simples_cons first] at taken
            exact parseLoop_of_taken read first fun room' rest tokens shorter =>
              induction fuel room' rest middle (by omega) tokens taken
  rw [ngxConfParse, stops _ 0 file state (Nat.lt_succ_self _) read taken]
  rfl

/-- The parser returns exactly the directives whose tokens the file has and which the rows
accept. -/
theorem ngxConfParse_eq_ok_iff : ngxConfParse commands state file = some (.ok (conf, state')) ↔
    readAll .fresh 0 file = .ok conf.tokens ∧
      Accepted commands (.directives .main) state conf state' := by
  constructor
  · intro parsed
    obtain ⟨result, loop, mapped⟩ := Option.map_eq_some_iff.mp parsed
    cases result with
    | error error => simp [Except.map] at mapped
    | ok out =>
        simp only [Except.map, Except.ok.injEq, Prod.mk.injEq] at mapped
        obtain ⟨rfl, rfl⟩ := mapped
        have parses := parses_of_parseLoop loop
        exact ⟨parses.tokens, parses.accepted⟩
  · rintro ⟨read, accepted⟩
    have whole : readAll .fresh 0 file = .ok (conf.tokens ++ (ParseType.parseFile.ends ++ [])) := by
      simpa [ParseType.ends] using read
    obtain ⟨room', rest, parses, -⟩ := parses_of_tokens accepted (fun _ => rfl) whole
    rw [ngxConfParse, parseLoop_of_parses parses (by omega)]
    rfl

end

/-! ## Layouts -/

/-- The parser ends on every file.  What it accepts is laid out by the grammar, with balanced
braces, and every directive is accepted by its row. -/
theorem ngxConfParse_sound {S : Type} (commands : List (Command S)) (state : S) (file : Text) :
    ∃ result, ngxConfParse commands state file = some result ∧
      ∀ conf state', result = .ok (conf, state') →
        FileLayout (file.length + 1) [] file conf.tokens ∧
          Accepted commands (.directives .main) state conf state' := by
  have ends : (parseLoop commands .parseFile (.directives .main) (file.length + 1) state 0
      file).isSome := parseLoop_isSome (Nat.lt_succ_self _)
  obtain ⟨result, loop⟩ := Option.isSome_iff_exists.mp ends
  have parsed : ngxConfParse commands state file =
      some (result.map fun read => (read.1, read.2.1)) := by
    rw [ngxConfParse, loop, Option.map_some]
  refine ⟨_, parsed, fun conf state' accepted => ?_⟩
  rw [accepted] at parsed
  obtain ⟨read, rows⟩ := ngxConfParse_eq_ok_iff.mp parsed
  obtain ⟨after, scanned, done⟩ := scanText_of_readAll read
  exact ⟨layout_of_scanText scanned done (Nat.lt_succ_self _), rows⟩

/-- However directives are laid out, when their rows accept them the parser returns them. -/
theorem ngxConfParse_layout {S : Type} {commands : List (Command S)} {state state' : S}
    {conf : Directives} {file : Text} (layout : FileLayout confBuffer [] file conf.tokens)
    (accepted : Accepted commands (.directives .main) state conf state') :
    ngxConfParse commands state file = some (.ok (conf, state')) :=
  ngxConfParse_eq_ok_iff.mpr ⟨readAll_of_layout layout, accepted⟩

/-- A block whose lines a handler collects. -/
def collecting : Command (List (List Text)) where
  name := "map"
  contexts := [.main]
  arity := .takes [1]
  block := some .handled
  set := fun _ lines => .ok lines
  handler := fun args lines => .ok (lines ++ [args])
  close := .ok

/-- A variable, an escaped byte between quotes and a comment at the end of the file. -/
theorem ngxConfParse_layout_quoted :
    ngxConfParse [collecting] [] ("map $x\x7ba \"\\t\";\x7d" ++ ['#', 'x']) =
      some (.ok (.block ["map", "$x"] (.simple ["a", "\t"] .done) .done, [["a", "\t"]])) := by
  have name : Part confBuffer [] (['m', 'a', 'p'] ++ [' ']) [] ([] ++ [['m', 'a', 'p']]) :=
    .words (spells_plain rfl (List.all_eq_true.mp (by decide))) (by decide) rfl
  have opens : Part confBuffer [['m', 'a', 'p']] ((['$'] ++ (['x'] ++ [])) ++ ['{'])
      [.blockStart (["map", "$x"] : List Text)] [] :=
    .lastWords (.bare .dollar (by simp; decide) (.cons (.plain rfl) (.nil false))) (by decide)
      (.inr ⟨rfl, rfl⟩)
  have first : Part confBuffer [] (['a'] ++ [' ']) [] ([] ++ [['a']]) :=
    .words (spells_plain rfl (by simp; decide)) (by decide) rfl
  have second : Part confBuffer [['a']] ('"' :: (['\\', 't'] ++ ['"']) ++ [';'])
      [.ok (["a", "\t"] : List Text)] [] :=
    .lastWords (.quoted (.inl rfl) (.escaped 't' .nil)) (by decide) (.inl rfl)
  have layout : FileLayout confBuffer [] (("map $x\x7ba \"\\t\";\x7d" : Text) ++ '#' :: ['x'])
      (Directives.block ["map", "$x"] (.simple ["a", "\t"] .done) .done).tokens :=
    .comment (.cons name (.cons opens (.cons first (.cons second (.cons .brace (.nil []))))))
      (by decide) (by decide)
  have row : Fits [collecting] .main ["map", "$x"] true collecting :=
    ⟨List.find?_cons_of_pos (by decide), rfl, rfl⟩
  exact ngxConfParse_layout layout (.block row rfl (.custom rfl .done) rfl .done)

end Nginx.ConfFile
