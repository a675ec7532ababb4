import ArmTest.Nginx.Layout

/-!
# Parsing the configuration file

`ngx_conf_parse` asks for one directive after another and hands each to `ngx_conf_handler`, which
looks it up in the command tables and calls the function of its row.  That function may refuse the
directive; for a block it parses the body before anything else, with the tables or with a handler
of its own.  What the modules keep is a state that these functions pass on.
-/

namespace Nginx.ConfFile

open Shell

/-! ## Commands -/

/-- The kind of block a directive stands in, `cf->cmd_type`. -/
inductive Context where
  | main
  | event
  | httpMain
  | httpSrv
  | httpLoc
  | httpLif
  | httpLmt
  deriving DecidableEq

/-- How many words a directive takes. -/
inductive Arity where
  /-- `NGX_CONF_ANY`. -/
  | any
  /-- `NGX_CONF_FLAG`. -/
  | flag
  /-- `NGX_CONF_1MORE`. -/
  | oneMore
  /-- `NGX_CONF_2MORE`. -/
  | twoMore
  /-- `NGX_CONF_NOARGS`, `NGX_CONF_TAKE1` and their combinations. -/
  | takes (counts : List Nat)
  deriving DecidableEq

/-- The check of the argument count; the name of the directive counts as well. -/
def Arity.accepts : Arity → Nat → Bool
  | .any, _ => true
  | .flag, nelts => nelts == 2
  | .oneMore, nelts => 2 ≤ nelts
  | .twoMore, nelts => 3 ≤ nelts
  | .takes counts, nelts => nelts ≤ 8 && counts.contains (nelts - 1)

/-- What stands in a block. -/
inductive Content where
  /-- Directives, with this `cf->cmd_type`. -/
  | directives (cmdType : Context)
  /-- Lines for a custom handler, `cf->handler`. -/
  | handled
  deriving DecidableEq

/-- The name and the type of a row of a command table. -/
structure Row where
  name : Text
  /-- Where the directive may stand. -/
  contexts : List Context
  arity : Arity
  /-- The content of the body, for a block directive. -/
  block : Option Content
  deriving DecidableEq

/-- What a function returns that refuses a directive. -/
inductive SetFailure where
  /-- `NGX_CONF_ERROR`, behind an entry of its own in the log. -/
  | logged (entry : Text)
  /-- A text, which the caller logs. -/
  | text (rv : Text)
  deriving DecidableEq

/-- A row of a command table with its functions over the state of the modules. -/
structure Command (S : Type) extends Row where
  /-- `cmd->set`; for a block, what it does before it parses the body. -/
  set : List Text → S → Except SetFailure S
  /-- The custom handler of the body, for a block that has one. -/
  handler : List Text → S → Except SetFailure S
  /-- What `cmd->set` does behind the body of a block. -/
  close : S → Except SetFailure S

/-- What stops the parser. -/
inductive ConfError where
  | token (error : TokenError)
  | unexpectedBrace
  | unexpectedOpening
  | unexpectedEnd
  | notTerminated (name : Text)
  | noOpening (name : Text)
  | invalidNumber (name : Text)
  | notAllowed (name : Text)
  | unknown (name : Text)
  | refused (name : Text) (failure : SetFailure)
  | custom (failure : SetFailure)
  deriving DecidableEq

/-- The text of the log entry. -/
def ConfError.text : ConfError → Text
  | .token error => error.text
  | .unexpectedBrace => "unexpected \"\x7d\""
  | .unexpectedOpening => "unexpected \"\x7b\""
  | .unexpectedEnd => "unexpected end of file, expecting \"\x7d\""
  | .notTerminated name => "directive \"" ++ name ++ "\" is not terminated by \";\""
  | .noOpening name => "directive \"" ++ name ++ "\" has no opening \"\x7b\""
  | .invalidNumber name => "invalid number of arguments in \"" ++ name ++ "\" directive"
  | .notAllowed name => "\"" ++ name ++ "\" directive is not allowed here"
  | .unknown name => "unknown directive \"" ++ name ++ "\""
  | .refused _ (.logged entry) => entry
  | .refused name (.text rv) => "\"" ++ name ++ "\" directive " ++ rv
  | .custom (.logged entry) => entry
  | .custom (.text rv) => rv

section

variable {S : Type}

/-- The checks of a row with the name of the directive that may stand here; `opening` tells whether
the words were ended by a brace. -/
def Command.check (args : List Text) (opening : Bool) (cmd : Command S) :
    Except ConfError (Command S) :=
  if cmd.block = none ∧ opening = true then .error (.notTerminated cmd.name)
  else if cmd.block ≠ none ∧ opening = false then .error (.noOpening cmd.name)
  else if cmd.arity.accepts args.length then .ok cmd
  else .error (.invalidNumber cmd.name)

/-- The loop of `ngx_conf_handler` over the rows not yet visited, up to the call of the function. -/
def lookUp (cmdType : Context) (args : List Text) (opening : Bool) :
    List (Command S) → Bool → Except ConfError (Command S)
  | [], found =>
      .error (if found then .notAllowed (args.headD []) else .unknown (args.headD []))
  | cmd :: commands, found =>
      if args.head? ≠ some cmd.name then lookUp cmdType args opening commands found
      else if cmdType ∉ cmd.contexts then lookUp cmdType args opening commands true
      else cmd.check args opening

/-- `ngx_conf_handler`, for a block up to its body. -/
def ngxConfHandler (commands : List (Command S)) (cmdType : Context) (args : List Text)
    (opening : Bool) (state : S) : Except ConfError (Command S × S) :=
  match lookUp cmdType args opening commands false with
  | .error error => .error error
  | .ok cmd =>
      match cmd.set args state with
      | .error failure => .error (.refused cmd.name failure)
      | .ok state => .ok (cmd, state)

/-! ## The parser -/

/-- The directives of a file or of a block, in their order. -/
inductive Directives where
  | done
  | simple (args : List Text) (others : Directives)
  | block (args : List Text) (body others : Directives)
  deriving DecidableEq

/-- Whether a file or the body of a block is parsed. -/
inductive ParseType where
  | parseFile
  | parseBlock
  deriving DecidableEq

/-- Who takes the directives that are parsed: the tables, or `cf->handler`. -/
inductive Body (S : Type) where
  | directives (cmdType : Context)
  | handler (run : List Text → S → Except SetFailure S)

/-- The body of a block directive. -/
def Command.body (cmd : Command S) : Body S :=
  match cmd.block with
  | some .handled => .handler cmd.handler
  | some (.directives cmdType) => .directives cmdType
  | none => .directives .main

/-- Words up to a semicolon. -/
def Body.simple (commands : List (Command S)) (args : List Text) (state : S) :
    Body S → Except ConfError S
  | .handler run => (run args state).mapError .custom
  | .directives cmdType => (ngxConfHandler commands cmdType args false state).map Prod.snd

/-- Words up to an opening brace. -/
def Body.enter (commands : List (Command S)) (args : List Text) (state : S) :
    Body S → Except ConfError (Command S × S)
  | .handler _ => .error .unexpectedOpening
  | .directives cmdType => ngxConfHandler commands cmdType args true state

/-- Behind the body of a block. -/
def Command.leave (cmd : Command S) (state : S) : Except ConfError S :=
  (cmd.close state).mapError (.refused cmd.name)

/-- The loop of `ngx_conf_parse` for at most `fuel` tokens: the directives, the state of the
modules, the unread bytes in the buffer and the rest of the file. -/
def parseLoop (commands : List (Command S)) (type : ParseType) (body : Body S) :
    Nat → S → Nat → Text → Option (Except ConfError (Directives × S × Nat × Text))
  | 0, _, _, _ => none
  | fuel + 1, state, room, file =>
      match ngxConfReadToken .fresh room file with
      | .error error => some (.error (.token error))
      | .ok (none, room, rest) =>
          some (if type = .parseBlock then .error .unexpectedEnd
            else .ok (.done, state, room, rest))
      | .ok (some .blockDone, room, rest) =>
          some (if type = .parseBlock then .ok (.done, state, room, rest)
            else .error .unexpectedBrace)
      | .ok (some (.ok args), room, rest) =>
          match body.simple commands args state with
          | .error error => some (.error error)
          | .ok state =>
              (parseLoop commands type body fuel state room rest).map
                (Except.map fun read => (.simple args read.1, read.2))
      | .ok (some (.blockStart args), room, rest) =>
          match body.enter commands args state with
          | .error error => some (.error error)
          | .ok (cmd, state) =>
              match parseLoop commands .parseBlock cmd.body fuel state room rest with
              | none => none
              | some (.error error) => some (.error error)
              | some (.ok (inner, state, room, rest)) =>
                  match cmd.leave state with
                  | .error error => some (.error error)
                  | .ok state =>
                      (parseLoop commands type body fuel state room rest).map
                        (Except.map fun read => (.block args inner read.1, read.2))

/-- `ngx_conf_parse` on a file: the buffer is empty and every token takes at least one byte. -/
def ngxConfParse (commands : List (Command S)) (state : S) (file : Text) :
    Option (Except ConfError (Directives × S)) :=
  (parseLoop commands .parseFile (.directives .main) (file.length + 1) state 0 file).map
    (Except.map fun read => (read.1, read.2.1))

/-! ## Accepted directives -/

/-- Whether a row has the name of a directive and may stand here. -/
def Row.placed (cmdType : Context) (args : List Text) (row : Row) : Bool :=
  args.head? = some row.name ∧ cmdType ∈ row.contexts

/-- The row that takes a directive: the first with its name that may stand here.  The words end as
the row says, and their number is right. -/
structure Fits (commands : List (Command S)) (cmdType : Context) (args : List Text)
    (opening : Bool) (cmd : Command S) : Prop where
  first : commands.find? (fun row => row.placed cmdType args) = some cmd
  ends : cmd.block.isSome = opening
  count : cmd.arity.accepts args.length = true

/-- Directives that their rows take, in a block and in front of others, with the states of the
modules before and behind them. -/
inductive Accepted (commands : List (Command S)) : Body S → S → Directives → S → Prop
  | done {body : Body S} {state : S} : Accepted commands body state .done state
  | simple {cmdType : Context} {state middle state' : S} {args : List Text} {others : Directives}
      {cmd : Command S} (fits : Fits commands cmdType args false cmd)
      (set : cmd.set args state = .ok middle)
      (later : Accepted commands (.directives cmdType) middle others state') :
      Accepted commands (.directives cmdType) state (.simple args others) state'
  | custom {run : List Text → S → Except SetFailure S} {state middle state' : S}
      {args : List Text} {others : Directives} (handled : run args state = .ok middle)
      (later : Accepted commands (.handler run) middle others state') :
      Accepted commands (.handler run) state (.simple args others) state'
  | block {cmdType : Context} {state opened inside closed state' : S} {args : List Text}
      {body others : Directives} {cmd : Command S} (fits : Fits commands cmdType args true cmd)
      (set : cmd.set args state = .ok opened)
      (inner : Accepted commands cmd.body opened body inside)
      (close : cmd.close inside = .ok closed)
      (later : Accepted commands (.directives cmdType) closed others state') :
      Accepted commands (.directives cmdType) state (.block args body others) state'

/-- The tokens of directives. -/
def Directives.tokens : Directives → List Token
  | .done => []
  | .simple args others => .ok args :: others.tokens
  | .block args body others => .blockStart args :: (body.tokens ++ .blockDone :: others.tokens)

/-! ## What the handler does -/

variable {commands : List (Command S)} {cmdType : Context} {args : List Text} {opening : Bool}
  {cmd : Command S} {state state' : S} {body : Body S}

theorem check_eq_ok_iff {row : Command S} : row.check args opening = .ok cmd ↔
    row = cmd ∧ row.block.isSome = opening ∧ row.arity.accepts args.length = true := by
  rw [Command.check]
  by_cases count : row.arity.accepts args.length = true <;>
    cases opening <;> cases row.block <;> simp [count]

/-- The first row with the name of the directive that may stand here decides. -/
theorem lookUp_eq (found : Bool) : lookUp cmdType args opening commands found =
    match commands.find? (fun row => row.placed cmdType args) with
    | some row => row.check args opening
    | none =>
        .error (if found ∨ ∃ row ∈ commands, args.head? = some row.name then
          .notAllowed (args.headD []) else .unknown (args.headD [])) := by
  induction commands generalizing found with
  | nil => simp [lookUp]
  | cons row commands induction =>
      rw [lookUp]
      by_cases name : args.head? = some row.name
      · by_cases place : cmdType ∈ row.contexts
        · have placed : row.placed cmdType args = true := decide_eq_true ⟨name, place⟩
          rw [List.find?_cons, placed, if_neg (not_not.mpr name), if_neg (not_not.mpr place)]
        · have passed : row.placed cmdType args = false := by simp [Row.placed, place]
          rw [List.find?_cons, passed, if_neg (not_not.mpr name), if_pos place, induction]
          simp [name]
      · have passed : row.placed cmdType args = false := by simp [Row.placed, name]
        rw [List.find?_cons, passed, if_pos name, induction]
        simp [name]

/-- The look-up finds a row exactly when the row takes the directive. -/
theorem lookUp_eq_ok_iff {found : Bool} : lookUp cmdType args opening commands found = .ok cmd ↔
    Fits commands cmdType args opening cmd := by
  rw [lookUp_eq]
  split
  next row first =>
    rw [check_eq_ok_iff]
    constructor
    · rintro ⟨rfl, ends, count⟩
      exact ⟨first, ends, count⟩
    · intro fits
      have same := first.symm.trans fits.first
      injection same with same
      exact ⟨same, same ▸ fits.ends, same ▸ fits.count⟩
  next none =>
    refine ⟨fun accepted => by contradiction, fun fits => ?_⟩
    rw [fits.first] at none
    contradiction

/-- An accepted directive stands in a row of the tables, under its name and in its place, and the
function of the row accepts it. -/
theorem ngxConfHandler_eq_ok_iff :
    ngxConfHandler commands cmdType args opening state = .ok (cmd, state') ↔
      Fits commands cmdType args opening cmd ∧ cmd.set args state = .ok state' := by
  rw [ngxConfHandler, ← @lookUp_eq_ok_iff S commands cmdType args opening cmd false]
  split
  next unknown => simp [unknown]
  next row known =>
    rw [known]
    split
    next refused =>
      constructor
      · intro accepted
        contradiction
      · rintro ⟨same, accepted⟩
        injection same with same
        rw [← same, refused] at accepted
        contradiction
    next accepted =>
      simp only [Except.ok.injEq, Prod.mk.injEq]
      constructor
      · rintro ⟨rfl, rfl⟩
        exact ⟨rfl, accepted⟩
      · rintro ⟨rfl, set⟩
        rw [accepted] at set
        injection set with same
        exact ⟨rfl, same⟩

theorem mapError_eq_ok_iff {E E' X : Type} {f : E → E'} {result : Except E X} {out : X} :
    result.mapError f = .ok out ↔ result = .ok out := by
  cases result <;> simp [Except.mapError]

theorem simple_directives_iff : (Body.directives cmdType).simple commands args state = .ok state' ↔
    ∃ cmd, Fits commands cmdType args false cmd ∧ cmd.set args state = .ok state' := by
  simp only [← ngxConfHandler_eq_ok_iff]
  rw [Body.simple]
  cases ngxConfHandler commands cmdType args false state with
  | error error => simp [Except.map]
  | ok out => simp [Except.map, Prod.ext_iff]

theorem enter_iff : body.enter commands args state = .ok (cmd, state') ↔
    ∃ cmdType, body = .directives cmdType ∧ Fits commands cmdType args true cmd ∧
      cmd.set args state = .ok state' := by
  cases body with
  | handler => simp [Body.enter]
  | directives cmdType => simp [Body.enter, ngxConfHandler_eq_ok_iff]

end

/-! ## Calls of the reader -/

/-- A call of the reader takes at least one byte, unless the file is done. -/
theorem length_rest_lt {scan : Scan} {room room' : Nat} {file rest : Text} {token : Token}
    (read : ngxConfReadToken scan room file = .ok (some token, room', rest)) :
    rest.length < file.length := by
  induction file generalizing scan room with
  | nil =>
      rw [ngxConfReadToken] at read
      split at read <;> simp at read
  | cons ch file induction =>
      rw [ngxConfReadToken] at read
      rw [List.length_cons]
      split at read
      · contradiction
      · split at read
        · have later := induction read
          omega
        · injection read with same
          injection same with _ same
          injection same with _ same
          subst same
          omega
        · contradiction

theorem length_rest_le {scan : Scan} {room room' : Nat} {file rest : Text} {token : Option Token}
    (read : ngxConfReadToken scan room file = .ok (token, room', rest)) :
    rest.length ≤ file.length := by
  cases token with
  | some token => exact (length_rest_lt read).le
  | none =>
      induction file generalizing scan room with
      | nil =>
          rw [ngxConfReadToken] at read
          split at read
          · contradiction
          · injection read with same
            injection same with _ same
            injection same with _ same
            rw [← same]
      | cons ch file induction =>
          rw [ngxConfReadToken] at read
          split at read
          · contradiction
          · split at read
            · exact (induction read).trans (by simp)
            · injection read with same
              injection same with same
              contradiction
            · contradiction

/-- The first token of a file, as the next call of the reader returns it. -/
theorem call_of_readAll_cons {room : Nat} {file : Text} {token : Token} {tokens : List Token}
    (read : readAll .fresh room file = .ok (token :: tokens)) :
    ∃ room' rest, ngxConfReadToken .fresh room file = .ok (some token, room', rest) ∧
      readAll .fresh room' rest = .ok tokens ∧ rest.length < file.length := by
  rw [readAll_eq] at read
  split at read
  · contradiction
  · simp at read
  next first room' rest called =>
    cases later : readAll .fresh room' rest with
    | error error => simp [later, Except.map] at read
    | ok others =>
        simp only [later, Except.map, Except.ok.injEq, List.cons.injEq] at read
        obtain ⟨rfl, rfl⟩ := read
        exact ⟨room', rest, called, later, length_rest_lt called⟩

/-- A file without tokens is done at the next call of the reader. -/
theorem call_of_readAll_nil {room : Nat} {file : Text} (read : readAll .fresh room file = .ok []) :
    ∃ room' rest, ngxConfReadToken .fresh room file = .ok (none, room', rest) := by
  rw [readAll_eq] at read
  split at read
  · contradiction
  next room' rest called => exact ⟨room', rest, called⟩
  next first room' rest called =>
    cases later : readAll .fresh room' rest <;> simp [later, Except.map] at read

end Nginx.ConfFile
