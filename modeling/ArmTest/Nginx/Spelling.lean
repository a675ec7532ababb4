import ArmTest.Nginx.Token

/-!
# The grammar of the configuration file

A file is a sequence of parts: blanks, comments, words and the ends of directives.  A word may be
written bare or between quotes.  The reader returns the words and the ends of directives of every
sequence of parts, and it accepts nothing else.
-/

namespace Nginx.ConfFile

open Shell

/-! ## Bare words -/

/-- Bytes that stand for themselves in a bare word. -/
def plainChar (ch : Char) : Bool :=
  !isBlank ch && ch != ';' && ch != '{' && ch != '\\' && ch != '$'

/-- Bytes that may begin a bare word. -/
def startsBare (ch : Char) : Bool := ch != '}' && ch != '#' && ch != '"' && ch != '\''

/-- A unit of a bare word.  Behind a dollar sign, and only there, an opening brace belongs to the
word; the flags tell whether one is allowed before and behind the unit. -/
inductive Piece : Bool → Text → Bool → Prop
  | plain {dollar : Bool} {ch : Char} (plain : plainChar ch = true) : Piece dollar [ch] false
  | escaped {dollar : Bool} (ch : Char) : Piece dollar ['\\', ch] false
  | dollar {dollar : Bool} : Piece dollar ['$'] true
  | brace : Piece true ['{'] true

/-- The rest of a bare word behind its first unit. -/
inductive Tail : Bool → Text → Bool → Prop
  | nil (dollar : Bool) : Tail dollar [] dollar
  | cons {dollar middle dollar' : Bool} {unit raw : Text} (piece : Piece dollar unit middle)
      (others : Tail middle raw dollar') : Tail dollar (unit ++ raw) dollar'

/-! ## Quoted words -/

/-- The bytes between two quotes: a backslash takes the byte behind it along. -/
inductive Quoted (quote : Char) : Text → Prop
  | nil : Quoted quote []
  | plain {ch : Char} {body : Text} (inside : ch ≠ quote) (plain : ch ≠ '\\')
      (others : Quoted quote body) : Quoted quote (ch :: body)
  | escaped (ch : Char) {body : Text} (others : Quoted quote body) :
      Quoted quote ('\\' :: ch :: body)

/-- A backslash before every quote of the given kind and before every backslash. -/
def escape (quote : Char) (word : Text) : Text :=
  word.flatMap fun ch => if ch = quote ∨ ch = '\\' then ['\\', ch] else [ch]

theorem escape_cons (quote ch : Char) (word : Text) : escape quote (ch :: word) =
    (if ch = quote ∨ ch = '\\' then ['\\', ch] else [ch]) ++ escape quote word := rfl

theorem quoted_escape (quote : Char) (word : Text) : Quoted quote (escape quote word) := by
  induction word with
  | nil => exact .nil
  | cons ch word induction =>
      rw [escape_cons]
      split
      next special => exact .escaped ch induction
      next plain =>
        rw [not_or] at plain
        exact .plain plain.1 plain.2 induction

/-! ## Copied words -/

theorem copyWord_cons {ch : Char} (plain : ch ≠ '\\') (src : Text) :
    copyWord (ch :: src) = ch :: copyWord src := by
  cases src with
  | nil => rfl
  | cons next src => rw [copyWord, if_neg plain]

/-- The copy loop takes every backslash of the quoting away. -/
theorem copyWord_escape {quote : Char} (kind : quote = '"' ∨ quote = '\'') (word : Text) :
    copyWord (escape quote word) = word := by
  induction word with
  | nil => rfl
  | cons ch word induction =>
      rw [escape_cons]
      split
      next special =>
        have known : unescapeNext ch = some ch := by
          rcases kind with rfl | rfl <;> rcases special with rfl | rfl <;> rfl
        simp only [List.cons_append, List.nil_append, copyWord, known, if_pos, induction]
      next plain =>
        rw [not_or] at plain
        rw [List.singleton_append, copyWord_cons plain.2, induction]

theorem copyWord_plain {word : Text} (plain : ∀ ch ∈ word, plainChar ch = true) :
    copyWord word = word := by
  induction word with
  | nil => rfl
  | cons ch word induction =>
      have head := plain ch List.mem_cons_self
      simp only [plainChar, Bool.and_eq_true, bne_iff_ne] at head
      rw [copyWord_cons head.1.2, induction fun other member =>
        plain other (List.mem_cons_of_mem ch member)]

/-! ## Words -/

/-- The words that bytes without a separator spell; the flag tells whether an opening brace behind
them would still belong to the word.  A closing parenthesis may follow a closing quote at once, and
begins a second word. -/
inductive Spells : List Text → Text → Bool → Prop
  | bare {first raw : Text} {dollar dollar' : Bool} (piece : Piece false first dollar)
      (head : ∀ ch ∈ first.head?, startsBare ch = true) (tail : Tail dollar raw dollar') :
      Spells [copyWord (first ++ raw)] (first ++ raw) dollar'
  | quoted {quote : Char} {body : Text} (kind : quote = '"' ∨ quote = '\'')
      (inside : Quoted quote body) : Spells [copyWord body] (quote :: (body ++ [quote])) false
  | joined {quote : Char} {body raw : Text} {dollar : Bool} (kind : quote = '"' ∨ quote = '\'')
      (inside : Quoted quote body) (tail : Tail false raw dollar) :
      Spells [copyWord body, copyWord (')' :: raw)]
        (quote :: (body ++ [quote]) ++ ')' :: raw) dollar

theorem Spells.length_pos {words : List Text} {raw : Text} {dollar : Bool}
    (spells : Spells words raw dollar) : 0 < raw.length := by
  cases spells with
  | bare piece => cases piece <;> simp
  | quoted | joined => simp

theorem tail_plain {raw : Text} (plain : ∀ ch ∈ raw, plainChar ch = true) :
    Tail false raw false := by
  induction raw with
  | nil => exact .nil false
  | cons ch raw induction =>
      exact .cons (.plain (plain ch List.mem_cons_self))
        (induction fun other member => plain other (List.mem_cons_of_mem ch member))

/-- A word of plain bytes is spelled by itself. -/
theorem spells_plain {ch : Char} {word : Text} (head : startsBare ch = true)
    (plain : ∀ other ∈ ch :: word, plainChar other = true) :
    Spells [ch :: word] (ch :: word) false := by
  have spelled := Spells.bare (.plain (plain ch List.mem_cons_self)) (by simpa using head)
    (tail_plain fun other member => plain other (List.mem_cons_of_mem ch member))
  rw [List.singleton_append, copyWord_plain plain] at spelled
  exact spelled

/-- Every word can be written between quotes of either kind. -/
theorem spells_escape {quote : Char} (kind : quote = '"' ∨ quote = '\'') (word : Text) :
    Spells [word] (quote :: (escape quote word ++ [quote])) false := by
  have spelled := Spells.quoted kind (quoted_escape quote word)
  rw [copyWord_escape kind] at spelled
  exact spelled

/-! ## Parts of a file -/

/-- The token that a semicolon or an opening brace ends. -/
def endToken (stop : Char) (args : List Text) : Token :=
  if stop = '{' then .blockStart args else .ok args

/-- Bytes that end a directive; an opening brace does not right behind a dollar sign. -/
def Stops (stop : Char) (dollar : Bool) : Prop := stop = ';' ∨ stop = '{' ∧ dollar = false

/-- Part of a file: the words read before it, its bytes, the tokens that end in it and the words
read behind it.  No word and no comment is as long as the limit. -/
inductive Part (limit : Nat) : List Text → Text → List Token → List Text → Prop
  | blank {args : List Text} {ch : Char} (separates : isBlank ch = true) :
      Part limit args [ch] [] args
  | comment {args : List Text} {comment : Text} (oneLine : '\n' ∉ comment)
      (short : comment.length + 2 < limit) :
      Part limit args ('#' :: (comment ++ ['\n'])) [] args
  | words {args words : List Text} {raw : Text} {dollar : Bool} {blank : Char}
      (spells : Spells words raw dollar) (short : raw.length + 1 < limit)
      (separates : isBlank blank = true) : Part limit args (raw ++ [blank]) [] (args ++ words)
  | lastWords {args words : List Text} {raw : Text} {dollar : Bool} {stop : Char}
      (spells : Spells words raw dollar) (short : raw.length + 1 < limit)
      (stops : Stops stop dollar) :
      Part limit args (raw ++ [stop]) [endToken stop (args ++ words)] []
  | stop {args : List Text} {stop : Char} (stops : Stops stop false) (nonempty : args ≠ []) :
      Part limit args [stop] [endToken stop args] []
  | brace : Part limit [] ['}'] [.blockDone] []

/-- Part after part. -/
inductive Layout (limit : Nat) : List Text → Text → List Token → List Text → Prop
  | nil (args : List Text) : Layout limit args [] [] args
  | cons {before middle after : List Text} {text rest : Text} {tokens others : List Token}
      (part : Part limit before text tokens middle)
      (later : Layout limit middle rest others after) :
      Layout limit before (text ++ rest) (tokens ++ others) after

/-- A whole file behind some words; its last line may be a comment without a line break. -/
inductive FileLayout (limit : Nat) (args : List Text) : Text → List Token → Prop
  | whole {text : Text} {tokens : List Token} (layout : Layout limit args text tokens []) :
      FileLayout limit args text tokens
  | comment {text comment : Text} {tokens : List Token} (layout : Layout limit args text tokens [])
      (oneLine : '\n' ∉ comment) (short : comment.length + 1 < limit) :
      FileLayout limit args (text ++ '#' :: comment) tokens

section

variable {limit : Nat} {before middle after : List Text} {text rest : Text}
  {tokens others : List Token}

theorem Part.layout (part : Part limit before text tokens after) :
    Layout limit before text tokens after := by
  have single := Layout.cons part (.nil after)
  rw [List.append_nil, List.append_nil] at single
  exact single

theorem Layout.append (first : Layout limit before text tokens middle)
    (second : Layout limit middle rest others after) :
    Layout limit before (text ++ rest) (tokens ++ others) after := by
  induction first with
  | nil => exact second
  | cons part _ induction =>
      rw [List.append_assoc, List.append_assoc]
      exact .cons part (induction second)

theorem FileLayout.cons (part : Part limit before text tokens middle)
    (later : FileLayout limit middle rest others) :
    FileLayout limit before (text ++ rest) (tokens ++ others) := by
  cases later with
  | whole layout => exact .whole (.cons part layout)
  | comment layout oneLine short =>
      rw [← List.append_assoc]
      exact .comment (.cons part layout) oneLine short

end

/-! ## Reading a word -/

/-- Inside a word; quotes and a dollar sign are remembered. -/
def Scan.inside (args : List Text) (since : Text) (double single dollar : Bool) : Scan :=
  { Scan.between args since with
    lastSpace := false, dQuoted := double, sQuoted := single, inVariable := dollar }

/-- Behind a backslash. -/
def Scan.escaping (args : List Text) (since : Text) (double single : Bool) : Scan :=
  { Scan.inside args since double single false with quoted := true }

/-- Behind the closing quote of a word. -/
def Scan.closed (args : List Text) (since : Text) : Scan :=
  { Scan.between args since with lastSpace := false, needSpace := true }

/-- The flags of a word between quotes of the given kind. -/
def Scan.within (args : List Text) (since : Text) (quote : Char) (dollar : Bool) : Scan :=
  .inside args since (quote == '"') (quote == '\'') dollar

section

variable {args : List Text} {since : Text} {double single dollar : Bool} {ch quote : Char}

theorem step_escaping : (Scan.escaping args since double single).step ch =
    .scan (.inside args (since ++ [ch]) double single false) := by
  simp [Scan.step, Scan.escaping, Scan.inside, Scan.between, Scan.fresh]

theorem step_backslash : (Scan.inside args since double single dollar).step '\\' =
    .scan (.escaping args (since ++ ['\\']) double single) := by
  simp [Scan.step, Scan.escaping, Scan.inside, Scan.between, Scan.fresh, Scan.inWord]

theorem step_dollar : (Scan.inside args since double single dollar).step '$' =
    .scan (.inside args (since ++ ['$']) double single true) := by
  simp [Scan.step, Scan.inside, Scan.between, Scan.fresh, Scan.inWord]

theorem step_brace : (Scan.inside args since double single true).step '{' =
    .scan (.inside args (since ++ ['{']) double single true) := by
  simp [Scan.step, Scan.inside, Scan.between, Scan.fresh, Scan.inWord]

theorem step_plain (plain : plainChar ch = true) :
    (Scan.inside args since false false dollar).step ch =
      .scan (.inside args (since ++ [ch]) false false false) := by
  simp only [plainChar, Bool.and_eq_true, Bool.not_eq_true', bne_iff_ne] at plain
  obtain ⟨⟨⟨⟨blank, semicolon⟩, brace⟩, backslash⟩, dollar⟩ := plain
  simp [Scan.step, Scan.inside, Scan.between, Scan.fresh, Scan.inWord, blank, semicolon, brace,
    backslash, dollar]

/-- A blank ends a bare word. -/
theorem step_blank (separates : isBlank ch = true) :
    (Scan.inside args since false false dollar).step ch =
      .scan (.between (args ++ [copyWord since]) (since ++ [ch])) := by
  have notEnd : ch ≠ ';' ∧ ch ≠ '{' ∧ ch ≠ '\\' ∧ ch ≠ '$' := by
    refine ⟨?_, ?_, ?_, ?_⟩ <;> rintro rfl <;> simp [isBlank] at separates
  obtain ⟨semicolon, brace, backslash, dollar⟩ := notEnd
  simp [Scan.step, Scan.inside, Scan.between, Scan.fresh, Scan.inWord, Scan.found, separates,
    semicolon, brace, backslash, dollar]

/-- The end of a directive ends a bare word. -/
theorem step_stops (stops : Stops ch dollar) :
    (Scan.inside args since false false dollar).step ch =
      .token (endToken ch (args ++ [copyWord since])) := by
  rcases stops with rfl | ⟨rfl, rfl⟩ <;>
    simp [Scan.step, Scan.inside, Scan.between, Scan.fresh, Scan.inWord, Scan.found, endToken]

/-- Another byte between quotes; whether a dollar sign precedes it does not matter. -/
theorem step_within (kind : quote = '"' ∨ quote = '\'') (inside : ch ≠ quote)
    (plain : ch ≠ '\\') : ∃ dollar', (Scan.within args since quote dollar).step ch =
      .scan (.within args (since ++ [ch]) quote dollar') := by
  by_cases brace : ch = '{' ∧ dollar = true
  · refine ⟨true, ?_⟩
    obtain ⟨rfl, rfl⟩ := brace
    exact step_brace
  · by_cases sign : ch = '$'
    · subst sign
      exact ⟨true, step_dollar⟩
    · refine ⟨false, ?_⟩
      rcases kind with rfl | rfl <;>
        simp [Scan.step, Scan.within, Scan.inside, Scan.between, Scan.fresh, Scan.inWord, brace,
          plain, sign, inside]

/-- The closing quote ends the word. -/
theorem step_quote (kind : quote = '"' ∨ quote = '\'') :
    (Scan.within args since quote dollar).step quote =
      .scan (.closed (args ++ [copyWord since]) (since ++ [quote])) := by
  rcases kind with rfl | rfl <;>
    simp [Scan.step, Scan.within, Scan.inside, Scan.between, Scan.fresh, Scan.inWord, Scan.found,
      Scan.closed]

theorem step_closed_blank (separates : isBlank ch = true) :
    (Scan.closed args since).step ch = .scan (.between args (since ++ [ch])) := by
  simp [Scan.step, Scan.closed, Scan.between, Scan.fresh, Scan.behindQuote, separates]

theorem step_closed_stops (stops : Stops ch false) :
    (Scan.closed args since).step ch = .token (endToken ch args) := by
  rcases stops with rfl | ⟨rfl, -⟩ <;> rfl

theorem step_closed_paren : (Scan.closed args since).step ')' =
    .scan (.inside args [')'] false false false) := rfl

/-- The first byte of a bare word. -/
theorem step_first (plain : plainChar ch = true) (head : startsBare ch = true) :
    (Scan.between args since).step ch = .scan (.inside args [ch] false false false) := by
  simp only [plainChar, Bool.and_eq_true, Bool.not_eq_true', bne_iff_ne] at plain
  simp only [startsBare, Bool.and_eq_true, bne_iff_ne] at head
  obtain ⟨⟨⟨⟨blank, semicolon⟩, brace⟩, backslash⟩, dollar⟩ := plain
  obtain ⟨⟨⟨closing, sharp⟩, double⟩, single⟩ := head
  simp [Scan.step, Scan.between, Scan.fresh, Scan.inside, Scan.atSpace, blank, semicolon, brace,
    backslash, dollar, closing, sharp, double, single]

theorem step_first_backslash : (Scan.between args since).step '\\' =
    .scan (.escaping args ['\\'] false false) := rfl

theorem step_first_dollar : (Scan.between args since).step '$' =
    .scan (.inside args ['$'] false false true) := rfl

theorem step_first_quote (kind : quote = '"' ∨ quote = '\'') :
    (Scan.between args since).step quote = .scan (.within args [] quote false) := by
  rcases kind with rfl | rfl <;> rfl

theorem step_between_blank (separates : isBlank ch = true) :
    (Scan.between args since).step ch = .scan (.between args [ch]) := by
  simp [Scan.step, Scan.between, Scan.fresh, Scan.atSpace, separates]

theorem step_between_stops (stops : Stops ch false) (nonempty : args ≠ []) :
    (Scan.between args since).step ch = .token (endToken ch args) := by
  rcases stops with rfl | ⟨rfl, -⟩ <;>
    simp [Scan.step, Scan.between, Scan.fresh, Scan.atSpace, isBlank, nonempty, endToken]

end

/-! ## From the grammar to the reader -/

theorem scanText_append (scan : Scan) (front back : Text) :
    scanText scan (front ++ back) =
      match scanText scan front with
      | .error error => .error error
      | .ok (tokens, after) =>
          (scanText after back).map fun read => (tokens ++ read.1, read.2) := by
  induction front generalizing scan with
  | nil =>
      change scanText scan back = (scanText scan back).map fun read => ([] ++ read.1, read.2)
      cases scanText scan back <;> rfl
  | cons ch front induction =>
      rw [List.cons_append, scanText, scanText]
      cases scan.step ch with
      | error error => rfl
      | scan after => exact induction after
      | token token =>
          simp only
          rw [induction]
          cases scanText .fresh front with
          | error error => rfl
          | ok out =>
              simp only [Except.map]
              cases scanText out.2 back <;> rfl

/-- The reader goes from one state to another over a text without an end of a directive. -/
abbrev Walks (scan : Scan) (text : Text) (after : Scan) : Prop :=
  scanText scan text = .ok ([], after)

theorem walks_cons {scan next after : Scan} {ch : Char} {text : Text}
    (stepped : scan.step ch = .scan next) (walks : Walks next text after) :
    Walks scan (ch :: text) after := by
  rw [Walks, scanText, stepped]
  exact walks

theorem Walks.trans {scan middle after : Scan} {front back : Text} (first : Walks scan front middle)
    (second : Walks middle back after) : Walks scan (front ++ back) after := by
  rw [Walks, scanText_append, first]
  simp only [second, Except.map, List.append_nil]

/-- A walk and a byte behind it that ends a directive. -/
theorem Walks.token {scan after : Scan} {text : Text} {stop : Char} {token : Token}
    (walks : Walks scan text after) (ends : after.step stop = .token token) :
    scanText scan (text ++ [stop]) = .ok ([token], .fresh) := by
  rw [scanText_append, walks]
  simp only [scanText, ends, Except.map, List.nil_append]

section

variable {args words : List Text} {raw body : Text} {dollar dollar' : Bool} {quote : Char}

theorem walks_piece (piece : Piece dollar raw dollar') (args : List Text) (since : Text) :
    Walks (.inside args since false false dollar) raw
      (.inside args (since ++ raw) false false dollar') := by
  cases piece with
  | plain plain => exact walks_cons (step_plain plain) rfl
  | escaped ch =>
      refine walks_cons step_backslash (walks_cons step_escaping ?_)
      rw [List.append_assoc]
      rfl
  | dollar => exact walks_cons step_dollar rfl
  | brace => exact walks_cons step_brace rfl

theorem walks_tail (tail : Tail dollar raw dollar') (args : List Text) (since : Text) :
    Walks (.inside args since false false dollar) raw
      (.inside args (since ++ raw) false false dollar') := by
  induction tail generalizing since with
  | nil => rw [List.append_nil]; rfl
  | cons piece _ induction =>
      rw [← List.append_assoc]
      exact (walks_piece piece args since).trans (induction _)

/-- The first unit of a bare word. -/
theorem walks_first (piece : Piece false raw dollar)
    (head : ∀ ch ∈ raw.head?, startsBare ch = true) (args : List Text) :
    Walks (.between args []) raw (.inside args raw false false dollar) := by
  cases piece with
  | plain plain => exact walks_cons (step_first plain (head _ rfl)) rfl
  | escaped ch => exact walks_cons step_first_backslash (walks_cons step_escaping rfl)
  | dollar => exact walks_cons step_first_dollar rfl

theorem walks_inQuotes (kind : quote = '"' ∨ quote = '\'') (inside : Quoted quote body)
    (args : List Text) (since : Text) (dollar : Bool) :
    ∃ dollar', Walks (.within args since quote dollar) body
      (.within args (since ++ body) quote dollar') := by
  induction inside generalizing since dollar with
  | nil => exact ⟨dollar, by rw [List.append_nil]; rfl⟩
  | @plain ch body other plain _ induction =>
      obtain ⟨middle, stepped⟩ := step_within kind other plain
      obtain ⟨dollar', later⟩ := induction (since ++ [ch]) middle
      rw [List.append_assoc, List.singleton_append] at later
      exact ⟨dollar', walks_cons stepped later⟩
  | @escaped ch body _ induction =>
      obtain ⟨dollar', later⟩ := induction (since ++ ['\\'] ++ [ch]) false
      have joined : since ++ ['\\'] ++ [ch] ++ body = since ++ '\\' :: ch :: body := by simp
      rw [joined] at later
      exact ⟨dollar', walks_cons step_backslash (walks_cons step_escaping later)⟩

/-- A whole quoted word. -/
theorem walks_quoted (kind : quote = '"' ∨ quote = '\'') (inside : Quoted quote body)
    (args : List Text) : Walks (.between args []) (quote :: (body ++ [quote]))
      (.closed (args ++ [copyWord body]) (body ++ [quote])) := by
  obtain ⟨dollar, inner⟩ := walks_inQuotes kind inside args [] false
  exact walks_cons (step_first_quote kind) (inner.trans (walks_cons (step_quote kind) rfl))

/-- Words are read up to a state in which a blank or the end of a directive completes them. -/
theorem walks_spells (spells : Spells words raw dollar) (args : List Text) :
    ∃ last since, Walks (.between args []) raw last ∧
      (∀ blank, isBlank blank = true →
        last.step blank = .scan (.between (args ++ words) (since ++ [blank]))) ∧
      ∀ stop, Stops stop dollar → last.step stop = .token (endToken stop (args ++ words)) := by
  cases spells with
  | @bare first raw _ dollar piece head tail =>
      exact ⟨_, _, (walks_first piece head args).trans (walks_tail tail args first),
        fun blank separates => step_blank separates, fun stop stops => step_stops stops⟩
  | quoted kind inside =>
      exact ⟨_, _, walks_quoted kind inside args, fun blank separates =>
        step_closed_blank separates, fun stop stops => step_closed_stops stops⟩
  | @joined quote body raw dollar kind inside tail =>
      have split : args ++ [copyWord body, copyWord (')' :: raw)] =
          args ++ [copyWord body] ++ [copyWord (')' :: raw)] := by simp
      rw [split]
      exact ⟨_, _, (walks_quoted kind inside args).trans
        (walks_cons step_closed_paren (walks_tail tail _ [')'])),
        fun blank separates => step_blank separates, fun stop stops => step_stops stops⟩

end

theorem walks_comment {comment : Text} (oneLine : '\n' ∉ comment) (scan : Scan)
    (inComment : scan.sharpComment = true) :
    Walks scan comment { scan with since := scan.since ++ comment } := by
  induction comment generalizing scan with
  | nil => rw [List.append_nil]; rfl
  | cons ch comment induction =>
      simp only [List.mem_cons, not_or] at oneLine
      have stays : scan.step ch = .scan { scan with since := scan.since ++ [ch] } := by
        simp [Scan.step, inComment, Ne.symm oneLine.1]
      have later := induction oneLine.2 { scan with since := scan.since ++ [ch] } inComment
      simp only [List.append_assoc, List.singleton_append] at later
      exact walks_cons stays later

/-- The reader stands in a comment. -/
def Scan.comment (args : List Text) (since : Text) : Scan :=
  { Scan.between args since with sharpComment := true }

theorem step_sharp (args : List Text) (since : Text) :
    (Scan.between args since).step '#' = .scan (.comment args ['#']) := rfl

theorem walks_sharp {comment : Text} (oneLine : '\n' ∉ comment) (args : List Text) :
    Walks (.between args []) ('#' :: comment) (.comment args ('#' :: comment)) :=
  walks_cons (step_sharp args []) (walks_comment oneLine _ rfl)

/-- The reader passes over a part with its tokens. -/
theorem passes_part {before after : List Text} {text : Text} {tokens : List Token}
    (part : Part confBuffer before text tokens after) : Passes before text tokens after := by
  cases part with
  | blank separates =>
      exact passes_of_scanText _ (by simp [confBuffer])
        (walks_cons (step_between_blank separates) rfl)
  | @comment _ comment oneLine short =>
      have ends : (Scan.comment before ('#' :: comment)).step '\n' =
          .scan (.between before ['\n']) := rfl
      exact passes_of_scanText _ (by simpa using short)
        ((walks_sharp oneLine before).trans (walks_cons ends rfl))
  | words spells short separates =>
      obtain ⟨last, since, walks, ends, -⟩ := walks_spells spells before
      exact passes_of_scanText _ (by simpa using short)
        (walks.trans (walks_cons (ends _ separates) rfl))
  | lastWords spells short stops =>
      obtain ⟨last, since, walks, -, ends⟩ := walks_spells spells before
      exact passes_of_scanText [] (by simpa using short) (walks.token (ends _ stops))
  | stop stops nonempty =>
      have still : Walks (.between before []) [] (.between before []) := rfl
      exact passes_of_scanText [] (by simp [confBuffer])
        (still.token (step_between_stops stops nonempty))
  | brace => exact passes_of_scanText [] (by simp [confBuffer]) rfl

theorem passes_layout {before after : List Text} {text : Text} {tokens : List Token}
    (layout : Layout confBuffer before text tokens after) : Passes before text tokens after := by
  induction layout with
  | nil args => exact .nil args
  | cons part _ induction => exact (passes_part part).append induction

theorem readAll_of_passes {text : Text} {tokens : List Token} (passes : Passes [] text tokens []) :
    readAll .fresh 0 text = .ok tokens := by
  obtain ⟨since, room, -, read⟩ := passes [] 0 [] (by decide)
  rw [List.append_nil] at read
  refine read.trans ?_
  simp [readAll, Scan.between, Scan.fresh, Except.map]

/-- A last comment has no tokens. -/
theorem readAll_lastComment {comment since : Text} (room : Nat) (oneLine : '\n' ∉ comment)
    (short : comment.length + 1 < confBuffer) (held : since.length < confBuffer) :
    readAll (.between [] since) room ('#' :: comment) = .ok [] := by
  obtain ⟨filled, -, refilled⟩ :=
    @refill_of_room (.between [] since) room _ held (Nat.succ_pos comment.length)
  obtain ⟨room', read⟩ := @readAll_append (.comment [] ['#']) (filled - 1) comment [] (by
    change 1 + comment.length ≤ confBuffer
    omega)
  rw [List.append_nil, walks_comment oneLine _ rfl] at read
  rw [readAll, refilled]
  simp only [step_sharp, read]
  rfl

/-- The reader finds the tokens of every file that is laid out by the grammar. -/
theorem readAll_of_layout {text : Text} {tokens : List Token}
    (layout : FileLayout confBuffer [] text tokens) : readAll .fresh 0 text = .ok tokens := by
  cases layout with
  | whole layout => exact readAll_of_passes (passes_layout layout)
  | @comment text comment _ layout oneLine short =>
      obtain ⟨since, room, held, read⟩ := passes_layout layout [] 0 ('#' :: comment) (by decide)
      rw [readAll_lastComment room oneLine short held] at read
      refine read.trans ?_
      simp [Except.map]

end Nginx.ConfFile
