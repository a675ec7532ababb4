import ArmTest.Shell.Text

/-!
# Python programs

A program leaves a trace of what it does and ends with a value or with an exception; what it did
before an exception stays in the trace.  Loops over lists are programs, and so are the functions on
paths and numerals that scripts use.
-/

namespace Python

open Shell

/-! ## Programs -/

/-- Exceptions. -/
inductive PyError where
  | assertionError
  | indexError
  | nameError (name : Text)
  | valueError
  | zeroDivisionError
  deriving DecidableEq

/-- What a program has done and how it ended. -/
structure Program (E X : Type) where
  /-- Actions in their order. -/
  trace : List E
  /-- The value or the exception. -/
  result : Except PyError X

section

variable {E X Y A : Type}

/-- Go on with the value, unless there is an exception. -/
def Program.andThen (program : Program E X) (next : X → Program E Y) : Program E Y :=
  match program.result with
  | .ok value => ⟨program.trace ++ (next value).trace, (next value).result⟩
  | .error error => ⟨program.trace, .error error⟩

instance : Monad (Program E) where
  pure value := ⟨[], .ok value⟩
  bind := Program.andThen

/-- An action. -/
def emit (event : E) : Program E Unit := ⟨[event], .ok ()⟩

/-- An exception. -/
def raise (error : PyError) : Program E X := ⟨[], .error error⟩

/-- `assert`. -/
def assert (condition : Bool) : Program E Unit :=
  if condition then pure () else raise .assertionError

/-- `try` around a program, with a handler that does nothing but print. -/
def Program.excepting (program : Program E Unit) (caught : PyError) : Program E Unit :=
  match program.result with
  | .ok () => program
  | .error error => if error = caught then ⟨program.trace, .ok ()⟩ else program

/-- An item of a list. -/
def item (items : List X) (index : Nat) : Program E X :=
  match items[index]? with
  | some value => pure value
  | none => raise .indexError

/-- A loop over a list. -/
def forEach (items : List A) (body : A → Program E Unit) : Program E Unit :=
  match items with
  | [] => pure ()
  | first :: rest => body first >>= fun _ => forEach rest body

/-- A loop over a list that collects what its rounds return. -/
def gather (items : List A) (body : A → Program E (List X)) : Program E (List X) :=
  match items with
  | [] => pure []
  | first :: rest => do
      let values ← body first
      let others ← gather rest body
      return values ++ others

/-! ## How programs end -/

@[simp]
theorem pure_eq (value : X) : (pure value : Program E X) = ⟨[], .ok value⟩ := rfl

@[simp]
theorem ok_bind (trace : List E) (value : X) (next : X → Program E Y) :
    (⟨trace, .ok value⟩ : Program E X) >>= next =
      ⟨trace ++ (next value).trace, (next value).result⟩ := rfl

@[simp]
theorem error_bind (trace : List E) (error : PyError) (next : X → Program E Y) :
    (⟨trace, .error error⟩ : Program E X) >>= next = ⟨trace, .error error⟩ := rfl

/-- A program that ends well has a first part that ended well. -/
theorem bind_ok_iff {program : Program E X} {next : X → Program E Y} {value : Y} :
    (program >>= next).result = .ok value ↔
      ∃ first, program.result = .ok first ∧ (next first).result = .ok value := by
  obtain ⟨trace, result⟩ := program
  cases result with
  | error error => simp
  | ok first => simp

/-- A loop whose rounds are known. -/
theorem forEach_eq {items : List A} {body : A → Program E Unit} {events : A → List E}
    (each : ∀ entry ∈ items, body entry = ⟨events entry, .ok ()⟩) :
    forEach items body = ⟨items.flatMap events, .ok ()⟩ := by
  induction items with
  | nil => rfl
  | cons first rest induction =>
      rw [forEach, each first List.mem_cons_self,
        ok_bind, induction fun entry member => each entry (List.mem_cons_of_mem first member)]
      rfl

/-- A loop with one action a round. -/
theorem forEach_emit (items : List A) (event : A → E) :
    forEach items (fun entry => emit (event entry)) = ⟨items.map event, .ok ()⟩ := by
  induction items with
  | nil => rfl
  | cons first rest induction =>
      rw [forEach, induction]
      rfl

/-- A collecting loop ends well when every round does. -/
theorem gather_ok_iff {items : List A} {body : A → Program E (List X)} :
    (∃ values, (gather items body).result = .ok values) ↔
      ∀ entry ∈ items, ∃ values, (body entry).result = .ok values := by
  induction items with
  | nil => simp [gather]
  | cons first rest induction =>
      rw [List.forall_mem_cons, ← induction]
      constructor
      · rintro ⟨values, ended⟩
        obtain ⟨head, started, later⟩ := bind_ok_iff.mp ended
        obtain ⟨tail, rounds, -⟩ := bind_ok_iff.mp later
        exact ⟨⟨head, started⟩, tail, rounds⟩
      · rintro ⟨⟨head, started⟩, tail, rounds⟩
        exact ⟨head ++ tail, bind_ok_iff.mpr ⟨head, started, bind_ok_iff.mpr ⟨tail, rounds, rfl⟩⟩⟩

/-- A collecting loop whose rounds are known. -/
theorem gather_eq {items : List A} {body : A → Program E (List X)} {events : A → List E}
    {values : A → List X}
    (each : ∀ entry ∈ items, body entry = ⟨events entry, .ok (values entry)⟩) :
    gather items body = ⟨items.flatMap events, .ok (items.flatMap values)⟩ := by
  induction items with
  | nil => rfl
  | cons first rest induction =>
      rw [gather, each first List.mem_cons_self, ok_bind,
        induction fun entry member => each entry (List.mem_cons_of_mem first member)]
      simp

end

/-! ## Numerals -/

/-- `int` of a numeral. -/
def int {E : Type} (text : Text) : Program E Nat :=
  match parseNat? text with
  | some value => pure value
  | none => raise .valueError

/-- `[int(s) for s in text.split(',')]`. -/
def ints {E : Type} : List Text → Program E (List Nat)
  | [] => pure []
  | text :: texts => do
      let value ← int text
      let values ← ints texts
      return value :: values

theorem ints_decimal {E : Type} (values : List Nat) :
    (ints (values.map decimal) : Program E (List Nat)) = ⟨[], .ok values⟩ := by
  induction values with
  | nil => rfl
  | cons value values induction =>
      rw [List.map_cons, ints, int, parseNat?_decimal, induction]
      rfl

/-! ## Paths -/

/-- `os.path.join`. -/
def pathJoin (directory name : Text) : Text :=
  if name.head? = some '/' then name
  else if directory = [] ∨ directory.getLast? = some '/' then directory ++ name
  else directory ++ '/' :: name

/-- `os.path.splitext(path)[0]`. -/
def splitextRoot (path : Text) : Text :=
  let name := (path.reverse.takeWhile (· ≠ '/')).reverse
  if '.' ∈ name ∧ (beforeLast '.' name).any (· ≠ '.') then beforeLast '.' path else path

/-- `sorted` compares texts by their code points. -/
def precedes : Text → Text → Bool
  | [], _ => true
  | _ :: _, [] => false
  | c :: first, d :: second => c.toNat < d.toNat || c.toNat == d.toNat && precedes first second

/-- `sorted` on texts. -/
def sorted (names : List Text) : List Text := names.mergeSort precedes

theorem mem_sorted {names : List Text} {name : Text} : name ∈ sorted names ↔ name ∈ names :=
  List.mem_mergeSort

theorem sorted_ne_nil {names : List Text} (nonempty : names ≠ []) : sorted names ≠ [] := by
  obtain ⟨name, member⟩ := List.exists_mem_of_ne_nil names nonempty
  exact List.ne_nil_of_mem (mem_sorted.mpr member)

/-- `re.search("suffix$", text)`: the end of a text may be followed by a newline. -/
def searchEnd (suffix text : Text) : Bool :=
  suffix.isSuffixOf text || (suffix ++ ['\n']).isSuffixOf text

end Python
