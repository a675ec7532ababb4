import ArmTest.Rendezvous.Process

/-!
# Parties in lockstep

Two programs are in lockstep when every send of one meets a listen of the other, up to the end of
both.  The relation is kept by every event that gives no message up, it excludes error exits and
states in which both parties listen or both send, and it pins the sequences of labels the two
parties go through.  A guard says what the left party must provide while the right party performs
a given action.
-/

namespace Rendezvous

variable {M A B D W L : Type}

/-! ## Delivered and abandoned messages -/

/-- Every message a party has stopped sending has reached the peer, exactly once and in order. -/
def Config.AllDelivered (config : Config M A B W) : Prop :=
  config.leftPassed = config.toRight ∧ config.rightPassed = config.toLeft

/-- Number of events of a run that give a message up. -/
def lostCount (medium : Medium A B D W) (events : List (Event D)) : Nat :=
  events.countP fun event => !decide (event.Kept medium)

theorem transition_allDelivered {medium : Medium A B D W} {config after : Config M A B W}
    {event : Event D} (delivered : config.AllDelivered) (kept : event.Kept medium)
    (transition : Transition medium config event after) : after.AllDelivered := by
  obtain ⟨left, right⟩ := delivered
  cases transition with
  | leftAct | rightAct | rightAgain | leftRetry | rightRetry => exact ⟨left, right⟩
  | toRight message =>
      refine ⟨?_, right⟩
      change config.leftPassed ++ [message] = config.toRight ++ [message]
      rw [left]
  | toLeft message =>
      refine ⟨left, ?_⟩
      change config.rightPassed ++ [message] = config.toLeft ++ [message]
      rw [right]
  | leftLost diagnostic message next sender lost =>
      simp [Event.Kept, lost] at kept
  | rightLost diagnostic message next sender lost =>
      simp [Event.Kept, lost] at kept

/-- Passed messages outnumber the delivered ones by the abandoned ones. -/
theorem run_passed_length {medium : Medium A B D W} {config after : Config M A B W}
    {events : List (Event D)} (execution : run medium config events = some after) :
    after.leftPassed.length + after.rightPassed.length +
        (config.toRight.length + config.toLeft.length) =
      after.toRight.length + after.toLeft.length + lostCount medium events +
        (config.leftPassed.length + config.rightPassed.length) := by
  induction events generalizing config with
  | nil =>
      cases execution
      simp [lostCount]
      omega
  | cons event events induction =>
      simp only [run] at execution
      cases stepped : step medium config event with
      | none => simp [stepped] at execution
      | some next =>
          rw [stepped] at execution
          have later := induction execution
          have first : next.leftPassed.length + next.rightPassed.length +
                (config.toRight.length + config.toLeft.length) =
              next.toRight.length + next.toLeft.length +
                (if event.Kept medium then 0 else 1) +
                (config.leftPassed.length + config.rightPassed.length) := by
            cases transition_of_step stepped with
            | leftAct | rightAct | rightAgain => simp [Event.Kept]; omega
            | toRight | toLeft => simp [Event.Kept]; omega
            | leftRetry diagnostic message next sender retry => simp [Event.Kept, retry]; omega
            | rightRetry diagnostic message next sender retry => simp [Event.Kept, retry]; omega
            | leftLost diagnostic message next sender lost => simp [Event.Kept, lost]; omega
            | rightLost diagnostic message next sender lost => simp [Event.Kept, lost]; omega
          have counted : lostCount medium (event :: events) =
              lostCount medium events + if event.Kept medium then 0 else 1 := by
            by_cases kept : event.Kept medium <;> simp [lostCount, kept]
          omega

/-- A run loses no message exactly when none of its events gives one up. -/
theorem allDelivered_iff_kept {medium : Medium A B D W} {config after : Config M A B W}
    {events : List (Event D)} (initially : config.AllDelivered)
    (execution : run medium config events = some after) :
    after.AllDelivered ↔ ∀ event ∈ events, event.Kept medium := by
  constructor
  · intro delivered event member
    by_contra lost
    have counted := run_passed_length execution
    have positive : 0 < lostCount medium events :=
      List.countP_pos_iff.mpr ⟨event, member, by simpa using lost⟩
    rw [delivered.1, delivered.2, initially.1, initially.2] at counted
    omega
  · intro kept
    exact run_invariant transition_allDelivered initially kept execution

/-- The attempts a sender has made when it leaves its loop. -/
theorem sendLoop_eq_some {medium : Medium A B D W} {attempts rest : List (Attempt D)}
    (left : medium.sendLoop attempts = some rest) :
    ∃ retried last, attempts = retried ++ last :: rest ∧
      (∀ attempt ∈ retried, medium.leaves attempt = false) ∧ medium.leaves last = true := by
  induction attempts with
  | nil => simp [Medium.sendLoop] at left
  | cons attempt attempts induction =>
      simp only [Medium.sendLoop] at left
      split at left
      · rename_i leaves
        cases left
        exact ⟨[], attempt, rfl, by simp, leaves⟩
      · rename_i stays
        obtain ⟨retried, last, rfl, retriedStay, lastLeaves⟩ := induction left
        refine ⟨attempt :: retried, last, rfl, ?_, lastLeaves⟩
        intro other member
        rcases List.mem_cons.mp member with rfl | later
        · simpa using stays
        · exact retriedStay other later

/-! ## The lockstep relation -/

section Lockstep

variable (perform : A → W → W) (Guard : B → Proc M B → Proc M A → W → Prop)
variable (leftLabel : A → Option L) (rightLabel : B → Option L)

/-- The left party provides what every local action ahead of the right party needs. -/
def Cleared (left : Proc M A) (world : W) : Proc M B → Prop
  | .act action next => Guard action next left world ∧ Cleared left world next
  | _ => True

/-- The two programs communicate without mismatch up to their ends; the lists are the labels each
of them still goes through. -/
inductive Lockstep : Proc M A → Proc M B → W → List L → List L → Prop
  | done (world : W) : Lockstep .done .done world [] []
  | left {action : A} {left : Proc M A} {right : Proc M B} {world : W} {leftRest rightRest : List L}
      (cleared : Cleared Guard (.act action left) world right)
      (later : Lockstep left right (perform action world) leftRest rightRest) :
      Lockstep (.act action left) right world ((leftLabel action).toList ++ leftRest) rightRest
  | right {action : B} {left : Proc M A} {right : Proc M B} {world : W}
      {leftRest rightRest : List L}
      (cleared : Cleared Guard left world (.act action right))
      (later : Lockstep left right world leftRest rightRest) :
      Lockstep left (.act action right) world leftRest ((rightLabel action).toList ++ rightRest)
  | toLeft {message : M} {receive : M → Proc M A} {right : Proc M B} {world : W}
      {leftRest rightRest : List L}
      (later : Lockstep (receive message) right world leftRest rightRest) :
      Lockstep (.listen receive) (.send message right) world leftRest rightRest
  | toRight {message : M} {left : Proc M A} {receive : M → Proc M B} {world : W}
      {leftRest rightRest : List L}
      (later : Lockstep left (receive message) world leftRest rightRest) :
      Lockstep (.send message left) (.listen receive) world leftRest rightRest

variable {perform Guard leftLabel rightLabel}

theorem Lockstep.cleared {left : Proc M A} {right : Proc M B} {world : W}
    {leftRest rightRest : List L}
    (lockstep : Lockstep perform Guard leftLabel rightLabel left right world leftRest rightRest) :
    Cleared Guard left world right := by
  cases lockstep with
  | done => trivial
  | left cleared => exact cleared
  | right cleared => exact cleared
  | toLeft => trivial
  | toRight => trivial

theorem cleared_step
    (stable : ∀ (needed : B) (next : Proc M B) (action : A) (left : Proc M A) (world : W),
      Guard needed next (.act action left) world → Guard needed next left (perform action world))
    {action : A} {left : Proc M A} {world : W} (right : Proc M B)
    (cleared : Cleared Guard (.act action left) world right) :
    Cleared Guard left (perform action world) right := by
  induction right with
  | act needed next induction =>
      exact ⟨stable needed next action left world cleared.1, induction cleared.2⟩
  | done | exit | send | listen => trivial

/-- The left party may perform its next action at any time. -/
theorem Lockstep.leftAct
    (stable : ∀ (needed : B) (next : Proc M B) (action : A) (left : Proc M A) (world : W),
      Guard needed next (.act action left) world → Guard needed next left (perform action world))
    {action : A} {left : Proc M A} {right : Proc M B} {world : W} {leftRest rightRest : List L}
    (lockstep : Lockstep perform Guard leftLabel rightLabel (.act action left) right world
      leftRest rightRest) :
    ∃ rest, leftRest = (leftLabel action).toList ++ rest ∧
      Lockstep perform Guard leftLabel rightLabel left right (perform action world)
        rest rightRest := by
  generalize program : Proc.act action left = front at lockstep
  induction lockstep with
  | done => cases program
  | left cleared later =>
      cases program
      exact ⟨_, rfl, later⟩
  | right cleared later induction =>
      subst program
      obtain ⟨rest, labels, moved⟩ := induction rfl
      exact ⟨rest, labels, .right (cleared_step stable _ cleared) moved⟩
  | toLeft => cases program
  | toRight => cases program

/-- The right party may perform its next action at any time. -/
theorem Lockstep.rightAct {action : B} {left : Proc M A} {right : Proc M B} {world : W}
    {leftRest rightRest : List L}
    (lockstep : Lockstep perform Guard leftLabel rightLabel left (.act action right) world
      leftRest rightRest) :
    ∃ rest, rightRest = (rightLabel action).toList ++ rest ∧
      Lockstep perform Guard leftLabel rightLabel left right world leftRest rest := by
  generalize program : Proc.act action right = back at lockstep
  induction lockstep with
  | done => cases program
  | left cleared later induction =>
      subst program
      obtain ⟨rest, labels, moved⟩ := induction rfl
      exact ⟨rest, labels, .left cleared.2 moved⟩
  | right cleared later =>
      cases program
      exact ⟨_, rfl, later⟩
  | toLeft => cases program
  | toRight => cases program

theorem Lockstep.left_ne_exit {right : Proc M B} {world : W} {leftRest rightRest : List L} :
    ¬ Lockstep perform Guard leftLabel rightLabel .exit right world leftRest rightRest := by
  intro lockstep
  generalize program : Proc.exit = front at lockstep
  induction lockstep with
  | right cleared later induction => exact induction program
  | done | left | toLeft | toRight => cases program

theorem Lockstep.right_ne_exit {left : Proc M A} {world : W} {leftRest rightRest : List L} :
    ¬ Lockstep perform Guard leftLabel rightLabel left .exit world leftRest rightRest := by
  intro lockstep
  generalize program : Proc.exit = back at lockstep
  induction lockstep with
  | left cleared later induction => exact induction program
  | done | right | toLeft | toRight => cases program

theorem Lockstep.not_both_listening {left : Proc M A} {right : Proc M B} {world : W}
    {leftRest rightRest : List L}
    (lockstep : Lockstep perform Guard leftLabel rightLabel left right world leftRest rightRest) :
    ¬ (left.Listening ∧ right.Listening) := by
  rintro ⟨leftListens, rightListens⟩
  cases lockstep with
  | done | left | toRight => exact leftListens
  | right | toLeft => exact rightListens

theorem Lockstep.not_both_sending {left : Proc M A} {right : Proc M B} {world : W}
    {leftRest rightRest : List L}
    (lockstep : Lockstep perform Guard leftLabel rightLabel left right world leftRest rightRest) :
    ¬ (left.Sending ∧ right.Sending) := by
  rintro ⟨leftSends, rightSends⟩
  cases lockstep with
  | done | left | toLeft => exact leftSends
  | right | toRight => exact rightSends

/-- The labels of the actions a party has performed. -/
def labels {X : Type} (label : X → Option L) (actions : List X) : List L :=
  actions.filterMap label

theorem labels_append_single {X : Type} (label : X → Option L) (actions : List X) (action : X) :
    labels label (actions ++ [action]) = labels label actions ++ (label action).toList := by
  cases labelled : label action <;> simp [labels, labelled]

/-- The parties are in lockstep and have gone through prefixes of one label sequence. -/
def InLockstep (perform : A → W → W) (Guard : B → Proc M B → Proc M A → W → Prop)
    (leftLabel : A → Option L) (rightLabel : B → Option L) (schedule : List L)
    (config : Config M A B W) : Prop :=
  ∃ leftRest rightRest,
    Lockstep perform Guard leftLabel rightLabel config.left config.right config.world
      leftRest rightRest ∧
    labels leftLabel config.leftActions ++ leftRest = schedule ∧
    labels rightLabel config.rightActions ++ rightRest = schedule

/-- Every event that gives no message up keeps the parties in lockstep. -/
theorem transition_inLockstep {medium : Medium A B D W}
    {Guard : B → Proc M B → Proc M A → W → Prop}
    {leftLabel : A → Option L} {rightLabel : B → Option L} {schedule : List L}
    (stable : ∀ (needed : B) (next : Proc M B) (action : A) (left : Proc M A) (world : W),
      Guard needed next (.act action left) world →
        Guard needed next left (medium.perform action world))
    (silent : ∀ action, medium.again action = true → rightLabel action = none)
    {config after : Config M A B W} {event : Event D}
    (inLockstep : InLockstep medium.perform Guard leftLabel rightLabel schedule config)
    (kept : event.Kept medium) (transition : Transition medium config event after) :
    InLockstep medium.perform Guard leftLabel rightLabel schedule after := by
  obtain ⟨leftRest, rightRest, lockstep, leftLabels, rightLabels⟩ := inLockstep
  cases transition with
  | leftAct action next program =>
      rw [program] at lockstep
      obtain ⟨rest, labelled, moved⟩ := lockstep.leftAct stable
      refine ⟨rest, rightRest, moved, ?_, rightLabels⟩
      rw [labels_append_single, List.append_assoc, ← labelled]
      exact leftLabels
  | rightAct action next program =>
      rw [program] at lockstep
      obtain ⟨rest, labelled, moved⟩ := lockstep.rightAct
      refine ⟨leftRest, rest, moved, leftLabels, ?_⟩
      rw [labels_append_single, List.append_assoc, ← labelled]
      exact rightLabels
  | rightAgain action next program repeats =>
      refine ⟨leftRest, rightRest, lockstep, leftLabels, ?_⟩
      rw [labels_append_single, silent action repeats]
      simpa using rightLabels
  | toRight message next receive sender listener =>
      rw [sender, listener] at lockstep
      cases lockstep with
      | toRight later => exact ⟨leftRest, rightRest, later, leftLabels, rightLabels⟩
  | toLeft message next receive listener sender =>
      rw [sender, listener] at lockstep
      cases lockstep with
      | toLeft later => exact ⟨leftRest, rightRest, later, leftLabels, rightLabels⟩
  | leftRetry => exact ⟨leftRest, rightRest, lockstep, leftLabels, rightLabels⟩
  | rightRetry => exact ⟨leftRest, rightRest, lockstep, leftLabels, rightLabels⟩
  | leftLost diagnostic message next sender lost => simp [Event.Kept, lost] at kept
  | rightLost diagnostic message next sender lost => simp [Event.Kept, lost] at kept

end Lockstep

end Rendezvous
