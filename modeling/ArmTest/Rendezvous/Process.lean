import Mathlib.Data.List.Basic

/-!
# Two parties and one rendezvous

Each party runs a sequential program of local actions, sends and listens.  A connection attempt of
a sender either reaches a listening peer or fails with a diagnostic; after a failure the sender
tries again or gives the message up, depending on the diagnostic alone.  A run is a list of events,
one for each step of one party.
-/

namespace Rendezvous

/-- What a party still has to do. -/
inductive Proc (M A : Type) where
  /-- The program is complete. -/
  | done
  /-- The program has stopped with an error. -/
  | exit
  /-- Perform a local action. -/
  | act (action : A) (next : Proc M A)
  /-- Try to hand a message to the peer. -/
  | send (message : M) (next : Proc M A)
  /-- Wait for a message of the peer. -/
  | listen (next : M → Proc M A)

namespace Proc

variable {M A : Type}

/-- The party is waiting for a message. -/
def Listening : Proc M A → Prop
  | .listen _ => True
  | _ => False

/-- The party is trying to hand over a message. -/
def Sending : Proc M A → Prop
  | .send _ _ => True
  | _ => False

/-- The next message the party sends, when only local actions come before it. -/
def nextSend? : Proc M A → Option M
  | .act _ next => next.nextSend?
  | .send message _ => some message
  | _ => none

/-- The program behind the next message it hears. -/
def hear (message : M) : Proc M A → Proc M A
  | .act _ next => next.hear message
  | .send _ next => next.hear message
  | .listen next => next message
  | .done => .done
  | .exit => .exit

end Proc

/-- Outcome of one connection attempt. -/
inductive Attempt (D : Type) where
  /-- The message has reached a listening peer. -/
  | delivered
  /-- The attempt has failed and printed a diagnostic. -/
  | failed (diagnostic : D)

/-- The step of one party. -/
inductive Event (D : Type) where
  /-- The left party performs its next local action. -/
  | leftAct
  /-- The right party performs its next local action. -/
  | rightAct
  /-- The right party performs its next local action without getting past it. -/
  | rightAgain
  /-- The left party makes a connection attempt. -/
  | leftAttempt (outcome : Attempt D)
  /-- The right party makes a connection attempt. -/
  | rightAttempt (outcome : Attempt D)

/-- The surroundings of the two programs. -/
structure Medium (A B D W : Type) where
  /-- Effect of an action of the left party on its own state. -/
  perform : A → W → W
  /-- Actions the right party may have to repeat. -/
  again : B → Bool
  /-- Diagnostics after which a sender tries again. -/
  retries : D → Bool

/-- A state of the two parties with the history of their messages and actions. -/
structure Config (M A B W : Type) where
  /-- Remaining program of the left party. -/
  left : Proc M A
  /-- Remaining program of the right party. -/
  right : Proc M B
  /-- State owned by the left party. -/
  world : W
  /-- Actions performed by the left party. -/
  leftActions : List A
  /-- Actions performed by the right party. -/
  rightActions : List B
  /-- Messages the left party has stopped trying to send. -/
  leftPassed : List M
  /-- Messages the right party has stopped trying to send. -/
  rightPassed : List M
  /-- Messages that have reached the left party. -/
  toLeft : List M
  /-- Messages that have reached the right party. -/
  toRight : List M

variable {M A B D W : Type}

/-- Two programs at their start. -/
def Config.start (left : Proc M A) (right : Proc M B) (world : W) : Config M A B W where
  left := left
  right := right
  world := world
  leftActions := []
  rightActions := []
  leftPassed := []
  rightPassed := []
  toLeft := []
  toRight := []

/-- Both programs are complete. -/
def Config.Complete (config : Config M A B W) : Prop :=
  config.left = .done ∧ config.right = .done

/-- Does a sender leave its loop after the attempt? -/
def Medium.leaves (medium : Medium A B D W) : Attempt D → Bool
  | .delivered => true
  | .failed diagnostic => !medium.retries diagnostic

/-- The events left over when the loop of a sender ends; `none` while it is still trying. -/
def Medium.sendLoop (medium : Medium A B D W) : List (Attempt D) → Option (List (Attempt D))
  | [] => none
  | attempt :: rest => if medium.leaves attempt then some rest else medium.sendLoop rest

/-- One event, when it is possible in the configuration. -/
def step (medium : Medium A B D W) (config : Config M A B W) :
    Event D → Option (Config M A B W)
  | .leftAct =>
      match config.left with
      | .act action next =>
          some
            { config with
              left := next
              world := medium.perform action config.world
              leftActions := config.leftActions ++ [action] }
      | _ => none
  | .rightAct =>
      match config.right with
      | .act action next =>
          some
            { config with
              right := next
              rightActions := config.rightActions ++ [action] }
      | _ => none
  | .rightAgain =>
      match config.right with
      | .act action _ =>
          if medium.again action then
            some { config with rightActions := config.rightActions ++ [action] }
          else
            none
      | _ => none
  | .leftAttempt .delivered =>
      match config.left, config.right with
      | .send message next, .listen receive =>
          some
            { config with
              left := next
              right := receive message
              leftPassed := config.leftPassed ++ [message]
              toRight := config.toRight ++ [message] }
      | _, _ => none
  | .rightAttempt .delivered =>
      match config.left, config.right with
      | .listen receive, .send message next =>
          some
            { config with
              left := receive message
              right := next
              rightPassed := config.rightPassed ++ [message]
              toLeft := config.toLeft ++ [message] }
      | _, _ => none
  | .leftAttempt (.failed diagnostic) =>
      match config.left with
      | .send message next =>
          if medium.leaves (.failed diagnostic) then
            some { config with left := next, leftPassed := config.leftPassed ++ [message] }
          else
            some config
      | _ => none
  | .rightAttempt (.failed diagnostic) =>
      match config.right with
      | .send message next =>
          if medium.leaves (.failed diagnostic) then
            some { config with right := next, rightPassed := config.rightPassed ++ [message] }
          else
            some config
      | _ => none

/-- Execute a list of events, failing if one of them is impossible. -/
def run (medium : Medium A B D W) (config : Config M A B W) :
    List (Event D) → Option (Config M A B W)
  | [] => some config
  | event :: events => step medium config event >>= fun next => run medium next events

/-- The event is not a failed attempt after which the sender gives its message up. -/
def Event.Kept (medium : Medium A B D W) : Event D → Prop
  | .leftAttempt (.failed diagnostic) => medium.retries diagnostic = true
  | .rightAttempt (.failed diagnostic) => medium.retries diagnostic = true
  | _ => True

instance (medium : Medium A B D W) (event : Event D) : Decidable (event.Kept medium) := by
  cases event with
  | leftAct => exact instDecidableTrue
  | rightAct => exact instDecidableTrue
  | rightAgain => exact instDecidableTrue
  | leftAttempt outcome =>
      cases outcome with
      | delivered => exact instDecidableTrue
      | failed diagnostic => exact instDecidableEqBool _ _
  | rightAttempt outcome =>
      cases outcome with
      | delivered => exact instDecidableTrue
      | failed diagnostic => exact instDecidableEqBool _ _

/-- Everything one event can do. -/
inductive Transition (medium : Medium A B D W) :
    Config M A B W → Event D → Config M A B W → Prop
  | leftAct (config : Config M A B W) (action : A) (next : Proc M A)
      (program : config.left = .act action next) :
      Transition medium config .leftAct
        { config with
          left := next
          world := medium.perform action config.world
          leftActions := config.leftActions ++ [action] }
  | rightAct (config : Config M A B W) (action : B) (next : Proc M B)
      (program : config.right = .act action next) :
      Transition medium config .rightAct
        { config with
          right := next
          rightActions := config.rightActions ++ [action] }
  | rightAgain (config : Config M A B W) (action : B) (next : Proc M B)
      (program : config.right = .act action next) (repeats : medium.again action = true) :
      Transition medium config .rightAgain
        { config with rightActions := config.rightActions ++ [action] }
  | toRight (config : Config M A B W) (message : M) (next : Proc M A) (receive : M → Proc M B)
      (sender : config.left = .send message next) (listener : config.right = .listen receive) :
      Transition medium config (.leftAttempt .delivered)
        { config with
          left := next
          right := receive message
          leftPassed := config.leftPassed ++ [message]
          toRight := config.toRight ++ [message] }
  | toLeft (config : Config M A B W) (message : M) (next : Proc M B) (receive : M → Proc M A)
      (listener : config.left = .listen receive) (sender : config.right = .send message next) :
      Transition medium config (.rightAttempt .delivered)
        { config with
          left := receive message
          right := next
          rightPassed := config.rightPassed ++ [message]
          toLeft := config.toLeft ++ [message] }
  | leftRetry (config : Config M A B W) (diagnostic : D) (message : M) (next : Proc M A)
      (sender : config.left = .send message next) (retry : medium.retries diagnostic = true) :
      Transition medium config (.leftAttempt (.failed diagnostic)) config
  | rightRetry (config : Config M A B W) (diagnostic : D) (message : M) (next : Proc M B)
      (sender : config.right = .send message next) (retry : medium.retries diagnostic = true) :
      Transition medium config (.rightAttempt (.failed diagnostic)) config
  | leftLost (config : Config M A B W) (diagnostic : D) (message : M) (next : Proc M A)
      (sender : config.left = .send message next) (lost : medium.retries diagnostic = false) :
      Transition medium config (.leftAttempt (.failed diagnostic))
        { config with left := next, leftPassed := config.leftPassed ++ [message] }
  | rightLost (config : Config M A B W) (diagnostic : D) (message : M) (next : Proc M B)
      (sender : config.right = .send message next) (lost : medium.retries diagnostic = false) :
      Transition medium config (.rightAttempt (.failed diagnostic))
        { config with right := next, rightPassed := config.rightPassed ++ [message] }

/-- Executable steps are transitions. -/
theorem transition_of_step {medium : Medium A B D W} {config after : Config M A B W}
    {event : Event D} (stepped : step medium config event = some after) :
    Transition medium config event after := by
  cases event with
  | leftAct =>
      simp only [step] at stepped
      split at stepped
      · rename_i action next program
        cases stepped
        exact .leftAct config action next program
      · contradiction
  | rightAct =>
      simp only [step] at stepped
      split at stepped
      · rename_i action next program
        cases stepped
        exact .rightAct config action next program
      · contradiction
  | rightAgain =>
      simp only [step] at stepped
      split at stepped
      · rename_i action next program
        split at stepped
        · rename_i repeats
          cases stepped
          exact .rightAgain config action next program repeats
        · contradiction
      · contradiction
  | leftAttempt outcome =>
      cases outcome with
      | delivered =>
          simp only [step] at stepped
          split at stepped
          · rename_i message next receive sender listener
            cases stepped
            exact .toRight config message next receive sender listener
          · contradiction
      | failed diagnostic =>
          simp only [step, Medium.leaves] at stepped
          split at stepped
          · rename_i message next sender
            cases verdict : medium.retries diagnostic with
            | false =>
                simp only [verdict, Bool.not_false, if_true, Option.some.injEq] at stepped
                subst stepped
                exact .leftLost config diagnostic message next sender verdict
            | true =>
                simp only [verdict, Bool.not_true, Bool.false_eq_true, if_false,
                  Option.some.injEq] at stepped
                subst stepped
                exact .leftRetry config diagnostic message next sender verdict
          · contradiction
  | rightAttempt outcome =>
      cases outcome with
      | delivered =>
          simp only [step] at stepped
          split at stepped
          · rename_i receive message next listener sender
            cases stepped
            exact .toLeft config message next receive listener sender
          · contradiction
      | failed diagnostic =>
          simp only [step, Medium.leaves] at stepped
          split at stepped
          · rename_i message next sender
            cases verdict : medium.retries diagnostic with
            | false =>
                simp only [verdict, Bool.not_false, if_true, Option.some.injEq] at stepped
                subst stepped
                exact .rightLost config diagnostic message next sender verdict
            | true =>
                simp only [verdict, Bool.not_true, Bool.false_eq_true, if_false,
                  Option.some.injEq] at stepped
                subst stepped
                exact .rightRetry config diagnostic message next sender verdict
          · contradiction

/-- A property kept by every event of a run holds at its end. -/
theorem run_invariant {medium : Medium A B D W} {Inv : Config M A B W → Prop}
    {allowed : Event D → Prop}
    (preserved : ∀ {config after : Config M A B W} {event : Event D}, Inv config →
      allowed event → Transition medium config event after → Inv after)
    {config after : Config M A B W} {events : List (Event D)} (initially : Inv config)
    (permitted : ∀ event ∈ events, allowed event)
    (execution : run medium config events = some after) : Inv after := by
  induction events generalizing config with
  | nil =>
      cases execution
      exact initially
  | cons event events induction =>
      simp only [run] at execution
      cases stepped : step medium config event with
      | none => simp [stepped] at execution
      | some next =>
          rw [stepped] at execution
          exact induction
            (preserved initially (permitted event List.mem_cons_self)
              (transition_of_step stepped))
            (fun later member => permitted later (List.mem_cons_of_mem event member)) execution

end Rendezvous
