import ArmTest.Nginx.Handshake

/-!
# Runs of the two scripts

Whatever the topology, the order of their steps and the number of refused connections, both scripts
walk through the same handshakes, and the server stands still while the client measures.  The loop
around a connection attempt recognises a refusal only, so a run loses a message exactly when some
attempt fails in another way.
-/

namespace Nginx

open Shell Rendezvous

/-! ## Lockstep -/

/-- Every run without abandoned messages keeps the scripts in lockstep on the schedule. -/
theorem run_inLockstep {topology : Topology} {host : Text} {mode : TestMode} {settings : Settings}
    {events : List (Event Text)} {config : Config Text ServerAction Wrk.ClientAction ServerState}
    (kept : ∀ event ∈ events, event.Kept medium)
    (execution : run medium (start topology host mode (render settings)) events = some config) :
    InLockstep medium.perform (Guard topology) serverNote clientNote (schedule topology mode)
      config := by
  have silent : ∀ action, medium.again action = true → clientNote action = none := by
    intro action repeats
    cases action with
    | enter => simp [medium] at repeats
    | clearResult | record | wrk | extract => rfl
  have initially : InLockstep medium.perform (Guard topology) serverNote clientNote
      (schedule topology mode) (start topology host mode (render settings)) :=
    ⟨_, _, (paired_script topology host mode).inStep _ ⟨settings, rfl, trivial⟩, rfl, rfl⟩
  exact run_invariant (transition_inLockstep (guard_stable topology) silent) initially kept
    execution

/-- The server has only opened handshakes since `since`, or the closing message has arrived. -/
def Undisturbed (label : Label)
    (since config : Config Text ServerAction Wrk.ClientAction ServerState) : Prop :=
  (∀ action ∈ config.leftActions.drop since.leftActions.length, ∃ note, action = .enter note) ∨
    (Note.finish label).message ∈ config.toLeft.drop since.toLeft.length

/-- The server is quiet and the closing message is the next one of the client. -/
def Measuring (label : Label)
    (since config : Config Text ServerAction Wrk.ClientAction ServerState) : Prop :=
  Quiet config.left ∧ config.right.nextSend? = some (Note.finish label).message ∧
    config.toLeft = since.toLeft ∧
    ∃ opened : List Note, config.leftActions = since.leftActions ++ opened.map .enter

theorem transition_measuring {label : Label}
    {since config after : Config Text ServerAction Wrk.ClientAction ServerState}
    {event : Event Text}
    (measuring : Measuring label since config ∨
      (Note.finish label).message ∈ config.toLeft.drop since.toLeft.length)
    (kept : event.Kept medium) (transition : Transition medium config event after) :
    Measuring label since after ∨
      (Note.finish label).message ∈ after.toLeft.drop since.toLeft.length := by
  rcases measuring with ⟨quiet, closes, received, opened, actions⟩ | closed
  · cases transition with
    | leftAct action next program =>
        rw [program] at quiet
        cases action with
        | enter note =>
            refine Or.inl ⟨quiet, closes, received, opened ++ [note], ?_⟩
            change config.leftActions ++ [.enter note] = _
            rw [actions, List.map_append, List.append_assoc]
            rfl
        | installConf | sedGzip | sedWorkers | sedAffinity | deleteAffinity | nginxRestart =>
            exact quiet.elim
    | rightAct action next program =>
        rw [program] at closes
        exact Or.inl ⟨quiet, closes, received, opened, actions⟩
    | rightAgain | leftRetry | rightRetry =>
        exact Or.inl ⟨quiet, closes, received, opened, actions⟩
    | toRight message next receive sender =>
        rw [sender] at quiet
        exact quiet.elim
    | toLeft message next receive listener sender =>
        rw [sender] at closes
        obtain rfl : message = (Note.finish label).message := Option.some.inj closes
        right
        change _ ∈ (config.toLeft ++ [_]).drop since.toLeft.length
        rw [received, List.drop_left]
        exact List.mem_singleton_self _
    | leftLost diagnostic message next sender lost => simp [Event.Kept, lost] at kept
    | rightLost diagnostic message next sender lost => simp [Event.Kept, lost] at kept
  · right
    cases transition with
    | toLeft message =>
        change _ ∈ (config.toLeft ++ [message]).drop since.toLeft.length
        rw [List.drop_append]
        exact List.mem_append_left _ closed
    | leftAct | rightAct | rightAgain | toRight | leftRetry | rightRetry | leftLost | rightLost =>
        exact closed

/-- The two scripts run in lockstep: no error exit, one sequence of handshakes, never both
listening or both sending, and a server that stands still with the right configuration while the
client measures. -/
theorem scripts_in_lockstep (topology : Topology) (host : Text) (mode : TestMode)
    (settings : Settings) (events : List (Event Text))
    (config : Config Text ServerAction Wrk.ClientAction ServerState)
    (kept : ∀ event ∈ events, event.Kept medium)
    (execution : run medium (start topology host mode (render settings)) events = some config) :
    (config.left ≠ .exit ∧ config.right ≠ .exit) ∧
    (labels serverNote config.leftActions <+: schedule topology mode ∧
      labels clientNote config.rightActions <+: schedule topology mode ∧
      (config.Complete →
        labels serverNote config.leftActions = schedule topology mode ∧
        labels clientNote config.rightActions = schedule topology mode)) ∧
    (¬ (config.left.Listening ∧ config.right.Listening) ∧
      ¬ (config.left.Sending ∧ config.right.Sending)) ∧
    (∀ label next, config.right = .act (.wrk label) next →
      config.world.running = some (render (settingsOf topology label)) ∧
      ∀ later laterConfig, (∀ event ∈ later, event.Kept medium) →
        run medium config later = some laterConfig → Undisturbed label config laterConfig) := by
  obtain ⟨serverRest, clientRest, lockstep, serverLabels, clientLabels⟩ :=
    run_inLockstep kept execution
  refine ⟨⟨?_, ?_⟩, ⟨⟨_, serverLabels⟩, ⟨_, clientLabels⟩, ?_⟩,
    ⟨lockstep.not_both_listening, lockstep.not_both_sending⟩, ?_⟩
  · intro exited
    rw [exited] at lockstep
    exact lockstep.left_ne_exit
  · intro exited
    rw [exited] at lockstep
    exact lockstep.right_ne_exit
  · rintro ⟨leftDone, rightDone⟩
    rw [leftDone, rightDone] at lockstep
    cases lockstep
    exact ⟨by simpa using serverLabels, by simpa using clientLabels⟩
  · intro label next measuring
    have cleared := lockstep.cleared
    rw [measuring] at cleared
    obtain ⟨⟨running, quiet, closes⟩, -⟩ := cleared
    refine ⟨running, fun later laterConfig laterKept laterExecution => ?_⟩
    have initially : Measuring label config config :=
      ⟨quiet, by rw [measuring]; exact closes, rfl, [], by simp⟩
    have atEnd := run_invariant transition_measuring (Or.inl initially) laterKept laterExecution
    rcases atEnd with ⟨-, -, -, opened, actions⟩ | closed
    · left
      intro action member
      rw [actions, List.drop_left] at member
      obtain ⟨note, -, rfl⟩ := List.mem_map.mp member
      exact ⟨note, rfl⟩
    · exact Or.inr closed

/-- A machine with one socket and one node of two processors. -/
def smallServer : Topology where
  socketNum := 1
  socketNum_pos := by decide
  nodes := [[0, 1]]
  nicNode := 0
  hostName := "server"

/-- Events of the server mode up to its first measurement, with one refused connection. -/
def firstMeasurement : List (Event Text) :=
  [.rightAct, .rightAct, .rightAct, .rightAttempt (.failed "Connection refused"),
    .leftAct, .leftAct, .leftAct, .leftAct, .leftAct, .rightAttempt .delivered,
    .leftAttempt .delivered, .rightAct, .rightAct]

theorem scripts_in_lockstep_firstMeasurement :
    ∃ config next,
      run medium (start smallServer "10.0.0.2" .server nginxConf) firstMeasurement =
        some config ∧
      config.right = .act (.wrk (.server .httpshort)) next ∧
      config.world.running = some (render (settingsOf smallServer (.server .httpshort))) := by
  refine ⟨_, _, rfl, rfl, ?_⟩
  exact ((scripts_in_lockstep smallServer "10.0.0.2" .server .shipped firstMeasurement _
    (by decide) rfl).2.2.2 _ _ rfl).1

/-! ## Delivery -/

/-- Has the attempt reached the peer? -/
def reached : Attempt Text → Bool
  | .delivered => true
  | .failed _ => false

/-- A send loop has delivered its line exactly once when it ends, exactly when every failed
attempt it made was refused. -/
theorem sendLoop_delivers_iff {used rest : List (Attempt Text)}
    (left : medium.sendLoop (used ++ rest) = some rest) :
    used.countP reached = 1 ↔
      ∀ diagnostic, .failed diagnostic ∈ used → grepQ "refused" diagnostic = true := by
  obtain ⟨retried, last, attempts, stays, leaves⟩ := sendLoop_eq_some left
  have split : used = retried ++ [last] :=
    (List.append_left_inj rest).mp (by simpa using attempts)
  have retriedRefused : ∀ attempt ∈ retried, ∃ diagnostic, attempt = .failed diagnostic ∧
      grepQ "refused" diagnostic = true := by
    intro attempt member
    have stayed := stays attempt member
    cases attempt with
    | delivered => simp [Medium.leaves] at stayed
    | failed diagnostic =>
        have tryAgain : (!grepQ "refused" diagnostic) = false := stayed
        exact ⟨diagnostic, rfl, by simpa using tryAgain⟩
  have noneReached : retried.countP reached = 0 := by
    rw [List.countP_eq_zero]
    intro attempt member
    obtain ⟨diagnostic, rfl, -⟩ := retriedRefused attempt member
    simp [reached]
  rw [split, List.countP_append, noneReached]
  cases last with
  | delivered =>
      simp only [reached, List.countP_singleton, if_true, Nat.zero_add, true_iff]
      intro diagnostic member
      rcases List.mem_append.mp member with earlier | final
      · obtain ⟨other, same, refused⟩ := retriedRefused _ earlier
        cases same
        exact refused
      · simp at final
  | failed diagnostic =>
      simp only [reached, List.countP_singleton, Bool.false_eq_true, if_false, Nat.add_zero,
        Nat.zero_ne_one, false_iff, not_forall]
      have abandoned : grepQ "refused" diagnostic ≠ true := by
        have gaveUp : (!grepQ "refused" diagnostic) = true := leaves
        simpa using gaveUp
      exact ⟨diagnostic, by simp, abandoned⟩

/-- No script waits for the reply to a line that the other one never received. -/
def NoVainWait (config : Config Text ServerAction Wrk.ClientAction ServerState) : Prop :=
  (config.left.Listening → config.leftPassed = config.toRight) ∧
    (config.right.Listening → config.rightPassed = config.toLeft)

/-- A run of the scripts loses no line exactly when every failed attempt was refused. -/
theorem delivery_iff_refused (topology : Topology) (host : Text) (mode : TestMode)
    (conf : List Text) :
    (∀ used rest : List (Attempt Text), medium.sendLoop (used ++ rest) = some rest →
      (used.countP reached = 1 ↔
        ∀ diagnostic, .failed diagnostic ∈ used → grepQ "refused" diagnostic = true)) ∧
    ∀ events config, run medium (start topology host mode conf) events = some config →
      (config.AllDelivered ∧ NoVainWait config ↔
        ∀ diagnostic, .leftAttempt (.failed diagnostic) ∈ events ∨
          .rightAttempt (.failed diagnostic) ∈ events → grepQ "refused" diagnostic = true) := by
  refine ⟨fun used rest left => sendLoop_delivers_iff left, fun events config execution => ?_⟩
  have counted : config.AllDelivered ↔ ∀ event ∈ events, event.Kept medium :=
    allDelivered_iff_kept ⟨rfl, rfl⟩ execution
  constructor
  · rintro ⟨delivered, -⟩ diagnostic (member | member)
    · exact counted.mp delivered _ member
    · exact counted.mp delivered _ member
  · intro refused
    suffices kept : ∀ event ∈ events, event.Kept medium by
      have delivered := counted.mpr kept
      exact ⟨delivered, fun _ => delivered.1, fun _ => delivered.2⟩
    intro event member
    cases event with
    | leftAct | rightAct | rightAgain => trivial
    | leftAttempt outcome =>
        cases outcome with
        | delivered => trivial
        | failed diagnostic => exact refused diagnostic (Or.inl member)
    | rightAttempt outcome =>
        cases outcome with
        | delivered => trivial
        | failed diagnostic => exact refused diagnostic (Or.inr member)

/-- A refused attempt is retried until the line is there, and an attempt into an unreachable network
loses it. -/
theorem delivery_iff_refused_retried :
    ∃ kept lost,
      run medium (start smallServer "10.0.0.2" .stats nginxConf)
          [.rightAct, .rightAttempt (.failed "nc: Connection refused"), .leftAct,
            .rightAttempt .delivered] = some kept ∧
        kept.AllDelivered ∧ NoVainWait kept ∧
      run medium (start smallServer "10.0.0.2" .stats nginxConf)
          [.rightAct, .rightAttempt (.failed "nc: Connection refused"),
            .rightAttempt (.failed "nc: connect: No route to host"), .leftAct] = some lost ∧
        ¬ (lost.AllDelivered ∧ NoVainWait lost) := by
  have exact := (delivery_iff_refused smallServer "10.0.0.2" .stats nginxConf).2
  have delivered := (exact [.rightAct, .rightAttempt (.failed "nc: Connection refused"), .leftAct,
    .rightAttempt .delivered] _ rfl).mpr (by
      rintro diagnostic (member | member)
      · simp at member
      · simp only [List.mem_cons, List.not_mem_nil, or_false, reduceCtorEq, false_or,
          Event.rightAttempt.injEq, Attempt.failed.injEq] at member
        rw [member]
        decide)
  have lost := mt (exact [.rightAct, .rightAttempt (.failed "nc: Connection refused"),
    .rightAttempt (.failed "nc: connect: No route to host"), .leftAct] _ rfl).mp (by
      intro refused
      have unreachable := refused "nc: connect: No route to host" (Or.inr (by simp))
      exact absurd unreachable (by decide))
  exact ⟨_, _, rfl, delivered.1, delivered.2, rfl, lost⟩

/-- After an unreachable network both scripts listen for a message that nobody sends. -/
theorem unreachable_network_loses_line :
    medium.sendLoop [.failed "nc: connect: No route to host"] = some [] ∧
    ∃ config,
      run medium (start smallServer "10.0.0.2" .stats nginxConf)
          [.rightAct, .rightAttempt (.failed "nc: connect: No route to host"), .leftAct] =
        some config ∧
      config.left.Listening ∧ config.right.Listening ∧
      config.rightPassed = [(Note.conf .serverName).message] ∧ config.toLeft = [] :=
  ⟨rfl, _, rfl, trivial, trivial, rfl, rfl⟩

end Nginx
