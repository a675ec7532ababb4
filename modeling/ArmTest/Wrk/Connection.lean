import ArmTest.Concurrency.Threads
import Mathlib.Tactic.Ring

/-!
# Connections of a load generator thread

A thread of the load generator serves its connections in one event loop.  A connection sends its
batch of requests in pieces, waits until the last of them is answered, records the latency and
starts again; on an error it connects anew.
-/

namespace LoadGenerator

open Concurrency

/-- A request buffer, by the lengths of the complete requests in it. -/
structure Batch where
  sizes : List Nat
  deriving DecidableEq

/-- The number of bytes of the buffer. -/
def Batch.length (request : Batch) : Nat := request.sizes.sum

/-- How many requests of the given lengths are complete in the first `n` bytes. -/
def completeIn : List Nat → Nat → Nat
  | [], _ => 0
  | size :: sizes, n => if size ≤ n then completeIn sizes (n - size) + 1 else 0

/-- How many requests are complete in the first `n` bytes of the buffer. -/
def Batch.complete (request : Batch) (n : Nat) : Nat := completeIn request.sizes n

/-- As many requests as `cfg.pipeline` says, none of them empty. -/
structure Batch.Fits (pipeline : Nat) (request : Batch) : Prop where
  number : request.sizes.length = pipeline
  positive : ∀ size ∈ request.sizes, 0 < size

/-- `cfg`, as far as a connection depends on it, with the request of a static script. -/
structure Plan where
  pipeline : Nat
  delay : Bool
  dynamic : Bool
  request : Batch
  nonempty : 0 < pipeline
  valid : request.Fits pipeline

/-- The procedures of a file event: `socket_connected`, or `socket_readable` and
`socket_writeable`. -/
inductive Handler where
  | connected
  | ready
  deriving DecidableEq

/-- `connection`, with the procedures armed for its descriptor and the number of its timers; `owed`
belongs to the network: the complete requests on the wire that are not answered yet. -/
structure Connection where
  readable : Option Handler
  writable : Option Handler
  timers : Nat
  delayed : Bool
  request : Batch
  written : Nat
  pending : Nat
  start : Nat
  owed : Nat
  deriving DecidableEq

/-- `thread`, with the time and the arguments of all its calls of `stats_record` for latencies. -/
structure Thread where
  now : Nat
  complete : Nat
  connectErrors : Nat
  readErrors : Nat
  writeErrors : Nat
  statusErrors : Nat
  latencies : List Nat
  deriving DecidableEq

/-- `status` of a socket operation. -/
inductive Status where
  | ok
  | error
  | retry
  deriving DecidableEq

/-! ## Event procedures -/

/-- `connect_socket`; the flag says whether the descriptor could be set up. -/
def connectSocket (opened : Bool) (c : Connection) (thread : Thread) : Connection × Thread :=
  if opened then
    ({ c with readable := some .connected, writable := some .connected, owed := 0 }, thread)
  else
    ({ c with readable := none, writable := none, owed := 0 },
      { thread with connectErrors := thread.connectErrors + 1 })

/-- `reconnect_socket`. -/
def reconnectSocket (opened : Bool) (c : Connection) (thread : Thread) : Connection × Thread :=
  connectSocket opened { c with readable := none, writable := none } thread

/-- `socket_connected`. -/
def socketConnected (status : Status) (opened : Bool) (c : Connection) (thread : Thread) :
    Connection × Thread :=
  match status with
  | .ok =>
      ({ c with written := 0, readable := some .ready, writable := some .ready }, thread)
  | .error =>
      reconnectSocket opened c { thread with connectErrors := thread.connectErrors + 1 }
  | .retry => (c, thread)

/-- The start of a batch in `socket_writeable`; `scripted` is what `script_request` returns if it is
called. -/
def startBatch (plan : Plan) (scripted : Batch) (now : Nat) (c : Connection) : Connection :=
  if c.written = 0 then
    { c with
      request := if plan.dynamic then scripted else c.request
      start := now
      pending := plan.pipeline }
  else c

/-- The write of `n` bytes in `socket_writeable`. -/
def writeBatch (status : Status) (n : Nat) (opened : Bool) (c : Connection) (thread : Thread) :
    Connection × Thread :=
  match status with
  | .ok =>
      let owed := c.owed + (c.request.complete (c.written + n) - c.request.complete c.written)
      if c.written + n = c.request.length then
        ({ c with written := 0, writable := none, owed }, thread)
      else ({ c with written := c.written + n, owed }, thread)
  | .error => reconnectSocket opened c { thread with writeErrors := thread.writeErrors + 1 }
  | .retry => (c, thread)

/-- `socket_writeable`. -/
def socketWriteable (plan : Plan) (scripted : Batch) (status : Status) (n : Nat) (opened : Bool)
    (c : Connection) (thread : Thread) : Connection × Thread :=
  if c.delayed then ({ c with writable := none, timers := c.timers + 1 }, thread)
  else writeBatch status n opened (startBatch plan scripted thread.now c) thread

/-- A response as the parser has it at its end; if the connection is not kept alive, the last flag
says whether the descriptor of the next one could be set up. -/
structure Response where
  statusCode : Nat
  keepAlive : Bool
  opened : Bool
  deriving DecidableEq

/-- A `uint64_t` after `--`. -/
def decremented (n : Nat) : Nat := if n = 0 then 2 ^ 64 - 1 else n - 1

/-- `response_complete` up to the question whether the connection is kept alive. -/
def countResponse (plan : Plan) (statusCode : Nat) (c : Connection) (thread : Thread) :
    Connection × Thread :=
  let thread := { thread with
    complete := thread.complete + 1
    statusErrors :=
      if 399 < statusCode then thread.statusErrors + 1 else thread.statusErrors }
  let c := { c with pending := decremented c.pending, owed := c.owed - 1 }
  if c.pending = 0 then
    ({ c with delayed := plan.delay, writable := some .ready },
      { thread with latencies := thread.latencies ++ [thread.now - c.start] })
  else (c, thread)

/-- `response_complete`. -/
def responseComplete (plan : Plan) (parser : Response) (c : Connection) (thread : Thread) :
    Connection × Thread :=
  let counted := countResponse plan parser.statusCode c thread
  if parser.keepAlive then counted else reconnectSocket parser.opened counted.1 counted.2

/-- `socket_readable` for one read: the responses that end in its bytes, and whether it fails. -/
def socketReadable (plan : Plan) (responses : List Response) (failed : Option Bool)
    (c : Connection) (thread : Thread) : Connection × Thread :=
  let read := responses.foldl (fun out parser => responseComplete plan parser out.1 out.2)
    (c, thread)
  match failed with
  | none => read
  | some opened =>
      reconnectSocket opened read.1 { read.2 with readErrors := read.2.readErrors + 1 }

/-- `delay_request`. -/
def delayRequest (c : Connection) (thread : Thread) : Connection × Thread :=
  ({ c with
    timers := c.timers - 1
    delayed := false
    writable := if c.readable = none then none else some .ready }, thread)

/-- What the event loop can report for a connection. -/
inductive Event where
  | connected (status : Status) (opened : Bool)
  | writeable (scripted : Batch) (status : Status) (n : Nat) (opened : Bool)
  | readable (responses : List Response) (failed : Option Bool)
  | delay
  deriving DecidableEq

/-- `aeProcessEvents` for one event: its procedure is called if it is armed. -/
def Connection.process (plan : Plan) (event : Event) (c : Connection) (thread : Thread) :
    Option (Connection × Thread) :=
  match event with
  | .connected status opened =>
      if c.readable = some .connected ∨ c.writable = some .connected then
        some (socketConnected status opened c thread)
      else none
  | .writeable scripted status n opened =>
      if c.writable = some .ready then
        some (socketWriteable plan scripted status n opened c thread)
      else none
  | .readable responses failed =>
      if c.readable = some .ready then some (socketReadable plan responses failed c thread)
      else none
  | .delay => if 0 < c.timers then some (delayRequest c thread) else none

/-- A dynamic script goes on with as many requests as it had when it was verified, and a write takes
no more bytes than it is given.  The server answers complete requests only, each once, and the
parser accepts nothing behind a response that ends the connection. -/
def Event.Possible (plan : Plan) (c : Connection) : Event → Prop
  | .writeable scripted _ n _ =>
      scripted.Fits plan.pipeline ∧
        c.written + n ≤ (startBatch plan scripted 0 c).request.length
  | .readable responses _ =>
      responses.length ≤ c.owed ∧ ∀ parser ∈ responses.dropLast, parser.keepAlive = true
  | _ => True

/-- One event of one connection, at any later time. -/
def Serves (plan : Plan) (c : Connection) (thread : Thread) (c' : Connection) (thread' : Thread) :
    Prop :=
  ∃ now event, thread.now ≤ now ∧ event.Possible plan c ∧
    c.process plan event { thread with now } = some (c', thread')

/-- `thread_main` up to its event loop. -/
def threadMain (plan : Plan) (now : Nat) (opened : List Bool) : Config Thread Connection :=
  opened.foldl (fun config opened =>
    let fresh := { readable := none, writable := none, timers := 0, delayed := plan.delay,
                   request := if plan.dynamic then ⟨[]⟩ else plan.request, written := 0,
                   pending := 0, start := 0, owed := 0 }
    let (c, thread) := connectSocket opened fresh config.shared
    ⟨thread, config.locals ++ [c]⟩)
    ⟨⟨now, 0, 0, 0, 0, 0, []⟩, []⟩

/-! ## Phases -/

/-- The phases of a connection without delays.  While a batch is under way as many requests are
pending as are not yet sent or not yet answered. -/
inductive Connection.Phase (plan : Plan) (now : Nat) : Connection → Prop
  | closed {request : Batch} {written pending start : Nat} :
      Phase plan now ⟨none, none, 0, false, request, written, pending, start, 0⟩
  | connecting {request : Batch} {written pending start : Nat} :
      Phase plan now
        ⟨some .connected, some .connected, 0, false, request, written, pending, start, 0⟩
  | idle {request : Batch} {pending start : Nat} :
      Phase plan now ⟨some .ready, some .ready, 0, false, request, 0, pending, start, 0⟩
  | sending {request : Batch} {written pending start owed : Nat}
      (fits : request.Fits plan.pipeline) (begun : 0 < written) (short : written < request.length)
      (left : pending ≤ plan.pipeline)
      (balance : owed + plan.pipeline = request.complete written + pending) (past : start ≤ now) :
      Phase plan now ⟨some .ready, some .ready, 0, false, request, written, pending, start, owed⟩
  | waiting {request : Batch} {pending start : Nat} (begun : 0 < pending)
      (left : pending ≤ plan.pipeline) (past : start ≤ now) :
      Phase plan now ⟨some .ready, none, 0, false, request, 0, pending, start, pending⟩

/-- A phase, with the request of a static script. -/
structure Connection.Sound (plan : Plan) (now : Nat) (c : Connection) : Prop where
  phase : c.Phase plan now
  supplied : plan.dynamic = false → c.request.Fits plan.pipeline

/-! ## Requests of a buffer -/

theorem completeIn_zero {sizes : List Nat} (positive : ∀ size ∈ sizes, 0 < size) :
    completeIn sizes 0 = 0 := by
  cases sizes with
  | nil => rfl
  | cons size sizes =>
      rw [completeIn, if_neg (Nat.not_le.mpr (positive size List.mem_cons_self))]

/-- The whole buffer holds all requests. -/
theorem completeIn_sum (sizes : List Nat) : completeIn sizes sizes.sum = sizes.length := by
  induction sizes with
  | nil => rfl
  | cons size sizes induction =>
      rw [completeIn, List.sum_cons, if_pos (Nat.le_add_right _ _), Nat.add_sub_cancel_left,
        induction, List.length_cons]

/-- The last byte completes the last request. -/
theorem completeIn_lt {sizes : List Nat} {n : Nat} (short : n < sizes.sum) :
    completeIn sizes n < sizes.length := by
  induction sizes generalizing n with
  | nil => simp at short
  | cons size sizes induction =>
      rw [List.sum_cons] at short
      rw [completeIn, List.length_cons]
      split
      · exact Nat.succ_lt_succ (induction (by omega))
      · exact Nat.succ_pos _

theorem completeIn_mono (sizes : List Nat) {m n : Nat} (before : m ≤ n) :
    completeIn sizes m ≤ completeIn sizes n := by
  induction sizes generalizing m n with
  | nil => exact le_rfl
  | cons size sizes induction =>
      rw [completeIn, completeIn]
      split
      · next enough =>
          rw [if_pos (enough.trans before)]
          exact Nat.succ_le_succ (induction (Nat.sub_le_sub_right before size))
      · exact Nat.zero_le _

section

variable {pipeline : Nat} {request : Batch}

theorem Batch.Fits.nothing (fits : request.Fits pipeline) : request.complete 0 = 0 :=
  completeIn_zero fits.positive

theorem Batch.Fits.whole (fits : request.Fits pipeline) :
    request.complete request.length = pipeline := by
  rw [Batch.complete, Batch.length, completeIn_sum, fits.number]

theorem Batch.Fits.part (fits : request.Fits pipeline) {n : Nat} (short : n < request.length) :
    request.complete n < pipeline := by
  rw [← fits.number]
  exact completeIn_lt short

end

/-! ## What an event keeps -/

/-- A batch is under way. -/
def Connection.underWay (c : Connection) : Bool :=
  c.readable = some .ready && (c.writable = none || c.written ≠ 0)

/-- The answered requests of the batch that is under way. -/
def Connection.answered (plan : Plan) (c : Connection) : Int :=
  if c.underWay then plan.pipeline - c.pending else 0

/-- The time up to which a connection has been free for its next batch. -/
def Connection.free (now : Nat) (c : Connection) : Int := if c.underWay then c.start else now

/-- A connection that could not be set up again. -/
def Connection.closed (c : Connection) : Int := if c.readable = none then 1 else 0

/-- The responses that do not belong to a recorded batch. -/
def Thread.surplus (plan : Plan) (thread : Thread) : Int :=
  thread.complete - plan.pipeline * thread.latencies.length

/-- What every event procedure keeps of a connection and the counters of its thread. -/
structure Keeps (plan : Plan) (before after : Connection × Thread) : Prop where
  sound : after.1.Sound plan after.2.now
  later : before.2.now ≤ after.2.now
  surplus : before.2.surplus plan - before.1.answered plan ≤
    after.2.surplus plan - after.1.answered plan
  exact : plan.pipeline = 1 → after.2.surplus plan = before.2.surplus plan
  free : before.1.free before.2.now + after.2.latencies.sum ≤
    after.1.free after.2.now + before.2.latencies.sum
  closed : before.2.connectErrors - before.1.closed ≤ after.2.connectErrors - after.1.closed

section

variable {plan : Plan} {c : Connection} {thread : Thread}

theorem Keeps.trans {first second third : Connection × Thread} (early : Keeps plan first second)
    (late : Keeps plan second third) : Keeps plan first third where
  sound := late.sound
  later := early.later.trans late.later
  surplus := early.surplus.trans late.surplus
  exact := fun single => (late.exact single).trans (early.exact single)
  free := by
    have first := early.free
    have second := late.free
    omega
  closed := early.closed.trans late.closed

/-- Other counters do not matter. -/
theorem Keeps.rfl (sound : c.Sound plan thread.now) {thread' : Thread}
    (now : thread'.now = thread.now) (complete : thread'.complete = thread.complete)
    (connectErrors : thread.connectErrors ≤ thread'.connectErrors)
    (latencies : thread'.latencies = thread.latencies) :
    Keeps plan (c, thread) (c, thread') where
  sound := by rwa [now]
  later := now.ge
  surplus := by simp only [Thread.surplus, complete, latencies, le_refl]
  exact := fun _ => by simp only [Thread.surplus, complete, latencies]
  free := by simp only [now, latencies, le_refl]
  closed := by
    simp only
    omega

/-- A connection that is not closed is free at the latest now, and has answered no more than its
pending requests allow. -/
theorem Connection.Sound.bounds {now : Nat} (sound : c.Sound plan now) :
    0 ≤ c.answered plan ∧ (plan.pipeline = 1 → c.answered plan = 0) ∧ c.free now ≤ now := by
  cases sound.phase with
  | closed => simp [Connection.answered, Connection.free, Connection.underWay]
  | connecting => simp [Connection.answered, Connection.free, Connection.underWay]
  | idle => simp [Connection.answered, Connection.free, Connection.underWay]
  | sending fits begun short left balance past =>
      have unsent := fits.part short
      simp [Connection.answered, Connection.free, Connection.underWay, begun.ne', past]
      omega
  | waiting begun left past =>
      simp [Connection.answered, Connection.free, Connection.underWay, past]
      omega

/-- A new connection gives up what has been answered of the batch. -/
theorem keeps_reconnectSocket (sound : c.Sound plan thread.now) (opened : Bool) :
    Keeps plan (c, thread) (reconnectSocket opened c thread) := by
  obtain ⟨nonneg, single, upper⟩ := sound.bounds
  have calm : c.timers = 0 ∧ c.delayed = false := by cases sound.phase <;> exact ⟨rfl, rfl⟩
  have supplied := sound.supplied
  obtain ⟨readable, writable, timers, delayed, request, written, pending, start, owed⟩ := c
  obtain ⟨rfl, rfl⟩ := calm
  have one : ∀ c : Connection, 0 ≤ c.closed ∧ c.closed ≤ 1 := by
    intro c
    rw [Connection.closed]
    split <;> omega
  cases opened with
  | true =>
      refine ⟨⟨.connecting, supplied⟩, le_rfl, ?_, fun _ => rfl, ?_, ?_⟩
      · simp [reconnectSocket, connectSocket, Connection.answered, Connection.underWay] at nonneg ⊢
        exact nonneg
      · simpa [reconnectSocket, connectSocket, Connection.free, Connection.underWay] using upper
      · exact sub_le_sub_left (one _).1 _
  | false =>
      refine ⟨⟨.closed, supplied⟩, le_rfl, ?_, fun _ => rfl, ?_, ?_⟩
      · simp [reconnectSocket, connectSocket, Connection.answered, Connection.underWay,
          Thread.surplus] at nonneg ⊢
        exact nonneg
      · simpa [reconnectSocket, connectSocket, Connection.free, Connection.underWay] using upper
      · have before := one ⟨readable, writable, 0, false, request, written, pending, start, owed⟩
        simp only [reconnectSocket, connectSocket, Connection.closed] at before ⊢
        simp
        omega

/-- An answered request is counted, and with the last one of its batch the latency is recorded; the
counter of pending requests does not wrap around. -/
theorem keeps_countResponse (undelayed : plan.delay = false) (sound : c.Sound plan thread.now)
    (answers : 0 < c.owed) (statusCode : Nat) :
    Keeps plan (c, thread) (countResponse plan statusCode c thread) ∧
      (countResponse plan statusCode c thread).1.owed = c.owed - 1 := by
  obtain ⟨phase, supplied⟩ := sound
  cases phase with
  | closed => contradiction
  | connecting => contradiction
  | idle => contradiction
  | @sending request written pending start owed fits begun short left balance past =>
      have unsent := fits.part short
      simp only at answers
      have lowered : decremented pending = pending - 1 := if_neg (by omega)
      have others : pending - 1 ≠ 0 := by omega
      simp only [countResponse, lowered, others, if_false]
      refine ⟨⟨⟨.sending fits begun short (by omega) (by omega) past, supplied⟩, le_rfl, ?_,
        fun single => ?_, ?_, ?_⟩, ?_⟩
      · simp [Connection.answered, Connection.underWay, begun.ne', Thread.surplus]
        omega
      · omega
      · simp [Connection.free, Connection.underWay, begun.ne']
      · simp [Connection.closed]
      · simp
  | @waiting request pending start begun left past =>
      have lowered : decremented pending = pending - 1 := if_neg (by omega)
      by_cases last : pending - 1 = 0
      · have final : pending = 1 := by omega
        subst final
        simp only [countResponse, lowered, Nat.sub_self, if_true, undelayed]
        refine ⟨⟨⟨.idle, supplied⟩, le_rfl, ?_, fun single => ?_, ?_, ?_⟩, ?_⟩
        · simp only [Connection.answered, Connection.underWay, Thread.surplus, List.length_append,
            List.length_singleton, Nat.cast_add, Nat.cast_one, Int.mul_add, Int.mul_one]
          simp
          omega
        · simp [Thread.surplus, single]
        · simp [Connection.free, Connection.underWay]
          omega
        · simp [Connection.closed]
        · simp
      · simp only [countResponse, lowered, last, if_false]
        refine ⟨⟨⟨.waiting (by omega) (by omega) past, supplied⟩, le_rfl, ?_, fun single => ?_, ?_,
          ?_⟩, ?_⟩
        · simp [Connection.answered, Connection.underWay, Thread.surplus]
          omega
        · omega
        · simp [Connection.free, Connection.underWay]
        · simp [Connection.closed]
        · simp

/-- A response is counted, and its connection set up anew if it is not kept alive. -/
theorem keeps_responseComplete (undelayed : plan.delay = false) (sound : c.Sound plan thread.now)
    (answers : 0 < c.owed) (parser : Response) :
    Keeps plan (c, thread) (responseComplete plan parser c thread) ∧
      (parser.keepAlive = true → (responseComplete plan parser c thread).1.owed = c.owed - 1) := by
  obtain ⟨counted, owed⟩ := keeps_countResponse undelayed sound answers parser.statusCode
  simp only [responseComplete]
  generalize countResponse plan parser.statusCode c thread = out at counted owed ⊢
  split
  · exact ⟨counted, fun _ => owed⟩
  next gone =>
    exact ⟨counted.trans (keeps_reconnectSocket counted.sound _), fun kept => absurd kept gone⟩

/-- All responses of one read are counted. -/
theorem keeps_responses (undelayed : plan.delay = false) {responses : List Response}
    (sound : c.Sound plan thread.now) (answers : responses.length ≤ c.owed)
    (alive : ∀ parser ∈ responses.dropLast, parser.keepAlive = true) :
    Keeps plan (c, thread) (responses.foldl
      (fun out parser => responseComplete plan parser out.1 out.2) (c, thread)) := by
  induction responses generalizing c thread with
  | nil =>
      rw [List.foldl_nil]
      exact .rfl sound rfl rfl le_rfl rfl
  | cons parser responses induction =>
      rw [List.length_cons] at answers
      obtain ⟨counted, owed⟩ := keeps_responseComplete undelayed sound (by omega) parser
      rw [List.foldl_cons]
      generalize responseComplete plan parser c thread = out at counted owed ⊢
      cases responses with
      | nil => exact counted
      | cons next responses =>
          rw [List.dropLast_cons_cons] at alive
          have kept := alive parser List.mem_cons_self
          refine counted.trans (induction counted.sound ?_ fun other member =>
            alive other (List.mem_cons_of_mem _ member))
          rw [owed kept]
          exact Nat.le_sub_one_of_lt answers

theorem keeps_socketReadable (undelayed : plan.delay = false) {responses : List Response}
    (sound : c.Sound plan thread.now) (answers : responses.length ≤ c.owed)
    (alive : ∀ parser ∈ responses.dropLast, parser.keepAlive = true) (failed : Option Bool) :
    Keeps plan (c, thread) (socketReadable plan responses failed c thread) := by
  have counted := keeps_responses undelayed sound answers alive
  cases failed with
  | none => exact counted
  | some opened =>
      simp only [socketReadable]
      generalize responses.foldl (fun out parser => responseComplete plan parser out.1 out.2)
        (c, thread) = read at counted ⊢
      have noted : Keeps plan read (read.1, { read.2 with readErrors := read.2.readErrors + 1 }) :=
        .rfl counted.sound rfl rfl le_rfl rfl
      exact counted.trans (noted.trans (keeps_reconnectSocket noted.sound opened))

theorem keeps_socketConnected (sound : c.Sound plan thread.now)
    (connecting : c.readable = some .connected ∨ c.writable = some .connected) (status : Status)
    (opened : Bool) : Keeps plan (c, thread) (socketConnected status opened c thread) := by
  cases status with
  | ok =>
      obtain ⟨phase, supplied⟩ := sound
      cases phase with
      | connecting =>
          refine ⟨⟨.idle, supplied⟩, le_rfl, le_rfl, fun _ => rfl, le_rfl, le_rfl⟩
      | _ => simp at connecting
  | error =>
      have noted : Keeps plan (c, thread)
          (c, { thread with connectErrors := thread.connectErrors + 1 }) :=
        .rfl sound rfl rfl (Nat.le_succ _) rfl
      exact noted.trans (keeps_reconnectSocket noted.sound opened)
  | retry => exact .rfl sound rfl rfl le_rfl rfl

/-- A batch is started with a request of the script. -/
theorem keeps_startBatch (sound : c.Sound plan thread.now) (ready : c.writable = some .ready)
    {scripted : Batch} (fits : scripted.Fits plan.pipeline) :
    Keeps plan (c, thread) (startBatch plan scripted thread.now c, thread) ∧
      (startBatch plan scripted thread.now c).request.Fits plan.pipeline ∧
      ((startBatch plan scripted thread.now c).written = 0 →
        (startBatch plan scripted thread.now c).start = thread.now ∧
          (startBatch plan scripted thread.now c).pending = plan.pipeline) := by
  have same : Keeps plan (c, thread) (c, thread) := .rfl sound rfl rfl le_rfl rfl
  obtain ⟨phase, supplied⟩ := sound
  cases phase with
  | closed => contradiction
  | connecting => simp at ready
  | waiting => contradiction
  | @idle request pending start =>
      have given : (if plan.dynamic then scripted else request).Fits plan.pipeline := by
        split
        · exact fits
        next static => exact supplied (Bool.not_eq_true _ ▸ static)
      rw [startBatch, if_pos rfl]
      exact ⟨⟨⟨.idle, fun _ => given⟩, le_rfl, le_rfl, fun _ => rfl, le_rfl, le_rfl⟩, given,
        fun _ => ⟨rfl, rfl⟩⟩
  | sending whole begun =>
      rw [startBatch, if_neg (Nat.ne_of_gt begun)]
      exact ⟨same, whole, fun none => absurd none (Nat.ne_of_gt begun)⟩

/-- A write of any length carries its batch on. -/
theorem keeps_writeBatch (sound : c.Sound plan thread.now) (ready : c.writable = some .ready)
    (fits : c.request.Fits plan.pipeline)
    (fresh : c.written = 0 → c.start = thread.now ∧ c.pending = plan.pipeline) {n : Nat}
    (room : c.written + n ≤ c.request.length) (status : Status) (opened : Bool) :
    Keeps plan (c, thread) (writeBatch status n opened c thread) := by
  have same : Keeps plan (c, thread) (c, thread) := .rfl sound rfl rfl le_rfl rfl
  cases status with
  | retry => exact same
  | error =>
      have noted : Keeps plan (c, thread)
          (c, { thread with writeErrors := thread.writeErrors + 1 }) :=
        .rfl sound rfl rfl le_rfl rfl
      exact noted.trans (keeps_reconnectSocket noted.sound opened)
  | ok =>
      obtain ⟨phase, supplied⟩ := sound
      cases phase with
      | closed => contradiction
      | connecting => simp at ready
      | waiting => contradiction
      | @idle request pending start =>
          obtain ⟨rfl, rfl⟩ := fresh rfl
          simp only [Nat.zero_add] at room
          simp only [writeBatch, fits.nothing, Nat.zero_add, Nat.sub_zero]
          split
          next full =>
            rw [full, fits.whole]
            refine ⟨⟨.waiting plan.nonempty le_rfl le_rfl, supplied⟩, le_rfl, ?_, fun _ => rfl, ?_,
              le_rfl⟩
            · simp [Connection.answered, Connection.underWay]
            · simp [Connection.free, Connection.underWay]
          next short =>
            rcases Nat.eq_zero_or_pos n with rfl | some
            · rw [fits.nothing]
              exact same
            · refine ⟨⟨.sending fits some (by omega) le_rfl (by omega) le_rfl, supplied⟩, le_rfl,
                ?_, fun _ => rfl, ?_, le_rfl⟩
              · simp [Connection.answered, Connection.underWay]
              · simp [Connection.free, Connection.underWay, some.ne']
      | @sending request written pending start owed _ begun short left balance past =>
          have unsent : request.complete written < plan.pipeline := fits.part short
          have more : request.complete written ≤ request.complete (written + n) :=
            completeIn_mono request.sizes (Nat.le_add_right written n)
          simp only at room
          simp only [writeBatch]
          split
          next full =>
            have rest : owed + (request.complete (written + n) - request.complete written) =
                pending := by
              rw [full, fits.whole]
              omega
            rw [rest]
            refine ⟨⟨.waiting (by omega) left past, supplied⟩, le_rfl, ?_, fun _ => rfl, ?_,
              le_rfl⟩
            · simp [Connection.answered, Connection.underWay, begun.ne']
            · simp [Connection.free, Connection.underWay, begun.ne']
          next partly =>
            refine ⟨⟨.sending fits (by omega) (by omega) left (by omega) past, supplied⟩, le_rfl,
              ?_, fun _ => rfl, ?_, le_rfl⟩
            · simp [Connection.answered, Connection.underWay, begun.ne']
            · simp [Connection.free, Connection.underWay, begun.ne']

theorem keeps_socketWriteable (sound : c.Sound plan thread.now) (ready : c.writable = some .ready)
    {scripted : Batch} (fits : scripted.Fits plan.pipeline) {n : Nat}
    (room : c.written + n ≤ (startBatch plan scripted 0 c).request.length) (status : Status)
    (opened : Bool) :
    Keeps plan (c, thread) (socketWriteable plan scripted status n opened c thread) := by
  have calm : c.delayed = false := by cases sound.phase <;> rfl
  obtain ⟨started, whole, fresh⟩ := keeps_startBatch sound ready fits
  have unmoved : (startBatch plan scripted thread.now c).written = c.written ∧
      (startBatch plan scripted thread.now c).writable = c.writable ∧
      (startBatch plan scripted thread.now c).request =
        (startBatch plan scripted 0 c).request := by
    simp only [startBatch]
    split <;> exact ⟨rfl, rfl, rfl⟩
  rw [← unmoved.2.2, ← unmoved.1] at room
  rw [socketWriteable, calm, if_neg Bool.false_ne_true]
  exact started.trans
    (keeps_writeBatch started.sound (unmoved.2.1.trans ready) whole fresh room status opened)

theorem Connection.Sound.mono {now later : Nat} (after : now ≤ later) (sound : c.Sound plan now) :
    c.Sound plan later := by
  refine ⟨?_, sound.supplied⟩
  cases sound.phase with
  | closed => exact .closed
  | connecting => exact .connecting
  | idle => exact .idle
  | sending fits begun short left balance past =>
      exact .sending fits begun short left balance (past.trans after)
  | waiting begun left past => exact .waiting begun left (past.trans after)

theorem Connection.free_mono {now later : Nat} (after : now ≤ later) (c : Connection) :
    c.free now ≤ c.free later := by
  simp only [Connection.free]
  split <;> omega

/-- Time passes. -/
theorem keeps_later (sound : c.Sound plan thread.now) {now : Nat} (later : thread.now ≤ now) :
    Keeps plan (c, thread) (c, { thread with now }) where
  sound := sound.mono later
  later := later
  surplus := le_rfl
  exact := fun _ => rfl
  free := by
    have grown := Connection.free_mono later c
    simp only
    omega
  closed := le_rfl

/-- Every event keeps what its procedure keeps. -/
theorem keeps_serves (undelayed : plan.delay = false) {c' : Connection} {thread' : Thread}
    (sound : c.Sound plan thread.now) (serves : Serves plan c thread c' thread') :
    Keeps plan (c, thread) (c', thread') := by
  obtain ⟨now, event, later, possible, processed⟩ := serves
  have ticked : Keeps plan (c, thread) (c, { thread with now }) := keeps_later sound later
  refine ticked.trans ?_
  cases event with
  | connected status opened =>
      rw [Connection.process] at processed
      split at processed
      next armed =>
        rw [← Option.some.inj processed]
        exact keeps_socketConnected ticked.sound armed status opened
      · contradiction
  | writeable scripted status n opened =>
      rw [Connection.process] at processed
      split at processed
      next armed =>
        rw [← Option.some.inj processed]
        exact keeps_socketWriteable ticked.sound armed possible.1 possible.2 status opened
      · contradiction
  | readable responses failed =>
      rw [Connection.process] at processed
      split at processed
      next armed =>
        rw [← Option.some.inj processed]
        exact keeps_socketReadable undelayed ticked.sound possible.1 possible.2 failed
      · contradiction
  | delay =>
      have idle : c.timers = 0 := by cases sound.phase <;> rfl
      rw [Connection.process, if_neg (by omega)] at processed
      contradiction

end

/-! ## Whole runs -/

section

variable {plan : Plan} {now count : Nat} {opened : List Bool} {last : Config Thread Connection}

/-- What holds at any time of any run. -/
def Served (plan : Plan) (config : Config Thread Connection) : Prop :=
  config.Each (fun _ => True) fun thread c => c.Sound plan thread.now

theorem threadMain_eq (undelayed : plan.delay = false) :
    threadMain plan now opened = ⟨⟨now, 0, opened.count false, 0, 0, 0, []⟩,
      opened.map fun opened =>
        let request := if plan.dynamic then ⟨[]⟩ else plan.request
        if opened then ⟨some .connected, some .connected, 0, false, request, 0, 0, 0, 0⟩
        else ⟨none, none, 0, false, request, 0, 0, 0, 0⟩⟩ := by
  induction opened using List.reverseRecOn with
  | nil => rfl
  | append_singleton opened flag induction =>
      rw [threadMain] at induction
      rw [threadMain, List.foldl_append, induction]
      cases flag <;> simp [connectSocket, undelayed]

section

variable (undelayed : plan.delay = false)

include undelayed

theorem served_threadMain : Served plan (threadMain plan now opened) := by
  rw [threadMain_eq undelayed]
  refine ⟨trivial, fun c member => ?_⟩
  obtain ⟨flag, -, rfl⟩ := List.mem_map.mp member
  have supplied : plan.dynamic = false →
      (if plan.dynamic then Batch.mk [] else plan.request).Fits plan.pipeline := by
    intro static
    rw [static]
    exact plan.valid
  cases flag with
  | true => exact ⟨.connecting, supplied⟩
  | false => exact ⟨.closed, supplied⟩

theorem length_threadMain : (threadMain plan now opened).locals.length = opened.length := by
  rw [threadMain_eq undelayed, List.length_map]

theorem underWay_threadMain :
    ∀ c ∈ (threadMain plan now opened).locals, c.underWay = false := by
  rw [threadMain_eq undelayed]
  intro c member
  obtain ⟨flag, -, rfl⟩ := List.mem_map.mp member
  cases flag <;> rfl

theorem closed_threadMain :
    (threadMain plan now opened).locals.countP (fun c => c.readable = none) =
      (threadMain plan now opened).shared.connectErrors := by
  rw [threadMain_eq undelayed, List.countP_map]
  exact List.countP_congr fun flag _ => by cases flag <;> simp

end

theorem served_step (undelayed : plan.delay = false) {before after : Config Thread Connection}
    (step : Step (Serves plan) before after) (served : Served plan before) : Served plan after :=
  step.each (fun serves _ sound => ⟨trivial, (keeps_serves undelayed sound serves).sound⟩)
    (fun serves _ sound _ other => other.mono (keeps_serves undelayed sound serves).later) served

theorem sum_neg_closed (locals : List Connection) :
    (locals.map fun c => -c.closed).sum =
      -(locals.countP (fun c => c.readable = none) : Int) := by
  induction locals with
  | nil => rfl
  | cons c locals induction =>
      rw [List.map_cons, List.sum_cons, induction, List.countP_cons, Connection.closed]
      by_cases none : c.readable = none
      · simp [none, add_comm]
      · simp [none]

/-- With one request in a batch every response belongs to a recorded batch. -/
theorem surplus_step (undelayed : plan.delay = false) (single : plan.pipeline = 1)
    {before after : Config Thread Connection} (step : Step (Serves plan) before after)
    (served : Served plan before) : after.shared.surplus plan = before.shared.surplus plan := by
  obtain ⟨front, back, access⟩ := step
  have sound := served.2 _ (List.mem_append_right front List.mem_cons_self)
  exact (keeps_serves undelayed sound access).exact single

/-- A connection without a descriptor is counted as a connect error, and every other one waits to
be set up, may write, or listens for an answer that the server owes it. -/
theorem alive_of_steps (undelayed : plan.delay = false)
    (steps : Steps (Serves plan) count (threadMain plan now opened) last) :
    last.locals.countP (fun c => c.readable = none) ≤ last.shared.connectErrors ∧
      ∀ c ∈ last.locals, c.readable = none ∨ c.writable ≠ none ∨
        c.readable = some .ready ∧ c.pending = c.owed ∧ 0 < c.owed := by
  have served : Served plan (threadMain plan now opened) := served_threadMain undelayed
  constructor
  · have grown := steps.balance_le (fun thread => (thread.connectErrors : Int))
      (fun _ c => -c.closed) (served_step undelayed) (fun serves _ sound =>
        ⟨(keeps_serves undelayed sound serves).closed, fun _ => le_rfl⟩) served
    simp only [Config.balance, sum_neg_closed, closed_threadMain undelayed] at grown
    omega
  · intro c member
    cases ((steps.invariant (served_step undelayed) served).2 c member).phase with
    | closed => exact Or.inl rfl
    | connecting => exact Or.inr (Or.inl (by simp))
    | idle => exact Or.inr (Or.inl (by simp))
    | sending => exact Or.inr (Or.inl (by simp))
    | waiting begun => exact Or.inr (Or.inr ⟨rfl, rfl, begun⟩)

/-- Every recorded latency stands for a whole batch of counted responses; with one request in a
batch they are as many as the responses, whatever connections have been lost. -/
theorem complete_of_steps (undelayed : plan.delay = false)
    (steps : Steps (Serves plan) count (threadMain plan now opened) last) :
    plan.pipeline * last.shared.latencies.length ≤ last.shared.complete ∧
      (plan.pipeline = 1 → last.shared.complete = last.shared.latencies.length) := by
  have served : Served plan (threadMain plan now opened) := served_threadMain undelayed
  have before : (threadMain plan now opened).shared.surplus plan = 0 := by
    simp [threadMain_eq undelayed, Thread.surplus]
  constructor
  · have grown := steps.balance_le (Thread.surplus plan) (fun _ c => -c.answered plan)
      (served_step undelayed) (fun serves _ sound =>
        ⟨(keeps_serves undelayed sound serves).surplus, fun _ => le_rfl⟩) served
    have none : ((threadMain plan now opened).locals.map fun c => -c.answered plan).sum = 0 := by
      refine List.sum_eq_zero fun v member => ?_
      obtain ⟨c, listed, rfl⟩ := List.mem_map.mp member
      simp [Connection.answered, underWay_threadMain undelayed c listed]
    have answered : (last.locals.map fun c => -c.answered plan).sum ≤ last.locals.length • 0 := by
      rw [← List.length_map (fun c => -c.answered plan)]
      refine List.sum_le_card_nsmul _ _ fun v member => ?_
      obtain ⟨c, listed, rfl⟩ := List.mem_map.mp member
      have bounds := ((steps.invariant (served_step undelayed) served).2 c listed).bounds
      omega
    rw [Config.balance, before, none, Config.balance, Thread.surplus] at grown
    rw [nsmul_zero] at answered
    have whole : ((plan.pipeline * last.shared.latencies.length : Nat) : Int) =
        plan.pipeline * last.shared.latencies.length := Nat.cast_mul _ _
    omega
  · intro single
    have kept := steps.conserved (served_step undelayed) (fun step served =>
      surplus_step undelayed single step served) served
    rw [before, Thread.surplus, single] at kept
    omega

/-- The recorded latencies of one connection do not overlap: together they are at most the time of
the run for each connection.  So the shortest latency is at most the interval between the requests
of a connection. -/
theorem latencies_of_steps (undelayed : plan.delay = false)
    (steps : Steps (Serves plan) count (threadMain plan now opened) last) :
    last.shared.latencies.sum ≤ opened.length * (last.shared.now - now) ∧
      (plan.pipeline = 1 → ∀ m, (∀ v ∈ last.shared.latencies, m ≤ v) →
        0 < last.shared.complete / opened.length →
          m ≤ (last.shared.now - now) / (last.shared.complete / opened.length)) := by
  have served : Served plan (threadMain plan now opened) := served_threadMain undelayed
  have within : last.shared.latencies.sum ≤ opened.length * (last.shared.now - now) := by
    have grown := steps.balance_le (fun thread => -(thread.latencies.sum : Int))
      (fun thread c => c.free thread.now) (served_step undelayed) (fun serves _ sound => by
        have kept := keeps_serves undelayed sound serves
        have own := kept.free
        refine ⟨?_, Connection.free_mono kept.later⟩
        simp only at own ⊢
        omega) served
    have first : ((threadMain plan now opened).locals.map fun c =>
        c.free (threadMain plan now opened).shared.now).sum = (opened.length * now : Nat) := by
      have each : ∀ c ∈ (threadMain plan now opened).locals,
          c.free (threadMain plan now opened).shared.now = (now : Int) := by
        intro c listed
        simp [Connection.free, underWay_threadMain undelayed c listed, threadMain_eq undelayed]
      rw [List.map_congr_left each, List.map_const', List.sum_replicate,
        length_threadMain undelayed]
      simp
    have final : (last.locals.map fun c => c.free last.shared.now).sum ≤
        last.locals.length • (last.shared.now : Int) := by
      rw [← List.length_map (fun c : Connection => c.free last.shared.now)]
      refine List.sum_le_card_nsmul _ _ fun v member => ?_
      obtain ⟨c, listed, rfl⟩ := List.mem_map.mp member
      exact ((steps.invariant (served_step undelayed) served).2 c listed).bounds.2.2
    have number : last.locals.length = opened.length :=
      (steps.conserved (served_step undelayed) (fun step _ => step.length_eq) served).trans
        (length_threadMain undelayed)
    have none : (threadMain plan now opened).shared.latencies = [] := by
      rw [threadMain_eq undelayed]
    simp only [Config.balance, first, none, number, List.sum_nil, nsmul_eq_mul] at grown final
    rw [Nat.mul_sub]
    have whole : ((opened.length * last.shared.now : Nat) : Int) =
        opened.length * last.shared.now := Nat.cast_mul _ _
    omega
  refine ⟨within, fun single m shortest busy => ?_⟩
  have all := (complete_of_steps undelayed steps).2 single
  have least : last.shared.latencies.length * m ≤ last.shared.latencies.sum :=
    List.card_nsmul_le_sum _ _ shortest
  have rounds := Nat.div_mul_le_self last.shared.complete opened.length
  have positive : 0 < opened.length := by
    rcases Nat.eq_zero_or_pos opened.length with zero | positive
    · simp [zero] at busy
    · exact positive
  refine (Nat.le_div_iff_mul_le busy).mpr (Nat.le_of_mul_le_mul_left ?_ positive)
  calc
    opened.length * (m * (last.shared.complete / opened.length)) =
        last.shared.complete / opened.length * opened.length * m := by ring
    _ ≤ last.shared.latencies.length * m := by
      rw [← all]
      exact Nat.mul_le_mul_right m rounds
    _ ≤ opened.length * (last.shared.now - now) := least.trans within

end

/-! ## A run -/

/-- A script whose batches have one request. -/
def singleRequest : Plan where
  pipeline := 1
  delay := false
  dynamic := true
  request := ⟨[3]⟩
  nonempty := Nat.one_pos
  valid := ⟨rfl, by simp⟩

/-- A connection is set up, sends a request of the script in two pieces and gets the answer. -/
def answeredOnce : Config Thread Connection where
  shared := ⟨7, 1, 0, 0, 0, 0, [5]⟩
  locals := [⟨some .ready, some .ready, 0, false, ⟨[3]⟩, 0, 0, 2, 0⟩]

theorem steps_answeredOnce :
    Steps (Serves singleRequest) 4 (threadMain singleRequest 0 [true]) answeredOnce := by
  have fits : (Batch.mk [3]).Fits singleRequest.pipeline := singleRequest.valid
  have connected : Serves singleRequest
      ⟨some .connected, some .connected, 0, false, ⟨[]⟩, 0, 0, 0, 0⟩ ⟨0, 0, 0, 0, 0, 0, []⟩
      ⟨some .ready, some .ready, 0, false, ⟨[]⟩, 0, 0, 0, 0⟩ ⟨1, 0, 0, 0, 0, 0, []⟩ :=
    ⟨1, .connected .ok true, by decide, trivial, rfl⟩
  have first : Serves singleRequest
      ⟨some .ready, some .ready, 0, false, ⟨[]⟩, 0, 0, 0, 0⟩ ⟨1, 0, 0, 0, 0, 0, []⟩
      ⟨some .ready, some .ready, 0, false, ⟨[3]⟩, 2, 1, 2, 0⟩ ⟨2, 0, 0, 0, 0, 0, []⟩ :=
    ⟨2, .writeable ⟨[3]⟩ .ok 2 true, by decide, ⟨fits, show 0 + 2 ≤ 3 by decide⟩, rfl⟩
  have second : Serves singleRequest
      ⟨some .ready, some .ready, 0, false, ⟨[3]⟩, 2, 1, 2, 0⟩ ⟨2, 0, 0, 0, 0, 0, []⟩
      ⟨some .ready, none, 0, false, ⟨[3]⟩, 0, 1, 2, 1⟩ ⟨3, 0, 0, 0, 0, 0, []⟩ :=
    ⟨3, .writeable ⟨[3]⟩ .ok 1 true, by decide, ⟨fits, show 2 + 1 ≤ 3 by decide⟩, rfl⟩
  have answer : Serves singleRequest
      ⟨some .ready, none, 0, false, ⟨[3]⟩, 0, 1, 2, 1⟩ ⟨3, 0, 0, 0, 0, 0, []⟩
      ⟨some .ready, some .ready, 0, false, ⟨[3]⟩, 0, 0, 2, 0⟩ ⟨7, 1, 0, 0, 0, 0, [5]⟩ :=
    ⟨7, .readable [⟨200, true, true⟩] none, by decide, ⟨by decide, by simp⟩, rfl⟩
  exact .step (.step (.step (.step (.none _) (.thread [] [] connected)) (.thread [] [] first))
    (.thread [] [] second)) (.thread [] [] answer)

theorem alive_of_steps_answeredOnce :
    answeredOnce.locals.countP (fun c => c.readable = none) ≤ answeredOnce.shared.connectErrors ∧
      ∀ c ∈ answeredOnce.locals, c.readable = none ∨ c.writable ≠ none ∨
        c.readable = some .ready ∧ c.pending = c.owed ∧ 0 < c.owed :=
  alive_of_steps rfl steps_answeredOnce

theorem complete_of_steps_answeredOnce :
    singleRequest.pipeline * answeredOnce.shared.latencies.length ≤ answeredOnce.shared.complete ∧
      (singleRequest.pipeline = 1 →
        answeredOnce.shared.complete = answeredOnce.shared.latencies.length) :=
  complete_of_steps rfl steps_answeredOnce

theorem latencies_of_steps_answeredOnce :
    answeredOnce.shared.latencies.sum ≤ [true].length * (answeredOnce.shared.now - 0) ∧
      (singleRequest.pipeline = 1 → ∀ m, (∀ v ∈ answeredOnce.shared.latencies, m ≤ v) →
        0 < answeredOnce.shared.complete / [true].length →
          m ≤ (answeredOnce.shared.now - 0) / (answeredOnce.shared.complete / [true].length)) :=
  latencies_of_steps rfl steps_answeredOnce

end LoadGenerator
