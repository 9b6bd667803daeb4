import Rejected.Consumer.Republish

/-!
# `Consumer.execute`

The per-message lifecycle, stage by stage as the source runs it: reset and assign the
per-message state and record the message age; resolve the correlation id on the
message's connection; the message-type filter; the poison-message check on
`X-Processing-Exceptions`; `prepare`, then `process` unless the message was finished;
the `except` clauses; the `finally` clause's `finish()`; and, on normal completion,
dropping the confirmation futures of every connection before `MESSAGE_ACK`.

A stage that ends the call early returns `some` of its result. `raise gen.Return(x)`
is a result `.ok x`; any other exception leaving `execute` is `.error`. The clock,
`uuid4` and the UTC timestamp of a drop are inputs of the call.
-/
namespace Rejected

/-- The user code one `execute` call runs. -/
structure Hooks where
  prepare : Hook := {}
  process : Hook := {}
  onFinish : OnFinish := {}
  deriving DecidableEq

/-- The values `execute` reads from the system: `time.time()`, `uuid.uuid4()` and
`datetime.utcnow().isoformat()`. -/
structure Clock where
  now : ℚ := 0
  uuid : String := ""
  utcnow : String := ""

/-- The `except` clauses of `execute`, in order. -/
inductive Handler where
  | rabbitMQ
  | configuration
  | consumer
  | message
  | processing
  | notImplemented
  | exception
  deriving DecidableEq, Repr

/-- The first clause that catches the class; `none` for a class not deriving from
`Exception`, which no clause catches. -/
def ExcClass.handler? (c : ExcClass) : Option Handler :=
  if c.rabbitMQ then some .rabbitMQ
  else if c.configuration then some .configuration
  else if c.consumer then some .consumer
  else if c.message then some .message
  else if c.processing then some .processing
  else if c.notImplemented then some .notImplemented
  else if c.exception then some .exception
  else none

/-- Some clause catches every exception deriving from `Exception`, and none catches the
others: the handler classes all derive from `Exception`. -/
theorem ExcClass.handler?_eq_none_iff (c : ExcClass) : c.handler? = none ↔ c.exception = false := by
  have h := c.handled
  unfold handler?
  split_ifs <;> simp_all

/-- The outcome each clause returns. -/
def Handler.outcome : Handler → Outcome
  | .rabbitMQ => .rabbitmqException
  | .configuration => .configurationException
  | .consumer => .consumerException
  | .message => .messageException
  | .processing => .processingException
  | .notImplemented => .unhandledException
  | .exception => .unhandledException

/-- `error.metric or error.__class__.__name__`, the tag a failed message is republished
with. -/
def errorTag (e : PyExc) : String := (orElse e.metric (some e.cls.name)).getD ""

/-- `prepare` or `process` calls `finish()`. -/
def Hook.finishes (h : Hook) : Bool := h.actions.contains .finish

/-- `process` runs: `prepare` returned without finishing the message. -/
def Hooks.runsProcess (h : Hooks) : Bool := h.prepare.ending == .returns && !h.prepare.finishes

/-- How the `try` body ends: as `process` when it runs, otherwise as `prepare`. -/
def Hooks.ending (h : Hooks) : Ending := if h.runsProcess then h.process.ending else h.prepare.ending

/-- What the `publish_message` calls of `prepare`, and of `process` when it runs, put on
the wire while `m` is executed, on connections `links`. -/
def Hooks.sent (h : Hooks) (links : String → Option Connection) (m : Message) : List Publish :=
  h.prepare.actions.filterMap (Action.sent links m) ++
    if h.runsProcess then h.process.actions.filterMap (Action.sent links m) else []

/-- The filter turns the message away: a type is configured (`if self._message_type:`)
and the message's type is not supported. -/
def Settings.rejectsType (cfg : Settings) (m : Message) : Bool :=
  match cfg.messageType with
  | some f => f.truthy && !f.supports m.properties.type
  | none => false

/-- The limit and the counter the poison-message check compares: the limit is set and
non-zero, and the header is present. -/
def Settings.retryCheck? (cfg : Settings) (m : Message) : Option (Int × FieldValue) :=
  match cfg.errorMaxRetry, m.headers.get? processingExceptionsKey with
  | some n, some v => if n = 0 then none else some (n, v)
  | _, _ => none

/-- The copy of a failed message `_republish_processing_error` publishes. -/
def failureCopy (cfg : Settings) (m : Message) (e : PyExc) : Publish :=
  ⟨m.connection, cfg.errorExchange, some m.routingKey, .bytes m.body,
    withHeaders m.properties (errorHeaders (errorTag e))⟩

/-- The `except` clauses of `execute` as the source lists them (consumer.py:942-999),
each with the class it catches and the outcome it returns. An exception goes to the
first clause whose class it derives from. -/
def exceptClauses : List ((ExcClass → Bool) × Outcome) :=
  [(ExcClass.rabbitMQ, .rabbitmqException), (ExcClass.configuration, .configurationException),
   (ExcClass.consumer, .consumerException), (ExcClass.message, .messageException),
   (ExcClass.processing, .processingException), (ExcClass.notImplemented, .unhandledException),
   (ExcClass.exception, .unhandledException)]

/-- The outcome of the first clause that catches `c`. -/
def clauseOutcome? (c : ExcClass) : Option Outcome := (exceptClauses.find? (·.1 c)).map (·.2)

/-- The handler the model dispatches to returns the outcome of the first clause of the
table that catches the class. -/
theorem ExcClass.clauseOutcome?_eq (c : ExcClass) : clauseOutcome? c = c.handler?.map Handler.outcome := by
  simp only [clauseOutcome?, exceptClauses, handler?, List.find?_cons, List.find?_nil]
  cases c.rabbitMQ <;> cases c.configuration <;> cases c.consumer <;> cases c.message <;>
    cases c.processing <;> cases c.notImplemented <;> cases c.exception <;> rfl

theorem Handler.outcome_eq_processingException {h : Handler} :
    h.outcome = .processingException ↔ h = .processing := by
  cases h <;> simp [Handler.outcome]

/-- The last clause, `except Exception`, catches every exception deriving from
`Exception`, and no clause catches the others. -/
theorem clauseOutcome?_eq_none_iff (c : ExcClass) : clauseOutcome? c = none ↔ c.exception = false := by
  rw [c.clauseOutcome?_eq, Option.map_eq_none', ExcClass.handler?_eq_none_iff]

/-- What the `except` clauses publish for hooks that ended with `r`: the copy for the
error exchange when the clause that catches is `ProcessingException`'s. -/
def Ending.errorCopies (cfg : Settings) (m : Message) : Ending → List Publish
  | .raises e => if clauseOutcome? e.cls = some .processingException then [failureCopy cfg m e] else []
  | .returns => []

/-- The result of hooks that ended with `r`: `MESSAGE_ACK` when nothing was raised, the
outcome of the first clause that catches otherwise, and an exception no clause catches
passes through. -/
def Ending.result : Ending → Except PyExc Outcome
  | .returns => .ok .messageAck
  | .raises e => match clauseOutcome? e.cls with
    | some o => .ok o
    | none => .error e

namespace State

/-- `_measurement.set_tag(key, value)` on the measurement `i`. -/
def setTag (s : State) (i : Nat) (key value : String) : State := s.record i (.setTag key (.text value))

/-- The common part of the four `RejectedException` clauses: tag the class, and the
metric when it is set. -/
def tagError (s : State) (i : Nat) (e : PyExc) : State :=
  let s := s.setTag i "exception" e.cls.name
  if truthy e.metric then s.setTag i "error" (e.metric.getD "") else s

/-- What the clause catching `e` does before its `raise gen.Return`. -/
def handle (s : State) (cfg : Settings) (m : Message) (i : Nat) (e : PyExc) (h : Handler) :
    State :=
  match h with
  | .rabbitMQ => s.setTag i "exception" e.cls.name
  | .configuration | .consumer | .message => s.tagError i e
  | .processing =>
      (s.tagError i e).republishProcessingError cfg m (errorTag e)
  | .notImplemented => s.setTag i "exception" "NotImplementedError"
  | .exception => s.setTag i "exception" "UnhandledException"

/-- `if timestamp: ... if message_age > 0: measurement.add_duration(...)`. -/
def recordAge (s : State) (cfg : Settings) (m : Message) (i : Nat) (now : ℚ) : State :=
  match m.properties.timestamp with
  | some ts =>
      if ts ≠ 0 ∧ 0 < max (ts : ℚ) now - ts then
        s.record i (.addDuration cfg.messageAgeKey (max (ts : ℚ) now - ts))
      else s
  | none => s

/-- The correlation id: the message's, else its message id, else a fresh `uuid4`. -/
def correlationIdOf (m : Message) (clock : Clock) : Option String :=
  orElse (orElse m.properties.correlationId m.properties.messageId) (some clock.uuid)

/-- `_clear`, assign the message and the measurement, record the age, keep the id. -/
def assign (s : State) (cfg : Settings) (m : Message) (i : Nat) (clock : Clock) : State :=
  { { s.clear with message := some m, measurement := some i }.recordAge cfg m i clock.now with
    correlationId := correlationIdOf m clock }

/-- Steps 1 to 3: `assign`, then set the correlation id on the message's connection
(a `KeyError` when the connection was never set). -/
def begin (s : State) (cfg : Settings) (m : Message) (i : Nat) (clock : Clock) :
    State × Except PyExc Unit :=
  let t := s.assign cfg m i clock
  match t.connection? m.connection with
  | none => (t, .error keyError)
  | some c =>
      ({ t with connections :=
          putConnection t.connections ({ c with correlationId := correlationIdOf m clock }) },
        .ok ())

/-- The message-type filter. -/
def checkType (s : State) (cfg : Settings) (m : Message) (clock : Clock) :
    Option (State × Except PyExc Outcome) :=
  if cfg.rejectsType m then
    if cfg.dropInvalid then
      some (if truthy cfg.dropExchange then
          s.republishDroppedMessage cfg m "invalid type" clock.utcnow else s, .ok .messageDrop)
    else some (s, .ok .messageException)
  else none

/-- The poison-message check: `headers[K] >= _error_max_retry`, which raises
`TypeError` for a value that is not a number. -/
def checkRetries (s : State) (cfg : Settings) (m : Message) (clock : Clock) :
    Option (State × Except PyExc Outcome) :=
  match cfg.retryCheck? m with
  | none => none
  | some (n, v) =>
      match v.number? with
      | none => some (s, .error typeError)
      | some (c, text) =>
          if n ≤ c then
            some (if truthy cfg.dropExchange then
                s.republishDroppedMessage cfg m s!"max retries ({text})" clock.utcnow else s,
              .ok .messageDrop)
          else none

/-- The `try` body: `prepare`, then `process` unless it finished the message. -/
def tryHooks (s : State) (hooks : Hooks) : State × Ending :=
  let (s, r) := s.runHook hooks.onFinish .prepare hooks.prepare
  match r with
  | .raises e => (s, .raises e)
  | .returns => if s.finished then (s, .returns) else s.runHook hooks.onFinish .process hooks.process

/-- `for name in self._connections.keys(): ...clear_confirmation_futures()`. -/
def clearConfirmationFutures (s : State) : State :=
  { s with connections := s.connections.map fun c => { c with confirmations := [] } }

/-- The `except` clauses: the clause catching the exception, if any, runs and leaves
its result pending; an exception no clause catches stays pending. -/
def catchEnding (s : State) (cfg : Settings) (m : Message) (i : Nat) :
    Ending → State × Except PyExc (Option Outcome)
  | .returns => (s, .ok none)
  | .raises e => match e.cls.handler? with
    | some h => (s.handle cfg m i e h, .ok (some h.outcome))
    | none => (s, .error e)

/-- The `finally` clause, then the code after it: an exception `finish()` raises
replaces the pending result; after a normal completion the futures are dropped and
the result is `MESSAGE_ACK`. The source's `if not self._finished` before `finish()`
only spares the warning `finish` logs when the message is already finished. -/
def finishUp (s : State) (hooks : Hooks) (pending : Except PyExc (Option Outcome)) :
    State × Except PyExc Outcome :=
  match s.finish hooks.onFinish, pending with
  | (t, .error e), _ => (t, .error e)
  | (t, .ok ()), .error e => (t, .error e)
  | (t, .ok ()), .ok (some o) => (t, .ok o)
  | (t, .ok ()), .ok none => (t.clearConfirmationFutures, .ok .messageAck)

/-- Steps 6 to 10: the `try` body, the `except` clauses and the `finally` clause. -/
def processHooks (s : State) (cfg : Settings) (m : Message) (i : Nat) (hooks : Hooks) :
    State × Except PyExc Outcome :=
  let t := s.tryHooks hooks
  let u := t.1.catchEnding cfg m i t.2
  u.1.finishUp hooks u.2

/-- Everything after the correlation id is set. -/
def afterBegin (s : State) (cfg : Settings) (m : Message) (i : Nat) (clock : Clock)
    (hooks : Hooks) : State × Except PyExc Outcome :=
  match s.checkType cfg m clock with
  | some r => r
  | none =>
      match s.checkRetries cfg m clock with
      | some r => r
      | none => s.processHooks cfg m i hooks

/-- `execute(message_in, measurement)`, the measurement named by `i`. -/
def execute (s : State) (cfg : Settings) (m : Message) (i : Nat) (clock : Clock)
    (hooks : Hooks) : State × Except PyExc Outcome :=
  let t := s.begin cfg m i clock
  match t.2 with
  | .error e => (t.1, .error e)
  | .ok () => t.1.afterBegin cfg m i clock hooks

theorem recordAge_inv {α : Type} (f : State → α) (hf : ∀ s i u, f (s.record i u) = f s)
    (s : State) (cfg m i now) : f (s.recordAge cfg m i now) = f s := by
  unfold recordAge; split
  · split
    · exact hf _ _ _
    · rfl
  · rfl

@[simp] theorem assign_finished (s : State) (cfg m i clock) :
    (s.assign cfg m i clock).finished = false :=
  recordAge_inv State.finished (fun _ _ _ => rfl) _ _ _ _ _
@[simp] theorem assign_message (s : State) (cfg m i clock) :
    (s.assign cfg m i clock).message = some m :=
  recordAge_inv State.message (fun _ _ _ => rfl) _ _ _ _ _
@[simp] theorem assign_measurement (s : State) (cfg m i clock) :
    (s.assign cfg m i clock).measurement = some i :=
  recordAge_inv State.measurement (fun _ _ _ => rfl) _ _ _ _ _
@[simp] theorem assign_published (s : State) (cfg m i clock) :
    (s.assign cfg m i clock).published = s.published :=
  recordAge_inv State.published (fun _ _ _ => rfl) _ _ _ _ _
@[simp] theorem assign_calls (s : State) (cfg m i clock) :
    (s.assign cfg m i clock).calls = s.calls :=
  recordAge_inv State.calls (fun _ _ _ => rfl) _ _ _ _ _
@[simp] theorem assign_connections (s : State) (cfg m i clock) :
    (s.assign cfg m i clock).connections = s.connections :=
  recordAge_inv State.connections (fun _ _ _ => rfl) _ _ _ _ _

theorem begin_inv {α : Type} (f : State → α)
    (hf : ∀ (t : State) cs, f { t with connections := cs } = f t) (s : State) (cfg m i clock) :
    f (s.begin cfg m i clock).1 = f (s.assign cfg m i clock) := by
  unfold begin; dsimp only; split
  · rfl
  · exact hf _ _

@[simp] theorem begin_finished (s : State) (cfg m i clock) :
    (s.begin cfg m i clock).1.finished = false := by
  rw [begin_inv State.finished (fun _ _ => rfl), assign_finished]
@[simp] theorem begin_message (s : State) (cfg m i clock) :
    (s.begin cfg m i clock).1.message = some m := by
  rw [begin_inv State.message (fun _ _ => rfl), assign_message]
@[simp] theorem begin_measurement (s : State) (cfg m i clock) :
    (s.begin cfg m i clock).1.measurement = some i := by
  rw [begin_inv State.measurement (fun _ _ => rfl), assign_measurement]
@[simp] theorem begin_published (s : State) (cfg m i clock) :
    (s.begin cfg m i clock).1.published = s.published := by
  rw [begin_inv State.published (fun _ _ => rfl), assign_published]
@[simp] theorem begin_calls (s : State) (cfg m i clock) :
    (s.begin cfg m i clock).1.calls = s.calls := by
  rw [begin_inv State.calls (fun _ _ => rfl), assign_calls]

theorem begin_names (s : State) (cfg m i clock) : (s.begin cfg m i clock).1.names = s.names := by
  unfold begin; dsimp only; split
  · simp [names]
  · rename_i c hc
    have hn : c.name = m.connection := by simpa [connection?] using List.find?_some hc
    have hm : m.connection ∈ (s.assign cfg m i clock).names :=
      (connection?_isSome_iff _ _).mp (by simp [hc])
    simp only [names] at hm ⊢
    rw [names_putConnection (by simpa [hn] using hm), assign_connections]

theorem begin_snd (s : State) (cfg m i clock) :
    (s.begin cfg m i clock).2 = if m.connection ∈ s.names then .ok () else .error keyError := by
  have h := connection?_isSome_iff (s.assign cfg m i clock) m.connection
  rw [show (s.assign cfg m i clock).names = s.names by simp [names]] at h
  unfold begin; dsimp only
  split <;> rename_i hc <;> simp only [hc, Option.isSome_none, Option.isSome_some] at h
  · rw [if_neg fun hm => by simpa using h.mpr hm]
  · rw [if_pos (h.mp trivial)]


/-- `execute`'s first steps set the correlation id on the message's connection and
change nothing else of any connection. -/
theorem map_connection?_begin {α : Type} (f : Connection → α)
    (hf : ∀ c x, f { c with correlationId := x } = f c) (s : State) (cfg m i clock)
    (n : String) : ((s.begin cfg m i clock).1.connection? n).map f = (s.connection? n).map f := by
  unfold begin; dsimp only
  split
  · simp [connection?]
  · rename_i c hc
    have hd : (s.assign cfg m i clock).connection? c.name = some c := by
      rw [connection?_name hc]; exact hc
    exact (@map_connection?_putConnection _ f _ _ { c with correlationId := correlationIdOf m clock }
      c rfl hd (hf c _) n).trans (by simp [connection?])

theorem links_begin (s : State) (cfg m i clock) : (s.begin cfg m i clock).1.links = s.links :=
  funext (map_connection?_begin Connection.link (fun _ _ => rfl) s cfg m i clock)

/-- `prepare` once, `process` when it runs, and `on_finish` at the first `finish()`. -/
theorem tryHooks_calls {s : State} (hs : s.finished = false) (hooks : Hooks) :
    (s.tryHooks hooks).1.calls = s.calls ++ [.prepare] ++
      (if hooks.prepare.finishes then [.onFinish] else []) ++
      (if hooks.runsProcess then .process :: (if hooks.process.finishes then [.onFinish] else [])
        else []) := by
  unfold tryHooks Hooks.runsProcess Hook.finishes
  by_cases hf : Action.finish ∈ hooks.prepare.actions <;> cases hp : hooks.prepare.ending <;>
    simp [hs, hp, hf]

theorem tryHooks_finished {s : State} (hs : s.finished = false) (hooks : Hooks) :
    (s.tryHooks hooks).1.finished =
      (hooks.prepare.finishes || hooks.runsProcess && hooks.process.finishes) := by
  unfold tryHooks Hooks.runsProcess Hook.finishes
  by_cases hf : Action.finish ∈ hooks.prepare.actions <;> cases hp : hooks.prepare.ending <;>
    simp [hs, hp, hf]

theorem tryHooks_snd {s : State} (hs : s.finished = false) (hooks : Hooks) :
    (s.tryHooks hooks).2 = hooks.ending := by
  unfold tryHooks Hooks.ending Hooks.runsProcess Hook.finishes
  by_cases hf : Action.finish ∈ hooks.prepare.actions <;> cases hp : hooks.prepare.ending <;>
    simp [hs, hp, hf]

theorem tryHooks_inv {α : Type} (f : State → α) (hr : ∀ s h c hook, f (s.runHook h c hook).1 = f s)
    (s : State) (hooks : Hooks) : f (s.tryHooks hooks).1 = f s := by
  unfold tryHooks; dsimp only
  split <;> rename_i hr' <;> (try split) <;> simp [hr]

@[simp] theorem tryHooks_message (s : State) (hooks) :
    (s.tryHooks hooks).1.message = s.message :=
  tryHooks_inv _ runHook_message s hooks
@[simp] theorem tryHooks_measurement (s : State) (hooks) :
    (s.tryHooks hooks).1.measurement = s.measurement :=
  tryHooks_inv _ runHook_measurement s hooks
theorem tryHooks_links (s : State) (hooks) : (s.tryHooks hooks).1.links = s.links :=
  tryHooks_inv _ runHook_links s hooks
theorem tryHooks_names (s : State) (hooks) : (s.tryHooks hooks).1.names = s.names :=
  tryHooks_inv _ runHook_names s hooks

section Execution

variable {m : Message} {i : Nat}

/-- The `try` body publishes what `prepare`'s publishes, then `process`'s when it runs,
put on the wire. -/
theorem tryHooks_published {s : State} (hs : s.finished = false) (hm : s.message = some m)
    (hi : s.measurement = some i) (hooks : Hooks) :
    (s.tryHooks hooks).1.published = s.published ++ hooks.sent s.links m := by
  have ht := runHook_published hm hi hooks.onFinish .prepare hooks.prepare
  have hu := @runHook_published m i (s.runHook hooks.onFinish .prepare hooks.prepare).1
    (by simp [hm]) (by simp [hi]) hooks.onFinish .process hooks.process
  rw [runHook_links] at hu
  unfold tryHooks Hooks.sent Hooks.runsProcess Hook.finishes
  by_cases hf : Action.finish ∈ hooks.prepare.actions <;> cases hp : hooks.prepare.ending <;>
    simp [hs, hp, hf, ht, hu]

theorem tryHooks_futures {s : State} (hs : s.finished = false) (hm : s.message = some m)
    (hi : s.measurement = some i) (hooks : Hooks) :
    (s.tryHooks hooks).1.futures = fun n =>
      (s.futures n).map (· ++ confirmationsOn s.links (hooks.sent s.links m) n) := by
  have ht := runHook_futures hm hi hooks.onFinish .prepare hooks.prepare
  have hu := @runHook_futures m i (s.runHook hooks.onFinish .prepare hooks.prepare).1
    (by simp [hm]) (by simp [hi]) hooks.onFinish .process hooks.process
  rw [runHook_links, ht] at hu
  unfold tryHooks Hooks.sent Hooks.runsProcess Hook.finishes
  by_cases hf : Action.finish ∈ hooks.prepare.actions <;> cases hp : hooks.prepare.ending <;>
    simp [hs, hp, hf, ht, hu, Option.map_map, Function.comp_def]

end Execution

theorem handle_published (s : State) (cfg m i e) (h : Handler) :
    (s.handle cfg m i e h).published =
      s.published ++ (if h = .processing then [failureCopy cfg m e] else []) := by
  cases h <;> simp [handle, tagError, setTag, republishProcessingError, failureCopy] <;> split <;> rfl

theorem handle_inv {α : Type} (f : State → α) (hf : ∀ s i u, f (s.record i u) = f s)
    (hp : ∀ s p, f (s.send p) = f s) (s : State) (cfg m i e) (h : Handler) :
    f (s.handle cfg m i e h) = f s := by
  have ht : ∀ t : State, f (t.tagError i e) = f t := fun t => by
    unfold tagError setTag; split <;> simp [hf]
  cases h <;> simp [handle, setTag, republishProcessingError, republish, hf, hp, ht]

@[simp] theorem handle_calls (s : State) (cfg m i e h) : (s.handle cfg m i e h).calls = s.calls :=
  handle_inv State.calls (fun _ _ _ => rfl) (fun _ _ => rfl) s cfg m i e h
@[simp] theorem handle_finished (s : State) (cfg m i e h) :
    (s.handle cfg m i e h).finished = s.finished :=
  handle_inv State.finished (fun _ _ _ => rfl) (fun _ _ => rfl) s cfg m i e h
@[simp] theorem handle_measurement (s : State) (cfg m i e h) :
    (s.handle cfg m i e h).measurement = s.measurement :=
  handle_inv State.measurement (fun _ _ _ => rfl) (fun _ _ => rfl) s cfg m i e h
@[simp] theorem handle_connections (s : State) (cfg m i e h) :
    (s.handle cfg m i e h).connections = s.connections :=
  handle_inv State.connections (fun _ _ _ => rfl) (fun _ _ => rfl) s cfg m i e h

@[simp] theorem catchEnding_calls (s : State) (cfg m i) (r : Ending) :
    (s.catchEnding cfg m i r).1.calls = s.calls := by
  unfold catchEnding; split
  · rfl
  · split <;> simp

@[simp] theorem catchEnding_finished (s : State) (cfg m i) (r : Ending) :
    (s.catchEnding cfg m i r).1.finished = s.finished := by
  unfold catchEnding; split
  · rfl
  · split <;> simp

theorem catchEnding_published (s : State) (cfg m i) (r : Ending) :
    (s.catchEnding cfg m i r).1.published = s.published ++ r.errorCopies cfg m := by
  unfold catchEnding; split
  · simp [Ending.errorCopies]
  · split <;> rename_i h <;>
      simp [handle_published, Ending.errorCopies, ExcClass.clauseOutcome?_eq, h,
        Handler.outcome_eq_processingException]

theorem catchEnding_snd (s : State) (cfg m i) (r : Ending) :
    (s.catchEnding cfg m i r).2 = match r with
      | .returns => .ok none
      | .raises e => match e.cls.handler? with
        | some h => .ok (some h.outcome)
        | none => .error e := by
  unfold catchEnding; split
  · rfl
  · split <;> rename_i h <;> simp [h]

@[simp] theorem clearConfirmationFutures_calls (s : State) :
    s.clearConfirmationFutures.calls = s.calls := rfl
@[simp] theorem clearConfirmationFutures_published (s : State) :
    s.clearConfirmationFutures.published = s.published := rfl
@[simp] theorem clearConfirmationFutures_names (s : State) :
    s.clearConfirmationFutures.names = s.names := by
  simp [clearConfirmationFutures, names]

theorem finishUp_inv {α : Type} (f : State → α) (hc : ∀ t : State, f t.clearConfirmationFutures = f t)
    (s : State) (hooks pending) :
    f (s.finishUp hooks pending).1 = f (s.finish hooks.onFinish).1 := by
  unfold finishUp
  split <;> rename_i h <;> simp [h, hc]

theorem finishUp_snd (s : State) (hooks) (pending : Except PyExc (Option Outcome)) :
    (s.finishUp hooks pending).2 = match (s.finish hooks.onFinish).2, pending with
      | .error e, _ => .error e
      | .ok (), .error e => .error e
      | .ok (), .ok (some o) => .ok o
      | .ok (), .ok none => .ok .messageAck := by
  unfold finishUp
  split <;> rename_i h <;> simp [h]

theorem finish_snd (s : State) (h : OnFinish) :
    (s.finish h).2 = if s.finished then .ok () else h.ending.toExcept := by
  unfold finish; split <;> rfl

@[simp] theorem catchEnding_connections (s : State) (cfg m i) (r : Ending) :
    (s.catchEnding cfg m i r).1.connections = s.connections := by
  unfold catchEnding; split
  · rfl
  · split <;> simp

theorem processHooks_names (s : State) (cfg m i) (hooks : Hooks) :
    (s.processHooks cfg m i hooks).1.names = s.names := by
  simp only [processHooks, finishUp_inv names clearConfirmationFutures_names]
  simp only [names, finish_connections, catchEnding_connections]
  exact tryHooks_names s hooks

theorem processHooks_calls {s : State} (hs : s.finished = false) (cfg m i) (hooks : Hooks) :
    (s.processHooks cfg m i hooks).1.calls =
      s.calls ++ [.prepare] ++ (if hooks.runsProcess then [.process] else []) ++ [.onFinish] := by
  simp only [processHooks, finishUp_inv State.calls clearConfirmationFutures_calls, finish_calls,
    catchEnding_calls, catchEnding_finished, tryHooks_calls hs, tryHooks_finished hs]
  unfold Hooks.runsProcess
  cases hooks.prepare.finishes <;> cases hooks.process.finishes <;>
    cases hooks.prepare.ending == .returns <;> simp

/-- What the hooks publish, then the failure copy of a `ProcessingException`. -/
theorem processHooks_published {s : State} {m : Message} {i : Nat} (hs : s.finished = false)
    (hm : s.message = some m) (hi : s.measurement = some i) (cfg : Settings) (hooks : Hooks) :
    (s.processHooks cfg m i hooks).1.published =
      s.published ++ hooks.sent s.links m ++ hooks.ending.errorCopies cfg m := by
  simp only [processHooks, finishUp_inv State.published clearConfirmationFutures_published,
    finish_published, catchEnding_published, tryHooks_published hs hm hi, tryHooks_snd hs]

/-- With an `on_finish` that returns, the result is the taxonomy's: `MESSAGE_ACK` when
nothing was raised, the catching clause's outcome otherwise, and an exception no clause
catches passes through. -/
theorem processHooks_snd {s : State} (hs : s.finished = false) (cfg m i) {hooks : Hooks}
    (hf : hooks.onFinish.ending = .returns) :
    (s.processHooks cfg m i hooks).2 = hooks.ending.result := by
  simp only [processHooks, finishUp_snd, finish_snd, catchEnding_snd, catchEnding_finished,
    tryHooks_snd hs, hf, Ending.toExcept, ite_self]
  cases hooks.ending with
  | returns => rfl
  | raises e => dsimp only [Ending.result]; rw [ExcClass.clauseOutcome?_eq]; cases e.cls.handler? <;> rfl

end State

end Rejected
