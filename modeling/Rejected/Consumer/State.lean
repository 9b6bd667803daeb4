import Rejected.Data

/-!
# The consumer's per-instance state

The attributes `Consumer.__init__` resolves, the mutable attributes `execute` resets
and assigns (`_finished`, `_message`, `_measurement`, `_correlation_id`,
`_connections`), and what the consumer has done to the world: the messages it
handed to `basic_publish`, every update of a measurement object (by the object's
identity), and the user code it entered. The last two are instrumentation of the
model, not attributes of the Python object.

User hooks are described by what they do: the `finish()`, stats and `publish_message`
calls they make and how they end. A hook that returns a future is described by how the future
settles; `execute` waits for it before going on. Logging and Sentry reporting are
not modelled.
-/
namespace Rejected

/-- `MESSAGE_TYPE`: one accepted type, or a tuple, list or set of them. -/
inductive TypeFilter where
  | one (type : String)
  | many (types : List String)
  deriving DecidableEq

/-- Python truthiness of the configured value: `''` and empty collections are false. -/
def TypeFilter.truthy : TypeFilter → Bool
  | .one t => decide (t ≠ "")
  | .many ts => !ts.isEmpty

/-- `message_supported`: membership for a collection, equality for a string. -/
def TypeFilter.supports (f : TypeFilter) (type : Option String) : Bool :=
  match f with
  | .one t => type == some t
  | .many ts => ts.any fun t => type == some t

/-- The attributes `__init__` resolves from its keyword arguments and the class. -/
structure Settings where
  name : String
  messageType : Option TypeFilter := none
  dropInvalid : Bool := false
  dropExchange : Option String := none
  errorExchange : String := "errors"
  errorMaxRetry : Option Int := none
  messageAgeKey : String := "message_age"
  deriving DecidableEq

/-- The class attributes `__init__` falls back on, as a subclass sets them, and the
class name the `name` property returns. -/
structure ConsumerClass where
  name : String
  messageType : Option TypeFilter := none
  dropInvalidMessages : Bool := false
  dropExchange : Option String := none
  errorMaxRetries : Option Int := none
  errorMaxRetry : Option Int := none
  errorExchange : String := "errors"
  messageAgeKey : String := "message_age"

/-- The keyword arguments of `__init__` that configure the consumer. -/
structure Kwargs where
  dropExchange : Option String := none
  dropInvalidMessages : Option Bool := none
  errorExchange : Option String := none
  errorMaxRetry : Option Int := none
  messageType : Option TypeFilter := none

/-- Python's `x or y` on optional integers: `None` and `0` are false. -/
def orElseInt : Option Int → Option Int → Option Int
  | some n, y => if n = 0 then y else some n
  | none, y => y

/-- `__init__`: each keyword argument, or the class attribute when the argument is
missing or false; `error_max_retry` falls back on `ERROR_MAX_RETRIES`, then on the
deprecated `ERROR_MAX_RETRY`. -/
def Settings.init (cls : ConsumerClass) (kwargs : Kwargs) : Settings where
  name := cls.name
  messageType := match kwargs.messageType with
    | some f => if f.truthy then some f else cls.messageType
    | none => cls.messageType
  dropInvalid := kwargs.dropInvalidMessages.getD false || cls.dropInvalidMessages
  dropExchange := orElse kwargs.dropExchange cls.dropExchange
  errorExchange := (orElse kwargs.errorExchange (some cls.errorExchange)).getD cls.errorExchange
  errorMaxRetry := orElseInt kwargs.errorMaxRetry (orElseInt cls.errorMaxRetries cls.errorMaxRetry)
  messageAgeKey := cls.messageAgeKey

/-- The class `ConfigurationException`. -/
def configurationExceptionClass : ExcClass :=
  { name := "ConfigurationException", configuration := true, exception := true,
    handled := fun _ => rfl }

/-- `require_setting(name, feature)`, against the keys of the application settings. -/
def requireSetting (settings : List String) (name : String) (feature : String := "this feature") :
    Except PyExc Unit :=
  if name ∈ settings then .ok ()
  else .error ⟨configurationExceptionClass, none,
    s!"You must define the '{name}' setting in your application to use {feature}"⟩

/-- Modelled from the spec: the `rejected.process.Connection` a consumer publishes on,
with the publisher confirmations it is waiting for. -/
structure Connection where
  name : String
  isConnected : Bool := true
  channelIsClosed : Bool := false
  publisherConfirmations : Bool := false
  correlationId : Option String := none
  confirmations : List (String × Option String × Properties) := []
  deriving DecidableEq

/-- A connection apart from what the consumer writes into it: the correlation id
`execute` sets, and the confirmations `publish_message` adds and `execute` drops. -/
def Connection.link (c : Connection) : Connection :=
  { c with correlationId := none, confirmations := [] }

/-- How a user hook ends: it returns (or its future resolves), or it raises. -/
inductive Ending where
  | returns
  | raises (e : PyExc)
  deriving DecidableEq

def Ending.toExcept : Ending → Except PyExc Unit
  | .returns => .ok ()
  | .raises e => .error e

/-- A call a hook makes into the consumer before it ends: `finish()`, a stats call, or
`publish_message(exchange, routing_key, properties, body, channel, connection)`, the
publish taking `elapsed` seconds. A body that is neither `str` nor `bytes` is `.obj ()`. -/
inductive Action where
  | finish
  | stat (u : Update)
  | publish (exchange : String) (routingKey : Option String) (properties : Properties)
      (body : PyVal Unit) (channel connection : Option String) (elapsed : ℚ)
  deriving DecidableEq

/-- One run of `prepare` or `process`. -/
structure Hook where
  actions : List Action := []
  ending : Ending := .returns
  deriving DecidableEq

/-- One run of `on_finish`. It runs with `_finished` already set, so a `finish()` in it
only logs a warning, and is left out; so are its own `publish_message` calls. -/
structure OnFinish where
  stats : List Update := []
  ending : Ending := .returns
  deriving DecidableEq

/-- The user code `execute` enters. -/
inductive Call where
  | prepare
  | process
  | onFinish
  deriving DecidableEq, Repr

structure State where
  finished : Bool := false
  message : Option Message := none
  measurement : Option Nat := none
  correlationId : Option String := none
  connections : List Connection := []
  published : List Publish := []
  updates : List (Nat × Update) := []
  calls : List Call := []
  deriving DecidableEq

namespace State

/-- `_clear`: resets the finished flag and the current message; the body cache it also
resets is modelled with `SmartConsumer.body`. `_measurement` is left as it was. -/
def clear (s : State) : State := { s with finished := false, message := none }

def record (s : State) (i : Nat) (u : Update) : State := { s with updates := s.updates ++ [(i, u)] }

def enter (s : State) (c : Call) : State := { s with calls := s.calls ++ [c] }

def send (s : State) (p : Publish) : State := { s with published := s.published ++ [p] }

@[simp] theorem clear_finished (s : State) : s.clear.finished = false := rfl
@[simp] theorem clear_message (s : State) : s.clear.message = none := rfl
@[simp] theorem clear_measurement (s : State) : s.clear.measurement = s.measurement := rfl
@[simp] theorem clear_connections (s : State) : s.clear.connections = s.connections := rfl
@[simp] theorem clear_published (s : State) : s.clear.published = s.published := rfl
@[simp] theorem clear_updates (s : State) : s.clear.updates = s.updates := rfl
@[simp] theorem clear_calls (s : State) : s.clear.calls = s.calls := rfl
@[simp] theorem record_finished (s : State) (i u) : (s.record i u).finished = s.finished := rfl
@[simp] theorem record_message (s : State) (i u) : (s.record i u).message = s.message := rfl
@[simp] theorem record_measurement (s : State) (i u) :
    (s.record i u).measurement = s.measurement := rfl
@[simp] theorem record_connections (s : State) (i u) :
    (s.record i u).connections = s.connections := rfl
@[simp] theorem record_published (s : State) (i u) : (s.record i u).published = s.published :=
  rfl
@[simp] theorem record_updates (s : State) (i u) :
    (s.record i u).updates = s.updates ++ [(i, u)] := rfl
@[simp] theorem record_calls (s : State) (i u) : (s.record i u).calls = s.calls := rfl
@[simp] theorem enter_finished (s : State) (c) : (s.enter c).finished = s.finished := rfl
@[simp] theorem enter_message (s : State) (c) : (s.enter c).message = s.message := rfl
@[simp] theorem enter_measurement (s : State) (c) : (s.enter c).measurement = s.measurement :=
  rfl
@[simp] theorem enter_published (s : State) (c) : (s.enter c).published = s.published := rfl
@[simp] theorem enter_updates (s : State) (c) : (s.enter c).updates = s.updates := rfl
@[simp] theorem enter_calls (s : State) (c) : (s.enter c).calls = s.calls ++ [c] := rfl
@[simp] theorem send_finished (s : State) (p) : (s.send p).finished = s.finished := rfl
@[simp] theorem send_message (s : State) (p) : (s.send p).message = s.message := rfl
@[simp] theorem send_measurement (s : State) (p) : (s.send p).measurement = s.measurement := rfl
@[simp] theorem send_published (s : State) (p) : (s.send p).published = s.published ++ [p] := rfl
@[simp] theorem send_updates (s : State) (p) : (s.send p).updates = s.updates := rfl
@[simp] theorem send_calls (s : State) (p) : (s.send p).calls = s.calls := rfl

/-- The body shared by `stats_add_duration`, `stats_incr`, `stats_set_tag` and
`stats_set_value`: with no measurement assigned the update is dropped (with a warning
unless `IGNORE_OOB_STATS`), otherwise it goes to the assigned measurement. A
`Measurement` object is always true. -/
def stat (s : State) (u : Update) : State :=
  match s.measurement with
  | none => s
  | some i => s.record i u

def statsAddDuration (s : State) (key : String) (duration : ℚ) : State :=
  s.stat (.addDuration key duration)

def statsIncr (s : State) (key : String) (value : Int := 1) : State :=
  s.stat (.incr key value)

def statsSetTag (s : State) (key : String) (value : StatValue := .num 1) : State :=
  s.stat (.setTag key value)

def statsSetValue (s : State) (key : String) (value : StatValue := .num 1) : State :=
  s.stat (.setValue key value)

/-- `stats_track_duration`: on leaving the context, `stats_add_duration` with the time
spent since it was entered, read from the state at that moment. -/
def statsTrackDuration (s : State) (key : String) (startTime now : ℚ) : State :=
  s.statsAddDuration key (max startTime now - startTime)

theorem stat_of_none {s : State} (h : s.measurement = none) (u : Update) : s.stat u = s := by
  simp [stat, h]

theorem stat_of_some {s : State} {i : Nat} (h : s.measurement = some i) (u : Update) :
    s.stat u = s.record i u := by
  simp [stat, h]

@[simp] theorem stat_finished (s : State) (u) : (s.stat u).finished = s.finished := by
  unfold stat; split <;> rfl
@[simp] theorem stat_message (s : State) (u) : (s.stat u).message = s.message := by
  unfold stat; split <;> rfl
@[simp] theorem stat_measurement (s : State) (u) : (s.stat u).measurement = s.measurement := by
  unfold stat; split <;> rfl
@[simp] theorem stat_connections (s : State) (u) : (s.stat u).connections = s.connections := by
  unfold stat; split <;> rfl
@[simp] theorem stat_published (s : State) (u) : (s.stat u).published = s.published := by
  unfold stat; split <;> rfl
@[simp] theorem stat_calls (s : State) (u) : (s.stat u).calls = s.calls := by
  unfold stat; split <;> rfl

def connection? (s : State) (name : String) : Option Connection :=
  s.connections.find? fun c => c.name = name

/-- Replace the connection of the same name, or add it last (a dict assignment). -/
def putConnection (cs : List Connection) (c : Connection) : List Connection :=
  if cs.any (·.name = c.name) then cs.map fun d => if d.name = c.name then c else d
  else cs ++ [c]

/-- `set_connection`. -/
def setConnection (s : State) (c : Connection) : State :=
  { s with connections := putConnection s.connections c }

/-- `remove_connection`: `del self._connections[name]`. -/
def removeConnection (s : State) (name : String) : Except PyExc State :=
  if s.connections.any (·.name = name) then
    .ok { s with connections := s.connections.filter (·.name ≠ name) }
  else .error keyError

/-- `_publish_connection`: the named connection, else the current message's; an unknown
name is a `ValueError`, a closed connection or channel a `RabbitMQException`. -/
def publishConnection (s : State) (name : Option String) : Except PyExc Connection := do
  let key ← match orElse name none, s.message with
    | some n, _ => pure n
    | none, some m => pure m.connection
    | none, none => throw attributeError
  match s.connection? key with
  | none =>
      let shown := name.getD "None"
      throw (valueError s!"Channel {shown} not found")
  | some conn =>
      if !conn.isConnected || conn.channelIsClosed then throw notConnected else pure conn

/-- The body `pika` puts on the wire; it refuses anything but `str` and `bytes`. -/
def wireBody {V : Type} : PyVal V → Option WireBody
  | .str s => some (.text s)
  | .bytes b => some (.bytes b)
  | _ => none

/-- `publish_message`. The publish is timed into the current measurement, which must
exist; with publisher confirmations the connection tracks one more confirmation and a
future is returned (`some` of its position), otherwise `None`. -/
def publishMessage {V : Type} (s : State) (exchange : String) (routingKey : Option String)
    (properties : Properties) (body : PyVal V) (channel connection : Option String)
    (elapsed : ℚ) : State × Except PyExc (Option Nat) :=
  match s.publishConnection (orElse channel connection), s.measurement with
  | .error e, _ => (s, .error e)
  | .ok _, none => (s, .error attributeError)
  | .ok conn, some i =>
      let key := routingKey.getD "None"
      let timed (t : State) : State :=
        t.record i (.addDuration s!"publish.{exchange}.{key}" elapsed)
      match wireBody body with
      | none => (timed s, .error typeError)
      | some b =>
          let t := s.send ⟨conn.name, exchange, routingKey, b, properties⟩
          if conn.publisherConfirmations then
            let c := { conn with
              confirmations := conn.confirmations ++ [(exchange, routingKey, properties)] }
            (timed { t with connections := putConnection t.connections c },
              .ok (some conn.confirmations.length))
          else (timed t, .ok none)

/-- A publish that returns has put the body on the wire: one message, to the exchange
and with the routing key and properties asked for, on the connection it resolved. -/
theorem publishMessage_of_ok {V : Type} {s : State} {exchange : String}
    {routingKey : Option String} {properties : Properties} {body : PyVal V}
    {channel connection : Option String} {elapsed : ℚ} {r : Option Nat}
    (h : (s.publishMessage exchange routingKey properties body channel connection elapsed).2 =
      .ok r) :
    ∃ c wb, wireBody body = some wb ∧
      (s.publishMessage exchange routingKey properties body channel connection elapsed).1.published =
        s.published ++ [⟨c, exchange, routingKey, wb, properties⟩] := by
  unfold publishMessage at h ⊢
  rcases hc : s.publishConnection (orElse channel connection) with _ | conn <;>
    rcases hm : s.measurement with _ | i <;> simp only [hc, hm] at h ⊢
  · cases h
  · cases h
  · cases h
  · rcases hb : wireBody body with _ | wb <;> simp only [hb] at h ⊢
    · cases h
    · refine ⟨conn.name, wb, rfl, ?_⟩
      split <;> rfl

/-- A publish that raises has sent nothing: the consumer is as it was, or, for a body
`pika` refuses, the publish was timed into the measurement first. -/
theorem publishMessage_of_error {V : Type} {s : State} {exchange : String}
    {routingKey : Option String} {properties : Properties} {body : PyVal V}
    {channel connection : Option String} {elapsed : ℚ} {e : PyExc}
    (h : (s.publishMessage exchange routingKey properties body channel connection elapsed).2 =
      .error e) :
    (s.publishMessage exchange routingKey properties body channel connection elapsed).1 = s ∨
      e = typeError ∧ ∃ i u, s.measurement = some i ∧
        (s.publishMessage exchange routingKey properties body channel connection elapsed).1 =
          s.record i u := by
  unfold publishMessage at h ⊢
  rcases hc : s.publishConnection (orElse channel connection) with _ | conn <;>
    rcases hm : s.measurement with _ | i <;> simp only [hc, hm, true_or] at h ⊢
  rcases hb : wireBody body with _ | wb <;> simp only [hb] at h ⊢
  · cases h
    exact .inr ⟨rfl, i, _, rfl, rfl⟩
  · split at h <;> cases h

def names (s : State) : List String := s.connections.map (·.name)

theorem connection?_isSome_iff (s : State) (n : String) :
    (s.connection? n).isSome ↔ n ∈ s.names := by
  simp [connection?, names]

theorem names_putConnection {cs : List Connection} {c : Connection}
    (h : c.name ∈ cs.map (·.name)) : (putConnection cs c).map (·.name) = cs.map (·.name) := by
  have : cs.any (·.name = c.name) := by simpa using h
  simp only [putConnection, this, if_true, List.map_map]
  exact List.map_congr_left fun d _ => by by_cases hd : d.name = c.name <;> simp [hd]

/-- The connections by name, apart from what the consumer writes into them. -/
def links (s : State) (name : String) : Option Connection := (s.connection? name).map Connection.link

/-- The confirmation futures pending on each connection. -/
def futures (s : State) (n : String) : Option (List (String × Option String × Properties)) :=
  (s.connection? n).map (·.confirmations)

theorem connection?_name {s : State} {n : String} {c : Connection} (h : s.connection? n = some c) :
    c.name = n := by
  simpa [connection?] using List.find?_some h

theorem links_of_connections {s t : State} (h : t.connections = s.connections) :
    t.links = s.links := by
  unfold links connection?
  rw [h]

theorem futures_of_connections {s t : State} (h : t.connections = s.connections) :
    t.futures = s.futures := by
  unfold futures connection?
  rw [h]

theorem find?_replace (cs : List Connection) (c : Connection) (n : String) :
    (cs.map fun d => if d.name = c.name then c else d).find? (fun d => d.name = n) =
      if n = c.name then (if cs.any (·.name = c.name) then some c else none)
      else cs.find? (fun d => d.name = n) := by
  induction cs with
  | nil => simp
  | cons d cs ih =>
      by_cases hd : d.name = c.name <;> by_cases hn : n = c.name
      · subst hn; simp [hd, List.find?_cons]
      · simp [hd, List.find?_cons, -List.find?_map, ih, hn, Ne.symm hn]
      · subst hn; simp [hd, List.find?_cons, -List.find?_map, ih]
      · simp [hd, List.find?_cons, -List.find?_map, ih, hn]

theorem find?_putConnection (cs : List Connection) (c : Connection) (n : String) :
    (putConnection cs c).find? (fun d => d.name = n) =
      if n = c.name then some c else cs.find? (fun d => d.name = n) := by
  unfold putConnection
  split <;> rename_i hany
  · rw [find?_replace, if_pos hany]
  · rw [List.find?_append]
    by_cases hn : n = c.name
    · subst hn
      have hnone : cs.find? (fun d => d.name = c.name) = none :=
        List.find?_eq_none.mpr (List.any_eq_false.mp (Bool.eq_false_iff.mpr hany))
      simp [hnone]
    · simp [hn, Ne.symm hn]

theorem map_connection?_putConnection {α : Type} (f : Connection → α) {s t : State}
    {c d : Connection} (ht : t.connections = putConnection s.connections c)
    (hd : s.connection? c.name = some d) (hf : f c = f d) (n : String) :
    (t.connection? n).map f = (s.connection? n).map f := by
  simp only [connection?, ht, find?_putConnection]
  split
  · subst n
    rw [show s.connections.find? _ = some d from hd]
    simp [hf]
  · rfl

theorem publishConnection_found {s : State} {name : Option String} {conn : Connection}
    (h : s.publishConnection name = .ok conn) : s.connection? conn.name = some conn := by
  unfold publishConnection at h
  simp only [bind, Except.bind, pure, Except.pure] at h
  split at h <;> try cases h
  all_goals
    split at h
    · cases h
    · rename_i c hc
      split at h
      · cases h
      · cases h
        rw [connection?_name hc]
        exact hc

/-- `publish_message` changes no connection but the one it published on, and that one
only in its confirmations. -/
theorem publishMessage_connections {V : Type} (s : State) (exchange routingKey properties)
    (body : PyVal V) (channel connection elapsed) :
    (s.publishMessage exchange routingKey properties body channel connection elapsed).1.connections =
        s.connections ∨
      ∃ conn fs, s.connection? conn.name = some conn ∧
        (s.publishMessage exchange routingKey properties body channel connection elapsed).1.connections =
          putConnection s.connections { conn with confirmations := fs } := by
  unfold publishMessage
  split
  · exact .inl rfl
  · exact .inl rfl
  · rename_i conn _ hconn _
    dsimp only
    split
    · exact .inl rfl
    · split
      · exact .inr ⟨conn, _, publishConnection_found hconn, rfl⟩
      · exact .inl rfl

theorem links_publishMessage {V : Type} (s : State) (exchange routingKey properties)
    (body : PyVal V) (channel connection elapsed) :
    (s.publishMessage exchange routingKey properties body channel connection elapsed).1.links =
      s.links := by
  rcases publishMessage_connections s exchange routingKey properties body channel connection
    elapsed with h | ⟨conn, fs, hc, h⟩
  · exact links_of_connections h
  · exact funext (map_connection?_putConnection Connection.link h hc rfl)

theorem names_publishMessage {V : Type} (s : State) (exchange routingKey properties)
    (body : PyVal V) (channel connection elapsed) :
    (s.publishMessage exchange routingKey properties body channel connection elapsed).1.names =
      s.names := by
  rcases publishMessage_connections s exchange routingKey properties body channel connection
    elapsed with h | ⟨conn, fs, hc, h⟩
  · simp [names, h]
  · rw [names, h, names_putConnection]
    · rfl
    · exact (connection?_isSome_iff s conn.name).mp (by simp [hc])

theorem publishMessage_inv {α : Type} {V : Type} (f : State → α) (hs : ∀ t p, f (t.send p) = f t)
    (hr : ∀ t i u, f (t.record i u) = f t)
    (hc : ∀ t : State, ∀ cs, f { t with connections := cs } = f t) (s : State)
    (exchange routingKey properties) (body : PyVal V) (channel connection elapsed) :
    f (s.publishMessage exchange routingKey properties body channel connection elapsed).1 = f s := by
  unfold publishMessage
  split
  · rfl
  · rfl
  · dsimp only
    split
    · exact hr _ _ _
    · split
      · rw [hr, hc, hs]
      · rw [hr, hs]

@[simp] theorem publishMessage_finished {V : Type} (s : State) (exchange routingKey properties)
    (body : PyVal V) (channel connection elapsed) :
    (s.publishMessage exchange routingKey properties body channel connection elapsed).1.finished =
      s.finished :=
  publishMessage_inv State.finished (fun _ _ => rfl) (fun _ _ _ => rfl) (fun _ _ => rfl) ..

@[simp] theorem publishMessage_message {V : Type} (s : State) (exchange routingKey properties)
    (body : PyVal V) (channel connection elapsed) :
    (s.publishMessage exchange routingKey properties body channel connection elapsed).1.message =
      s.message :=
  publishMessage_inv State.message (fun _ _ => rfl) (fun _ _ _ => rfl) (fun _ _ => rfl) ..

@[simp] theorem publishMessage_measurement {V : Type} (s : State) (exchange routingKey properties)
    (body : PyVal V) (channel connection elapsed) :
    (s.publishMessage exchange routingKey properties body channel connection elapsed).1.measurement =
      s.measurement :=
  publishMessage_inv State.measurement (fun _ _ => rfl) (fun _ _ _ => rfl) (fun _ _ => rfl) ..

@[simp] theorem publishMessage_calls {V : Type} (s : State) (exchange routingKey properties)
    (body : PyVal V) (channel connection elapsed) :
    (s.publishMessage exchange routingKey properties body channel connection elapsed).1.calls =
      s.calls :=
  publishMessage_inv State.calls (fun _ _ => rfl) (fun _ _ _ => rfl) (fun _ _ => rfl) ..

end State

/-- The message a hook's `publish_message` call puts on the wire while `m` is executed,
on a consumer whose connections by name are `links`: none when the call raises. -/
def Action.sent (links : String → Option Connection) (m : Message) : Action → Option Publish
  | .publish exchange routingKey properties body channel connection _ =>
      let key := (orElse (orElse channel connection) none).getD m.connection
      match links key, State.wireBody body with
      | some c, some b =>
          if !c.isConnected || c.channelIsClosed then none
          else some ⟨key, exchange, routingKey, b, properties⟩
      | _, _ => none
  | _ => none

/-- The confirmations the publishes `ps` leave pending on the connection `n`: one for
each publish on it, when it has publisher confirmations. -/
def confirmationsOn (links : String → Option Connection) (ps : List Publish) (n : String) :
    List (String × Option String × Properties) :=
  (ps.filter fun p => p.connection = n && ((links n).map (·.publisherConfirmations)).getD false).map
    fun p => (p.exchange, p.routingKey, p.properties)

@[simp] theorem confirmationsOn_nil (links : String → Option Connection) (n : String) :
    confirmationsOn links [] n = [] := rfl

@[simp] theorem confirmationsOn_append (links : String → Option Connection) (ps qs : List Publish)
    (n : String) : confirmationsOn links (ps ++ qs) n = confirmationsOn links ps n ++ confirmationsOn links qs n := by
  simp [confirmationsOn]

namespace State

theorem sent_publish {s : State} {m : Message} (hm : s.message = some m) (exchange routingKey
    properties) (body : PyVal Unit) (channel connection elapsed) :
    (Action.publish exchange routingKey properties body channel connection elapsed).sent s.links m =
      match s.publishConnection (orElse channel connection), wireBody body with
      | .ok conn, some b => some ⟨conn.name, exchange, routingKey, b, properties⟩
      | _, _ => none := by
  simp only [Action.sent, links, publishConnection, hm]
  rcases orElse (orElse channel connection) none with _ | n <;>
    simp only [Option.getD_none, Option.getD_some, bind, Except.bind, pure, Except.pure] <;>
    rcases hc : s.connection? _ with _ | conn <;> simp only [Option.map_none', Option.map_some'] <;>
    rcases wireBody body with _ | b <;> simp only [throw, throwThe, MonadExceptOf.throw] <;>
    split <;> simp_all [Connection.link, connection?_name hc]

/-- A hook's `publish_message` while `m` is executed puts on the wire what the connections
by name say it does. -/
theorem publishMessage_published {s : State} {m : Message} {i : Nat} (hm : s.message = some m)
    (hi : s.measurement = some i) (exchange routingKey properties) (body : PyVal Unit)
    (channel connection elapsed) :
    (s.publishMessage exchange routingKey properties body channel connection elapsed).1.published =
      s.published ++ ((Action.publish exchange routingKey properties body channel connection
        elapsed).sent s.links m).toList := by
  rw [sent_publish hm]
  unfold publishMessage
  rcases s.publishConnection (orElse channel connection) with _ | conn <;> simp only [hi]
  · simp
  · rcases wireBody body with _ | b
    · simp
    · dsimp only
      split <;> simp

theorem publishMessage_futures {s : State} {m : Message} {i : Nat} (hm : s.message = some m)
    (hi : s.measurement = some i) (exchange routingKey properties) (body : PyVal Unit)
    (channel connection elapsed) :
    (s.publishMessage exchange routingKey properties body channel connection elapsed).1.futures =
      fun n => (s.futures n).map (· ++ confirmationsOn s.links ((Action.publish exchange routingKey
        properties body channel connection elapsed).sent s.links m).toList n) := by
  rw [sent_publish hm]
  unfold publishMessage
  rcases hconn : s.publishConnection (orElse channel connection) with _ | conn <;> simp only [hi]
  · funext n; simp
  · have hfound := publishConnection_found hconn
    rcases wireBody body with _ | b
    · funext n; simp [futures, connection?, record, Function.comp_def]
    · dsimp only
      funext n
      by_cases hn : n = conn.name
      · subst hn
        split <;> rename_i hc <;>
          simp [futures, connection?, record, send, find?_putConnection, confirmationsOn, links, hc,
            show s.connections.find? (fun d => d.name = conn.name) = some conn from hfound,
            Connection.link]
      · split <;>
          simp [futures, connection?, record, send, find?_putConnection, confirmationsOn, hn,
            Ne.symm hn, Function.comp_def]

/-- `finish()`: a second call only logs a warning; the first sets `_finished` and runs
`on_finish`, whose exception it passes on. -/
def finish (s : State) (h : OnFinish) : State × Except PyExc Unit :=
  if s.finished then (s, .ok ())
  else (h.stats.foldl stat ({ s with finished := true }.enter .onFinish), h.ending.toExcept)

/-- One call a hook makes. A call that raises, a `finish()` whose `on_finish` raises or a
publish that fails, is followed by what the hook did next, which its own later calls and
ending describe. -/
def act (h : OnFinish) (s : State) : Action → State
  | .finish => (s.finish h).1
  | .stat u => s.stat u
  | .publish exchange routingKey properties body channel connection elapsed =>
      (s.publishMessage exchange routingKey properties body channel connection elapsed).1

/-- Enter a hook, make its calls, and report how it ended. -/
def runHook (s : State) (h : OnFinish) (c : Call) (hook : Hook) : State × Ending :=
  (hook.actions.foldl (act h) (s.enter c), hook.ending)

theorem foldl_stat_inv {α : Type} (f : State → α) (hf : ∀ s u, f (s.stat u) = f s)
    (us : List Update) (s : State) : f (us.foldl stat s) = f s := by
  induction us generalizing s with
  | nil => rfl
  | cons u us ih => rw [List.foldl_cons, ih, hf]

theorem finish_of_finished {s : State} (hs : s.finished = true) (h : OnFinish) :
    s.finish h = (s, .ok ()) := by
  simp [finish, hs]

theorem finish_of_not_finished {s : State} (hs : s.finished = false) (h : OnFinish) :
    s.finish h =
      (h.stats.foldl stat ({ s with finished := true }.enter .onFinish), h.ending.toExcept) := by
  simp [finish, hs]

theorem finish_inv {α : Type} (f : State → α) (hf : ∀ s u, f (s.stat u) = f s)
    (he : ∀ s : State, f ({ s with finished := true }.enter .onFinish) = f s)
    (s : State) (h : OnFinish) : f (s.finish h).1 = f s := by
  unfold finish; split
  · rfl
  · rw [foldl_stat_inv f hf, he]

@[simp] theorem finish_finished (s : State) (h : OnFinish) : (s.finish h).1.finished = true := by
  unfold finish; split
  · assumption
  · rw [foldl_stat_inv _ stat_finished]; rfl

@[simp] theorem finish_calls (s : State) (h : OnFinish) :
    (s.finish h).1.calls = s.calls ++ (if s.finished then [] else [.onFinish]) := by
  unfold finish; split
  · simp [*]
  · rw [foldl_stat_inv _ stat_calls]; simp [*]

@[simp] theorem finish_published (s : State) (h : OnFinish) :
    (s.finish h).1.published = s.published :=
  finish_inv _ stat_published (fun _ => rfl) s h

@[simp] theorem finish_message (s : State) (h : OnFinish) : (s.finish h).1.message = s.message :=
  finish_inv _ stat_message (fun _ => rfl) s h

@[simp] theorem finish_measurement (s : State) (h : OnFinish) :
    (s.finish h).1.measurement = s.measurement :=
  finish_inv _ stat_measurement (fun _ => rfl) s h

@[simp] theorem finish_connections (s : State) (h : OnFinish) :
    (s.finish h).1.connections = s.connections :=
  finish_inv _ stat_connections (fun _ => rfl) s h

/-- `on_finish` runs on the first `finish()` only: the calls entered by a run of hook
actions. -/
theorem foldl_act_calls (h : OnFinish) (as : List Action) (s : State) :
    (as.foldl (act h) s).calls =
      s.calls ++ (if !s.finished && as.contains .finish then [.onFinish] else []) := by
  induction as generalizing s with
  | nil => simp
  | cons a as ih =>
      rw [List.foldl_cons, ih]
      cases a <;> cases hs : s.finished <;>
        simp [act, hs, finish_of_finished, finish_of_not_finished, foldl_stat_inv _ stat_calls,
          foldl_stat_inv _ stat_finished]

theorem foldl_act_finished (h : OnFinish) (as : List Action) (s : State) :
    (as.foldl (act h) s).finished = (s.finished || as.contains .finish) := by
  induction as generalizing s with
  | nil => simp
  | cons a as ih =>
      rw [List.foldl_cons, ih]
      cases a <;> simp [act, Bool.or_assoc]

theorem foldl_act_inv {α : Type} (f : State → α) (hf : ∀ s u, f (s.stat u) = f s)
    (he : ∀ s : State, f ({ s with finished := true }.enter .onFinish) = f s)
    (hp : ∀ (s : State) e rk pr (b : PyVal Unit) ch co el, f (s.publishMessage e rk pr b ch co el).1 = f s)
    (h : OnFinish) (as : List Action) (s : State) : f (as.foldl (act h) s) = f s := by
  induction as generalizing s with
  | nil => rfl
  | cons a as ih =>
      rw [List.foldl_cons, ih]
      cases a
      · exact finish_inv f hf he s h
      · exact hf s _
      · exact hp s ..

@[simp] theorem runHook_message (s : State) (h c hook) :
    (s.runHook h c hook).1.message = s.message :=
  foldl_act_inv _ stat_message (fun _ => rfl) (fun s e rk pr b ch co el => publishMessage_message s e rk pr b ch co el) h _ _

@[simp] theorem runHook_measurement (s : State) (h c hook) :
    (s.runHook h c hook).1.measurement = s.measurement :=
  foldl_act_inv _ stat_measurement (fun _ => rfl) (fun s e rk pr b ch co el => publishMessage_measurement s e rk pr b ch co el) h _ _

theorem runHook_links (s : State) (h c hook) : (s.runHook h c hook).1.links = s.links :=
  foldl_act_inv links (fun s u => links_of_connections (stat_connections s u))
    (fun _ => links_of_connections rfl) (fun s e rk pr b ch co el => links_publishMessage s e rk pr b ch co el) h _ _

theorem runHook_names (s : State) (h c hook) : (s.runHook h c hook).1.names = s.names :=
  foldl_act_inv names (fun s u => by simp [names]) (fun _ => rfl)
    (fun s e rk pr b ch co el => names_publishMessage s e rk pr b ch co el) h _ _

@[simp] theorem runHook_snd (s : State) (h c hook) : (s.runHook h c hook).2 = hook.ending := rfl

@[simp] theorem runHook_finished (s : State) (h c) (hook : Hook) :
    (s.runHook h c hook).1.finished = (s.finished || hook.actions.contains .finish) :=
  foldl_act_finished h _ _

@[simp] theorem runHook_calls (s : State) (h c) (hook : Hook) :
    (s.runHook h c hook).1.calls = s.calls ++ [c] ++
      (if !s.finished && hook.actions.contains .finish then [.onFinish] else []) :=
  foldl_act_calls h _ _

section Execution

variable {m : Message} {i : Nat}

theorem act_message (h : OnFinish) (s : State) (a : Action) : (act h s a).message = s.message := by
  cases a <;> simp [act]

theorem act_measurement (h : OnFinish) (s : State) (a : Action) :
    (act h s a).measurement = s.measurement := by
  cases a <;> simp [act]

theorem act_links (h : OnFinish) (s : State) (a : Action) : (act h s a).links = s.links := by
  cases a
  · exact links_of_connections (finish_connections s h)
  · exact links_of_connections (stat_connections s _)
  · exact links_publishMessage s ..

theorem act_published {s : State} (hm : s.message = some m) (hi : s.measurement = some i)
    (h : OnFinish) (a : Action) :
    (act h s a).published = s.published ++ (a.sent s.links m).toList := by
  cases a with
  | finish => simp [act, Action.sent]
  | stat u => simp [act, Action.sent]
  | publish e rk pr b ch co el => exact publishMessage_published hm hi e rk pr b ch co el

theorem act_futures {s : State} (hm : s.message = some m) (hi : s.measurement = some i)
    (h : OnFinish) (a : Action) :
    (act h s a).futures = fun n => (s.futures n).map (· ++ confirmationsOn s.links (a.sent s.links m).toList n) := by
  cases a with
  | finish => funext n; simp [act, Action.sent, futures_of_connections (finish_connections s h)]
  | stat u => funext n; simp [act, Action.sent, futures_of_connections (stat_connections s u)]
  | publish e rk pr b ch co el => exact publishMessage_futures hm hi e rk pr b ch co el

/-- The calls of a hook publish, in order, what the connections by name say each of its
publishes puts on the wire. -/
theorem foldl_act_published {s : State} (hm : s.message = some m) (hi : s.measurement = some i)
    (h : OnFinish) (as : List Action) :
    (as.foldl (act h) s).published = s.published ++ as.filterMap (Action.sent s.links m) := by
  induction as generalizing s with
  | nil => simp
  | cons a as ih =>
      rw [List.foldl_cons, ih (by rw [act_message, hm]) (by rw [act_measurement, hi]),
        act_published hm hi, act_links, List.filterMap_cons]
      cases a.sent s.links m <;> simp

theorem foldl_act_futures {s : State} (hm : s.message = some m) (hi : s.measurement = some i)
    (h : OnFinish) (as : List Action) :
    (as.foldl (act h) s).futures = fun n =>
      (s.futures n).map (· ++ confirmationsOn s.links (as.filterMap (Action.sent s.links m)) n) := by
  induction as generalizing s with
  | nil => funext n; simp
  | cons a as ih =>
      rw [List.foldl_cons, ih (by rw [act_message, hm]) (by rw [act_measurement, hi]),
        act_futures hm hi, act_links, List.filterMap_cons]
      funext n
      cases a.sent s.links m
      · simp
      · simp [Option.map_map, Function.comp_def, ← confirmationsOn_append]

theorem runHook_published {s : State} (hm : s.message = some m) (hi : s.measurement = some i)
    (h c) (hook : Hook) :
    (s.runHook h c hook).1.published = s.published ++ hook.actions.filterMap (Action.sent s.links m) :=
  @foldl_act_published m i (s.enter c) hm hi h hook.actions

theorem runHook_futures {s : State} (hm : s.message = some m) (hi : s.measurement = some i)
    (h c) (hook : Hook) :
    (s.runHook h c hook).1.futures = fun n => (s.futures n).map
      (· ++ confirmationsOn s.links (hook.actions.filterMap (Action.sent s.links m)) n) :=
  @foldl_act_futures m i (s.enter c) hm hi h hook.actions

end Execution

end State

end Rejected
