import Rejected.Consumer.Lifecycle

/-!
# Setting a consumer up

`__init__` resolves each setting as Python's `or` of a keyword argument and a class
attribute, so a false argument (`None`, `0`, `''`, an empty collection) leaves the class
attribute in force, and `error_max_retry` falls back on `ERROR_MAX_RETRIES` and then on
the deprecated `ERROR_MAX_RETRY`. With all three `None` or `0` the poison-message check
is off: `execute` never compares the `X-Processing-Exceptions` header, whatever it
holds.

The process hands the consumer its connections with `set_connection`, a dict assignment
under the connection's name, and takes them back with `remove_connection`, a `del` that
raises `KeyError` for a name that is not there. `execute` and `publish_message` write
into a connection (the correlation id, the confirmations a publish waits for) but never
add, remove or replace one. Over every run the connections by name are therefore the
dict the `set_connection` and `remove_connection` calls describe, no two share a name,
and `_publish_connection` finds under a name the last connection set under it.
Connections are values here: what the process itself later changes in a connection
object is not modelled.

The confirmation futures a publish leaves on its connection are dropped by the loop at
the end of `execute`, which only a message that returns `MESSAGE_ACK` reaches: every
other outcome, and every exception, leaves `execute` first, and the futures stay.
-/
namespace Rejected

theorem orElseInt_of_false {x : Option Int} (hx : x = none ∨ x = some 0) (y : Option Int) :
    orElseInt x y = y := by
  rcases hx with rfl | rfl <;> rfl

/-- With the three retry settings `None` or `0`, the poison-message check never runs. -/
theorem Settings.retryCheck?_init {cls : ConsumerClass} {kwargs : Kwargs}
    (hlimit : ∀ n ∈ [kwargs.errorMaxRetry, cls.errorMaxRetries, cls.errorMaxRetry],
      n = none ∨ n = some 0) (m : Message) :
    (Settings.init cls kwargs).retryCheck? m = none := by
  simp only [List.mem_cons, List.mem_singleton, List.not_mem_nil, or_false, forall_eq_or_imp,
    forall_eq] at hlimit
  obtain ⟨hk, hc, hd⟩ := hlimit
  unfold Settings.retryCheck?
  rw [show (Settings.init cls kwargs).errorMaxRetry = cls.errorMaxRetry from
    (orElseInt_of_false hk _).trans (orElseInt_of_false hc _)]
  cases m.headers.get? processingExceptionsKey <;> rcases hd with hd | hd <;> simp [hd]

namespace State

/-- A consumer `__init__` built with `error_max_retry`, `ERROR_MAX_RETRIES` and
`ERROR_MAX_RETRY` all `None` or `0` hands every message the type filter passes to its
hooks, whatever its `X-Processing-Exceptions` header holds: the message is neither
dropped for its retries nor met with `TypeError`, and besides what the hooks publish
themselves only the failure copy of a `ProcessingException` goes out. -/
theorem execute_without_retry_limit (cls : ConsumerClass) (kwargs : Kwargs)
    (hlimit : ∀ n ∈ [kwargs.errorMaxRetry, cls.errorMaxRetries, cls.errorMaxRetry],
      n = none ∨ n = some 0)
    {s : State} {m : Message} (hreg : m.connection ∈ s.names)
    (hr : (Settings.init cls kwargs).rejectsType m = false) (i : Nat) (clock : Clock)
    (hooks : Hooks) :
    (s.execute (Settings.init cls kwargs) m i clock hooks).1.calls =
        s.calls ++ [.prepare] ++ (if hooks.runsProcess then [.process] else []) ++ [.onFinish] ∧
      (s.execute (Settings.init cls kwargs) m i clock hooks).1.published =
        s.published ++ hooks.sent s.links m ++ hooks.ending.errorCopies (Settings.init cls kwargs) m := by
  have hnone := Settings.retryCheck?_init hlimit m
  exact execute_of_passes hreg hr (by simp [Settings.retryExceeded?, hnone])
    (fun _ _ hv => by simp [hnone] at hv) i clock hooks

theorem execute_without_retry_limit_on_text_counter :
    (∀ n ∈ [({} : Kwargs).errorMaxRetry,
        ({ name := "C", errorMaxRetry := some 0 } : ConsumerClass).errorMaxRetries,
        ({ name := "C", errorMaxRetry := some 0 } : ConsumerClass).errorMaxRetry],
        n = none ∨ n = some 0) ∧
      textCounterMessage.connection ∈ ({ connections := [{ name := "c" }] } : State).names ∧
      (Settings.init { name := "C", errorMaxRetry := some 0 } {}).rejectsType
        textCounterMessage = false ∧
      (({ connections := [{ name := "c" }] } : State).execute
          (Settings.init { name := "C", errorMaxRetry := some 0 } {}) textCounterMessage 0 {}
          {}).1.calls =
        [] ++ [.prepare] ++ (if ({} : Hooks).runsProcess then [.process] else []) ++ [.onFinish] ∧
      (({ connections := [{ name := "c" }] } : State).execute
          (Settings.init { name := "C", errorMaxRetry := some 0 } {}) textCounterMessage 0 {}
          {}).1.published =
        [] ++ ({} : Hooks).sent ({ connections := [{ name := "c" }] } : State).links textCounterMessage ++
          ({} : Hooks).ending.errorCopies
            (Settings.init { name := "C", errorMaxRetry := some 0 } {}) textCounterMessage :=
  have hlimit : ∀ n ∈ [({} : Kwargs).errorMaxRetry,
      ({ name := "C", errorMaxRetry := some 0 } : ConsumerClass).errorMaxRetries,
      ({ name := "C", errorMaxRetry := some 0 } : ConsumerClass).errorMaxRetry],
      n = none ∨ n = some 0 := by decide
  have hreg : textCounterMessage.connection ∈ ({ connections := [{ name := "c" }] } : State).names :=
    by decide
  have hr : (Settings.init { name := "C", errorMaxRetry := some 0 } {}).rejectsType
      textCounterMessage = false := rfl
  ⟨hlimit, hreg, hr, execute_without_retry_limit _ _ hlimit hreg hr 0 {} {}⟩

end State

/-- What a consumer is asked to do next: by the process, set or remove a connection or
execute a message; by its code outside an execution, publish. -/
inductive Op (V : Type) where
  | setConnection (c : Connection)
  | removeConnection (name : String)
  | execute (m : Message) (i : Nat) (clock : Clock) (hooks : Hooks)
  | publishMessage (exchange : String) (routingKey : Option String) (properties : Properties)
      (body : PyVal V) (channel connection : Option String) (elapsed : ℚ)

/-- The dict the operations describe: `set_connection` assigns, `remove_connection`
deletes, and nothing else touches it. -/
def Op.assign {V : Type} (reg : String → Option Connection) : Op V → String → Option Connection
  | .setConnection c => fun n => if n = c.name then some c.link else reg n
  | .removeConnection name => fun n => if n = name then none else reg n
  | _ => reg

namespace State

theorem find?_filter_name (cs : List Connection) (name n : String) :
    (cs.filter (·.name ≠ name)).find? (fun d => d.name = n) =
      if n = name then none else cs.find? (fun d => d.name = n) := by
  rw [List.find?_filter]
  split_ifs with hn
  · subst hn
    exact List.find?_eq_none.mpr fun d _ => by simp
  · congr 1
    funext d
    by_cases h : d.name = n <;> simp [h, hn]

/-- What the consumer does with one operation; the caller catches what it raises. -/
def apply {V : Type} (cfg : Settings) (s : State) : Op V → State
  | .setConnection c => s.setConnection c
  | .removeConnection name =>
      match s.removeConnection name with
      | .ok t => t
      | .error _ => s
  | .execute m i clock hooks => (s.execute cfg m i clock hooks).1
  | .publishMessage exchange routingKey properties body channel connection elapsed =>
      (s.publishMessage exchange routingKey properties body channel connection elapsed).1

/-- The consumer after a run of operations. -/
def runOps {V : Type} (s : State) (cfg : Settings) (ops : List (Op V)) : State :=
  ops.foldl (apply cfg) s

theorem links_eq_none_iff (s : State) (n : String) : s.links n = none ↔ n ∉ s.names := by
  rw [← connection?_isSome_iff]
  simp [links]

theorem names_setConnection (s : State) (c : Connection) :
    (s.setConnection c).names = if c.name ∈ s.names then s.names else s.names ++ [c.name] := by
  split <;> rename_i h
  · exact names_putConnection h
  · have hany : ¬ s.connections.any (·.name = c.name) := by simpa [names] using h
    simp [setConnection, putConnection, hany, names]

theorem links_setConnection (s : State) (c : Connection) :
    (s.setConnection c).links = fun n => if n = c.name then some c.link else s.links n := by
  funext n
  simp only [links, connection?, setConnection, find?_putConnection]
  split <;> rfl

theorem removeConnection_eq (s : State) (name : String) :
    s.removeConnection name = if name ∈ s.names then
      .ok { s with connections := s.connections.filter (·.name ≠ name) } else .error keyError := by
  simp [removeConnection, names]

theorem links_removeConnection {s t : State} {name : String} (h : s.removeConnection name = .ok t) :
    t.links = fun n => if n = name then none else s.links n := by
  rw [removeConnection_eq] at h
  split at h
  · cases h
    funext n
    simp only [links, connection?, find?_filter_name]
    split <;> rfl
  · cases h

theorem links_clearConfirmationFutures (s : State) :
    s.clearConfirmationFutures.links = s.links := by
  funext n
  simp only [links, connection?, clearConfirmationFutures, List.find?_map, Option.map_map]
  rfl

theorem links_processHooks (s : State) (cfg m i) (hooks : Hooks) :
    (s.processHooks cfg m i hooks).1.links = s.links := by
  simp only [processHooks, finishUp_inv links links_clearConfirmationFutures]
  rw [links_of_connections (finish_connections _ _), links_of_connections (catchEnding_connections ..),
    tryHooks_links]

theorem links_execute (s : State) (cfg m i clock hooks) :
    (s.execute cfg m i clock hooks).1.links = s.links := by
  unfold execute; dsimp only
  split
  · exact links_begin s cfg m i clock
  · rw [afterBegin_inv links (fun _ _ => rfl) (links_processHooks · cfg m i hooks), links_begin]

theorem names_nodup_apply {V : Type} (cfg : Settings) {s : State} (hs : s.names.Nodup) :
    ∀ op : Op V, (s.apply cfg op).names.Nodup
  | .setConnection c => by
      rw [apply, names_setConnection]
      split <;> rename_i h
      · exact hs
      · simp [List.nodup_append, hs, h]
  | .removeConnection name => by
      by_cases h : name ∈ s.names
      · simp only [apply, removeConnection_eq, if_pos h]
        exact hs.sublist ((List.filter_sublist _).map _)
      · simpa only [apply, removeConnection_eq, if_neg h] using hs
  | .execute m i clock hooks => by rw [apply, execute_names]; exact hs
  | .publishMessage exchange routingKey properties body channel connection elapsed => by
      rcases publishMessage_connections s exchange routingKey properties body channel connection
        elapsed with h | ⟨conn, fs, hc, h⟩ <;> simp only [apply, names, h]
      · exact hs
      · rwa [@names_putConnection s.connections { conn with confirmations := fs }
          ((connection?_isSome_iff s conn.name).mp (by simp [hc]))]

theorem links_apply {V : Type} (cfg : Settings) (s : State) :
    ∀ op : Op V, (s.apply cfg op).links = op.assign s.links
  | .setConnection c => links_setConnection s c
  | .removeConnection name => by
      rcases h : s.removeConnection name with e | t <;> simp only [apply, h]
      · have hn : s.links name = none :=
          (links_eq_none_iff s name).mpr fun hm => by simp [removeConnection_eq, hm] at h
        funext n
        simp only [Op.assign]
        split
        · subst n; exact hn
        · rfl
      · exact links_removeConnection h
  | .execute m i clock hooks => links_execute s cfg m i clock hooks
  | .publishMessage exchange routingKey properties body channel connection elapsed =>
      links_publishMessage s exchange routingKey properties body channel connection elapsed

/-- Over every run the connections never share a name, and the connections by name are
the dict the run's `set_connection` and `remove_connection` calls describe. -/
theorem runOps_links {V : Type} (cfg : Settings) (s : State) (hs : s.names.Nodup)
    (ops : List (Op V)) :
    (s.runOps cfg ops).names.Nodup ∧ (s.runOps cfg ops).links = ops.foldl Op.assign s.links := by
  induction ops generalizing s with
  | nil => exact ⟨hs, rfl⟩
  | cons op ops ih =>
      have h := ih (s.apply cfg op) (names_nodup_apply cfg hs op)
      rw [links_apply] at h
      exact h

theorem links_init : ({} : State).links = fun _ => none := rfl

theorem execute_of_unregistered {s : State} {m : Message} (hn : m.connection ∉ s.names)
    (cfg i clock hooks) : s.execute cfg m i clock hooks = (s.assign cfg m i clock, .error keyError) := by
  have hc : (s.assign cfg m i clock).connection? m.connection = none :=
    Option.not_isSome_iff_eq_none.mp fun h => hn (by simpa [names] using (connection?_isSome_iff _ _).mp h)
  simp only [execute, begin, hc]

theorem publishConnection_some (s : State) {n : String} (hn : n ≠ "") :
    s.publishConnection (some n) = match s.connection? n with
      | none => .error (valueError s!"Channel {n} not found")
      | some conn =>
          if !conn.isConnected || conn.channelIsClosed then .error notConnected else .ok conn := by
  unfold publishConnection
  simp only [orElse, if_neg hn]
  rfl

/-- Over every run of a consumer from `__init__` that sets and removes connections,
executes messages and publishes, no two connections share a name;
`remove_connection(n)` raises `KeyError` exactly when the run leaves no connection under
`n`; and `_publish_connection(n)`, for a true `n`, raises `ValueError` naming `n` when
there is none, `RabbitMQException` when the last connection set under `n` is
disconnected or its channel closed, and otherwise returns that connection, with what the
consumer wrote into it. -/
theorem publishConnection_after_run {V : Type} (cfg : Settings) (ops : List (Op V))
    {n : String} (hn : n ≠ "") :
    (({} : State).runOps cfg ops).names.Nodup ∧
      ((({} : State).runOps cfg ops).removeConnection n = .error keyError ↔
        ops.foldl Op.assign (fun _ => none) n = none) ∧
      ((({} : State).runOps cfg ops).publishConnection (some n)).map Connection.link =
        match ops.foldl Op.assign (fun _ => none) n with
        | none => .error (valueError s!"Channel {n} not found")
        | some c => if !c.isConnected || c.channelIsClosed then .error notConnected else .ok c := by
  obtain ⟨hnodup, hlinks⟩ := runOps_links cfg {} List.nodup_nil ops
  rw [links_init] at hlinks
  refine ⟨hnodup, ?_, ?_⟩
  · rw [removeConnection_eq, ← hlinks, links_eq_none_iff]
    split <;> simp_all
  · rw [← hlinks, publishConnection_some _ hn]
    unfold links
    split <;> rename_i hc <;> simp only [hc, Option.map]
    · rfl
    · rename_i conn
      rw [show (!conn.link.isConnected || conn.link.channelIsClosed) =
        (!conn.isConnected || conn.channelIsClosed) from rfl]
      split_ifs <;> rfl

/-- The process sets a connection that is down and another one, takes the first back,
and sets it again once it is up. -/
def reconnection : List (Op Unit) :=
  [.setConnection { name := "a", isConnected := false }, .setConnection { name := "b" },
   .removeConnection "a", .setConnection { name := "a" }]

theorem publishConnection_after_reconnection :
    "a" ≠ "" ∧ (({} : State).runOps { name := "C" } reconnection).names.Nodup ∧
      ((({} : State).runOps { name := "C" } reconnection).removeConnection "a" = .error keyError ↔
        reconnection.foldl Op.assign (fun _ => none) "a" = none) ∧
      ((({} : State).runOps { name := "C" } reconnection).publishConnection (some "a")).map
          Connection.link =
        match reconnection.foldl Op.assign (fun _ => none) "a" with
        | none => .error (valueError "Channel a not found")
        | some c => if !c.isConnected || c.channelIsClosed then .error notConnected else .ok c :=
  ⟨by decide, publishConnection_after_run { name := "C" } reconnection (by decide)⟩

/-- Over every run from `__init__`, `execute` of a message whose connection the run
leaves unset, never set or removed since, raises `KeyError` before any hook runs or
anything is published. By then it has made the message current, pointed the consumer
at the measurement and recorded the message's age in it: the state is the one the first
steps of `execute` leave. -/
theorem execute_of_unset_connection {V : Type} (cfg : Settings) (ops : List (Op V))
    (m : Message) (hm : ops.foldl Op.assign (fun _ => none) m.connection = none) (i : Nat)
    (clock : Clock) (hooks : Hooks) :
    ((({} : State).runOps cfg ops).execute cfg m i clock hooks).2 = .error keyError ∧
      ((({} : State).runOps cfg ops).execute cfg m i clock hooks).1 =
        (({} : State).runOps cfg ops).assign cfg m i clock := by
  obtain ⟨-, hlinks⟩ := runOps_links cfg {} List.nodup_nil ops
  rw [links_init] at hlinks
  have hn : m.connection ∉ (({} : State).runOps cfg ops).names :=
    (links_eq_none_iff _ _).mp ((congrFun hlinks m.connection).trans hm)
  rw [execute_of_unregistered hn]
  exact ⟨rfl, rfl⟩

/-- The process sets the connection `c` and takes it back. -/
def removal : List (Op Unit) := [.setConnection { name := "c" }, .removeConnection "c"]

theorem execute_of_removed_connection :
    removal.foldl Op.assign (fun _ => none) textCounterMessage.connection = none ∧
      ((({} : State).runOps { name := "C" } removal).execute { name := "C" } textCounterMessage 0
          {} {}).2 = .error keyError ∧
      ((({} : State).runOps { name := "C" } removal).execute { name := "C" } textCounterMessage 0
          {} {}).1 =
        (({} : State).runOps { name := "C" } removal).assign { name := "C" } textCounterMessage 0 {} :=
  ⟨rfl, execute_of_unset_connection { name := "C" } removal textCounterMessage rfl 0 {} {}⟩

theorem futures_clearConfirmationFutures (s : State) :
    s.clearConfirmationFutures.futures = fun n => (s.futures n).map fun _ => [] := by
  funext n
  simp only [futures, connection?, clearConfirmationFutures, List.find?_map, Option.map_map]
  rfl

theorem futures_begin (s : State) (cfg m i clock) :
    (s.begin cfg m i clock).1.futures = s.futures :=
  funext (map_connection?_begin (·.confirmations) (fun _ _ => rfl) s cfg m i clock)

theorem Handler.outcome_ne_messageAck (h : Handler) : h.outcome ≠ .messageAck := by
  cases h <;> decide

theorem checkType_snd_ne {s : State} {cfg m clock} {r : State × Except PyExc Outcome}
    (h : s.checkType cfg m clock = some r) : r.2 ≠ .ok .messageAck := by
  unfold checkType at h
  split at h
  · split at h <;> cases h <;> simp
  · cases h

theorem checkRetries_snd_ne {s : State} {cfg m clock} {r : State × Except PyExc Outcome}
    (h : s.checkRetries cfg m clock = some r) : r.2 ≠ .ok .messageAck := by
  unfold checkRetries at h
  split at h
  · cases h
  · split at h
    · cases h; simp
    · split at h <;> cases h
      simp

theorem catchEnding_snd_ne (s : State) (cfg m i) (r : Ending) :
    (s.catchEnding cfg m i r).2 ≠ .ok (some .messageAck) := by
  rw [catchEnding_snd]
  split
  · simp
  · split <;> simp [Handler.outcome_ne_messageAck]

theorem finishUp_futures (s : State) (hooks : Hooks) {r : Except PyExc (Option Outcome)}
    (hr : r ≠ .ok (some .messageAck)) :
    ((s.finishUp hooks r).2 = .ok .messageAck ∧
        (s.finishUp hooks r).1.futures = fun n => (s.futures n).map fun _ => []) ∨
      ((s.finishUp hooks r).2 ≠ .ok .messageAck ∧ (s.finishUp hooks r).1.futures = s.futures) := by
  have hf := futures_of_connections (finish_connections s hooks.onFinish)
  unfold finishUp
  split <;> rename_i heq <;> rw [heq] at hf
  · exact .inr ⟨Except.noConfusion, hf⟩
  · exact .inr ⟨Except.noConfusion, hf⟩
  · exact .inr ⟨fun h => hr (by cases h; rfl), hf⟩
  · exact .inl ⟨rfl, by rw [futures_clearConfirmationFutures, hf]⟩

end State

end Rejected
