import Rejected.Consumer.Execute

/-!
# The lifecycle of every execution

What one `execute` call does, stated from the configuration, the message, the hooks
and the connections by name alone, with no state threaded through: which user code it
enters, what it publishes and what it returns. What `prepare` and `process` publish
themselves goes out first, as the connections say each of their publishes does; the
consumer's own copy of a failed or dropped message follows. The finished flag, the `finally` clause and the order
of the `except` clauses are what make the faithful model meet it, from any state the
consumer is left in, so it holds along every run of executions.

The filters test Python truthiness: an empty accepted type or type list, an empty drop
exchange and a maximum retry count of `0` all count as not configured. A retry counter
that Python cannot compare with an integer makes the check raise `TypeError`; that
case is left out of the lifecycle.
-/
namespace Rejected

/-- The poison-message verdict on a counter that is a number: `some text` when it
reaches the limit, `text` being how it is formatted in the drop reason. -/
def Settings.retryExceeded? (cfg : Settings) (m : Message) : Option String :=
  match cfg.retryCheck? m with
  | some (n, v) =>
      match v.number? with
      | some (c, text) => if n ≤ c then some text else none
      | none => none
  | none => none

/-- The check compares a number, whenever it compares at all. -/
def Settings.CounterComparable (cfg : Settings) (m : Message) : Prop :=
  ∀ n v, cfg.retryCheck? m = some (n, v) → v.number?.isSome

instance (cfg : Settings) (m : Message) : Decidable (cfg.CounterComparable m) :=
  decidable_of_iff ((cfg.retryCheck? m).all fun p => p.2.number?.isSome) <| by
    unfold Settings.CounterComparable
    rcases cfg.retryCheck? m with _ | ⟨n, v⟩ <;> simp

/-- The copy of a dropped message `_republish_dropped_message` publishes. -/
def dropCopy (cfg : Settings) (m : Message) (reason timestamp : String) : Publish :=
  ⟨m.connection, cfg.dropExchange.getD "", some m.routingKey, .bytes m.body,
    withHeaders m.properties (droppedHeaders cfg.name reason timestamp m.exchange)⟩

/-- The reference lifecycle of one `execute(m)` that takes the consumer from `s` to `s'`
with result `r`: a message the type filter turns away, a message at its retry limit,
or one handed to `prepare` and `process`, which publish what their own publishes put on
the wire before the `except` clauses publish theirs. -/
def Lifecycle (cfg : Settings) (m : Message) (clock : Clock) (hooks : Hooks) (s s' : State)
    (r : Except PyExc Outcome) : Prop :=
  if cfg.rejectsType m then
    s'.calls = s.calls ∧
      s'.published = s.published ++ (if cfg.dropInvalid && truthy cfg.dropExchange then
        [dropCopy cfg m "invalid type" clock.utcnow] else []) ∧
      r = .ok (if cfg.dropInvalid then .messageDrop else .messageException)
  else match cfg.retryExceeded? m with
    | some text =>
        s'.calls = s.calls ∧
          s'.published = s.published ++ (if truthy cfg.dropExchange then
            [dropCopy cfg m s!"max retries ({text})" clock.utcnow] else []) ∧
          r = .ok .messageDrop
    | none =>
        s'.calls = s.calls ++ [.prepare] ++ (if hooks.runsProcess then [.process] else []) ++
            [.onFinish] ∧
          s'.published = s.published ++ hooks.sent s.links m ++ hooks.ending.errorCopies cfg m ∧
          r = hooks.ending.result

namespace State

@[simp] theorem republishDroppedMessage_published (s : State) (cfg m reason timestamp) :
    (s.republishDroppedMessage cfg m reason timestamp).published =
      s.published ++ [dropCopy cfg m reason timestamp] := rfl

@[simp] theorem republishDroppedMessage_calls (s : State) (cfg m reason timestamp) :
    (s.republishDroppedMessage cfg m reason timestamp).calls = s.calls := rfl

@[simp] theorem republishDroppedMessage_names (s : State) (cfg m reason timestamp) :
    (s.republishDroppedMessage cfg m reason timestamp).names = s.names := rfl

theorem execute_of_registered {s : State} {m : Message} (h : m.connection ∈ s.names)
    (cfg i clock hooks) :
    s.execute cfg m i clock hooks = (s.begin cfg m i clock).1.afterBegin cfg m i clock hooks := by
  simp [execute, begin_snd, h]

theorem checkRetries_of_exceeded {cfg : Settings} {m : Message} {text : String}
    (h : cfg.retryExceeded? m = some text) (s : State) (clock : Clock) :
    s.checkRetries cfg m clock = some (if truthy cfg.dropExchange then
      s.republishDroppedMessage cfg m s!"max retries ({text})" clock.utcnow else s, .ok .messageDrop) := by
  unfold Settings.retryExceeded? at h
  unfold checkRetries
  split at h
  · rename_i n v hr
    simp only [hr]
    split at h
    · rename_i c t hv
      split at h <;> simp_all
    · simp at h
  · simp at h

theorem checkRetries_of_not_exceeded {cfg : Settings} {m : Message}
    (h : cfg.retryExceeded? m = none) (hc : cfg.CounterComparable m) (s : State) (clock : Clock) :
    s.checkRetries cfg m clock = none := by
  unfold Settings.retryExceeded? at h
  unfold checkRetries
  split at h
  · rename_i n v hr
    simp only [hr]
    split at h
    · split at h <;> simp_all
    · simpa [*] using hc n v hr
  · simp [*]

theorem afterBegin_of_exceeded {cfg : Settings} {m : Message} {text : String}
    (hr : cfg.rejectsType m = false) (hx : cfg.retryExceeded? m = some text)
    (t : State) (i clock hooks) :
    t.afterBegin cfg m i clock hooks = (if truthy cfg.dropExchange then
      t.republishDroppedMessage cfg m s!"max retries ({text})" clock.utcnow else t, .ok .messageDrop) := by
  simp [afterBegin, checkType, hr, checkRetries_of_exceeded hx]

theorem afterBegin_of_passes {cfg : Settings} {m : Message} (hr : cfg.rejectsType m = false)
    (hx : cfg.retryExceeded? m = none) (hc : cfg.CounterComparable m) (t : State) (i clock hooks) :
    t.afterBegin cfg m i clock hooks = t.processHooks cfg m i hooks := by
  simp [afterBegin, checkType, hr, checkRetries_of_not_exceeded hx hc]

theorem execute_of_exceeded {s : State} {cfg : Settings} {m : Message} {text : String}
    (hreg : m.connection ∈ s.names) (hr : cfg.rejectsType m = false)
    (hx : cfg.retryExceeded? m = some text) (i clock hooks) :
    (s.execute cfg m i clock hooks).1.calls = s.calls ∧
      (s.execute cfg m i clock hooks).1.published = s.published ++
        (if truthy cfg.dropExchange then [dropCopy cfg m s!"max retries ({text})" clock.utcnow]
          else []) ∧
      (s.execute cfg m i clock hooks).2 = .ok .messageDrop := by
  rw [execute_of_registered hreg, afterBegin_of_exceeded hr hx]
  cases truthy cfg.dropExchange <;> simp

/-- A message the filters pass goes through the hooks, whatever `on_finish` does. -/
theorem execute_of_passes {s : State} {cfg : Settings} {m : Message}
    (hreg : m.connection ∈ s.names) (hr : cfg.rejectsType m = false)
    (hx : cfg.retryExceeded? m = none) (hc : cfg.CounterComparable m) (i clock) (hooks : Hooks) :
    (s.execute cfg m i clock hooks).1.calls =
        s.calls ++ [.prepare] ++ (if hooks.runsProcess then [.process] else []) ++ [.onFinish] ∧
      (s.execute cfg m i clock hooks).1.published =
        s.published ++ hooks.sent s.links m ++ hooks.ending.errorCopies cfg m := by
  rw [execute_of_registered hreg, afterBegin_of_passes hr hx hc,
    processHooks_calls (begin_finished ..),
    processHooks_published (begin_finished ..) (begin_message ..) (begin_measurement ..), links_begin]
  simp

/-- One execution follows the reference lifecycle, whatever state it starts from, unless
the retry check meets a counter Python cannot compare. -/
theorem execute_lifecycle {s : State} {cfg : Settings} {m : Message} {hooks : Hooks}
    (hreg : m.connection ∈ s.names) (hf : hooks.onFinish.ending = .returns)
    (hc : cfg.rejectsType m = true ∨ cfg.CounterComparable m) (i : Nat) (clock : Clock) :
    Lifecycle cfg m clock hooks s (s.execute cfg m i clock hooks).1
      (s.execute cfg m i clock hooks).2 := by
  unfold Lifecycle
  cases hr : cfg.rejectsType m
  · replace hc := hc.resolve_left (by simp [hr])
    cases hx : cfg.retryExceeded? m with
    | some text => exact execute_of_exceeded hreg hr hx i clock hooks
    | none =>
        refine ⟨(execute_of_passes hreg hr hx hc i clock hooks).1,
          (execute_of_passes hreg hr hx hc i clock hooks).2, ?_⟩
        rw [execute_of_registered hreg, afterBegin_of_passes hr hx hc]
        exact processHooks_snd (begin_finished ..) cfg m i hf
  · rw [execute_of_registered hreg]
    simp only [afterBegin, checkType, hr, if_true]
    cases cfg.dropInvalid <;> cases truthy cfg.dropExchange <;> simp

theorem checkType_inv {α : Type} (f : State → α) (hp : ∀ s p, f (s.send p) = f s) {s : State}
    {cfg m clock} {r : State × Except PyExc Outcome} (h : s.checkType cfg m clock = some r) :
    f r.1 = f s := by
  unfold checkType at h
  split at h
  · split at h <;> cases h
    · split
      · exact hp _ _
      · rfl
    · rfl
  · cases h

theorem checkRetries_inv {α : Type} (f : State → α) (hp : ∀ s p, f (s.send p) = f s)
    {s : State} {cfg m clock} {r : State × Except PyExc Outcome}
    (h : s.checkRetries cfg m clock = some r) : f r.1 = f s := by
  unfold checkRetries at h
  split at h
  · cases h
  · split at h
    · cases h; rfl
    · split at h <;> cases h
      split
      · exact hp _ _
      · rfl

theorem afterBegin_inv {α : Type} (f : State → α) (hp : ∀ s p, f (s.send p) = f s)
    {cfg m i clock hooks} (hh : ∀ t : State, f (t.processHooks cfg m i hooks).1 = f t)
    (t : State) : f (t.afterBegin cfg m i clock hooks).1 = f t := by
  unfold afterBegin
  split
  · exact checkType_inv f hp ‹_›
  · split
    · exact checkRetries_inv f hp ‹_›
    · exact hh t

theorem execute_names (s : State) (cfg m i clock hooks) :
    (s.execute cfg m i clock hooks).1.names = s.names := by
  unfold execute; dsimp only
  split
  · exact begin_names s cfg m i clock
  · rw [afterBegin_inv names (fun _ _ => rfl) (processHooks_names · cfg m i hooks), begin_names]

/-- One message handed to `execute`, with its measurement, the clock and the user code. -/
structure Delivery where
  message : Message
  measurement : Nat
  clock : Clock := {}
  hooks : Hooks := {}

/-- Deliveries executed one after another on one consumer: each delivery with the state
before and after its execution, and the result. -/
def run (s : State) (cfg : Settings) : List Delivery →
    List (Delivery × State × State × Except PyExc Outcome)
  | [] => []
  | d :: ds =>
      let r := s.execute cfg d.message d.measurement d.clock d.hooks
      (d, s, r.1, r.2) :: r.1.run cfg ds

/-- Every execution of every run follows the reference lifecycle: the finished flag
`_clear` resets keeps `on_finish` to one call per message however often the hooks
call `finish()`. -/
theorem run_follows_lifecycle (s : State) (cfg : Settings) (ds : List Delivery)
    (hds : ∀ d ∈ ds, d.message.connection ∈ s.names ∧ d.hooks.onFinish.ending = .returns ∧
      cfg.CounterComparable d.message) :
    ∀ x ∈ s.run cfg ds, Lifecycle cfg x.1.message x.1.clock x.1.hooks x.2.1 x.2.2.1 x.2.2.2 := by
  induction ds generalizing s with
  | nil => simp [run]
  | cons d ds ih =>
      obtain ⟨hreg, hf, hc⟩ := hds d (List.mem_cons_self _ _)
      simp only [run, List.mem_cons, forall_eq_or_imp]
      refine ⟨execute_lifecycle hreg hf (.inr hc) _ _, ih _ fun d' hd' => ?_⟩
      rw [execute_names]
      exact hds d' (List.mem_cons_of_mem _ hd')

/-- The consumer the deliveries below go to: type `t` only, invalid messages dropped to
`dead`, at most two retries. -/
def lifecycleSettings : Settings :=
  { name := "C", messageType := some (.one "t"), dropInvalid := true,
    dropExchange := some "dead", errorMaxRetry := some 2 }

/-- A message of a type the filter turns away, one at its retry limit, one whose
`prepare` publishes and then raises `ValueError`, and one whose `prepare` calls
`finish()` twice. -/
def lifecycleDeliveries : List Delivery :=
  [⟨⟨"c", 1, "x", "rk", false, [], { type := some "u" }⟩, 0, {}, {}⟩,
   ⟨⟨"c", 2, "x", "rk", true, [],
      { type := some "t", headers := some (Headers.empty.set processingExceptionsKey (.int 2)) }⟩,
      1, {}, {}⟩,
   ⟨⟨"c", 3, "x", "rk", false, [], { type := some "t" }⟩, 2, {},
      { prepare := { actions := [.publish "audit" none {} (.bytes []) none none 0],
                     ending := .raises (valueError "") } }⟩,
   ⟨⟨"c", 4, "x", "rk", false, [], { type := some "t" }⟩, 3, {},
      { prepare := { actions := [.finish, .finish] } }⟩]

theorem run_follows_lifecycle_mixed :
    (∀ d ∈ lifecycleDeliveries,
        d.message.connection ∈ ({ connections := [{ name := "c" }] } : State).names ∧
        d.hooks.onFinish.ending = .returns ∧ lifecycleSettings.CounterComparable d.message) ∧
      ∀ x ∈ ({ connections := [{ name := "c" }] } : State).run lifecycleSettings lifecycleDeliveries,
        Lifecycle lifecycleSettings x.1.message x.1.clock x.1.hooks x.2.1 x.2.2.1 x.2.2.2 :=
  have h : ∀ d ∈ lifecycleDeliveries,
      d.message.connection ∈ ({ connections := [{ name := "c" }] } : State).names ∧
      d.hooks.onFinish.ending = .returns ∧ lifecycleSettings.CounterComparable d.message := by
    decide
  ⟨h, run_follows_lifecycle _ _ _ h⟩

/-- An empty list of accepted types turns nothing away: `prepare` and `process` run
for a message of any type. -/
theorem execute_empty_type_list_runs_hooks :
    (TypeFilter.many []).supports (some "t") = false ∧
      (({ connections := [{ name := "c" }] } : State).execute
        { name := "C", messageType := some (.many []) }
        ⟨"c", 0, "x", "rk", false, [], { type := some "t" }⟩ 0 {} {}).1.calls =
        [.prepare, .process, .onFinish] := by
  decide

/-- A message whose retry counter a publisher sent as text. -/
def textCounterMessage : Message :=
  ⟨"c", 0, "x", "rk", false, [],
    { headers := some (Headers.empty.set processingExceptionsKey (.str "3")) }⟩

/-- The same `ValueError` of `on_finish`, raised first through a `finish()` that
`process` calls and does not catch, then through the `finish()` of the `finally`
clause: the `except Exception` clause catches the first, and the second leaves
`execute`. -/
theorem execute_propagates_on_finish_error :
    (({ connections := [{ name := "c" }] } : State).execute { name := "C" }
        ⟨"c", 0, "x", "rk", false, [], {}⟩ 0 {}
        { process := { actions := [.finish], ending := .raises (valueError "") },
          onFinish := { ending := .raises (valueError "") } }).2 = .ok .unhandledException ∧
      (({ connections := [{ name := "c" }] } : State).execute { name := "C" }
        ⟨"c", 0, "x", "rk", false, [], {}⟩ 0 {}
        { onFinish := { ending := .raises (valueError "") } }).2 = .error (valueError "") :=
  ⟨rfl, rfl⟩

end State

end Rejected
