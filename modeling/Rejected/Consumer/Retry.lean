import Rejected.Consumer.Lifecycle

/-!
# Poison messages across redeliveries

A message whose `process` raises `ProcessingException` goes to the error exchange with
its retry counter one higher. When the copy comes back it is executed again, and once
the counter reaches `ERROR_MAX_RETRY` it is dropped before any hook runs.

A run here is a message and the copies of it the consumer receives after it, each one
a message its previous execution published to the error exchange. Below the limit a
copy differs from the original only in the counter and the error tag. From the limit
on nothing runs a hook, also when the drop exchange is the error exchange and the
dropped copy comes back.

Whatever the hooks do, a copy the consumer sends back keeps the type the filter turned
away, keeps the counter it was dropped at, or carries the integer counter
`_republish_processing_error` writes; so when no hook publishes to the error exchange
itself, every execution of a run follows the lifecycle, and the retry check never
raises `TypeError` on a copy.
-/
namespace Rejected

/-- One execution of a copy: the tag the broker gives the copy it publishes, the
measurement, the clock and the hooks. -/
structure Attempt where
  deliveryTag : Nat
  measurement : Nat
  clock : Clock := {}
  hooks : Hooks := {}

/-- One execution of a run: the message, the consumer before and after, the result. -/
structure Execution where
  message : Message
  before : State
  after : State
  result : Except PyExc Outcome

/-- `prepare` returns without finishing the message, and `process` raises `e`, which
the `ProcessingException` clause catches. -/
def Hooks.FailsWith (hooks : Hooks) (e : PyExc) : Prop :=
  hooks.runsProcess = true ∧ hooks.process.ending = .raises e ∧ e.cls.handler? = some .processing

/-- A call of `prepare` or `process` that publishes to `exchange`. -/
def Action.publishesTo (exchange : String) : Action → Bool
  | .publish e _ _ _ _ _ _ => e == exchange
  | _ => false

/-- `prepare` and `process` publish nothing to `exchange` themselves. -/
def Hooks.PublishNothingTo (hooks : Hooks) (exchange : String) : Prop :=
  ∀ x ∈ hooks.prepare.actions ++ hooks.process.actions, x.publishesTo exchange = false

instance (hooks : Hooks) (exchange : String) : Decidable (hooks.PublishNothingTo exchange) :=
  inferInstanceAs (Decidable (∀ x ∈ _, _))

/-- `m` is `m0` come back with its counter at `c` (absent when `c = 0`): only the
counter and the error tag differ. -/
structure Returned (m0 : Message) (c : Int) (m : Message) : Prop where
  connection : m.connection = m0.connection
  routingKey : m.routingKey = m0.routingKey
  body : m.body = m0.body
  properties : { m.properties with headers := none } = { m0.properties with headers := none }
  headers : ∀ k, k ≠ processingExceptionsKey → k ≠ processingExceptionKey →
    m.headers.get? k = m0.headers.get? k
  counter : m.headers.get? processingExceptionsKey = some (.int c) ∨
    (m.headers.get? processingExceptionsKey = none ∧ c = 0)

namespace State

/-- What the consumer published between `s` and `t`. -/
def newPublishes (s t : State) : List Publish := t.published.drop s.published.length

/-- A message executed, then each copy an execution publishes to the error exchange
delivered back and executed in turn, one attempt each. The copy is the last message an
execution sends there: the `except` clauses publish after the hooks' own publishes. -/
def retries (s : State) (cfg : Settings) (m : Message) : List Attempt → List Execution
  | [] => []
  | a :: as =>
      let r := s.execute cfg m a.measurement a.clock a.hooks
      ⟨m, s, r.1, r.2⟩ :: match (newPublishes s r.1).reverse.find? (·.exchange == cfg.errorExchange) with
        | some p => r.1.retries cfg (p.deliver a.deliveryTag) as
        | none => []

/-- The consumer at the end of a run from `s`. -/
def afterRun (s : State) (xs : List Execution) : State := (xs.getLast?.map (·.after)).getD s

end State

theorem Settings.rejectsType_congr (cfg : Settings) {m m' : Message}
    (h : m'.properties.type = m.properties.type) : cfg.rejectsType m' = cfg.rejectsType m := by
  simp [Settings.rejectsType, h]

theorem Settings.retryCheck?_congr (cfg : Settings) {m m' : Message}
    (h : m'.headers.get? processingExceptionsKey = m.headers.get? processingExceptionsKey) :
    cfg.retryCheck? m' = cfg.retryCheck? m := by
  unfold Settings.retryCheck?
  rw [h]

theorem Settings.retryExceeded?_congr (cfg : Settings) {m m' : Message}
    (h : m'.headers.get? processingExceptionsKey = m.headers.get? processingExceptionsKey) :
    cfg.retryExceeded? m' = cfg.retryExceeded? m := by
  unfold Settings.retryExceeded?
  rw [cfg.retryCheck?_congr h]

@[simp] theorem deliver_failureCopy_headers (cfg : Settings) (m : Message) (e : PyExc) (t : Nat) :
    ((failureCopy cfg m e).deliver t).headers = errorHeaders (errorTag e) m.headers := rfl

@[simp] theorem deliver_dropCopy_headers (cfg : Settings) (m : Message) (reason ts : String)
    (t : Nat) : ((dropCopy cfg m reason ts).deliver t).headers =
      droppedHeaders cfg.name reason ts m.exchange m.headers := rfl

theorem deliver_dropCopy_counter (cfg : Settings) (m : Message) (reason ts : String) (t : Nat) :
    ((dropCopy cfg m reason ts).deliver t).headers.get? processingExceptionsKey =
      m.headers.get? processingExceptionsKey := by
  rw [deliver_dropCopy_headers]
  exact (droppedHeaders_spec _ _ _ _ _).2.2.2.2 _ (by decide)

theorem Settings.counterComparable_congr (cfg : Settings) {m m' : Message}
    (h : m'.headers.get? processingExceptionsKey = m.headers.get? processingExceptionsKey) :
    cfg.CounterComparable m' ↔ cfg.CounterComparable m := by
  unfold Settings.CounterComparable
  rw [cfg.retryCheck?_congr h]

theorem Settings.counterComparable_of_number (cfg : Settings) {m : Message}
    (h : ∀ v, m.headers.get? processingExceptionsKey = some v → v.number?.isSome) :
    cfg.CounterComparable m := by
  intro n v hv
  unfold Settings.retryCheck? at hv
  split at hv
  · split at hv
    · cases hv
    · cases hv; exact h _ ‹_›
  · cases hv

theorem nextCount_number (h : Headers) : (nextCount h).number?.isSome := by
  unfold nextCount
  split
  · rfl
  · rename_i v _
    rcases hv : v.number? with _ | ⟨c, t⟩ <;> simp only [FieldValue.succ, hv] <;> rfl

theorem deliver_failureCopy_comparable (cfg : Settings) (m : Message) (e : PyExc) (t : Nat) :
    cfg.CounterComparable ((failureCopy cfg m e).deliver t) :=
  cfg.counterComparable_of_number fun v hv => by
    rw [deliver_failureCopy_headers, (errorHeaders_spec _ _).1] at hv
    exact Option.some.inj hv ▸ nextCount_number _

theorem Ending.mem_errorCopies {en : Ending} {cfg : Settings} {m : Message} {p : Publish}
    (h : p ∈ en.errorCopies cfg m) : ∃ e, p = failureCopy cfg m e := by
  cases en with
  | returns => simp [Ending.errorCopies] at h
  | raises e => exact ⟨e, List.mem_singleton.mp (List.mem_ite_nil_right.mp h).2⟩

theorem Action.publishesTo_of_sent {links : String → Option Connection} {m : Message}
    {x : Action} {p : Publish} (h : x.sent links m = some p) : x.publishesTo p.exchange = true := by
  cases x with
  | publish e rk pr b ch co el =>
      simp only [Action.sent] at h
      split at h
      · split at h
        · cases h
        · cases h; simp [Action.publishesTo]
      · cases h
  | _ => simp [Action.sent] at h

theorem Hooks.sent_exchange_ne {hooks : Hooks} {exchange : String}
    (hq : hooks.PublishNothingTo exchange) {links : String → Option Connection} {m : Message}
    {p : Publish} (hp : p ∈ hooks.sent links m) : p.exchange ≠ exchange := by
  obtain ⟨x, hx, hs⟩ : ∃ x ∈ hooks.prepare.actions ++ hooks.process.actions,
      x.sent links m = some p := by
    simp only [Hooks.sent, List.mem_append, List.mem_ite_nil_right, List.mem_filterMap] at hp
    rcases hp with ⟨x, hx, hs⟩ | ⟨-, x, hx, hs⟩
    exacts [⟨x, List.mem_append_left _ hx, hs⟩, ⟨x, List.mem_append_right _ hx, hs⟩]
  rintro rfl
  exact Bool.false_ne_true ((hq x hx).symm.trans (Action.publishesTo_of_sent hs))

theorem Hooks.FailsWith.ending {hooks : Hooks} {e : PyExc} (h : hooks.FailsWith e) :
    hooks.ending = .raises e := by
  simp [Hooks.ending, h.1, h.2.1]

theorem Hooks.FailsWith.errorCopies {hooks : Hooks} {e : PyExc} (h : hooks.FailsWith e)
    (cfg : Settings) (m : Message) : hooks.ending.errorCopies cfg m = [failureCopy cfg m e] := by
  simp [h.ending, Ending.errorCopies, ExcClass.clauseOutcome?_eq, h.2.2, Handler.outcome]

namespace Returned

variable {m0 m : Message} {c : Int}

theorem self (h : m0.headers.get? processingExceptionsKey = some (.int c) ∨
    (m0.headers.get? processingExceptionsKey = none ∧ c = 0)) : Returned m0 c m0 :=
  ⟨rfl, rfl, rfl, rfl, fun _ _ _ => rfl, h⟩

theorem type (hm : Returned m0 c m) : m.properties.type = m0.properties.type := by
  have h := congrArg Properties.type hm.properties
  exact h

/-- The copy a failed execution of a returned message publishes is returned too, one
count higher. -/
theorem failureCopy (hm : Returned m0 c m) (cfg : Settings) (e : PyExc) (t : Nat) :
    Returned m0 (c + 1) ((failureCopy cfg m e).deliver t) where
  connection := hm.connection
  routingKey := hm.routingKey
  body := hm.body
  properties := hm.properties
  headers k h1 h2 := by
    rw [deliver_failureCopy_headers, (errorHeaders_spec _ _).2.2 k h1 h2, hm.headers k h1 h2]
  counter := by
    rw [deliver_failureCopy_headers, (errorHeaders_spec _ _).1]
    rcases hm.counter with h | ⟨h, rfl⟩
    · exact .inl (by rw [nextCount_of_number h rfl])
    · exact .inl (by rw [nextCount_of_none h]; rfl)

section Limit

variable {cfg : Settings} {N : Int} (hN : cfg.errorMaxRetry = some N) (h1 : 1 ≤ N)
include hN h1

theorem retryExceeded?_of_lt (hm : Returned m0 c m) (hlt : c < N) : cfg.retryExceeded? m = none := by
  rcases hm.counter with h | ⟨h, -⟩ <;>
    simp [Settings.retryExceeded?, Settings.retryCheck?, Message.headers, hN, h, FieldValue.number?,
      show N ≠ 0 by omega, show ¬N ≤ c by omega] at *

theorem retryExceeded?_of_le (hm : Returned m0 c m) (hle : N ≤ c) :
    cfg.retryExceeded? m = some (toString c) := by
  rcases hm.counter with h | ⟨-, rfl⟩
  · simp [Settings.retryExceeded?, Settings.retryCheck?, hN, h, FieldValue.number?, hle,
      show N ≠ 0 by omega]
  · omega

theorem counterComparable (hm : Returned m0 c m) : cfg.CounterComparable m := by
  intro n v hv
  rcases hm.counter with h | ⟨h, -⟩ <;>
    simp [Settings.retryCheck?, hN, h, show N ≠ 0 by omega] at hv
  simp [← hv.2, FieldValue.number?]

end Limit

end Returned

namespace State

theorem newPublishes_of_published {s t : State} {ps : List Publish}
    (h : t.published = s.published ++ ps) : newPublishes s t = ps := by
  simp [newPublishes, h]

theorem afterRun_cons (s : State) (x : Execution) (xs : List Execution) :
    afterRun s (x :: xs) = afterRun x.after xs := by
  cases xs <;> simp [afterRun, List.getLast?_cons]

theorem retries_head {s : State} {cfg : Settings} {m : Message} {as : List Attempt}
    {x : Execution} (h : (s.retries cfg m as)[0]? = some x) : x.message = m := by
  cases as <;> simp [retries] at h
  rw [← h]

/-- Below the limit the hooks run, and the copy that comes back is the failed one. -/
theorem retries_cons_of_below {s : State} {cfg : Settings} {m0 m : Message} {c N : Int}
    {e : PyExc} {a : Attempt} (hN : cfg.errorMaxRetry = some N) (h1 : 1 ≤ N) (hlt : c < N)
    (hm : Returned m0 c m) (hreg : m0.connection ∈ s.names) (hr : cfg.rejectsType m0 = false)
    (he : a.hooks.FailsWith e) (as : List Attempt) :
    ∃ t r, s.retries cfg m (a :: as) =
        ⟨m, s, t, r⟩ :: t.retries cfg ((failureCopy cfg m e).deliver a.deliveryTag) as ∧
      t.calls = s.calls ++ [.prepare, .process, .onFinish] ∧ t.names = s.names := by
  obtain ⟨hcalls, hpub⟩ := execute_of_passes (hm.connection ▸ hreg)
    ((cfg.rejectsType_congr hm.type).trans hr) (hm.retryExceeded?_of_lt hN h1 hlt)
    (hm.counterComparable hN h1) a.measurement a.clock a.hooks
  rw [he.errorCopies] at hpub
  refine ⟨(s.execute cfg m a.measurement a.clock a.hooks).1,
    (s.execute cfg m a.measurement a.clock a.hooks).2, ?_, by simpa [he.1] using hcalls,
    execute_names ..⟩
  simp [retries, newPublishes_of_published (hpub.trans (List.append_assoc _ _ _)), failureCopy]

/-- At the limit every execution drops the message before any hook runs, and so does
every execution of a dropped copy that comes back. -/
theorem retries_of_exceeded {cfg : Settings} (s : State) (m : Message)
    (hreg : m.connection ∈ s.names) (hr : cfg.rejectsType m = false)
    (hx : (cfg.retryExceeded? m).isSome) (as : List Attempt) :
    (∀ x ∈ s.retries cfg m as, x.after.calls = x.before.calls ∧ x.result = .ok .messageDrop) ∧
      (afterRun s (s.retries cfg m as)).calls = s.calls := by
  induction as generalizing s m with
  | nil => simp [retries, afterRun]
  | cons a as ih =>
      obtain ⟨text, hx⟩ := Option.isSome_iff_exists.mp hx
      obtain ⟨hcalls, hpub, hres⟩ := execute_of_exceeded hreg hr hx a.measurement a.clock a.hooks
      simp only [retries, afterRun_cons, List.forall_mem_cons]
      split
      · rename_i p hp
        have hp' := List.mem_reverse.mp (List.mem_of_find?_eq_some hp)
        rw [newPublishes_of_published hpub] at hp'
        split at hp'
        · have hpm := List.mem_singleton.mp hp'
          obtain ⟨ih1, ih2⟩ := ih (s.execute cfg m a.measurement a.clock a.hooks).1
            (p.deliver a.deliveryTag) (by rw [execute_names, hpm]; exact hreg)
            ((cfg.rejectsType_congr (by rw [hpm]; rfl)).trans hr)
            (by rw [hpm, cfg.retryExceeded?_congr (deliver_dropCopy_counter ..), hx]; rfl)
          exact ⟨⟨⟨hcalls, hres⟩, ih1⟩, ih2.trans hcalls⟩
        · simp at hp'
      · simp [afterRun, hcalls, hres]

section Limit

variable {cfg : Settings} {m0 : Message} {N : Int} (hN : cfg.errorMaxRetry = some N) (h1 : 1 ≤ N)
  (hr : cfg.rejectsType m0 = false)
include hN h1 hr

theorem retries_of_limit {s : State} {m : Message} {c : Int} (hm : Returned m0 c m)
    (hreg : m0.connection ∈ s.names) (hle : N ≤ c) (as : List Attempt) :
    (∀ x ∈ s.retries cfg m as, x.after.calls = x.before.calls ∧ x.result = .ok .messageDrop) ∧
      (afterRun s (s.retries cfg m as)).calls = s.calls :=
  retries_of_exceeded s m (hm.connection ▸ hreg) ((cfg.rejectsType_congr hm.type).trans hr)
    (by rw [hm.retryExceeded?_of_le hN h1 hle]; rfl) as

/-- Up to the limit the `k`-th message of a run is the original returned with its
counter `k` higher, and tagged with the exception that sent it back. -/
theorem retries_messages (as : List Attempt) (hfail : ∀ a ∈ as, ∃ e, a.hooks.FailsWith e) :
    ∀ (s : State) (m : Message) (c : Int), Returned m0 c m → m0.connection ∈ s.names →
      (∀ k x, (s.retries cfg m as)[k]? = some x → k ≤ (N - c).toNat →
        Returned m0 (c + k) x.message) ∧
      (∀ k a e y, as[k]? = some a → a.hooks.process.ending = .raises e →
        (s.retries cfg m as)[k + 1]? = some y → k < (N - c).toNat → errorTag e ≠ "" →
        y.message.headers.get? processingExceptionKey = some (.str (errorTag e))) := by
  induction as with
  | nil => simp [retries]
  | cons a as ih =>
      intro s m c hm hreg
      obtain ⟨e, he⟩ := hfail a (List.mem_cons_self _ _)
      by_cases hlt : c < N
      · obtain ⟨t, r, hrun, -, hnames⟩ := retries_cons_of_below hN h1 hlt hm hreg hr he as
        obtain ⟨ih1, ih2⟩ := ih (fun a ha => hfail a (List.mem_cons_of_mem _ ha)) t _ (c + 1)
          (hm.failureCopy cfg e a.deliveryTag) (hnames ▸ hreg)
        rw [hrun]
        refine ⟨fun k x hx hk => ?_, fun k a' e' y ha he' hy hk ht => ?_⟩
        · cases k with
          | zero => simp only [List.getElem?_cons_zero, Option.some.injEq] at hx; simpa [← hx] using hm
          | succ k =>
              have h := ih1 k x (by simpa using hx) (by omega)
              rwa [show c + 1 + (k : Int) = c + ((k + 1 : Nat) : Int) by omega] at h
        · cases k with
          | zero =>
              simp only [List.getElem?_cons_zero, Option.some.injEq] at ha
              rw [← ha, he.2.1, Ending.raises.injEq] at he'
              rw [retries_head (by simpa using hy), deliver_failureCopy_headers, he']
              exact (errorHeaders_spec _ _).2.1 (he' ▸ ht)
          | succ k => exact ih2 k a' e' y (by simpa using ha) he' (by simpa using hy) (by omega) ht
      · refine ⟨fun k x hx hk => ?_, fun k _ _ _ _ _ _ hk => by omega⟩
        obtain rfl : k = 0 := by omega
        simp only [retries, List.getElem?_cons_zero, Option.some.injEq] at hx
        simpa [← hx] using hm

/-- Below the limit each execution runs `prepare`, `process` and `on_finish`; from the
limit on none runs a hook and each drops the message; the first drop comes when the
attempts last that long; and over the run each hook runs once for each count below
the limit. -/
theorem retries_calls (as : List Attempt) (hfail : ∀ a ∈ as, ∃ e, a.hooks.FailsWith e) :
    ∀ (s : State) (m : Message) (c : Int), Returned m0 c m → m0.connection ∈ s.names →
      (∀ x ∈ (s.retries cfg m as).take (N - c).toNat,
        x.after.calls = x.before.calls ++ [.prepare, .process, .onFinish]) ∧
      (∀ x ∈ (s.retries cfg m as).drop (N - c).toNat,
        x.after.calls = x.before.calls ∧ x.result = .ok .messageDrop) ∧
      ((N - c).toNat < as.length → (N - c).toNat < (s.retries cfg m as).length) ∧
      (afterRun s (s.retries cfg m as)).calls = s.calls ++
        (List.replicate (min (N - c).toNat as.length) [.prepare, .process, .onFinish]).flatten := by
  induction as with
  | nil => simp [retries, afterRun]
  | cons a as ih =>
      intro s m c hm hreg
      obtain ⟨e, he⟩ := hfail a (List.mem_cons_self _ _)
      by_cases hlt : c < N
      · obtain ⟨t, r, hrun, hcalls, hnames⟩ := retries_cons_of_below hN h1 hlt hm hreg hr he as
        obtain ⟨ih1, ih2, ih3, ih4⟩ := ih (fun a ha => hfail a (List.mem_cons_of_mem _ ha)) t _
          (c + 1) (hm.failureCopy cfg e a.deliveryTag) (hnames ▸ hreg)
        rw [hrun, show (N - c).toNat = (N - (c + 1)).toNat + 1 by omega]
        refine ⟨List.forall_mem_cons.mpr ⟨hcalls, ih1⟩, ih2, fun h => ?_, ?_⟩
        · simpa using ih3 (by simpa using h)
        · rw [afterRun_cons, ih4, hcalls]
          simp [Nat.succ_min_succ, List.replicate_succ]
      · rw [show (N - c).toNat = 0 by omega]
        obtain ⟨hd, hafter⟩ := retries_of_limit hN h1 hr hm hreg (by omega) (a :: as)
        exact ⟨by simp, by simpa using hd, fun _ => by simp [retries], by simpa using hafter⟩

end Limit

/-- A message failing `process` on every delivery, under the limit `N`, arriving with
the count `c0`: up to the limit its copies count up from `c0`, keep everything else of
the original but the error tag, and are tagged with the exception that sent them back;
the hooks run on the first `N - c0` executions; every later one drops the message
without running a hook; and the drop comes if the deliveries last that long. -/
theorem retries_count_to_limit {s : State} {cfg : Settings} {m0 : Message} {N c0 : Int}
    {as : List Attempt} (hN : cfg.errorMaxRetry = some N) (h1 : 1 ≤ N)
    (hr : cfg.rejectsType m0 = false)
    (hc0 : m0.headers.get? processingExceptionsKey = some (.int c0) ∨
      (m0.headers.get? processingExceptionsKey = none ∧ c0 = 0))
    (hreg : m0.connection ∈ s.names) (hfail : ∀ a ∈ as, ∃ e, a.hooks.FailsWith e) :
    (∀ k x, (s.retries cfg m0 as)[k]? = some x → k ≤ (N - c0).toNat →
      Returned m0 (c0 + k) x.message) ∧
    (∀ k a e y, as[k]? = some a → a.hooks.process.ending = .raises e →
      (s.retries cfg m0 as)[k + 1]? = some y → k < (N - c0).toNat → errorTag e ≠ "" →
      y.message.headers.get? processingExceptionKey = some (.str (errorTag e))) ∧
    (∀ x ∈ (s.retries cfg m0 as).take (N - c0).toNat,
      x.after.calls = x.before.calls ++ [.prepare, .process, .onFinish]) ∧
    (∀ x ∈ (s.retries cfg m0 as).drop (N - c0).toNat,
      x.after.calls = x.before.calls ∧ x.result = .ok .messageDrop) ∧
    ((N - c0).toNat < as.length → (N - c0).toNat < (s.retries cfg m0 as).length) ∧
    (afterRun s (s.retries cfg m0 as)).calls = s.calls ++
      (List.replicate (min (N - c0).toNat as.length) [.prepare, .process, .onFinish]).flatten :=
  have hm := Returned.self hc0
  ⟨(retries_messages hN h1 hr as hfail s m0 c0 hm hreg).1,
    (retries_messages hN h1 hr as hfail s m0 c0 hm hreg).2,
    retries_calls hN h1 hr as hfail s m0 c0 hm hreg⟩

/-- `raise ProcessingException()`. -/
def processingException : PyExc :=
  ⟨{ name := "ProcessingException", processing := true, exception := true,
     handled := fun _ => rfl }, none, ""⟩

/-- Hooks whose `process` raises `ProcessingException`. -/
def failingHooks : Hooks := { process := { ending := .raises processingException } }

theorem retries_count_to_limit_two :
    (({ name := "C", errorMaxRetry := some 2 } : Settings).errorMaxRetry = some 2 ∧ (1 : Int) ≤ 2 ∧
      ({ name := "C", errorMaxRetry := some 2 } : Settings).rejectsType
        ⟨"c", 0, "x", "rk", false, [], {}⟩ = false ∧
      ((⟨"c", 0, "x", "rk", false, [], {}⟩ : Message).headers.get? processingExceptionsKey =
          some (.int 0) ∨
        ((⟨"c", 0, "x", "rk", false, [], {}⟩ : Message).headers.get? processingExceptionsKey = none ∧
          (0 : Int) = 0)) ∧
      "c" ∈ ({ connections := [{ name := "c" }] } : State).names ∧
      ∀ a ∈ ([⟨1, 0, {}, failingHooks⟩, ⟨2, 1, {}, failingHooks⟩, ⟨3, 2, {}, failingHooks⟩] :
        List Attempt), ∃ e, a.hooks.FailsWith e) ∧
    (afterRun { connections := [{ name := "c" }] }
      (({ connections := [{ name := "c" }] } : State).retries { name := "C", errorMaxRetry := some 2 }
        ⟨"c", 0, "x", "rk", false, [], {}⟩
        [⟨1, 0, {}, failingHooks⟩, ⟨2, 1, {}, failingHooks⟩, ⟨3, 2, {}, failingHooks⟩])).calls =
      [] ++ (List.replicate (min ((2 : Int) - 0).toNat 3) [.prepare, .process, .onFinish]).flatten :=
  have hfail : ∀ a ∈ ([⟨1, 0, {}, failingHooks⟩, ⟨2, 1, {}, failingHooks⟩,
      ⟨3, 2, {}, failingHooks⟩] : List Attempt), ∃ e, a.hooks.FailsWith e := by
    simp only [List.mem_cons, List.mem_singleton, List.not_mem_nil, or_false, forall_eq_or_imp,
      forall_eq, and_self]
    exact ⟨processingException, rfl, rfl, rfl⟩
  have hreg : "c" ∈ ({ connections := [{ name := "c" }] } : State).names := by decide
  ⟨⟨rfl, by decide, rfl, .inr ⟨rfl, rfl⟩, hreg, hfail⟩,
    (retries_count_to_limit (by rfl) (by decide) (by rfl) (.inr ⟨by rfl, rfl⟩) hreg hfail).2.2.2.2.2⟩

/-- The copy a failed message comes back as carries a header the original lacks: the
error tag `X-Processing-Exception`. -/
theorem retries_copy_gains_error_tag :
    (⟨"c", 0, "x", "rk", false, [], {}⟩ : Message).headers.get? processingExceptionKey = none ∧
      ((({ connections := [{ name := "c" }] } : State).retries { name := "C", errorMaxRetry := some 2 }
        ⟨"c", 0, "x", "rk", false, [], {}⟩ [⟨1, 0, {}, failingHooks⟩, ⟨2, 1, {}, failingHooks⟩])[1]?.map
          (·.message.headers.get? processingExceptionKey)) =
        some (some (.str "ProcessingException")) := by
  decide

/-- The copy an execution last sends to the error exchange is on the message's connection
and meets both checks without raising: a copy the type filter turned away keeps the
type, one dropped at the limit keeps the counter, and a failed one carries an integer
counter. -/
theorem execute_copy {s : State} {cfg : Settings} {m : Message} {i : Nat} {clock : Clock}
    {hooks : Hooks} {p : Publish} (hreg : m.connection ∈ s.names)
    (hf : hooks.onFinish.ending = .returns)
    (hc : cfg.rejectsType m = true ∨ cfg.CounterComparable m)
    (hq : hooks.PublishNothingTo cfg.errorExchange)
    (hp : (newPublishes s (s.execute cfg m i clock hooks).1).reverse.find?
      (·.exchange == cfg.errorExchange) = some p) (t : Nat) :
    p.connection = m.connection ∧
      (cfg.rejectsType (p.deliver t) = true ∨ cfg.CounterComparable (p.deliver t)) := by
  have hl := execute_lifecycle hreg hf hc i clock
  have hmem := List.mem_reverse.mp (List.mem_of_find?_eq_some hp)
  have hex : p.exchange = cfg.errorExchange := by simpa using List.find?_some hp
  unfold Lifecycle at hl
  cases hr : cfg.rejectsType m
  · replace hc := hc.resolve_left (by simp [hr])
    simp only [hr, Bool.false_eq_true, if_false] at hl
    cases hx : cfg.retryExceeded? m with
    | some text =>
        simp only [hx] at hl
        rw [newPublishes_of_published hl.2.1] at hmem
        obtain rfl := List.mem_singleton.mp (List.mem_ite_nil_right.mp hmem).2
        exact ⟨rfl, .inr ((cfg.counterComparable_congr (deliver_dropCopy_counter ..)).mpr hc)⟩
    | none =>
        simp only [hx] at hl
        rw [newPublishes_of_published (hl.2.1.trans (List.append_assoc _ _ _)),
          List.mem_append] at hmem
        rcases hmem with hmem | hmem
        · exact absurd hex (Hooks.sent_exchange_ne hq hmem)
        · obtain ⟨e, rfl⟩ := Ending.mem_errorCopies hmem
          exact ⟨rfl, .inr (deliver_failureCopy_comparable cfg m e t)⟩
  · simp only [hr, if_true] at hl
    rw [newPublishes_of_published hl.2.1] at hmem
    obtain rfl := List.mem_singleton.mp (List.mem_ite_nil_right.mp hmem).2
    exact ⟨rfl, .inl ((cfg.rejectsType_congr rfl).trans hr)⟩

/-- Every execution of a retry run follows the lifecycle when the first message meets
the checks without raising, every `on_finish` returns and no hook publishes to the error
exchange itself: the copies the consumer sends back never make the retry check raise. -/
theorem retries_follow_lifecycle (s : State) (cfg : Settings) (m : Message) (as : List Attempt)
    (hreg : m.connection ∈ s.names) (hc : cfg.rejectsType m = true ∨ cfg.CounterComparable m)
    (has : ∀ a ∈ as, a.hooks.onFinish.ending = .returns ∧
      a.hooks.PublishNothingTo cfg.errorExchange) :
    ∀ q ∈ (s.retries cfg m as).zip as,
      Lifecycle cfg q.1.message q.2.clock q.2.hooks q.1.before q.1.after q.1.result := by
  induction as generalizing s m with
  | nil => simp [retries]
  | cons a as ih =>
      obtain ⟨hf, hq⟩ := has a (List.mem_cons_self _ _)
      simp only [retries, List.zip_cons_cons, List.forall_mem_cons]
      refine ⟨execute_lifecycle hreg hf hc _ _, ?_⟩
      split
      · rename_i p hp
        obtain ⟨hconn, hc'⟩ := execute_copy hreg hf hc hq hp a.deliveryTag
        refine ih _ _ ?_ hc' fun a ha => has a (List.mem_cons_of_mem _ ha)
        rw [execute_names, show (p.deliver a.deliveryTag).connection = m.connection from hconn]
        exact hreg
      · simp

/-- Hooks whose `process` publishes to an audit exchange, then raises
`ProcessingException`. -/
def auditHooks : Hooks :=
  { process := { actions := [.publish "audit" none {} (.bytes []) none none 0],
                 ending := .raises processingException } }

/-- A run whose first copy fails, and whose later copies reach the limit and are dropped
to the error exchange, so that they come back. -/
theorem retries_follow_lifecycle_dropped_to_errors :
    "c" ∈ ({ connections := [{ name := "c" }] } : State).names ∧
      (({ name := "C", dropExchange := some "errors", errorMaxRetry := some 1 } : Settings).rejectsType
          ⟨"c", 0, "x", "rk", false, [], {}⟩ = true ∨
        ({ name := "C", dropExchange := some "errors", errorMaxRetry := some 1 } : Settings).CounterComparable
          ⟨"c", 0, "x", "rk", false, [], {}⟩) ∧
      (∀ a ∈ ([⟨1, 0, {}, auditHooks⟩, ⟨2, 1, {}, auditHooks⟩, ⟨3, 2, {}, auditHooks⟩] :
          List Attempt), a.hooks.onFinish.ending = .returns ∧
        a.hooks.PublishNothingTo "errors") ∧
      ∀ q ∈ ((({ connections := [{ name := "c" }] } : State).retries
          { name := "C", dropExchange := some "errors", errorMaxRetry := some 1 }
          ⟨"c", 0, "x", "rk", false, [], {}⟩
          [⟨1, 0, {}, auditHooks⟩, ⟨2, 1, {}, auditHooks⟩, ⟨3, 2, {}, auditHooks⟩]).zip
          ([⟨1, 0, {}, auditHooks⟩, ⟨2, 1, {}, auditHooks⟩, ⟨3, 2, {}, auditHooks⟩] : List Attempt)),
        Lifecycle { name := "C", dropExchange := some "errors", errorMaxRetry := some 1 }
          q.1.message q.2.clock q.2.hooks q.1.before q.1.after q.1.result :=
  have hreg : "c" ∈ ({ connections := [{ name := "c" }] } : State).names := by decide
  have hc : ({ name := "C", dropExchange := some "errors", errorMaxRetry := some 1 } :
      Settings).CounterComparable ⟨"c", 0, "x", "rk", false, [], {}⟩ := by decide
  have has : ∀ a ∈ ([⟨1, 0, {}, auditHooks⟩, ⟨2, 1, {}, auditHooks⟩, ⟨3, 2, {}, auditHooks⟩] :
      List Attempt), a.hooks.onFinish.ending = .returns ∧ a.hooks.PublishNothingTo "errors" := by
    decide
  ⟨hreg, .inr hc, has, retries_follow_lifecycle _ _ _ _ hreg (.inr hc) has⟩

end State

end Rejected
