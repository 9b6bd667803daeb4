import Rejected.Consumer.State

/-!
# Republishing dropped and failed messages

`_republish_dropped_message` and `_republish_processing_error` copy the current
message's properties, add headers and publish the original body, with the original
routing key, on the channel the message came on: to the drop exchange with four
diagnostic headers, or to the error exchange with the exception's tag and the retry
counter incremented. They differ only in the exchange and the headers, so both are
one definition with those as parameters.

`dict(self._message.properties)` is a shallow copy, so the headers the source adds
also appear on the current message object; nothing modelled reads them there.
-/
namespace Rejected

def processingExceptionsKey : String := "X-Processing-Exceptions"
def processingExceptionKey : String := "X-Processing-Exception"

/-- The copied properties with their headers changed by `f`. Missing or empty headers
are first replaced by `{}`. -/
def withHeaders (p : Properties) (f : Headers → Headers) : Properties :=
  { p with headers := some (f (p.headers.getD .empty)) }

/-- The four headers `_republish_dropped_message` adds. -/
def droppedHeaders (name reason timestamp exchange : String) (h : Headers) : Headers :=
  (((h.set "X-Dropped-By" (.str name)).set "X-Dropped-Reason" (.str reason)).set
    "X-Dropped-Timestamp" (.str timestamp)).set "X-Original-Exchange" (.str exchange)

namespace State

/-- The shared body of the two republish methods. -/
def republish (s : State) (m : Message) (exchange : String) (f : Headers → Headers) : State :=
  s.send ⟨m.connection, exchange, some m.routingKey, .bytes m.body, withHeaders m.properties f⟩

/-- `_republish_dropped_message(reason)`, at the UTC time `timestamp`. -/
def republishDroppedMessage (s : State) (cfg : Settings) (m : Message)
    (reason timestamp : String) : State :=
  s.republish m (cfg.dropExchange.getD "") (droppedHeaders cfg.name reason timestamp m.exchange)

end State

/-- The retry counter after one more `ProcessingException`: `1` when absent, one more
when it is a number, and `1` again when `+= 1` raises `TypeError`. -/
def nextCount (h : Headers) : FieldValue :=
  match h.get? processingExceptionsKey with
  | none => .int 1
  | some v => match v.succ with
    | .ok w => w
    | .error _ => .int 1

/-- The headers `_republish_processing_error(error)` sets. -/
def errorHeaders (error : String) (h : Headers) : Headers :=
  let h := if error = "" then h else h.set processingExceptionKey (.str error)
  h.set processingExceptionsKey (nextCount h)

/-- `_republish_processing_error(error)`. -/
def State.republishProcessingError (s : State) (cfg : Settings) (m : Message)
    (error : String) : State :=
  s.republish m cfg.errorExchange (errorHeaders error)

@[simp] theorem processingExceptionKey_ne :
    processingExceptionKey ≠ processingExceptionsKey := by decide

theorem nextCount_of_number {h : Headers} {v : FieldValue} {c : Int} {t : String}
    (hv : h.get? processingExceptionsKey = some v) (hc : v.number? = some (c, t)) :
    nextCount h = .int (c + 1) := by
  simp [nextCount, hv, FieldValue.succ, hc]

theorem nextCount_of_none {h : Headers} (hv : h.get? processingExceptionsKey = none) :
    nextCount h = .int 1 := by
  simp [nextCount, hv]

theorem nextCount_of_not_number {h : Headers} {v : FieldValue}
    (hv : h.get? processingExceptionsKey = some v) (hc : v.number? = none) :
    nextCount h = .int 1 := by
  simp [nextCount, hv, FieldValue.succ, hc]

/-- What the failed message's copy carries: the incremented counter, the error tag, and
every other header unchanged. -/
theorem errorHeaders_spec (error : String) (h : Headers) :
    (errorHeaders error h).get? processingExceptionsKey = some (nextCount h) ∧
      (error ≠ "" → (errorHeaders error h).get? processingExceptionKey = some (.str error)) ∧
      ∀ k, k ≠ processingExceptionsKey → k ≠ processingExceptionKey →
        (errorHeaders error h).get? k = h.get? k := by
  have hne := processingExceptionKey_ne
  refine ⟨?_, fun he => ?_, fun k h1 h2 => ?_⟩
  · by_cases he : error = ""
    · simp [errorHeaders, he]
    · simp [errorHeaders, he, nextCount, hne.symm]
  · simp [errorHeaders, he, hne]
  · by_cases he : error = "" <;> simp [errorHeaders, he, h1, h2]

example : nextCount ((Headers.empty.set processingExceptionsKey (.int 3))) = .int 4 := by
  decide

theorem droppedHeaders_spec (name reason timestamp exchange : String) (h : Headers) :
    let d := droppedHeaders name reason timestamp exchange h
    d.get? "X-Dropped-By" = some (.str name) ∧ d.get? "X-Dropped-Reason" = some (.str reason) ∧
      d.get? "X-Dropped-Timestamp" = some (.str timestamp) ∧
      d.get? "X-Original-Exchange" = some (.str exchange) ∧
      ∀ k, k ∉ ["X-Dropped-By", "X-Dropped-Reason", "X-Dropped-Timestamp",
        "X-Original-Exchange"] → d.get? k = h.get? k := by
  refine ⟨?_, ?_, ?_, ?_, fun k hk => ?_⟩ <;> simp_all [droppedHeaders]

namespace State

@[simp] theorem republish_published (s : State) (m : Message) (x : String) (f) :
    (s.republish m x f).published =
      s.published ++ [⟨m.connection, x, some m.routingKey, .bytes m.body, withHeaders m.properties f⟩] :=
  rfl

@[simp] theorem republish_updates (s : State) (m x f) : (s.republish m x f).updates = s.updates :=
  rfl
@[simp] theorem republish_calls (s : State) (m x f) : (s.republish m x f).calls = s.calls := rfl
@[simp] theorem republish_finished (s : State) (m x f) :
    (s.republish m x f).finished = s.finished := rfl
@[simp] theorem republish_message (s : State) (m x f) :
    (s.republish m x f).message = s.message := rfl
@[simp] theorem republish_measurement (s : State) (m x f) :
    (s.republish m x f).measurement = s.measurement := rfl
@[simp] theorem republish_connections (s : State) (m x f) :
    (s.republish m x f).connections = s.connections := rfl

end State

end Rejected
