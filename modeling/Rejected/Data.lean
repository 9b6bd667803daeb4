import Mathlib.Algebra.Order.Ring.Rat
import Mathlib.Data.List.Nodup

/-!
# Messages, properties, exceptions and outcomes

The data a `rejected` consumer receives and hands back. A delivered message carries
AMQP properties; its headers are a table of AMQP field values. The consumer reads one
of them, the retry counter `X-Processing-Exceptions`, and compares and increments it
as Python does: `bool` and `int` are numbers, every other field value raises
`TypeError`. Float and decimal field values are not modelled, nor are the properties
no modelled function reads (priority, user id, expiration, delivery mode).

An exception raised into `Consumer.execute` is described by the handler classes its
class derives from, so a user class with several bases is caught by the first
`except` clause that names one of them. The measurement object
(`rejected.data.Measurement`, not among the sources) is the sequence of updates made
to it.
-/
namespace Rejected

/-- A Python exception class, by the classes of `execute`'s `except` clauses it
derives from. Every one of those derives from `Exception`. -/
structure ExcClass where
  name : String
  rabbitMQ : Bool := false
  configuration : Bool := false
  consumer : Bool := false
  message : Bool := false
  processing : Bool := false
  notImplemented : Bool := false
  exception : Bool
  handled : (rabbitMQ || configuration || consumer || message || processing ||
    notImplemented) = true → exception = true
  deriving DecidableEq

/-- A raised exception: its class, for `RejectedException`s the `metric` attribute used
for auto-instrumentation, and the message the source gives it. -/
structure PyExc where
  cls : ExcClass
  metric : Option String := none
  message : String := ""
  deriving DecidableEq

/-- A built-in exception class deriving from `Exception` and from no handler class. -/
def ExcClass.builtin (name : String) : ExcClass :=
  { name, exception := true, handled := fun _ => rfl }

def typeError : PyExc := { cls := .builtin "TypeError" }
def keyError : PyExc := { cls := .builtin "KeyError" }
def attributeError : PyExc := { cls := .builtin "AttributeError" }

/-- `ValueError(message)`. -/
def valueError (message : String := "") : PyExc := { cls := .builtin "ValueError", message }

/-- `raise errors.RabbitMQException(conn.name, 599, 'NOT_CONNECTED')`. -/
def notConnected : PyExc :=
  ⟨{ name := "RabbitMQException", rabbitMQ := true, exception := true,
     handled := fun _ => rfl }, none, ""⟩

/-- Python's `x or y` on optional strings: `None` and `''` are false. -/
def orElse : Option String → Option String → Option String
  | some s, y => if s = "" then y else some s
  | none, y => y

/-- Truthiness of an optional string. -/
def truthy (x : Option String) : Bool := (orElse x none).isSome

@[simp] theorem truthy_none : truthy none = false := rfl
@[simp] theorem truthy_some (s : String) : truthy (some s) = decide (s ≠ "") := by
  by_cases h : s = "" <;> simp [truthy, orElse, h]

theorem orElse_of_truthy {x : Option String} (h : truthy x = true) (y : Option String) :
    orElse x y = x := by
  cases x with
  | none => simp at h
  | some s => simp_all [orElse]

theorem orElse_of_not_truthy {x : Option String} (h : truthy x = false) (y : Option String) :
    orElse x y = y := by
  cases x with
  | none => rfl
  | some s => simp_all [orElse]

/-- AMQP field values as `pika` decodes them. Arrays and tables are carried by their
wire encoding: the consumer only copies them. -/
inductive FieldValue where
  | void
  | bool (b : Bool)
  | int (i : Int)
  | str (s : String)
  | bytes (b : List UInt8)
  | timestamp (t : Int)
  | array (encoded : List UInt8)
  | table (encoded : List UInt8)
  deriving DecidableEq, Repr

/-- The value as a Python number, with the text `str.format` gives it; `none` for the
values Python refuses to compare with or add to an `int`. -/
def FieldValue.number? : FieldValue → Option (Int × String)
  | .bool b => some (if b then 1 else 0, if b then "True" else "False")
  | .int i => some (i, toString i)
  | _ => none

/-- `value + 1`. -/
def FieldValue.succ (v : FieldValue) : Except PyExc FieldValue :=
  match v.number? with
  | some (c, _) => .ok (.int (c + 1))
  | none => .error typeError

/-- A header table: a Python dict, so no key occurs twice. -/
structure Headers where
  entries : List (String × FieldValue)
  nodup : (entries.map Prod.fst).Nodup
  deriving DecidableEq

namespace Headers

def empty : Headers := ⟨[], List.nodup_nil⟩

def get? (h : Headers) (k : String) : Option FieldValue := h.entries.lookup k

def contains (h : Headers) (k : String) : Bool := (h.get? k).isSome

/-- `h[k] = v`: the entry keeps its place, a new key goes last. -/
def setEntry : List (String × FieldValue) → String → FieldValue → List (String × FieldValue)
  | [], k, v => [(k, v)]
  | (k', v') :: es, k, v => if k' = k then (k, v) :: es else (k', v') :: setEntry es k v

private theorem lookup_cons_of_ne {j k : String} {v : FieldValue}
    {es : List (String × FieldValue)} (h : j ≠ k) : ((k, v) :: es).lookup j = es.lookup j := by
  simp [List.lookup_cons, beq_eq_false_iff_ne.mpr h]

theorem keys_setEntry (es : List (String × FieldValue)) (k : String) (v : FieldValue) :
    (setEntry es k v).map Prod.fst =
      if k ∈ es.map Prod.fst then es.map Prod.fst else es.map Prod.fst ++ [k] := by
  induction es with
  | nil => rfl
  | cons e es ih =>
      by_cases h : e.1 = k
      · simp [setEntry, h]
      · by_cases hk : k ∈ es.map Prod.fst <;> simp_all [setEntry, eq_comm]

def set (h : Headers) (k : String) (v : FieldValue) : Headers :=
  ⟨setEntry h.entries k v, by
    rw [keys_setEntry]
    split
    · exact h.nodup
    · exact h.nodup.append (List.nodup_singleton k) fun a ha hb => by simp_all⟩

@[simp] theorem get?_set_self (h : Headers) (k : String) (v : FieldValue) :
    (h.set k v).get? k = some v := by
  simp only [get?, set]
  induction h.entries with
  | nil => simp [setEntry]
  | cons e es ih =>
      by_cases he : e.1 = k
      · simp [setEntry, he]
      · simpa [setEntry, he, lookup_cons_of_ne (Ne.symm he)] using ih

@[simp] theorem get?_set_of_ne (h : Headers) {k j : String} (v : FieldValue) (hj : j ≠ k) :
    (h.set k v).get? j = h.get? j := by
  simp only [get?, set]
  induction h.entries with
  | nil => simp [setEntry, lookup_cons_of_ne hj]
  | cons e es ih =>
      obtain ⟨k', v'⟩ := e
      by_cases he : k' = k
      · subst he; simp [setEntry, lookup_cons_of_ne hj]
      · simp only [setEntry, he, if_false, List.lookup_cons, ih]

end Headers

/-- The AMQP properties the consumer reads (`rejected.data.Properties`). -/
structure Properties where
  appId : Option String := none
  contentEncoding : Option String := none
  contentType : Option String := none
  correlationId : Option String := none
  messageId : Option String := none
  timestamp : Option Int := none
  headers : Option Headers := none
  replyTo : Option String := none
  type : Option String := none
  deriving DecidableEq

/-- A delivered message (`rejected.data.Message`), named by the connection it came on. -/
structure Message where
  connection : String
  deliveryTag : Nat
  exchange : String
  routingKey : String
  redelivered : Bool := false
  body : List UInt8
  properties : Properties
  deriving DecidableEq

/-- `self.headers`: the message's headers, or an empty dict. -/
def Message.headers (m : Message) : Headers := m.properties.headers.getD .empty

/-- The outcome constants of `rejected.data`. -/
inductive Outcome where
  | messageAck
  | messageDrop
  | messageException
  | consumerException
  | configurationException
  | processingException
  | unhandledException
  | rabbitmqException
  deriving DecidableEq, Repr

inductive StatValue where
  | num (q : ℚ)
  | text (s : String)
  deriving DecidableEq

/-- Modelled from the spec: the `rejected.data.Measurement` methods the consumer calls,
each one update of the per-message accumulator. -/
inductive Update where
  | addDuration (key : String) (duration : ℚ)
  | incr (key : String) (value : Int)
  | setTag (key : String) (value : StatValue)
  | setValue (key : String) (value : StatValue)
  deriving DecidableEq

/-- A Python value handed to or returned by the consumer: `None`, `str`, `bytes`, or
any other object, drawn from `V`. -/
inductive PyVal (V : Type) where
  | none
  | str (s : String)
  | bytes (b : List UInt8)
  | obj (v : V)
  deriving DecidableEq

/-- A body as handed to `basic_publish`: `pika` sends a `str` as its UTF-8 bytes. -/
inductive WireBody where
  | bytes (b : List UInt8)
  | text (s : String)
  deriving DecidableEq

/-- The bytes the broker carries for a body. -/
def WireBody.toBytes : WireBody → List UInt8
  | .bytes b => b
  | .text s => s.toUTF8.data.toList

/-- One `basic_publish` on the channel of the named connection. -/
structure Publish where
  connection : String
  exchange : String
  routingKey : Option String
  body : WireBody
  properties : Properties
  deriving DecidableEq

/-- The message the broker delivers for a publish, under a delivery tag of its own. -/
def Publish.deliver (p : Publish) (deliveryTag : Nat) : Message :=
  ⟨p.connection, deliveryTag, p.exchange, p.routingKey.getD "", false, p.body.toBytes,
    p.properties⟩

end Rejected
