import Rejected.Smart.Publish
import Rejected.Consumer.Execute

/-!
# Replying to the current message

`rpc_reply` tests its `reply_to` argument and the message's with `is None`, but picks
the exchange and the routing key with `or`, so an empty string falls back to the
message's value. It fills in the properties the reply lacks, the correlation id only
when the message has a true `message_id`, and calls the instance's own
`publish_message` with the connection name as the fifth positional argument. For the
base class that argument is `channel`, which it treats as the connection; for
`SmartConsumer` it is `no_serialization`.

The message properties go through `utils.MessageProperty`, which is not among the
sources; here they are read off the current message, which must be set. `rpc_reply`
fills the dict the caller passed in place; the model computes the filled properties as
a value and does not track the caller's dict.
-/
namespace Rejected

/-- The `publish_message` an instance has: the base class's, or `SmartConsumer`'s over
its libraries. -/
inductive Publisher (V : Type) where
  | base
  | smart (lib : Library V)

def Publisher.isSmart {V : Type} : Publisher V → Bool
  | .base => false
  | .smart _ => true

namespace State

variable {V : Type}

/-- `publish_message(exchange, routing_key, properties, body, connection=connection)`
on an instance with publisher `pub`. -/
def publishWith (pub : Publisher V) (s : State) (exchange : String) (routingKey : Option String)
    (properties : Properties) (body : PyVal V) (connection : Option String) (elapsed : ℚ) :
    State × Except PyExc (Option Nat) :=
  match pub with
  | .base => s.publishMessage exchange routingKey properties body none connection elapsed
  | .smart lib =>
      Smart.publishMessage lib s exchange routingKey properties body false false none connection
        elapsed

/-- The properties `rpc_reply` publishes: `properties or {}` with `app_id`,
`correlation_id`, `message_id` and `timestamp` set where they are not true, the
correlation id only from a true `message_id` of the message. -/
def replyProperties (cfg : Settings) (m : Message) (clock : Clock) (properties : Option Properties) :
    Properties :=
  let p := properties.getD {}
  let p := if truthy p.appId then p else { p with appId := some cfg.name }
  let p := if !truthy p.correlationId && truthy m.properties.messageId then
      { p with correlationId := m.properties.messageId }
    else p
  let p := if truthy p.messageId then p else { p with messageId := some clock.uuid }
  if p.timestamp.any (· ≠ 0) then p
  else { p with timestamp := some (clock.now.num.tdiv clock.now.den) }

/-- The properties the documentation describes, field by field: each of `app_id`,
`message_id` and `timestamp` the reply's own where true, else filled in, and
`correlation_id` the message's `message_id` where the reply has none true and the
message has one. -/
def filledProperties (cfg : Settings) (m : Message) (clock : Clock)
    (properties : Option Properties) : Properties :=
  let p := properties.getD {}
  { p with
    appId := if truthy p.appId then p.appId else some cfg.name
    correlationId := if !truthy p.correlationId && truthy m.properties.messageId then
        m.properties.messageId
      else p.correlationId
    messageId := if truthy p.messageId then p.messageId else some clock.uuid
    timestamp := if p.timestamp.any (· ≠ 0) then p.timestamp
      else some (clock.now.num.tdiv clock.now.den) }

/-- The four assignments of `rpc_reply` touch four fields, so made one after another
they fill each field as if alone. -/
theorem replyProperties_eq_filled (cfg : Settings) (m : Message) (clock : Clock)
    (properties : Option Properties) :
    replyProperties cfg m clock properties = filledProperties cfg m clock properties := by
  unfold replyProperties filledProperties
  generalize properties.getD {} = p
  cases h1 : truthy p.appId <;> cases h2 : truthy p.correlationId <;>
    cases h3 : truthy m.properties.messageId <;> cases h4 : truthy p.messageId <;>
    simp only [h1, h2, h3, h4, if_true, if_false, Bool.false_eq_true, Bool.not_true,
      Bool.not_false, Bool.true_and, Bool.false_and] <;> split <;> simp_all

/-- `rpc_reply(body, properties, exchange, reply_to, connection)`. -/
def rpcReply (pub : Publisher V) (s : State) (cfg : Settings) (clock : Clock) (body : PyVal V)
    (properties : Option Properties) (exchange replyTo connection : Option String) (elapsed : ℚ) :
    State × Except PyExc (Option Nat) :=
  match s.message with
  | none => (s, .error attributeError)
  | some m =>
      if replyTo.isNone && m.properties.replyTo.isNone then
        (s, .error (valueError "Missing reply_to routing key"))
      else
        let p := replyProperties cfg m clock properties
        let x := (orElse exchange (some m.exchange)).getD m.exchange
        let r := orElse replyTo m.properties.replyTo
        match pub with
        | .base => s.publishMessage x r p body connection none elapsed
        | .smart lib =>
            Smart.publishMessage lib s x r p body (truthy connection) false none none elapsed

/-- A reply as the documentation describes it: to the exchange and routing key given,
else the message's, through the instance's own `publish_message` on the connection
given. -/
def rpcReplySpec (pub : Publisher V) (s : State) (cfg : Settings) (clock : Clock) (body : PyVal V)
    (properties : Option Properties) (exchange replyTo connection : Option String) (elapsed : ℚ) :
    State × Except PyExc (Option Nat) :=
  match s.message with
  | none => (s, .error attributeError)
  | some m =>
      if replyTo.isNone && m.properties.replyTo.isNone then
        (s, .error (valueError "Missing reply_to routing key"))
      else
        s.publishWith pub (exchange.getD m.exchange) (replyTo.or m.properties.replyTo)
          (filledProperties cfg m clock properties) body connection elapsed

theorem orElse_of_ne_empty {x : Option String} (h : x ≠ some "") (y : Option String) :
    orElse x y = x.or y := by
  rcases x with _ | x
  · rfl
  · simp_all [orElse]

/-- The base class reads its `channel` as the connection: naming the connection either
way publishes alike, unless the name is the empty string. -/
theorem publishMessage_channel_eq_connection {s : State} {exchange : String}
    {routingKey : Option String} {properties : Properties} {body : PyVal V}
    {connection : Option String} (h : connection ≠ some "") (elapsed : ℚ) :
    s.publishMessage exchange routingKey properties body connection none elapsed =
      s.publishMessage exchange routingKey properties body none connection elapsed := by
  rw [publishMessage, publishMessage, orElse_of_ne_empty h]
  rcases connection with _ | c <;> rfl

/-- For arguments that are `None` or not empty, and no connection name for a
`SmartConsumer`, `rpc_reply` publishes as its documentation says. -/
theorem rpcReply_eq_spec (pub : Publisher V) (s : State) (cfg : Settings) (clock : Clock)
    (body : PyVal V) (properties : Option Properties) {exchange replyTo connection : Option String}
    (hx : exchange ≠ some "") (hr : replyTo ≠ some "") (hn : connection ≠ some "")
    (hsmart : pub.isSmart = true → connection = none) (elapsed : ℚ) :
    s.rpcReply pub cfg clock body properties exchange replyTo connection elapsed =
      s.rpcReplySpec pub cfg clock body properties exchange replyTo connection elapsed := by
  unfold rpcReply rpcReplySpec
  rcases s.message with _ | m
  · rfl
  · have hx' : (orElse exchange (some m.exchange)).getD m.exchange = exchange.getD m.exchange := by
      rw [orElse_of_ne_empty hx]
      rcases exchange <;> rfl
    simp only [hx', orElse_of_ne_empty hr, replyProperties_eq_filled]
    split
    · rfl
    · cases pub with
      | base => exact publishMessage_channel_eq_connection hn elapsed
      | smart lib => rw [hsmart rfl]; rfl

/-- A request whose `message_id` is the empty string, with a `reply_to`. -/
def emptyIdRequest : Message :=
  { connection := "c", deliveryTag := 0, exchange := "x", routingKey := "rpc", body := [],
    properties := { messageId := some "", replyTo := some "q" } }

/-- The consumer of `Smart.sampleState` executing that request. -/
def replyingState : State := { Smart.sampleState with message := some emptyIdRequest }

theorem rpcReply_eq_spec_on_request :
    replyingState.rpcReply (.base : Publisher Unit) { name := "Responder" } { now := 5, uuid := "u" }
        (.str "ok") none none none (some "c") 0 =
      replyingState.rpcReplySpec (.base : Publisher Unit) { name := "Responder" } { now := 5, uuid := "u" }
        (.str "ok") none none none (some "c") 0 :=
  rpcReply_eq_spec .base replyingState { name := "Responder" } { now := 5, uuid := "u" } (.str "ok")
    none (by decide) (by decide) (by decide) (fun h => by cases h) 0

/-- A reply to a request whose `message_id` is the empty string, with no properties
given, goes out with no `correlation_id`. -/
theorem rpcReply_leaves_correlation_id_unset :
    ((replyingState.rpcReply (.base : Publisher Unit) { name := "Responder" }
      { now := 5, uuid := "u" } (.str "ok") none none none none 0).1.published.map
        (·.properties.correlationId)) = [none] :=
  rfl

end State

end Rejected
