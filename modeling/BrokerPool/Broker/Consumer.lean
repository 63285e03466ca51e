import BrokerPool.Broker.Step
import BrokerPool.Message.Inbound

/-!
# Consuming

A consumer takes one message at a time. Unless the broker does so by itself, a message is
acknowledged as soon as it is taken, so a message for which the acknowledgement cannot be sent stays
with the broker.
-/

namespace BrokerPool.Broker

open Message (Delivery Inbound Instant)

/-- The part of the service that writes about messages taken. -/
def consumerPart : String := "amqp_lifecycle::roles::consumer"

/-- The circumstances in which a message is taken: the time, and random bits for its identifier. -/
structure Moment where
  random : BitVec 128
  now : Instant
deriving DecidableEq, Repr

/-- The message of a delivery, with the attributes that its properties give. -/
def inbound (moment : Moment) (d : Delivery) : Inbound :=
  .ofBody moment.random moment.now d.body d.attributes

/-- The entry about a queue without messages. -/
def emptyEntry : Log.Entry := Log.entry .debug consumerPart "Queue is empty" []

/-- The entry about a message that was taken. -/
def receivedEntry (m : Inbound) (d : Delivery) : Log.Entry :=
  Log.entry .debug consumerPart "Message received" [
    ⟨"message_id", m.id.text, false⟩, ⟨"bytes", Number.digitText d.body.length, false⟩]

/-- The span of the work on a queue. -/
def fetchSpan (queue : String) : Log.Span := ⟨consumerPart, "fetch", [⟨"queue", queue, false⟩]⟩

/-- Takes at most one message. It is acknowledged unless the broker does so by itself. -/
def Dialogue.fetch (s : Config.Consuming) (moment : Moment) :
    Dialogue (Except Fault (Option Inbound)) :=
  let noted (e : Log.Entry) : List Log.Entry := [e.within (fetchSpan s.queue)]
  .ask (.get s.queue s.autoAck) fun
    | .delivered tag d =>
      let m := inbound moment d
      let received : Dialogue (Except Fault (Option Inbound)) :=
        .ended (noted (receivedEntry m d)) (.ok (some m))
      if s.autoAck then received else .ask (.ack tag false) fun _ => received
    | _ => .ended (noted emptyEntry) (.ok none)

def fetch (s : Config.Consuming) (connection : Nat) (moment : Moment) :
    Peer → Turn Fault (Option Inbound) :=
  (Dialogue.fetch s moment).hold connection

/-- What a consumer does on its channel (`AmqpConsumer`). -/
def consumer (s : Config.Consuming) : Spoken Moment (Option Inbound) where
  name := "consume"
  setup := .setPrefetch s.prefetch false
  talk := .fetch s

/-- The step of the consuming controller (`ConsumeStep`). -/
def consuming (s : Config.Consuming) : Step Moment (Option Inbound) := (consumer s).step

end BrokerPool.Broker
