import BrokerPool.Broker.Step
import BrokerPool.Text.Quoted

/-!
# Publishing

A publisher has every message confirmed. A message that reaches no queue comes back and is confirmed
all the same, which is worth a warning; a message that the broker does not take is an error.
-/

namespace BrokerPool.Broker

open Message (Destination Outbound)

/-- The part of the service that writes about published messages. -/
def publisherPart : String := "amqp_lifecycle::roles::publisher"

/-- A message as it is published (`basic_publish`). -/
def publication (s : Config.Publishing) (m : Outbound) : Publication where
  destination := m.destination s
  mandatory := true
  immediate := false
  properties := m.properties
  body := m.body

/-- The error about a message that the broker does not take. -/
def rejection (d : Destination) : Fault :=
  ⟨"broker rejected message published to exchange '" ++ d.exchange ++ "' with routing key '"
    ++ d.routingKey ++ "'", []⟩

def destinationFields (d : Destination) : List Log.Field :=
  [⟨"exchange", d.exchange, false⟩, ⟨"routing_key", d.routingKey, false⟩]

/-- The entry about a message that came back. -/
def returnedEntry (d : Destination) : Log.Entry :=
  Log.entry .warn publisherPart "Message was not routable and was returned by the broker"
    (destinationFields d)

/-- The entry about a message that was published. -/
def publishedEntry (d : Destination) : Log.Entry :=
  Log.entry .debug publisherPart "Message published" (destinationFields d)

/-- The span of the work on a message. -/
def publishSpan (d : Destination) (m : Outbound) : Log.Span :=
  ⟨publisherPart, "publish", [⟨"exchange", d.exchange, true⟩, ⟨"routing_key", d.routingKey, true⟩,
    ⟨"bytes", Number.digitText m.body.length, false⟩]⟩

/-- Publishes a message and waits for its confirmation. -/
def Dialogue.publish (s : Config.Publishing) (m : Outbound) : Dialogue (Except Fault Unit) :=
  let d := m.destination s
  let noted (e : Log.Entry) : List Log.Entry := [e.within (publishSpan d m)]
  .ask (.publish (publication s m)) fun
    | .nacked => .ended [] (.error (rejection d))
    | .returned => .ended (noted (returnedEntry d)) (.ok ())
    | _ => .ended (noted (publishedEntry d)) (.ok ())

def publish (s : Config.Publishing) (connection : Nat) (m : Outbound) : Peer → Turn Fault Unit :=
  (Dialogue.publish s m).hold connection

/-- What a publisher does on its channel (`AmqpPublisher`). -/
def publisher (s : Config.Publishing) : Spoken Outbound Unit where
  name := "publish"
  setup := .selectConfirm false
  talk := .publish s

/-- The step of the publishing controller (`PublishStep`). -/
def publishing (s : Config.Publishing) : Step Outbound Unit := (publisher s).step

end BrokerPool.Broker
