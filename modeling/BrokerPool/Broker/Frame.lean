import BrokerPool.Config.Address
import BrokerPool.Message.Outbound

/-!
# What a client sends

A client logs in, opens a connection and one channel on it, and prepares the channel for its work.
Then it publishes messages, or takes messages and acknowledges them, and at last it closes the
channel and the connection. All but an acknowledgement is answered.
-/

namespace BrokerPool.Broker

/-- A message on its way to an exchange. -/
structure Publication where
  destination : Message.Destination
  /-- A message that no queue takes is to come back. -/
  mandatory : Bool
  /-- A message that no consumer takes at once is to come back. -/
  immediate : Bool
  properties : Message.Properties
  body : List UInt8

/-- A published message as a broker hands it over that changes nothing about it. -/
def Publication.delivery (p : Publication) (redelivered : Bool) : Message.Delivery where
  body := p.body
  properties := p.properties
  routingKey := p.destination.routingKey
  exchange := p.destination.exchange
  redelivered := redelivered

/-- A frame from a client. -/
inductive Frame
  | logIn (mechanism : Config.Mechanism) (response : List String) (connectionName : String)
  | openConnection (virtualHost : String)
  | openChannel
  /-- Asks for a confirmation of every message published from now on. -/
  | selectConfirm (noWait : Bool)
  /-- Says how many messages may be unacknowledged, on the channel or on the whole connection. -/
  | setPrefetch (count : UInt16) (whole : Bool)
  | publish (p : Publication)
  | get (queue : String) (noAck : Bool)
  | ack (tag : Nat) (multiple : Bool)
  | closeChannel (code : Nat) (text : String)
  | closeConnection (code : Nat) (text : String)

/-- Where a broker can react to a client. -/
inductive Point
  | logIn
  | openConnection
  | openChannel
  | selectConfirm
  | setPrefetch
  | publish
  | get
  | closeChannel
  | closeConnection
deriving DecidableEq, Repr

namespace Frame

/-- The point of a frame that is answered. -/
def point? : Frame → Option Point
  | .logIn .. => some .logIn
  | .openConnection _ => some .openConnection
  | .openChannel => some .openChannel
  | .selectConfirm _ => some .selectConfirm
  | .setPrefetch .. => some .setPrefetch
  | .publish _ => some .publish
  | .get .. => some .get
  | .ack .. => none
  | .closeChannel .. => some .closeChannel
  | .closeConnection .. => some .closeConnection

/-- The code and the text of a clean close. -/
def cleanCode : Nat := 200

def cleanText : String := "OK"

end Frame

end BrokerPool.Broker
