import BrokerPool.Config.Basic
import BrokerPool.Json.Decode
import BrokerPool.Message.Properties

/-!
# Messages to be published

A message has a text as its body and may say which routing key it wants, what its content type is
and which headers go with it. On the wire it is always persistent, and its headers are long texts.
-/

namespace BrokerPool.Message

/-- A message to be published (`OutboundMessage`). -/
structure Outbound where
  payload : String
  /-- Takes the place of the configured routing key. -/
  routingKey : Option String := none
  contentType : Option String := none
  headers : Keyed String := []
deriving DecidableEq, Repr

/-- Where a message is published. -/
structure Destination where
  exchange : String
  routingKey : String
deriving DecidableEq, Repr

namespace Outbound

/-- The message with a routing key of its own (`with_routing_key`). -/
def withRoutingKey (m : Outbound) (key : String) : Outbound := { m with routingKey := some key }

/-- The message with one more header (`with_header`). -/
def withHeader (m : Outbound) (key value : String) : Outbound :=
  { m with headers := m.headers.put key value }

/-- The destination of a message (`exchange` and `routing_key_for`): its own routing key, even an
    empty one, comes before the configured one. -/
def destination (m : Outbound) (s : Config.Publishing) : Destination :=
  ⟨s.exchange, m.routingKey.getD s.routingKey⟩

/-- The delivery mode of messages that outlive a restart of the broker. -/
def persistent : UInt8 := 2

/-- The headers as fields. -/
def fields (m : Outbound) : FieldTable :=
  m.headers.map fun (k, v) => (k, .longText (Text.Utf8.encode v))

/-- What goes with the body of a message (`message_properties`). Headers are left out when there are
    none. -/
def properties (m : Outbound) : Properties where
  contentType := m.contentType
  headers := if m.headers.isEmpty then none else some m.fields
  deliveryMode := some persistent

/-- The body of a message as bytes. -/
def body (m : Outbound) : List UInt8 := Text.Utf8.encode m.payload

/-! ## JSON -/

open Json

def decodeFields : List (Json.Field Outbound) := [
  .needed "payload" text fun x m => { m with payload := x },
  .given "routing_key" (optional text) fun x m => { m with routingKey := x },
  .given "content_type" (optional text) fun x m => { m with contentType := x },
  .given "headers" (mapOf text) fun x m => { m with headers := x }]

def decode (medium : Medium) : Decoder Outbound :=
  record medium "OutboundMessage" decodeFields { payload := "" }

def toJson (m : Outbound) : Value := .ofMembers [
  ("payload", .string m.payload),
  ("routing_key", .ofText? m.routingKey),
  ("content_type", .ofText? m.contentType),
  ("headers", .ofMembers (m.headers.map fun (k, v) => (k, .string v)))]

end Outbound

end BrokerPool.Message
