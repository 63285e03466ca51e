import BrokerPool.Message.FieldValue

/-!
# Properties and attributes of a message

The broker hands a message over with properties, all of them optional. The service passes them on
as attributes: texts with keys of their own, one for every property that is set and three for the
delivery itself.
-/

namespace BrokerPool.Message

/-- What comes with a message besides its body. -/
structure Properties where
  contentType : Option String := none
  contentEncoding : Option String := none
  headers : Option FieldTable := none
  deliveryMode : Option UInt8 := none
  priority : Option UInt8 := none
  correlationId : Option String := none
  replyTo : Option String := none
  expiration : Option String := none
  messageId : Option String := none
  timestamp : Option UInt64 := none
  kind : Option String := none
  userId : Option String := none
  appId : Option String := none
  clusterId : Option String := none

/-- A message as the broker hands it over. -/
structure Delivery where
  body : List UInt8
  properties : Properties
  routingKey : String
  exchange : String
  redelivered : Bool

namespace Delivery

/-- What a delivery says about itself, with the name of the attribute that shows it. -/
def facts (d : Delivery) : List (String × Option String) :=
  let p := d.properties
  [ ("routingKey", some d.routingKey),
    ("exchange", some d.exchange),
    ("redelivered", some (Text.ofBool d.redelivered)),
    ("appId", p.appId),
    ("contentEncoding", p.contentEncoding),
    ("contentType", p.contentType),
    ("correlationId", p.correlationId),
    ("replyTo", p.replyTo),
    ("expiration", p.expiration),
    ("messageId", p.messageId),
    ("type", p.kind),
    ("userId", p.userId),
    ("clusterId", p.clusterId),
    ("deliveryMode", p.deliveryMode.map fun n => Number.digitText n.toNat),
    ("priority", p.priority.map fun n => Number.digitText n.toNat),
    ("timestamp", p.timestamp.map fun n => Number.digitText n.toNat),
    ("headers", p.headers.map FieldTable.text) ]

/-- The key of an attribute. -/
def attributeKey (name : String) : String := "amqp$" ++ name

/-- The attributes of a delivery (`message_attributes`). -/
def attributes (d : Delivery) : Keyed String :=
  Keyed.ofList (d.facts.filterMap fun (name, fact) => fact.map (attributeKey name, ·))

end Delivery

end BrokerPool.Message
