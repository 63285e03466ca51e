import BrokerPool.Config.Basic
import BrokerPool.Json.Decode

/-!
# Settings in JSON

The table of fields of every group of settings, in the order of their declaration, and the JSON
object that shows a group. A field that is left out keeps its built-in default.
-/

namespace BrokerPool.Config

open Json

/-- The names of the client authentication modes in a configuration. -/
def ClientAuth.choices : List (String × ClientAuth) :=
  [("NONE", .none), ("WANT", .want), ("REQUIRED", .required)]

/-- The name of a mode in diagnostic texts. -/
def ClientAuth.name : ClientAuth → String
  | .none => "None"
  | .want => "Want"
  | .required => "Required"

/-- The path of a file. -/
def path : Decoder String := textAs "path string"

def Tls.fields : List (Json.Field Tls) := [
  .given "ca_cert_path" (optional path) fun x s => { s with authorityPath := x },
  .given "identity_path" (optional path) fun x s => { s with identityPath := x },
  .given "identity_password" (optional text) fun x s => { s with identityPassword := x }]

def Tls.decode (medium : Medium) : Decoder Tls := record medium "TlsContext" Tls.fields {}

def Broker.fields (medium : Medium) : List (Json.Field Broker) := [
  .given "host" text fun x s => { s with host := x },
  .given "port" word16 fun x s => { s with port := x },
  .given "virtual_host" (optional text) fun x s => { s with virtualHost := x },
  .given "username" (optional text) fun x s => { s with username := x },
  .given "password" (optional text) fun x s => { s with password := x },
  .given "tls" (optional (Tls.decode medium)) fun x s => { s with tls := x },
  .given "use_cert_authentication" boolean fun x s => { s with byCertificate := x },
  .given "client_auth" (oneOf medium ClientAuth.choices) fun x s => { s with clientAuth := x },
  .given "connection_name" text fun x s => { s with connectionName := x }]

/-- Reads the settings of a broker, as the derived decoder of `AmqpConfig` does. -/
def Broker.decode (medium : Medium) : Decoder Broker :=
  record medium "AmqpConfig" (Broker.fields medium) {}

def Publishing.fields : List (Json.Field Publishing) := [
  .given "exchange" text fun x s => { s with exchange := x },
  .given "routing_key" text fun x s => { s with routingKey := x }]

def Publishing.decode (medium : Medium) : Decoder Publishing :=
  record medium "PublisherSettings" Publishing.fields {}

def Consuming.fields : List (Json.Field Consuming) := [
  .given "queue" text fun x s => { s with queue := x },
  .given "auto_ack" boolean fun x s => { s with autoAck := x },
  .given "prefetch_count" word16 fun x s => { s with prefetch := x }]

def Consuming.decode (medium : Medium) : Decoder Consuming :=
  record medium "ConsumerSettings" Consuming.fields {}

def Service.fields (medium : Medium) : List (Json.Field Service) := [
  .given "amqp" (Broker.decode medium) fun x s => { s with broker := x },
  .given "publish" (Publishing.decode medium) fun x s => { s with publishing := x },
  .given "consume" (Consuming.decode medium) fun x s => { s with consuming := x },
  .given "http_port" word16 fun x s => { s with httpPort := x }]

/-- Reads all settings, as the derived decoder of `ServiceConfig` does. -/
def Service.decode (medium : Medium) : Decoder Service :=
  record medium "ServiceConfig" (Service.fields medium) {}

/-! ## Showing settings -/

def Tls.toJson (t : Tls) : Value := .ofMembers [
  ("ca_cert_path", .ofText? t.authorityPath),
  ("identity_path", .ofText? t.identityPath),
  ("identity_password", .ofText? t.identityPassword)]

def Broker.toJson (b : Broker) : Value := .ofMembers [
  ("host", .string b.host),
  ("port", .nat b.port.toNat),
  ("virtual_host", .ofText? b.virtualHost),
  ("username", .ofText? b.username),
  ("password", .ofText? b.password),
  ("tls", (b.tls.map Tls.toJson).getD .null),
  ("use_cert_authentication", .bool b.byCertificate),
  ("client_auth", .string b.clientAuth.name),
  ("connection_name", .string b.connectionName)]

def Service.toJson (s : Service) : Value := .ofMembers [
  ("amqp", s.broker.toJson),
  ("publish", .ofMembers [
    ("exchange", .string s.publishing.exchange),
    ("routing_key", .string s.publishing.routingKey)]),
  ("consume", .ofMembers [
    ("queue", .string s.consuming.queue),
    ("auto_ack", .bool s.consuming.autoAck),
    ("prefetch_count", .nat s.consuming.prefetch.toNat)]),
  ("http_port", .nat s.httpPort.toNat)]

end BrokerPool.Config
