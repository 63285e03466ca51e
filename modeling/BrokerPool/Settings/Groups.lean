import BrokerPool.Settings.Conversion
import BrokerPool.Config.Fields

/-!
# The groups of settings

Which settings each group has, under which key, in the order in which an array gives them.
-/

namespace BrokerPool.Config

open Settings

def Tls.settings : List (Settings.Field Tls) := [
  .of "ca_cert_path" (optional text) fun x s => { s with authorityPath := x },
  .of "identity_path" (optional text) fun x s => { s with identityPath := x },
  .of "identity_password" (optional text) fun x s => { s with identityPassword := x }]

def Broker.settings : List (Settings.Field Broker) := [
  .of "host" text fun x s => { s with host := x },
  .of "port" word16 fun x s => { s with port := x },
  .of "virtual_host" (optional text) fun x s => { s with virtualHost := x },
  .of "username" (optional text) fun x s => { s with username := x },
  .of "password" (optional text) fun x s => { s with password := x },
  .of "tls" (optional (record "TlsContext" Tls.settings {})) fun x s => { s with tls := x },
  .of "use_cert_authentication" boolean fun x s => { s with byCertificate := x },
  .of "client_auth" (oneOf "ClientAuth" ClientAuth.choices) fun x s => { s with clientAuth := x },
  .of "connection_name" text fun x s => { s with connectionName := x }]

def Publishing.settings : List (Settings.Field Publishing) := [
  .of "exchange" text fun x s => { s with exchange := x },
  .of "routing_key" text fun x s => { s with routingKey := x }]

def Consuming.settings : List (Settings.Field Consuming) := [
  .of "queue" text fun x s => { s with queue := x },
  .of "auto_ack" boolean fun x s => { s with autoAck := x },
  .of "prefetch_count" word16 fun x s => { s with prefetch := x }]

def Service.settings : List (Settings.Field Service) := [
  .of "amqp" (record "AmqpConfig" Broker.settings {}) fun x s => { s with broker := x },
  .of "publish" (record "PublisherSettings" Publishing.settings {}) fun x s =>
    { s with publishing := x },
  .of "consume" (record "ConsumerSettings" Consuming.settings {}) fun x s =>
    { s with consuming := x },
  .of "http_port" word16 fun x s => { s with httpPort := x }]

/-- The service's settings in a tree. -/
def Service.ofSettings : Converter Service := record "ServiceConfig" Service.settings {}

end BrokerPool.Config
