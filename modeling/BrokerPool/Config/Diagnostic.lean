import BrokerPool.Config.Fields
import BrokerPool.Text.Diagnostic

/-!
# Diagnostic texts of settings

Every setting shows in the diagnostic text of a configuration except the two passwords, of which
only their presence shows.
-/

namespace BrokerPool.Config

open Text

/-- Stands for a secret that is present. -/
def concealed : Option String → Shape := Shape.ofOption fun _ => Shape.quoted "********"

/-- What a log shows of the files that secure the transport (`fmt` of `TlsContext`). -/
def Tls.shape (t : Tls) : Shape := .record "TlsContext" [
  ("ca_cert_path", .ofOption .quoted t.authorityPath),
  ("identity_path", .ofOption .quoted t.identityPath),
  ("identity_password", concealed t.identityPassword)]

/-- What a log shows of the settings of a broker (`fmt` of `AmqpConfig`). -/
def Broker.shape (b : Broker) : Shape := .record "AmqpConfig" [
  ("host", .quoted b.host),
  ("port", .word (Number.digitText b.port.toNat)),
  ("virtual_host", .ofOption .quoted b.virtualHost),
  ("username", .ofOption .quoted b.username),
  ("password", concealed b.password),
  ("tls", .ofOption Tls.shape b.tls),
  ("use_cert_authentication", .bool b.byCertificate),
  ("client_auth", .word b.clientAuth.name),
  ("connection_name", .quoted b.connectionName)]

def Publishing.shape (p : Publishing) : Shape := .record "PublisherSettings" [
  ("exchange", .quoted p.exchange),
  ("routing_key", .quoted p.routingKey)]

def Consuming.shape (c : Consuming) : Shape := .record "ConsumerSettings" [
  ("queue", .quoted c.queue),
  ("auto_ack", .bool c.autoAck),
  ("prefetch_count", .word (Number.digitText c.prefetch.toNat))]

def Service.shape (s : Service) : Shape := .record "ServiceConfig" [
  ("amqp", s.broker.shape),
  ("publish", s.publishing.shape),
  ("consume", s.consuming.shape),
  ("http_port", .word (Number.digitText s.httpPort.toNat))]

end BrokerPool.Config
