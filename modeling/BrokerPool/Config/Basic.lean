import BrokerPool.Number.Notation

/-!
# Settings of the service

`Broker` says where the broker is and how to authenticate there, `Publishing` and `Consuming` are
the settings of the two roles, and `Service` is all of them together. Every type has its built-in
defaults, which stand for whatever a configuration leaves out.
-/

namespace BrokerPool.Config

/-- Files that secure the transport (`TlsContext`): the certificates that vouch for the broker, and
    the archive with the client's own certificate and key. -/
structure Tls where
  authorityPath : Option String := none
  identityPath : Option String := none
  identityPassword : Option String := none
deriving DecidableEq, Repr

/-- Whether the broker must present a certificate. Kept so that old configurations
    still load; it has no effect. -/
inductive ClientAuth
  | none
  | want
  | required
deriving DecidableEq, Repr

/-- Where the broker is and how to authenticate there (`AmqpConfig`). -/
structure Broker where
  host : String := "localhost"
  port : UInt16 := 5672
  virtualHost : Option String := none
  username : Option String := none
  password : Option String := none
  /-- Present when the transport is to be secured. -/
  tls : Option Tls := none
  /-- Authenticate with the client certificate instead of a name and a password. -/
  byCertificate : Bool := false
  clientAuth : ClientAuth := .none
  /-- The name under which the broker lists the connection. -/
  connectionName : String := "amqp-lifecycle"
deriving DecidableEq, Repr

/-- Where messages go (`PublisherSettings`). The empty exchange is the default exchange, and the
    routing key is used for messages that have none of their own. -/
structure Publishing where
  exchange : String := ""
  routingKey : String := ""
deriving DecidableEq, Repr

/-- Where messages come from (`ConsumerSettings`). -/
structure Consuming where
  queue : String := ""
  /-- The broker counts a message as acknowledged when it hands it over. -/
  autoAck : Bool := false
  /-- How many unacknowledged messages the broker may hand over. -/
  prefetch : UInt16 := 10
deriving DecidableEq, Repr

/-- All settings (`ServiceConfig`). -/
structure Service where
  broker : Broker := {}
  publishing : Publishing := {}
  consuming : Consuming := {}
  httpPort : UInt16 := 3018
deriving DecidableEq, Repr

namespace Tls

/-- Trusts the authorities in a file, without an identity of its own (`with_ca`). -/
def ofAuthority (path : String) : Tls := { authorityPath := some path }

/-- Adds an identity of its own (`with_identity`). -/
def withIdentity (tls : Tls) (path password : String) : Tls :=
  { tls with identityPath := some path, identityPassword := some password }

end Tls

namespace Broker

/-- Authenticates with a name and a password (`with_credentials`). -/
def ofCredentials (host username password : String) : Broker :=
  { host, username := some username, password := some password }

/-- Authenticates with a client certificate (`with_certificate`). -/
def ofCertificate (host : String) (tls : Tls) : Broker :=
  { host, tls := some tls, byCertificate := true }

/-- The settings with another port (`with_port`). -/
def withPort (b : Broker) (port : UInt16) : Broker := { b with port }

/-- The settings with another virtual host (`with_virtual_host`). -/
def withVirtualHost (b : Broker) (virtualHost : String) : Broker :=
  { b with virtualHost := some virtualHost }

/-- Secures the transport (`with_tls`). -/
def withTls (b : Broker) (tls : Tls) : Broker := { b with tls := some tls }

/-- A text that is given and not empty (`is_set`). -/
def isSet : Option String → Bool
  | none => false
  | some s => s != ""

/-- A user name is given (`username_set`). -/
def usernameSet (b : Broker) : Bool := isSet b.username

/-- A password is given (`password_set`). -/
def passwordSet (b : Broker) : Bool := isSet b.password

/-- What the broker is called in messages: its host, port and virtual host. -/
def target (b : Broker) : String :=
  b.host ++ ":" ++ Number.digitText b.port.toNat ++ "/" ++ b.virtualHost.getD ""

end Broker

end BrokerPool.Config
