import BrokerPool.Config.Basic

/-!
# The address of a broker

What a client needs to know to open a connection, derived from the settings. Settings that ask for
the client certificate and have files for it leave name and password empty, because then the broker
takes the identity from the certificate.
-/

namespace BrokerPool.Config

/-- Whether the transport is secured. -/
inductive Scheme
  | plain
  | secure
deriving DecidableEq, Repr

/-- How a client proves who it is. -/
inductive Mechanism
  | password
  | external
deriving DecidableEq, Repr

/-- The address of a broker and the way to log in there (`AMQPUri`). -/
structure Address where
  scheme : Scheme
  username : String
  password : String
  host : String
  port : UInt16
  virtualHost : String
  mechanism : Mechanism
deriving DecidableEq, Repr

/-- The address that a broker's settings denote (`build_uri`). -/
def Broker.address (b : Broker) : Address :=
  let external := b.tls.isSome && b.byCertificate
  { scheme := if b.tls.isSome then .secure else .plain
    username := if external then "" else b.username.getD ""
    password := if external then "" else b.password.getD ""
    host := b.host
    port := b.port
    virtualHost := b.virtualHost.getD "/"
    mechanism := if external then .external else .password }

namespace Scheme

def name : Scheme → String
  | .plain => "AMQP"
  | .secure => "AMQPS"

end Scheme

namespace Mechanism

def name : Mechanism → String
  | .password => "Plain"
  | .external => "External"

end Mechanism

end BrokerPool.Config
