import BrokerPool.Broker.Peer

/-!
# Opening and closing a connection

A connection is opened with one attempt, after all files that secure it have been read. Whatever
goes wrong with the attempt, the error names the broker; whatever goes wrong before it, nothing is
attempted.
-/

namespace BrokerPool.Broker

open Lifecycle (ConnectionError)

/-- The part of the service that writes about connections. -/
def connectionPart : String := "amqp_lifecycle::broker::amqp"

/-- The material that the settings of a broker point to; without a TLS context there is none. -/
def materialOf (files : Files) (b : Config.Broker) : Except ConnectionError TlsMaterial :=
  match b.tls with
  | some tls => TlsMaterial.load files tls
  | none => .ok {}

/-- What a client answers when it is asked who it is. -/
def response (a : Config.Address) : List String :=
  match a.mechanism with
  | .password => ["", a.username, a.password]
  | .external => [""]

/-- Makes an attempt: the part of `create_connection` behind the files. -/
def attempt (p : Peer) (connection : Nat) (a : Attempt) : Turn Fault Unit :=
  let p := { p with attempts := p.attempts ++ [a] }
  match p.route with
  | .unreachable => ⟨p, [], some (.error Fault.unreachable)⟩
  | .refused => ⟨p, [], some (.error Fault.refused)⟩
  | .through =>
    let logIn := Frame.logIn a.address.mechanism (response a.address) a.connectionName
    ((p.begin connection).request connection logIn).andThen fun _ p =>
      p.request connection (.openConnection a.address.virtualHost)

/-- The entry about a connection that was opened. -/
def establishedEntry (b : Config.Broker) : Log.Entry :=
  let broker : Log.Field := ⟨"broker", b.target, false⟩
  (Log.entry .info connectionPart "AMQP connection established" [
    broker,
    ⟨"cert_auth", Text.ofBool b.byCertificate, false⟩,
    ⟨"tls", Text.ofBool b.tls.isSome, false⟩]).within
      ⟨connectionPart, "create_connection", [broker]⟩

/-- A connection, and the broker that it was opened to (`AmqpConnection`). -/
structure Connection where
  number : Nat
  target : String
deriving DecidableEq, Repr

/-- Opens a connection (`create_connection`). -/
def connect (files : Files) (b : Config.Broker) (connection : Nat) (p : Peer) :
    Turn ConnectionError Connection :=
  match materialOf files b with
  | .error e => ⟨p, [], some (.error e)⟩
  | .ok material =>
    let t := attempt p connection ⟨b.address, b.connectionName, material⟩
    match t.result with
    | some (.ok _) =>
      ⟨t.peer, t.log ++ [establishedEntry b], some (.ok ⟨connection, b.target⟩)⟩
    | some (.error cause) => ⟨t.peer, t.log, some (.error (.establish b.target cause))⟩
    | none => ⟨t.peer, t.log, none⟩

/-- The entry about a connection that was closed. -/
def closedEntry (target : String) : Log.Entry :=
  Log.entry .debug connectionPart "AMQP connection closed" [⟨"broker", target, false⟩]

/-- Closes a connection, unless it is closed already (`close` of `AmqpConnection`). -/
def closeConnection (target : String) (connection : Nat) (p : Peer) : Turn Fault Unit :=
  let closed (p : Peer) : Turn Fault Unit := ⟨p, [closedEntry target], some (.ok ())⟩
  if p.isConnected connection then
    (p.request connection (.closeConnection Frame.cleanCode Frame.cleanText)).andThen
      fun _ p => closed p
  else closed p

/-- Closes the channel of a connection, unless it is closed already (`close` of `AmqpPublisher` and
    `AmqpConsumer`). -/
def closeChannel (connection : Nat) (p : Peer) : Turn Fault Unit :=
  if p.hasChannel connection then
    p.request connection (.closeChannel Frame.cleanCode Frame.cleanText)
  else ⟨p, [], some (.ok ())⟩

end BrokerPool.Broker
