import BrokerPool.Broker.Frame
import BrokerPool.Fault

/-!
# What a broker does

How a broker reacts to a frame, and the faults that a client sees when it is not the success that it
hopes for. A broker closes a channel or a connection with a code, and the client names the code; a
code without a name only leaves the closed state to be reported.
-/

namespace BrokerPool.Broker

/-- The reaction of a broker to a frame. -/
inductive Reaction
  | success
  /-- The broker does not take a message. -/
  | nack
  /-- The broker takes a message, but no queue does. -/
  | returned
  /-- The broker hands a message over. Its tag is the number of the delivery in the session, unless
      the broker gives it another one. -/
  | message (d : Message.Delivery) (tag : Option Nat := none)
  | closeChannel (code : Nat) (text : String)
  | closeConnection (code : Nat) (text : String)
  /-- The transport breaks. -/
  | drop
  /-- Nothing ever comes. -/
  | hang

/-- How bad the reason for a close is: a channel can be opened again, a connection cannot go on. -/
inductive Severity
  | soft
  | hard
deriving DecidableEq, Repr

def Severity.name : Severity → String
  | .soft => "soft"
  | .hard => "hard"

/-- The reasons for a close that have a name. -/
def closeReasons : List (Nat × Severity × String) := [
  (311, .soft, "CONTENT-TOO-LARGE"),
  (312, .soft, "NO-ROUTE"),
  (313, .soft, "NO-CONSUMERS"),
  (403, .soft, "ACCESS-REFUSED"),
  (404, .soft, "NOT-FOUND"),
  (405, .soft, "RESOURCE-LOCKED"),
  (406, .soft, "PRECONDITION-FAILED"),
  (320, .hard, "CONNECTION-FORCED"),
  (402, .hard, "INVALID-PATH"),
  (501, .hard, "FRAME-ERROR"),
  (502, .hard, "SYNTAX-ERROR"),
  (503, .hard, "COMMAND-INVALID"),
  (504, .hard, "CHANNEL-ERROR"),
  (505, .hard, "UNEXPECTED-FRAME"),
  (506, .hard, "RESOURCE-ERROR"),
  (530, .hard, "NOT-ALLOWED"),
  (540, .hard, "NOT-IMPLEMENTED"),
  (541, .hard, "INTERNAL-ERROR")]

namespace Fault

/-- The channel is closed. -/
def closedChannel : Fault := ⟨"invalid channel state: Closed", []⟩

/-- The connection is closed. -/
def closedConnection : Fault := ⟨"invalid connection state: Closed", []⟩

/-- A fault of the transport. -/
def transport (text : String) : Fault := ⟨"IO error: " ++ text, [text]⟩

/-- The transport broke. -/
def aborted : Fault := transport "connection aborted"

/-- Nothing listens at the other end. -/
def refused : Fault := transport "Connection refused (os error 111)"

/-- There is no way to the other end. -/
def unreachable : Fault := transport "Network is unreachable (os error 101)"

/-- The broker closed a channel or a connection; `unnamed` is reported for a code without a name. -/
def closedByBroker (unnamed : Fault) (code : Nat) (text : String) : Fault :=
  match closeReasons.lookup code with
  | some (severity, name) =>
    let reason := "AMQP " ++ severity.name ++ " error: " ++ name ++ ": " ++ text
    ⟨"protocol error: " ++ reason, [reason]⟩
  | none => unnamed

end Fault

end BrokerPool.Broker
