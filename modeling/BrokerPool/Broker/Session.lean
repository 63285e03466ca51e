import BrokerPool.Broker.Reaction

/-!
# Sessions

The client's side of one connection: what it has sent, and whether connection and channel are open.
Nothing is sent on a connection or a channel that is closed. A broker that closes the channel leaves
the connection open.
-/

namespace BrokerPool.Broker

/-- One connection as its client sees it. -/
structure Session where
  /-- The frames sent, the first one first. -/
  frames : List Frame := []
  connected : Bool := false
  channelOpen : Bool := false
  /-- How many messages were handed over. -/
  deliveries : Nat := 0

/-- What a client hears back. -/
inductive Reply
  | done
  | nacked
  | returned
  | delivered (tag : Nat) (d : Message.Delivery)
  | failed (cause : Fault)
  | silent

namespace Session

/-- The session after the connection is lost. -/
def lost (s : Session) : Session := { s with connected := false, channelOpen := false }

/-- Why a frame cannot be sent. -/
def refusal? (s : Session) : Frame → Option Fault
  | .logIn .. => none
  | .openConnection _ => none
  | .openChannel => if s.connected then none else some Fault.closedConnection
  | .closeConnection .. => if s.connected then none else some Fault.closedConnection
  | _ => if s.channelOpen then none else some Fault.closedChannel

/-- The session after a frame has had success. -/
def settle (s : Session) : Frame → Session
  | .openConnection _ => { s with connected := true }
  | .openChannel => { s with channelOpen := true }
  | .closeChannel .. => { s with channelOpen := false }
  | .closeConnection .. => s.lost
  | _ => s

/-- What a reaction to a frame does to a session, and what the client hears. Confirmations have a
    meaning for published messages only, and messages only for a client that asked for one. -/
def hear (s : Session) (f : Frame) : Reaction → Session × Reply
  | .hang => (s, .silent)
  | .drop => (s.lost, .failed Fault.aborted)
  | .closeConnection code text =>
    (s.lost, .failed (Fault.closedByBroker Fault.closedConnection code text))
  | .closeChannel code text =>
    ({ s with channelOpen := false },
      .failed (Fault.closedByBroker Fault.closedChannel code text))
  | .message d tag =>
    match f with
    | .get .. =>
      let number := s.deliveries + 1
      ({ s with deliveries := number }, .delivered (tag.getD number) d)
    | _ => (s.settle f, .done)
  | .nack =>
    match f with
    | .publish _ => (s, .nacked)
    | _ => (s.settle f, .done)
  | .returned =>
    match f with
    | .publish _ => (s, .returned)
    | _ => (s.settle f, .done)
  | .success => (s.settle f, .done)

/-- Sends a frame. -/
def post (s : Session) (f : Frame) : Session := { s with frames := s.frames ++ [f] }

end Session

end BrokerPool.Broker
