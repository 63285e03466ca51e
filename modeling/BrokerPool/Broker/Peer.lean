import BrokerPool.Broker.Session
import BrokerPool.Broker.Tls
import BrokerPool.Log

/-!
# The other end

All that lies beyond the service: the way to the broker, the reactions that are still to come, and
the sessions so far. Reactions are used up in order, each by the first frame that arrives at its
point on any connection; after the last one every frame has success.
-/

namespace BrokerPool.Broker

/-- How far a client gets that opens a connection. -/
inductive Route
  | unreachable
  | refused
  | through
deriving DecidableEq, Repr

/-- One attempt to open a connection. -/
structure Attempt where
  address : Config.Address
  connectionName : String
  material : TlsMaterial
deriving DecidableEq, Repr

/-- The reactions still to come. -/
abbrev Script := List (Point × Reaction)

/-- The next reaction at a point, and the script without it. -/
def Script.next (point : Point) : Script → Reaction × Script
  | [] => (.success, [])
  | (p, r) :: rest =>
    if p = point then (r, rest)
    else
      let (found, rest) := next point rest
      (found, (p, r) :: rest)

/-- The broker, as far as it can be seen from the service. -/
structure Peer where
  route : Route := .unreachable
  script : Script := []
  attempts : List Attempt := []
  /-- The sessions with the numbers of their connections, the first one first. -/
  sessions : List (Nat × Session) := []

/-- What comes of a turn with the peer. There is no result when the peer never answers. -/
structure Turn (ε α : Type) where
  peer : Peer
  log : List Log.Entry := []
  result : Option (Except ε α)

/-- Goes on after a turn that has had success. -/
def Turn.andThen {ε α β : Type} (t : Turn ε α) (next : α → Peer → Turn ε β) : Turn ε β :=
  match t.result with
  | some (.ok a) =>
    let u := next a t.peer
    { u with log := t.log ++ u.log }
  | some (.error e) => ⟨t.peer, t.log, some (.error e)⟩
  | none => ⟨t.peer, t.log, none⟩

namespace Peer

/-- The session of a connection. -/
def session? (p : Peer) (connection : Nat) : Option Session := p.sessions.lookup connection

/-- Changes the session of a connection. -/
def put (p : Peer) (connection : Nat) (s : Session) : Peer :=
  { p with sessions := p.sessions.map fun (c, old) => if c = connection then (c, s) else (c, old) }

/-- Begins a session. -/
def begin (p : Peer) (connection : Nat) : Peer :=
  { p with sessions := p.sessions ++ [(connection, {})] }

/-- Sends a frame on a connection and waits for what comes back. -/
def send (p : Peer) (connection : Nat) (f : Frame) : Peer × Reply :=
  match p.session? connection with
  | none => (p, .failed Fault.closedConnection)
  | some s =>
    match s.refusal? f, f.point? with
    | some cause, _ => (p, .failed cause)
    | none, none => (p.put connection (s.post f), .done)
    | none, some point =>
      let (reaction, script) := p.script.next point
      let (s, reply) := (s.post f).hear f reaction
      ({ p with script }.put connection s, reply)

/-- Sends a frame of which only success or failure matters. -/
def request (p : Peer) (connection : Nat) (f : Frame) : Turn Fault Unit :=
  match p.send connection f with
  | (p, .silent) => ⟨p, [], none⟩
  | (p, .failed cause) => ⟨p, [], some (.error cause)⟩
  | (p, _) => ⟨p, [], some (.ok ())⟩

/-- Whether a connection is open. -/
def isConnected (p : Peer) (connection : Nat) : Bool :=
  (p.session? connection).any (·.connected)

/-- Whether the channel of a connection is open. -/
def hasChannel (p : Peer) (connection : Nat) : Bool :=
  (p.session? connection).any (·.channelOpen)

end Peer

end BrokerPool.Broker
