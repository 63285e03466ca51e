import BrokerPool.Broker.Peer

/-!
# Dialogues

What is said on a connection one frame at a time: a client sends a frame, waits for what comes back,
and goes on from there. Between two frames of a dialogue anything can happen to the connection, so a
dialogue is kept as the tree of what can be said next.
-/

namespace BrokerPool.Broker

/-- What a client says on a connection until it has a result. -/
inductive Dialogue (α : Type)
  | ended (log : List Log.Entry) (result : α)
  | say (f : Frame) (next : Reply → Dialogue α)

namespace Dialogue

/-- Sends a frame, and fails if it fails. -/
def ask {α : Type} (f : Frame) (next : Reply → Dialogue (Except Fault α)) :
    Dialogue (Except Fault α) :=
  .say f fun
    | .failed cause => .ended [] (.error cause)
    | reply => next reply

/-- A dialogue with another result. -/
def map {α β : Type} (g : α → β) : Dialogue α → Dialogue β
  | .ended log result => .ended log (g result)
  | .say f next => .say f fun reply => (next reply).map g

/-- Holds a dialogue on a connection without a pause. There is no result when the peer keeps
    silent. -/
def hold {ε α : Type} (connection : Nat) : Dialogue (Except ε α) → Peer → Turn ε α
  | .ended log result, p => ⟨p, log, some result⟩
  | .say f next, p =>
    match p.send connection f with
    | (p, .silent) => ⟨p, [], none⟩
    | (p, reply) => (next reply).hold connection p

end Dialogue

end BrokerPool.Broker
