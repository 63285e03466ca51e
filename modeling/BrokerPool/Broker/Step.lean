import BrokerPool.Broker.Connection
import BrokerPool.Broker.Dialogue
import BrokerPool.Lifecycle.Stage

/-!
# Steps on a channel

What a controller does with a broker: how the channel of a new connection is prepared, and what one
trigger does on it. With that every request of a call has an answer, unless the broker keeps silent.
-/

namespace BrokerPool.Broker

open Lifecycle (Answer Request)

/-- The step of a controller (`ProcessingStep`). -/
structure Step (ι ω : Type) where
  name : String
  /-- Prepares a new channel. -/
  setup : Frame
  /-- Handles an input on the channel of a connection. -/
  run : Nat → ι → Peer → Turn Fault ω

/-- A step that is nothing but a dialogue on the channel of its connection. -/
structure Spoken (ι ω : Type) where
  name : String
  setup : Frame
  talk : ι → Dialogue (Except Fault ω)

def Spoken.step {ι ω : Type} (s : Spoken ι ω) : Step ι ω where
  name := s.name
  setup := s.setup
  run connection input := (s.talk input).hold connection

/-- Gives a result the form of an answer. -/
def Turn.answer {ε α ω : Type} (wrap : Except ε α → Answer ω) (t : Turn ε α) :
    Peer × List Log.Entry × Option (Answer ω) :=
  (t.peer, t.log, t.result.map wrap)

/-- Prepares an open channel (`new` of `AmqpPublisher` and `AmqpConsumer`). -/
def Dialogue.prepare (setup : Frame) : Dialogue (Except Fault Unit) :=
  .ask setup fun _ => .ended [] (.ok ())

/-- Opens a channel (`create_channel`) and prepares it. -/
def Dialogue.equip (setup : Frame) : Dialogue (Except Fault Unit) :=
  .ask .openChannel fun _ => .prepare setup

/-- A worker for a connection (`create_worker`): a channel that is prepared for its work. -/
def createWorker {ι ω : Type} (step : Step ι ω) (connection : Nat) : Peer → Turn Fault Unit :=
  (Dialogue.equip step.setup).hold connection

/-- What comes of a request: what is logged meanwhile, and the answer, if one ever comes. A request
    is a call to `create_connection`, `create_worker`, `process`, or one of the two kinds of
    `close`. -/
def respond {ι ω : Type} (files : Files) (b : Config.Broker) (step : Step ι ω) (p : Peer) :
    Request ι → Peer × List Log.Entry × Option (Answer ω)
  | .connect c => (connect files b c p).answer fun r => .connected (r.map fun _ => ())
  | .createWorker c => (createWorker step c p).answer .equipped
  | .process r input => (step.run r.connection input p).answer .processed
  | .closeWorker r => (closeChannel r.connection p).answer .closed
  | .closeConnection c => (closeConnection b.target c p).answer .closed

end BrokerPool.Broker
