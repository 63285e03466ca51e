import BrokerPool.Broker.Consumer
import BrokerPool.Broker.Publisher
import BrokerPool.Config.Validation
import BrokerPool.Http.Request
import BrokerPool.Lifecycle.Course

/-!
# The server

Two controllers behind HTTP, one that publishes and one that consumes. Every request to publish or
to consume is one trigger. Requests are handled one after the other, and a caller whose trigger gets
no answer from the broker goes away.
-/

namespace BrokerPool.Http

open Broker (Moment Peer Step consuming publishing respond)
open Lifecycle (Course Goal Outcome Pool Resource Role Stage Summary Supply TriggerError World)
open Message (Inbound Outbound)

/-- The version of the service. -/
def version : String := "0.1.0"

/-- The service between two requests (`AppState`). -/
structure Server where
  settings : Config.Service
  files : Files
  peer : Peer
  /-- Both controllers take their numbers from one supply. -/
  supply : Supply := {}
  publishers : Pool Resource := {}
  consumers : Pool Resource := {}

namespace Server

/-- A server with nothing in its pools, unless its settings break a rule: both controllers are made
    by `main`. -/
def ofSettings (settings : Config.Service) (files : Files) (peer : Peer) :
    Except (List Config.Failure) Server :=
  match settings.broker.failures with
  | [] => .ok { settings, files, peer }
  | failures => .error failures

variable {ι ω : Type}

/-- The role of a controller with a step. -/
def role (s : Server) (step : Step ι ω) : Role := ⟨s.settings.broker.target, step.name⟩

/-- The course of a call to the controller with a step and a pool. -/
def call (s : Server) (step : Step ι ω) (pool : Pool Resource) (stage : Stage ι ω) :
    Course Peer ι ω :=
  .ofStage (s.role step) (respond s.files s.settings.broker step) s.peer ⟨pool, s.supply⟩ stage

/-- The span of the work on a trigger. -/
def triggerSpan (step : Step ι ω) : Log.Span :=
  ⟨Lifecycle.Event.controllerPart, "on_trigger", [⟨"step", step.name, true⟩]⟩

/-- The course of a trigger (`on_trigger`). When no answer comes from the broker its caller goes
    away. -/
def trigger (s : Server) (step : Step ι ω) (pool : Pool Resource) (input : ι) : Course Peer ι ω :=
  let c := s.call step pool (.entering (.trigger input))
  let c := { c with log := Log.within (triggerSpan step) c.log }
  match c.outcome? with
  | some _ => c
  | none => c.cancel (s.role step) (respond s.files s.settings.broker step)

/-- The output of a trigger, or why there is none; `none` if its caller has gone away. -/
def result? (c : Course Peer ι ω) : Option (Except TriggerError ω) :=
  match c.outcome? with
  | some (.output o) => some (.ok o)
  | some (.failed e) => some (.error e)
  | _ => none

/-- Triggers the publishing of a message. -/
def publish (s : Server) (m : Outbound) :
    Server × List Log.Entry × Option (Except TriggerError Unit) :=
  let c := s.trigger (publishing s.settings.publishing) s.publishers m
  ({ s with peer := c.outside, supply := c.world.supply, publishers := c.world.pool }, c.log,
    result? c)

/-- Triggers the taking of a message. -/
def consume (s : Server) (moment : Moment) :
    Server × List Log.Entry × Option (Except TriggerError (Option Inbound)) :=
  let c := s.trigger (consuming s.settings.consuming) s.consumers moment
  ({ s with peer := c.outside, supply := c.world.supply, consumers := c.world.pool }, c.log,
    result? c)

/-- What the draining of a pool has achieved (`ShutdownSummary`). -/
def summary (c : Course Peer ι ω) : Summary :=
  match c.stage with
  | .ended (.drained summary) => summary
  | .draining summary => summary
  | .closingWorker _ (.drain summary) => summary
  | .closingConnection _ _ (.drain summary) => summary
  | _ => {}

/-- What the end of a server has achieved. -/
structure Farewell where
  publisher : Summary
  consumer : Summary
deriving DecidableEq, Repr

/-- Shuts both controllers down, the publishing one first, as the end of `main` does. -/
def shutdown (s : Server) : Server × List Log.Entry × Farewell :=
  let c := s.call (publishing s.settings.publishing) s.publishers .sealing
  let s := { s with peer := c.outside, supply := c.world.supply, publishers := c.world.pool }
  let d := s.call (consuming s.settings.consuming) s.consumers .sealing
  let s := { s with peer := d.outside, supply := d.world.supply, consumers := d.world.pool }
  (s, c.log ++ d.log, ⟨summary c, summary d⟩)

/-! ## Requests -/

/-- What a request comes to. There is no response when its caller has gone away. -/
structure Handled where
  server : Server
  log : List Log.Entry := []
  response : Option Response

/-- The response to a failed trigger. -/
def failure (e : TriggerError) : Response := ⟨failureStatus e, .json (failureBody e)⟩

/-- A response with the members of an object. -/
def ok (members : List (String × Json.Value)) : Response := ⟨.ok, .json (.ofMembers members)⟩

/-- The entry about a message that a request has published. -/
def publishedEntry (d : Message.Destination) : Log.Entry :=
  Log.entry .info handlersPart "Published message" (Broker.destinationFields d)

/-- Handles a request to publish (`publish`). -/
def handlePublish (s : Server) (r : Request) : Handled :=
  match r.message with
  | .error response => { server := s, response := some response }
  | .ok m =>
    let d := m.destination s.settings.publishing
    match s.publish m with
    | (s, log, none) => ⟨s, log, none⟩
    | (s, log, some (.error e)) => ⟨s, log ++ [failureEntry e], some (failure e)⟩
    | (s, log, some (.ok ())) =>
      ⟨s, log ++ [publishedEntry d], some (ok [
        ("published", .bool true),
        ("exchange", .string d.exchange),
        ("routing_key", .string d.routingKey)])⟩

/-- Handles a request to consume (`consume`). -/
def handleConsume (s : Server) (moment : Moment) : Handled :=
  match s.consume moment with
  | (s, log, none) => ⟨s, log, none⟩
  | (s, log, some (.error e)) => ⟨s, log ++ [failureEntry e], some (failure e)⟩
  | (s, log, some (.ok m)) => ⟨s, log, some (ok [("message", (m.map Inbound.toJson).getD .null)])⟩

/-- Handles a request to an endpoint (`health_check`, `publish`, `consume`, `pool_status`). -/
def handleAt (s : Server) (moment : Moment) (r : Request) : Endpoint → Handled
  | .health => { server := s, response := some (ok [
      ("status", .string "healthy"), ("version", .string version)]) }
  | .pool => { server := s, response := some (ok [
      ("publisher_idle", .nat s.publishers.idle.length),
      ("consumer_idle", .nat s.consumers.idle.length)]) }
  | .publish => s.handlePublish r
  | .consume => s.handleConsume moment

/-- Handles a request. Where only the head of a response is wanted, its body is left out. -/
def handle (s : Server) (moment : Moment) (r : Request) : Handled :=
  match Endpoint.ofPath? r.path with
  | none => { server := s, response := some ⟨.notFound, .empty⟩ }
  | some endpoint =>
    if endpoint.allows r.method then
      let h := s.handleAt moment r endpoint
      if r.method == "HEAD" then
        { h with response := h.response.map fun a => { a with body := .empty } }
      else h
    else { server := s, response := some ⟨.methodNotAllowed, .empty⟩ }

end Server

end BrokerPool.Http
