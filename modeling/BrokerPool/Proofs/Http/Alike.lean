import BrokerPool.Proofs.Broker.Alike
import BrokerPool.Proofs.Http.Sequence
import BrokerPool.Proofs.Lifecycle.Alike
import BrokerPool.Startup

/-!
# Services that are alike

Two services whose settings differ in the contents of the passwords only, and whose brokers answer
alike, stay alike: every request is logged alike, and gets the same response.

Results:
* `Server.Alike.trigger`: a call to one of the controllers.
* `Server.Alike.handle`, `Server.Alike.after`: a request, and any number of requests.
* `Server.Alike.finish`: the end of the service.
-/

namespace BrokerPool.Http.Server

open Broker (Moment Peer Step consuming publishing)
open Lifecycle (Course Pool Resource RespondAlike Stage)
open Message (Inbound Outbound)

/-- Two services with settings and brokers that are alike, in the same state. -/
structure Alike (s s' : Server) : Prop where
  settings : s.settings.Alike s'.settings
  files : s.files = s'.files
  peer : s.peer.Alike s'.peer
  supply : s.supply = s'.supply
  publishers : s.publishers = s'.publishers
  consumers : s.consumers = s'.consumers

section Alike

variable {s s' : Server} {ι ω : Type}

theorem Alike.role_eq (h : s.Alike s') (step : Step ι ω) : s.role step = s'.role step := by
  rw [role, role, h.settings.broker.target_eq]

theorem Alike.respond (h : s.Alike s') {step : Step ι ω} (blind : step.Blind) :
    RespondAlike Peer.Alike (Broker.respond s.files s.settings.broker step)
      (Broker.respond s'.files s'.settings.broker step) := by
  intro p p' request hp
  rw [h.files]
  exact Broker.respond_alike blind h.settings.broker s'.files hp request

theorem Alike.call (h : s.Alike s') {step : Step ι ω} (blind : step.Blind) (pool : Pool Resource)
    (stage : Stage ι ω) : (s.call step pool stage).Alike Peer.Alike (s'.call step pool stage) := by
  rw [Server.call, Server.call, h.role_eq, h.supply]
  exact Course.ofStage_alike h.peer (h.respond blind) _ _ _

theorem Alike.trigger (h : s.Alike s') {step : Step ι ω} (blind : step.Blind) (pool : Pool Resource)
    (input : ι) :
    (s.trigger step pool input).Alike Peer.Alike (s'.trigger step pool input) := by
  have called := h.call blind pool (.entering (.trigger input))
  unfold Server.trigger
  generalize s.call step pool (.entering (.trigger input)) = c at called ⊢
  generalize s'.call step pool (.entering (.trigger input)) = c' at called ⊢
  obtain ⟨stage, world, p, log⟩ := c
  obtain ⟨stage', world', p', log'⟩ := c'
  obtain ⟨rfl, rfl, hp, rfl⟩ := called
  have within : Course.Alike Peer.Alike
      (⟨stage, world, p, Log.within (triggerSpan step) log⟩ : Course Peer ι ω)
      ⟨stage, world, p', Log.within (triggerSpan step) log⟩ :=
    ⟨rfl, rfl, hp, rfl⟩
  dsimp only
  rw [within.outcome?_eq, h.role_eq]
  cases (⟨stage, world, p', Log.within (triggerSpan step) log⟩ : Course Peer ι ω).outcome? with
  | some _ => exact within
  | none => exact within.cancel (h.respond blind) _

theorem Alike.publishing_eq (h : s.Alike s') :
    s.settings.publishing = s'.settings.publishing := by
  obtain ⟨-, publishing, -, -⟩ := Config.Service.mk.inj h.settings.rest
  exact publishing

theorem Alike.consuming_eq (h : s.Alike s') : s.settings.consuming = s'.settings.consuming := by
  obtain ⟨-, -, consuming, -⟩ := Config.Service.mk.inj h.settings.rest
  exact consuming

theorem result?_alike {c c' : Course Peer ι ω} (h : c.Alike Peer.Alike c') :
    result? c = result? c' := by
  rw [result?, result?, h.outcome?_eq]

theorem summary_alike {c c' : Course Peer ι ω} (h : c.Alike Peer.Alike c') :
    summary c = summary c' := by
  rw [summary, summary, h.stage]

theorem Alike.withPublishers (h : s.Alike s') {c c' : Course Peer ι ω}
    (hc : c.Alike Peer.Alike c') :
    Alike { s with peer := c.outside, supply := c.world.supply, publishers := c.world.pool }
      { s' with peer := c'.outside, supply := c'.world.supply, publishers := c'.world.pool } :=
  ⟨h.settings, h.files, hc.outside, by rw [hc.world], by rw [hc.world], h.consumers⟩

theorem Alike.withConsumers (h : s.Alike s') {c c' : Course Peer ι ω}
    (hc : c.Alike Peer.Alike c') :
    Alike { s with peer := c.outside, supply := c.world.supply, consumers := c.world.pool }
      { s' with peer := c'.outside, supply := c'.world.supply, consumers := c'.world.pool } :=
  ⟨h.settings, h.files, hc.outside, by rw [hc.world], h.publishers, by rw [hc.world]⟩

theorem Alike.publish (h : s.Alike s') (m : Outbound) :
    (s.publish m).1.Alike (s'.publish m).1 ∧ (s.publish m).2 = (s'.publish m).2 := by
  have triggered := h.trigger (Broker.blind_publishing s'.settings.publishing) s'.publishers m
  rw [Server.publish, Server.publish, h.publishing_eq, h.publishers]
  exact ⟨h.withPublishers triggered, Prod.ext triggered.log (result?_alike triggered)⟩

theorem Alike.consume (h : s.Alike s') (moment : Moment) :
    (s.consume moment).1.Alike (s'.consume moment).1 ∧
      (s.consume moment).2 = (s'.consume moment).2 := by
  have triggered := h.trigger (Broker.blind_consuming s'.settings.consuming) s'.consumers moment
  rw [Server.consume, Server.consume, h.consuming_eq, h.consumers]
  exact ⟨h.withConsumers triggered, Prod.ext triggered.log (result?_alike triggered)⟩

theorem Alike.shutdown (h : s.Alike s') : s.shutdown.2 = s'.shutdown.2 := by
  have first := h.call (Broker.blind_publishing s'.settings.publishing) s'.publishers .sealing
  have second := (h.withPublishers first).call
    (Broker.blind_consuming s'.settings.consuming) s'.consumers .sealing
  rw [Server.shutdown, Server.shutdown, h.publishing_eq, h.publishers, h.consuming_eq, h.consumers]
  exact Prod.ext (congrArg₂ _ first.log second.log)
    (congrArg₂ _ (summary_alike first) (summary_alike second))

end Alike

/-! ## Requests -/

/-- Two requests come to the same. -/
structure Handled.Alike (a a' : Handled) : Prop where
  server : a.server.Alike a'.server
  log : a.log = a'.log
  response : a.response = a'.response

section Requests

variable {s s' : Server}

theorem Alike.handled (h : s.Alike s') (response : Option Response) :
    Handled.Alike { server := s, response } { server := s', response } :=
  ⟨h, rfl, rfl⟩

theorem Alike.handlePublish (h : s.Alike s') (r : Request) :
    (s.handlePublish r).Alike (s'.handlePublish r) := by
  unfold Server.handlePublish
  cases r.message with
  | error response => exact h.handled _
  | ok m =>
    obtain ⟨server, said⟩ := h.publish m
    dsimp only
    rw [h.publishing_eq]
    generalize s.publish m = t at server said ⊢
    generalize s'.publish m = t' at server said ⊢
    obtain ⟨u, log, result⟩ := t
    obtain ⟨u', log', result'⟩ := t'
    obtain ⟨rfl, rfl⟩ := Prod.mk.inj said
    rcases result with _ | e | o <;> exact ⟨server, rfl, rfl⟩

theorem Alike.handleConsume (h : s.Alike s') (moment : Moment) :
    (s.handleConsume moment).Alike (s'.handleConsume moment) := by
  unfold Server.handleConsume
  obtain ⟨server, said⟩ := h.consume moment
  generalize s.consume moment = t at server said ⊢
  generalize s'.consume moment = t' at server said ⊢
  obtain ⟨u, log, result⟩ := t
  obtain ⟨u', log', result'⟩ := t'
  obtain ⟨rfl, rfl⟩ := Prod.mk.inj said
  rcases result with _ | e | o <;> exact ⟨server, rfl, rfl⟩

theorem Alike.handleAt (h : s.Alike s') (moment : Moment) (r : Request) (endpoint : Endpoint) :
    (s.handleAt moment r endpoint).Alike (s'.handleAt moment r endpoint) := by
  cases endpoint with
  | health => exact h.handled _
  | pool =>
    rw [Server.handleAt, Server.handleAt, h.publishers, h.consumers]
    exact h.handled _
  | publish => exact h.handlePublish r
  | consume => exact h.handleConsume moment

/-- A request and its response. -/
theorem Alike.handle (h : s.Alike s') (moment : Moment) (r : Request) :
    (s.handle moment r).Alike (s'.handle moment r) := by
  unfold Server.handle
  cases Endpoint.ofPath? r.path with
  | none => exact h.handled _
  | some endpoint =>
    have whole := h.handleAt moment r endpoint
    dsimp only
    split_ifs
    · exact ⟨whole.server, whole.log, congrArg (Option.map _) whole.response⟩
    · exact whole
    · exact h.handled _

theorem Alike.after (h : s.Alike s') (requests : List (Moment × Request)) :
    (s.after requests).Alike (s'.after requests) := by
  induction requests generalizing s s' with
  | nil => exact h
  | cons r rest ih => exact ih (h.handle r.1 r.2).server

/-- The end of the service. -/
theorem Alike.finish (h : s.Alike s') : (Startup.finish s).2 = (Startup.finish s').2 := by
  have said := h.shutdown
  unfold Startup.finish
  generalize s.shutdown = t at said ⊢
  generalize s'.shutdown = t' at said ⊢
  obtain ⟨u, log, farewell⟩ := t
  obtain ⟨u', log', farewell'⟩ := t'
  obtain ⟨rfl, rfl⟩ := Prod.mk.inj said
  rfl

end Requests

end BrokerPool.Http.Server
