import BrokerPool.Proofs.Http.Alike

/-!
# What passwords make no difference to

Settings that differ in the contents of their two passwords only cannot be told apart, except by
the broker that is logged in to: not by what is shown of them, not by what is said about them, and
not by the logs and answers of what runs with them.

Results:
* `shown_of_alike`: the settings by themselves.
* `runs_of_alike`: every run of a controller.
* `service_of_alike`: the service, from its beginning to its end.
* `secrets_unseen`: all of it.
-/

namespace BrokerPool.Startup

open Broker (Moment Peer Step TlsMaterial connect consuming publishing respond)
open Config (Failure)
open Http (Request Server)
open Lifecycle (Happening Scene)
open Message (Inbound Outbound)

variable {s s' : Config.Service} {ι ω : Type}

/-! ## Settings by themselves -/

/-- Two values have the same diagnostic texts, on one line and with one item to a line. -/
structure SameText (a b : Text.Shape) : Prop where
  compact : a.compact = b.compact
  pretty : a.pretty 0 = b.pretty 0

theorem SameText.of_eq {a b : Text.Shape} (h : a = b) : SameText a b :=
  ⟨congrArg _ h, congrArg _ h⟩

/-- Two settings of a secured transport show the same. Where files cannot be read, whatever files
    there are, both fail with the same error. -/
structure SameTls (t t' : Config.Tls) : Prop where
  text : SameText t.shape t'.shape
  unreadable (files : Files) (e : Lifecycle.ConnectionError) :
    TlsMaterial.load files t = .error e ↔ TlsMaterial.load files t' = .error e

/-- Two settings show the same, and the same is said about them. -/
structure SameShown (s s' : Config.Service) : Prop where
  service : SameText s.shape s'.shape
  broker : SameText s.broker.shape s'.broker.shape
  tls : Option.Rel SameTls s.broker.tls s'.broker.tls
  target : s.broker.target = s'.broker.target
  failures : s.broker.failures = s'.broker.failures
  summary : Failure.summary s.broker.failures = Failure.summary s'.broker.failures

theorem shown_of_alike (h : s.Alike s') : SameShown s s' where
  service := .of_eq h.shape_eq
  broker := .of_eq h.broker.shape_eq
  tls := match s.broker.tls, s'.broker.tls, h.broker.tls with
    | _, _, .none => .none
    | _, _, .some alike => .some ⟨.of_eq alike.shape_eq, alike.load_error⟩
  target := h.broker.target_eq
  failures := h.broker.failures_eq
  summary := congrArg _ h.broker.failures_eq

/-! ## Controllers -/

/-- A new controller with a step and a broker, after all that has happened to it. -/
def controller (settings : Config.Service) (files : Files) (step : Step ι ω) (p : Peer)
    (all : List (Happening ι ω)) : Scene Peer ι ω :=
  Scene.play ⟨settings.broker.target, step.name⟩ (respond files settings.broker step)
    { outside := p } all

/-- Two controllers have logged the same, and every call to one of them stands where it stands with
    the other, or has come to the same. -/
structure SameRun (a b : Scene Peer ι ω) : Prop where
  log : a.log = b.log
  system : a.system = b.system

/-- With brokers that answer alike, the same happens to connections and to controllers. -/
structure SameRuns (s s' : Config.Service) : Prop where
  connectLog (files : Files) (c : ℕ) {p p' : Peer} (hp : p.Alike p') :
    (connect files s.broker c p).log = (connect files s'.broker c p').log
  connectResult (files : Files) (c : ℕ) {p p' : Peer} (hp : p.Alike p') :
    (connect files s.broker c p).result = (connect files s'.broker c p').result
  step {ι ω : Type} {step : Step ι ω} (blind : step.Blind) (files : Files) {p p' : Peer}
    (hp : p.Alike p') (all : List (Happening ι ω)) :
    SameRun (controller s files step p all) (controller s' files step p' all)
  publisher (files : Files) {p p' : Peer} (hp : p.Alike p')
    (all : List (Happening Outbound Unit)) :
    SameRun (controller s files (publishing s.publishing) p all)
      (controller s' files (publishing s'.publishing) p' all)
  consumer (files : Files) {p p' : Peer} (hp : p.Alike p')
    (all : List (Happening Moment (Option Inbound))) :
    SameRun (controller s files (consuming s.consuming) p all)
      (controller s' files (consuming s'.consuming) p' all)

/-- Every run of a controller whose step does not look at what was sent. -/
theorem controller_alike (h : s.Alike s') {step : Step ι ω} (blind : step.Blind) (files : Files)
    {p p' : Peer} (hp : p.Alike p') (all : List (Happening ι ω)) :
    SameRun (controller s files step p all) (controller s' files step p' all) := by
  have answers : Lifecycle.RespondAlike Peer.Alike (respond files s.broker step)
      (respond files s'.broker step) := fun _ _ request hq =>
    Broker.respond_alike blind h.broker files hq request
  have start : Scene.Alike Peer.Alike ({ outside := p } : Scene Peer ι ω) { outside := p' } :=
    ⟨hp, rfl, rfl, rfl⟩
  have played := start.play answers ⟨s'.broker.target, step.name⟩ all
  rw [controller, controller, h.broker.target_eq]
  exact ⟨played.log, played.system⟩

theorem runs_of_alike (h : s.Alike s') : SameRuns s s' := by
  obtain ⟨-, publishes, consumes, -⟩ := Config.Service.mk.inj h.rest
  exact {
    connectLog := fun files c _ _ hp => (Broker.connect_alike h.broker files hp c).log
    connectResult := fun files c _ _ hp => (Broker.connect_alike h.broker files hp c).result
    step := controller_alike h
    publisher := by
      rw [publishes]
      exact controller_alike h (Broker.blind_publishing _)
    consumer := by
      rw [consumes]
      exact controller_alike h (Broker.blind_consuming _) }

/-- A message that is published on a new connection, as a run of a controller. -/
example :
    let trigger : List (Happening Outbound Unit) :=
      [.act (.start (.acquire (.trigger { payload := "paid" }))), .act (.proceed 1),
        .act (.proceed 1), .ask 1, .hear 1, .ask 1, .hear 1, .ask 1, .hear 1, .act (.proceed 1)]
    (controller {} {} (publishing {}) { route := .through } trigger).log.map (·.message) =
      ["AMQP connection established", "Created resource", "Message published"] := by
  decide +kernel

/-! ## The service -/

/-- Two servers give the same responses to the same requests, log the same meanwhile, and log the
    same when they end. -/
structure SameServing (a b : Server) : Prop where
  response (requests : List (Moment × Request)) (moment : Moment) (r : Request) :
    ((a.after requests).handle moment r).response = ((b.after requests).handle moment r).response
  log (requests : List (Moment × Request)) (moment : Moment) (r : Request) :
    ((a.after requests).handle moment r).log = ((b.after requests).handle moment r).log
  finish (requests : List (Moment × Request)) :
    (finish (a.after requests)).2 = (finish (b.after requests)).2

/-- Two services log the same as they begin, and then neither goes on, for the same reason, or their
    servers do the same. -/
structure SameBeginning (a b : Beginning) : Prop where
  log : a.log = b.log
  server : (∃ reason, a.server = .error reason ∧ b.server = .error reason) ∨
    ∃ u u', a.server = .ok u ∧ b.server = .ok u' ∧ SameServing u u'

theorem serving_of_alike {a b : Server} (h : a.Alike b) : SameServing a b where
  response requests moment r := ((h.after requests).handle moment r).response
  log requests moment r := ((h.after requests).handle moment r).log
  finish requests := (h.after requests).finish

theorem service_of_alike (h : s.Alike s') (files : Files) {p p' : Peer} (hp : p.Alike p') :
    SameBeginning (ofSettings s files p) (ofSettings s' files p') := by
  obtain ⟨-, -, consumes, port⟩ := Config.Service.mk.inj h.rest
  have server : Server.Alike { settings := s, files, peer := p }
      { settings := s', files, peer := p' } := ⟨h, rfl, hp, rfl, rfl, rfl⟩
  rw [ofSettings, ofSettings, Server.ofSettings, Server.ofSettings, h.broker.target_eq,
    h.broker.failures_eq, consumes, port]
  cases s'.broker.failures ++ s'.consuming.failures with
  | cons f rest => exact ⟨rfl, .inl ⟨_, rfl, rfl⟩⟩
  | nil =>
    cases s'.broker.failures with
    | cons f rest => exact ⟨rfl, .inl ⟨_, rfl, rfl⟩⟩
    | nil => exact ⟨rfl, .inr ⟨_, _, rfl, rfl, serving_of_alike server⟩⟩

/-! ## All of it -/

/-- Nobody but the broker can tell two settings apart. -/
structure Indistinct (s s' : Config.Service) : Prop where
  shown : SameShown s s'
  runs : SameRuns s s'
  service (files : Files) {p p' : Peer} (hp : p.Alike p') :
    SameBeginning (ofSettings s files p) (ofSettings s' files p')

/-- The contents of the passwords make no difference to anything but the session with the broker. -/
theorem secrets_unseen (h : s.Alike s') : Indistinct s s' where
  shown := shown_of_alike h
  runs := runs_of_alike h
  service := service_of_alike h

/-- Settings with a password and a secured transport. -/
def guarded (password identityPassword : String) : Config.Service where
  broker := {
    username := some "guest"
    password := some password
    tls := some ((Config.Tls.ofAuthority "ca.pem").withIdentity "client.p12" identityPassword) }
  consuming := { queue := "orders" }

theorem secrets_unseen_guarded :
    guarded "hunter2" "changeit" ≠ guarded "correct horse" "battery staple" ∧
      (guarded "hunter2" "changeit").Alike (guarded "correct horse" "battery staple") ∧
      Indistinct (guarded "hunter2" "changeit") (guarded "correct horse" "battery staple") ∧
      ∀ files p all, SameRun
        (controller (guarded "hunter2" "changeit") files (publishing {}) p all)
        (controller (guarded "correct horse" "battery staple") files (publishing {}) p all) := by
  have alike : (guarded "hunter2" "changeit").Alike (guarded "correct horse" "battery staple") :=
    ⟨rfl, rfl, .given (by decide) (by decide), .some ⟨rfl, .given (by decide) (by decide)⟩⟩
  have unseen := secrets_unseen alike
  exact ⟨by decide, alike, unseen, fun files p all => unseen.runs.publisher files (.refl p) all⟩

end BrokerPool.Startup
