import BrokerPool.Proofs.Http.Sequence

/-!
# Messages published over HTTP

A request with a message is one trigger of the publishing controller. Once it has got a worker its
message is published exactly once on one connection, to the destination that the settings and the
message name. The response follows the confirmation of the broker, and tells the destination that
was published to. When the broker does not take the message, the connection is not used again.

Results:
* `Served.publishedOn`: what a trigger with a worker does, whether the broker takes its message or
  not.
* `Server.handlePublish_spec`: a request with a message is the response to its trigger.
* `published_once`: the publishing of one message after any other requests.
-/

namespace BrokerPool.Http

open Broker (Hanging Moment Peer Publication Reaction Script confirmation publishing workerEntry)
open Lifecycle (TriggerError)
open Message (Destination Outbound)

/-! ## Confirmations -/

/-- A message has success if the broker takes it. -/
theorem confirmation_of_acks {d : Destination} {reaction : Reaction} (h : reaction.acks = true) :
    confirmation d reaction = some (.ok ()) := by
  cases reaction <;> simp_all [Reaction.acks, confirmation]

theorem confirmation_of_not_acks {d : Destination} {reaction : Reaction}
    (h : reaction.acks = false) (o : Unit) : confirmation d reaction ≠ some (.ok o) := by
  cases reaction <;> simp_all [Reaction.acks, confirmation]

/-- The warnings about a message that the broker takes: that it came back, if it did. -/
def returnWarnings (s : Config.Publishing) (m : Outbound) : Reaction → List Log.Entry
  | .returned =>
    let d := m.destination s
    Log.within (Server.triggerSpan (publishing s))
      [(Broker.returnedEntry d).within (Broker.publishSpan d m)]
  | _ => []

theorem warnings_publishLog (s : Config.Publishing) (m : Outbound) (reaction : Reaction) :
    Log.within (Server.triggerSpan (publishing s))
      (warnings (Broker.publishLog (m.destination s) m reaction)) =
        returnWarnings s m reaction := by
  cases reaction <;> rfl

/-! ## Triggers with a message -/

/-- What the trigger does that has got a worker for `m` on the connection `c`. -/
structure PublishedOn (s : Server) (m : Outbound) (c : ℕ) : Prop where
  works : (s.publish m).1.peer.worksOn c =
    s.peer.worksOn c ++ [.publish (Broker.publication s.settings.publishing m)]
  others : ∀ n ≠ c, (s.publish m).1.peer.worksOn n = s.peer.worksOn n
  taken : (s.peer.script.next .publish).1.acks = true → (s.publish m).2.2 = some (.ok ()) ∧
    warnings (s.publish m).2.1 =
      returnWarnings s.settings.publishing m (s.peer.script.next .publish).1
  refused : (s.peer.script.next .publish).1.acks = false →
    (∀ a, (s.publish m).2.2 = some a → ∃ e, a = .error (.processing e)) ∧
    (s.publish m).1.Retired c

theorem Served.publishedOn {s : Server} (sound : s.Sound) {m : Outbound} {c : ℕ} {p₁ : Peer}
    (served : Served (publishing s.settings.publishing) m s.peer ⟨s.publishers, s.supply⟩ c p₁
      (s.trigger (publishing s.settings.publishing) s.publishers m) (s.publish m).2.2) :
    PublishedOn s m c := by
  obtain ⟨worked, result, written⟩ :=
    Broker.publish_spec s.settings.publishing m served.channel
  rw [served.quiet.reactions .publish rfl] at result written
  constructor
  case works => rw [← served.quiet.works, ← worked]; exact served.works
  case others => exact fun n hn => Peer.worksOn_congr (served.others n hn)
  case taken =>
    intro taken
    obtain ⟨ok, -, warned⟩ := served.success () (result.trans (confirmation_of_acks taken))
    refine ⟨ok, warned.trans ?_⟩
    rw [← warnings_publishLog, ← written]
    rfl
  case refused =>
    intro refused
    obtain ⟨failed, spent⟩ := served.failure fun o ho =>
      confirmation_of_not_acks refused o (result.symm.trans ho)
    exact ⟨failed, spent _ sound.stocked⟩

/-! ## Requests with a message -/

namespace Server

/-- The response to a request whose message has the destination `d`. -/
def publishResponse (d : Destination) : Except TriggerError Unit → Response
  | .error e => failure e
  | .ok () => ok [
      ("published", .bool true),
      ("exchange", .string d.exchange),
      ("routing_key", .string d.routingKey)]

variable {s : Server} {r : Request} {m : Outbound}

/-- A trigger that fails in one way has a response that tells so. -/
theorem publishResponse_failed {ε : Type} {wrap : ε → TriggerError} {d : Destination}
    {result : Option (Except TriggerError Unit)}
    (failed : ∀ a, result = some a → ∃ e, a = .error (wrap e)) :
    ∀ a, result.map (publishResponse d) = some a → ∃ e, a = failure (wrap e) := by
  intro a ha
  obtain ⟨result, hr, rfl⟩ := Option.map_eq_some_iff.mp ha
  obtain ⟨e, rfl⟩ := failed result hr
  exact ⟨e, rfl⟩

/-- A request with a message is the response to its trigger, and writes one line more. -/
theorem handlePublish_spec (s : Server) (message : r.message = .ok m) :
    ∃ more : List Log.Entry, warnings more = [] ∧ more.any workerEntry = false ∧
      s.handlePublish r = ⟨(s.publish m).1, (s.publish m).2.1 ++ more,
        (s.publish m).2.2.map (publishResponse (m.destination s.settings.publishing))⟩ := by
  unfold handlePublish
  rw [message]
  dsimp only
  generalize s.publish m = t
  obtain ⟨s', log, result⟩ := t
  cases result with
  | none => exact ⟨[], rfl, rfl, by simp⟩
  | some result =>
    cases result with
    | error e =>
      exact ⟨[failureEntry e], rfl, by simp [workerEntry, failureEntry, Log.entry], rfl⟩
    | ok o =>
      exact ⟨[publishedEntry (m.destination s.settings.publishing)], rfl,
        by simp [workerEntry, publishedEntry, Log.entry], rfl⟩

theorem handle_of_publish (path : Endpoint.ofPath? r.path = some .publish)
    (method : r.method = "POST") (moment : Moment) : s.handle moment r = s.handlePublish r := by
  simp [handle, path, method, Endpoint.allows, handleAt]

theorem failure_status (e : TriggerError) : (failure e).status ≠ .ok := by
  cases e <;> simp [failure, failureStatus]

end Server

/-! ## Messages -/

/-- A request that finds no worker: nothing is done on any connection. -/
structure Unpublished (s : Server) (h : Server.Handled) : Prop where
  works : ∀ n, h.server.peer.worksOn n = s.peer.worksOn n
  response : ∀ a, h.response = some a → ∃ e, a = Server.failure (.connection e)

/-- What a request with the message `m` comes to, when `p` is published on the connection `c`, the
    broker reacts to that with `reaction`, and the requests `later` follow. -/
structure Published (settings : Config.Publishing) (s : Server) (m : Outbound) (reaction : Reaction)
    (h : Server.Handled) (later : List (Moment × Request)) (c : ℕ) (p : Publication) : Prop where
  /-- One message is published. -/
  works : h.server.peer.worksOn c = s.peer.worksOn c ++ [.publish p]
  others : ∀ n ≠ c, h.server.peer.worksOn n = s.peer.worksOn n
  exchange : p.destination.exchange = settings.exchange
  routingKey : p.destination.routingKey = m.routingKey.getD settings.routingKey
  mandatory : p.mandatory = true
  properties : p.properties = m.properties
  body : p.body = Text.Utf8.encode m.payload
  /-- The request has success if and only if the broker takes the message. -/
  success : (∃ a, h.response = some a ∧ a.status = .ok) ↔ reaction.acks = true
  named : ∀ a, h.response = some a → a.status = .ok → a = Server.ok [
    ("published", .bool true),
    ("exchange", .string p.destination.exchange),
    ("routing_key", .string p.destination.routingKey)]
  warned : reaction.acks = true → warnings h.log = returnWarnings settings m reaction
  refused : reaction.acks = false →
    (∀ a, h.response = some a → ∃ e, a = Server.failure (.processing e)) ∧
    (h.server.after later).peer.worksOn c = h.server.peer.worksOn c

/-- What a request comes to whose trigger has got a worker; `more` is what the request writes
    besides its trigger. -/
theorem PublishedOn.published {s : Server} {m : Outbound} {c : ℕ} (on : PublishedOn s m c)
    (sound : s.Sound) {more : List Log.Entry} (quiet : warnings more = [])
    (later : List (Moment × Request)) :
    Published s.settings.publishing s m (s.peer.script.next .publish).1
      ⟨(s.publish m).1, (s.publish m).2.1 ++ more,
        (s.publish m).2.2.map (Server.publishResponse (m.destination s.settings.publishing))⟩
      later c (Broker.publication s.settings.publishing m) := by
  have refusal (refused : (s.peer.script.next .publish).1.acks = false) :=
    Server.publishResponse_failed (d := m.destination s.settings.publishing) (on.refused refused).1
  have success : (∃ a, ((s.publish m).2.2.map
      (Server.publishResponse (m.destination s.settings.publishing))) = some a ∧
      a.status = .ok) ↔ (s.peer.script.next .publish).1.acks = true := by
    refine ⟨fun ⟨a, ha, ok⟩ => ?_, fun taken => ⟨_, by rw [(on.taken taken).1]; rfl, rfl⟩⟩
    by_contra refused
    obtain ⟨e, rfl⟩ := refusal (Bool.eq_false_iff.mpr refused) a ha
    exact Server.failure_status _ ok
  refine ⟨on.works, on.others, rfl, rfl, rfl, rfl, rfl, success, ?named, ?warned, ?refused⟩
  case named =>
    intro a ha ok
    rw [(on.taken (success.mp ⟨a, ha, ok⟩)).1] at ha
    exact (Option.some.inj ha).symm
  case warned =>
    intro taken
    rw [warnings_append, quiet, List.append_nil, (on.taken taken).2]
  case refused =>
    intro refused
    have goes := Server.after_goes (Server.publish_goes sound m).sound later
    exact ⟨refusal refused, goes.worksOn (on.refused refused).2⟩

/-- A message that is sent to a server after any requests is published once if there is a worker,
    and the response is that of the broker. Only a broker that keeps silent somewhere leaves the
    request without a response. -/
theorem published_once {settings : Config.Service} {script : Script} {s : Server}
    (reached : s.Reached settings script) (moment : Moment) {r : Request} {m : Outbound}
    (path : Endpoint.ofPath? r.path = some .publish) (method : r.method = "POST")
    (message : r.message = .ok m) (later : List (Moment × Request)) :
    ((s.handle moment r).log.any workerEntry = true → ∃ c p,
      Published settings.publishing s m (s.peer.script.next .publish).1
        (s.handle moment r) later c p) ∧
    ((s.handle moment r).log.any workerEntry = false → Unpublished s (s.handle moment r)) ∧
    (¬ Hanging script → (s.handle moment r).response.isSome = true) := by
  obtain ⟨sound, rfl, scripted, -⟩ := reached.sound
  have tidy := Broker.tidy_publishing s.settings.publishing
  obtain ⟨ended, silent⟩ := triggered s tidy s.publishers sound.begins_publishing m
  obtain ⟨more, quiet, noWorker, handled⟩ := s.handlePublish_spec message
  rw [Server.handle_of_publish path method, handled]
  have worker : ((s.publish m).2.1 ++ more).any workerEntry =
      (s.trigger (publishing s.settings.publishing) s.publishers m).log.any workerEntry := by
    rw [List.any_append, noWorker, Bool.or_false]
    rfl
  refine ⟨fun has => ?served, fun has => ?unserved, fun hang => ?answered⟩
  case answered =>
    rw [Option.isSome_map, Option.isSome_iff_ne_none]
    exact fun hn => hang ((silent hn).imp fun _ => scripted _)
  case unserved =>
    obtain ⟨-, works, failed⟩ := (ended.served tidy).resolve_right fun h => by
      simp [h.1, worker] at has
    exact ⟨works, Server.publishResponse_failed failed⟩
  case served =>
    obtain ⟨-, c, p₁, served⟩ := (ended.served tidy).resolve_left fun h => by
      simp [h.1, worker] at has
    exact ⟨c, _, (served.publishedOn sound).published sound quiet later⟩

/-- A server whose broker does not take one message, and hands the next one back. -/
def reluctant : Server where
  settings := { broker := .ofCredentials "broker" "guest" "guest", publishing := ⟨"orders", "new"⟩ }
  files := {}
  peer := { route := .through, script := [(.publish, .nack), (.publish, .returned)] }

/-- A request with a message whose own routing key is empty. -/
def unaddressed : Request where
  method := "POST"
  path := "/publish"
  contentType := some "application/json"
  body := Text.Utf8.encode "\x7b\"payload\": \"hello\", \"routing_key\": \"\"\x7d"

/-- The second of two messages, after one that the broker did not take. -/
theorem published_once_returned :
    let s := reluctant.after [(⟨0, ⟨0, 0, 0⟩⟩, unaddressed)]
    ∃ c p, Published ⟨"orders", "new"⟩ s { payload := "hello", routingKey := some "" }
      (s.peer.script.next .publish).1 (s.handle ⟨0, ⟨0, 0, 0⟩⟩ unaddressed) [] c p := by
  intro s
  have reached : s.Reached reluctant.settings reluctant.peer.script :=
    ⟨{}, .through, reluctant, _, rfl, rfl⟩
  have decoded : unaddressed.message.toOption =
    some { payload := "hello", routingKey := some "" } := by decide +kernel
  have message : unaddressed.message = .ok { payload := "hello", routingKey := some "" } := by
    cases h : unaddressed.message <;> simp_all [Except.toOption]
  have worker : ((reluctant.after [(⟨0, ⟨0, 0, 0⟩⟩, unaddressed)]).handle ⟨0, ⟨0, 0, 0⟩⟩
      unaddressed).log.any workerEntry = true := by decide +kernel
  exact (published_once reached ⟨0, ⟨0, 0, 0⟩⟩ (by decide) rfl message []).1 worker

end BrokerPool.Http
