import BrokerPool.Broker.Consumer
import BrokerPool.Broker.Publisher
import BrokerPool.Proofs.Broker.Quiet

/-!
# The work on a channel

What a step does on the channel of a connection. Both steps are tidy: they touch no other
connection, their success leaves the channel open, and only a broker that keeps silent leaves them
without a result.

Results:
* `Dialogue.hold_keeps`, `Dialogue.Works.keeps`: what every frame keeps up, a dialogue keeps up.
* `Spoken.tidy`: a step that is a dialogue about the work is tidy.
* `tidy_publishing`, `tidy_consuming`: both steps are tidy.
* `hasChannel_of_createWorker`: a worker is only there if its channel is open.
* `publish_spec`: on an open channel a message is published once, and the confirmation decides what
  comes of it.
* `fetch_spec`: on an open channel one message is asked for, and acknowledged under its own tag if
  there is one and the broker does not acknowledge it by itself.
-/

namespace BrokerPool.Broker

open Message (Delivery Inbound Outbound)

/-- A report of a controller about the worker that a trigger gets. -/
def workerEntry (e : Log.Entry) : Bool :=
  e.message = "Reusing pooled resource" || e.message = "Created resource"

/-! ## Tidy steps -/

/-- A step that keeps to its connection. -/
structure Step.Tidy {ι ω : Type} (step : Step ι ω) : Prop where
  /-- Preparing a channel is no work, needs the channel, and changes nothing about it. -/
  setup_works : step.setup.works = false
  setup_allowed : ∀ s : Session, s.refusal? step.setup = none → s.channelOpen = true
  setup_settle : ∀ s : Session, s.settle step.setup = s
  others : ∀ c input p, ∀ c' ≠ c, (step.run c input p).peer.session? c' = p.session? c'
  script : ∀ c input p, ∀ x ∈ (step.run c input p).peer.script, x ∈ p.script
  /-- After a success the channel is open. -/
  keeps : ∀ c input p o, (step.run c input p).result = some (.ok o) →
    (step.run c input p).peer.hasChannel c = true
  silent : ∀ c input p, (step.run c input p).result = none → Hanging p.script

section Tidy

variable {c : ℕ} {p : Peer}

/-- Around the work, a request has success only if the frame could be sent and had its effect. -/
theorem session_of_request {f : Frame} (hf : f.works = false)
    (h : (p.request c f).result = some (.ok ())) : ∃ s : Session, s.refusal? f = none ∧
      (p.request c f).peer.session? c = some ((s.post f).settle f) := by
  have hsent := p.send_sent c f
  unfold Peer.request at h ⊢
  generalize p.send c f = sent at hsent h ⊢
  cases hsent with
  | unsent cause => simp at h
  | unanswered s session allowed point => cases f <;> simp [Frame.works, Frame.point?] at hf point
  | answered s q session allowed point =>
    refine ⟨s, allowed, ?_⟩
    rcases (s.post f).hear_reply hf (p.script.next q).1 with ⟨hr, -⟩ | ⟨cause, hr⟩ | hr
    · simp [hr] at h
    · simp [hr] at h
    · rw [hr]
      exact Peer.session?_put_self session _ _

/-- A worker is only there if its channel is open. -/
theorem hasChannel_of_createWorker {ι ω : Type} {step : Step ι ω} (tidy : step.Tidy)
    (h : (createWorker step c p).result = some (.ok ())) :
    (createWorker step c p).peer.hasChannel c = true := by
  rw [createWorker_eq] at h ⊢
  unfold Turn.andThen at h ⊢
  split at h
  · obtain ⟨s, allowed, session⟩ := session_of_request tidy.setup_works h
    rw [tidy.setup_settle] at session
    exact (Peer.hasChannel_of_session session).trans (tidy.setup_allowed s allowed)
  · simp at h
  · simp at h

theorem send_others (p : Peer) (f : Frame) {c' : ℕ} (hc : c' ≠ c) :
    (p.send c f).1.session? c' = p.session? c' := by
  have hsent := p.send_sent c f
  generalize p.send c f = sent at hsent
  cases hsent with
  | unsent cause => rfl
  | unanswered s session allowed point => rw [Peer.session?_put, if_neg hc]
  | answered s q session allowed point =>
    rw [Peer.session?_put, if_neg hc]
    rfl

theorem send_script (p : Peer) (f : Frame) : ∀ x ∈ (p.send c f).1.script, x ∈ p.script := by
  have hsent := p.send_sent c f
  generalize p.send c f = sent at hsent
  cases hsent with
  | unsent cause | unanswered s session allowed point => exact fun _ hx => hx
  | answered s q session allowed point => exact fun x hx => Script.mem_of_mem_next hx

/-- A frame of the work is only answered on an open channel. -/
theorem hasChannel_of_send {f : Frame} (hf : f.works)
    (h : ∀ cause, (p.send c f).2 ≠ .failed cause) : (p.send c f).1.hasChannel c = true := by
  have hsent := p.send_sent c f
  generalize p.send c f = sent at hsent h
  cases hsent with
  | unsent cause => exact absurd rfl (h cause)
  | unanswered s session allowed point =>
    rw [Peer.hasChannel_of_session (Peer.session?_put_self session p.script _)]
    cases f <;> simp_all [Frame.works, Session.refusal?]
  | answered s q session allowed point =>
    rw [Peer.hasChannel_of_session (Peer.session?_put_self session _ _)]
    revert h
    cases (p.script.next q).1 <;> cases f <;>
      simp_all [Frame.works, Session.refusal?, Session.hear, Session.settle, Session.post]

/-- A frame of the work is sent on an open channel. -/
theorem send_of_session {s : Session} (hs : p.session? c = some s) (open_ : s.channelOpen = true)
    {f : Frame} (hf : f.works) {q : Point} (hq : f.point? = some q) :
    p.send c f = (({ p with script := (p.script.next q).2 } : Peer).put c
      ((s.post f).hear f (p.script.next q).1).1, ((s.post f).hear f (p.script.next q).1).2) := by
  have allowed : s.refusal? f = none := by
    cases f <;> simp_all [Frame.works, Session.refusal?]
  simp only [Peer.send, hs, allowed, hq]

theorem session_of_hasChannel (h : p.hasChannel c = true) :
    ∃ s, p.session? c = some s ∧ s.channelOpen = true := by
  cases hs : p.session? c with
  | none => simp [Peer.hasChannel, hs] at h
  | some s => exact ⟨s, rfl, by simpa [Peer.hasChannel, hs] using h⟩

/-- The session of a connection on which one more frame of the work was sent. -/
theorem worksOn_of_session {p' : Peer} {s s' : Session} {fs : List Frame}
    (hs : p.session? c = some s) (hs' : p'.session? c = some s') (hf : s'.frames = s.frames ++ fs)
    (hw : ∀ f ∈ fs, f.works = true) : p'.worksOn c = p.worksOn c ++ fs := by
  rw [Peer.worksOn, Peer.worksOn, Peer.framesOn_of_session hs', Peer.framesOn_of_session hs, hf,
    List.filter_append, List.filter_eq_self.mpr hw]

end Tidy

/-! ## Dialogues -/

namespace Dialogue

variable {α ω : Type} {c : ℕ} {p : Peer}

theorem hold_say {f : Frame} {next : Reply → Dialogue (Except Fault α)} {q : Peer} {reply : Reply}
    (sent : p.send c f = (q, reply)) (heard : reply ≠ .silent) :
    (Dialogue.say f next).hold c p = (next reply).hold c q := by
  rw [hold, sent]
  cases reply with
  | silent => exact absurd rfl heard
  | _ => rfl

theorem hold_say_silent {f : Frame} {next : Reply → Dialogue (Except Fault α)} {q : Peer}
    (sent : p.send c f = (q, .silent)) : (Dialogue.say f next).hold c p = ⟨q, [], none⟩ := by
  rw [hold, sent]

/-- What is kept up with every frame is kept up with a dialogue. -/
theorem hold_keeps {R : Peer → Peer → Prop} (refl : ∀ p, R p p)
    (trans : ∀ p q r, R p q → R q r → R p r) (send : ∀ p f, R p (p.send c f).1)
    (d : Dialogue (Except Fault α)) (p : Peer) : R p (d.hold c p).peer := by
  induction d generalizing p with
  | ended log result => exact refl p
  | say f next ih =>
    have first := send p f
    rcases sent : p.send c f with ⟨q, reply⟩
    rw [sent] at first
    by_cases silent : reply = .silent
    · rw [hold_say_silent (silent ▸ sent)]
      exact first
    · rw [hold_say sent silent]
      exact trans p q _ first (ih reply q)

theorem hold_others (d : Dialogue (Except Fault α)) (p : Peer) {c' : ℕ} (hc : c' ≠ c) :
    (d.hold c p).peer.session? c' = p.session? c' :=
  d.hold_keeps (R := fun p q => q.session? c' = p.session? c') (fun _ => rfl)
    (fun _ _ _ h h' => h'.trans h) (fun p f => send_others p f hc) p

theorem hold_script (d : Dialogue (Except Fault α)) (p : Peer) :
    ∀ x ∈ (d.hold c p).peer.script, x ∈ p.script :=
  d.hold_keeps (R := fun p q => ∀ x ∈ q.script, x ∈ p.script) (fun _ _ hx => hx)
    (fun _ _ _ h h' x hx => h x (h' x hx)) send_script p

/-- A dialogue has no result only if the broker keeps silent. -/
theorem hanging_of_hold {d : Dialogue (Except Fault α)} (h : (d.hold c p).result = none) :
    Hanging p.script := by
  induction d generalizing p with
  | ended log result => simp [hold] at h
  | say f next ih =>
    rcases sent : p.send c f with ⟨q, reply⟩
    by_cases silent : reply = .silent
    · exact hanging_of_send (c := c) (f := f) (by rw [sent, silent])
    · rw [hold_say sent silent] at h
      obtain ⟨point, hang⟩ := ih reply h
      exact ⟨point, send_script (c := c) p f _ (by rwa [sent])⟩

/-- All that is sent is a part of the work, and what fails ends the dialogue with its cause. -/
def Works : Dialogue (Except Fault α) → Prop
  | .ended .. => True
  | .say f next => f.works = true ∧ (∀ cause, next (.failed cause) = .ended [] (.error cause)) ∧
    ∀ reply, (next reply).Works

theorem works_ask {f : Frame} (hf : f.works = true) {next : Reply → Dialogue (Except Fault α)}
    (h : ∀ reply, (next reply).Works) : (ask f next).Works := by
  refine ⟨hf, fun _ => rfl, fun reply => ?_⟩
  cases reply with
  | failed cause => trivial
  | _ => exact h _

/-- Work that has success leaves the channel open; a dialogue that is over has nothing to do with
    it. -/
theorem Works.keeps {d : Dialogue (Except Fault α)} (works : d.Works)
    (opened : (∃ log result, d = .ended log result) → p.hasChannel c = true) {o : α}
    (ok : (d.hold c p).result = some (.ok o)) : (d.hold c p).peer.hasChannel c = true := by
  induction d generalizing p with
  | ended log result => exact opened ⟨log, result, rfl⟩
  | say f next ih =>
    obtain ⟨hf, fails, works⟩ := works
    have channel := hasChannel_of_send (c := c) (p := p) hf
    rcases sent : p.send c f with ⟨q, reply⟩
    rw [sent] at channel
    by_cases silent : reply = .silent
    · simp [hold_say_silent (silent ▸ sent)] at ok
    · rw [hold_say sent silent] at ok ⊢
      refine ih reply (works reply) (fun _ => channel ?_) ok
      rintro cause rfl
      simp [fails, hold] at ok

end Dialogue

/-- A step that is a dialogue about the work is tidy. -/
theorem Spoken.tidy {ι ω : Type} {s : Spoken ι ω} (setup_works : s.setup.works = false)
    (setup_allowed : ∀ t : Session, t.refusal? s.setup = none → t.channelOpen = true)
    (setup_settle : ∀ t : Session, t.settle s.setup = t)
    (works : ∀ input, (s.talk input).Works)
    (speaks : ∀ input log result, s.talk input ≠ .ended log result) : s.step.Tidy where
  setup_works := setup_works
  setup_allowed := setup_allowed
  setup_settle := setup_settle
  others _ input p _ hc := (s.talk input).hold_others p hc
  script _ input p := (s.talk input).hold_script p
  keeps _ input _ _ ok :=
    (works input).keeps (fun ⟨log, result, ended⟩ => absurd ended (speaks input log result)) ok
  silent _ _ _ h := Dialogue.hanging_of_hold h

/-! ## Publishing -/

/-- The broker takes a message. -/
def Reaction.acks : Reaction → Bool
  | .success | .returned | .message _ _ => true
  | _ => false

/-- What comes of a message after a reaction of the broker. -/
def confirmation (d : Message.Destination) : Reaction → Option (Except Fault Unit)
  | .success | .returned | .message _ _ => some (.ok ())
  | .nack => some (.error (rejection d))
  | .closeChannel code text => some (.error (Fault.closedByBroker Fault.closedChannel code text))
  | .closeConnection code text =>
    some (.error (Fault.closedByBroker Fault.closedConnection code text))
  | .drop => some (.error Fault.aborted)
  | .hang => none

/-- What is written about a message after a reaction of the broker. -/
def publishLog (d : Message.Destination) (m : Outbound) : Reaction → List Log.Entry
  | .success | .message _ _ => [(publishedEntry d).within (publishSpan d m)]
  | .returned => [(returnedEntry d).within (publishSpan d m)]
  | _ => []

section Publishing

variable {s : Config.Publishing} {c : ℕ} {m : Outbound} {p : Peer}

/-- On an open channel a message is published once, and the confirmation decides what comes of
    it. -/
theorem publish_spec (s : Config.Publishing) (m : Outbound) (h : p.hasChannel c = true) :
    (publish s c m p).peer.worksOn c = p.worksOn c ++ [.publish (publication s m)] ∧
    (publish s c m p).result = confirmation (m.destination s) (p.script.next .publish).1 ∧
    (publish s c m p).log = publishLog (m.destination s) m (p.script.next .publish).1 := by
  obtain ⟨session, hs, ho⟩ := session_of_hasChannel h
  have hsend := send_of_session (f := .publish (publication s m)) hs ho rfl rfl
  have peer : (publish s c m p).peer = (p.send c (.publish (publication s m))).1 := by
    simp only [publish, Dialogue.publish, Dialogue.ask, Dialogue.hold, hsend]
    cases (p.script.next .publish).1 <;> rfl
  refine ⟨?works, ?result, ?log⟩
  case works =>
    rw [peer, hsend]
    exact worksOn_of_session hs (Peer.session?_put_self hs _ _) (Session.hear_frames _ _ _)
      (by simp [Frame.works])
  case result | log =>
    simp only [publish, Dialogue.publish, Dialogue.ask, Dialogue.hold, hsend]
    cases (p.script.next .publish).1 <;> rfl

theorem works_publish (s : Config.Publishing) (m : Outbound) : (Dialogue.publish s m).Works := by
  refine Dialogue.works_ask rfl fun reply => ?_
  cases reply <;> trivial

theorem tidy_publishing (s : Config.Publishing) : (publishing s).Tidy :=
  Spoken.tidy rfl (by simp [publisher, Session.refusal?]) (fun _ => rfl) (works_publish s)
    fun _ _ _ => nofun

end Publishing

/-! ## Consuming -/

/-- The queue is empty. -/
def Reaction.empties : Reaction → Bool
  | .success | .returned | .nack => true
  | _ => false

/-- The channel is closed or lost, or nothing ever comes. -/
def Reaction.breaks : Reaction → Bool
  | .closeChannel .. | .closeConnection .. | .drop | .hang => true
  | _ => false

/-- The tag of a delivery: the one that the broker gives, or the number after the deliveries so
    far. -/
def deliveryTag (taken : ℕ) (tag : Option ℕ) : ℕ := tag.getD (taken + 1)

/-- The acknowledgement of what the broker hands over. -/
def acknowledgements (s : Config.Consuming) (taken : ℕ) : Reaction → List Frame
  | .message _ tag => if s.autoAck then [] else [.ack (deliveryTag taken tag) false]
  | _ => []

theorem acknowledgements_mem {s : Config.Consuming} {taken : ℕ} {reaction : Reaction} {f : Frame}
    (h : f ∈ acknowledgements s taken reaction) :
    s.autoAck = false ∧ ∃ tag, f = .ack tag false := by
  cases reaction <;> simp_all [acknowledgements]

/-- What a reaction of the broker hands over; `some none` if the queue is empty. -/
def handed (moment : Moment) : Reaction → Option (Except Fault (Option Inbound))
  | .message d _ => some (.ok (some (inbound moment d)))
  | .success | .returned | .nack => some (.ok none)
  | .closeChannel code text => some (.error (Fault.closedByBroker Fault.closedChannel code text))
  | .closeConnection code text =>
    some (.error (Fault.closedByBroker Fault.closedConnection code text))
  | .drop => some (.error Fault.aborted)
  | .hang => none

section Consuming

variable {s : Config.Consuming} {c : ℕ} {moment : Moment} {p : Peer}

/-- After a message was handed over it is acknowledged, unless the broker does so by itself. -/
theorem fetch_of_delivered (moment : Moment) {q : Peer} {tag : ℕ} {d : Delivery}
    (hsend : p.send c (.get s.queue s.autoAck) = (q, .delivered tag d)) {session : Session}
    (hs : q.session? c = some session) (ho : session.channelOpen = true) :
    (fetch s c moment p).peer =
        (if s.autoAck then q else q.put c (session.post (.ack tag false))) ∧
      (fetch s c moment p).result = some (.ok (some (inbound moment d))) := by
  simp only [fetch, Dialogue.fetch, Dialogue.ask, Dialogue.hold, hsend]
  split
  · exact ⟨rfl, rfl⟩
  · have acked : q.send c (.ack tag false) = (q.put c (session.post (.ack tag false)), .done) := by
      simp [Peer.send, hs, Session.refusal?, ho, Frame.point?]
    simp [Dialogue.hold, acked]

/-- On an open channel one message is asked for; what is handed over is acknowledged under its own
    tag, unless the broker does so by itself. -/
theorem fetch_spec (s : Config.Consuming) (moment : Moment) (h : p.hasChannel c = true) :
    (fetch s c moment p).peer.worksOn c = p.worksOn c ++ .get s.queue s.autoAck ::
      acknowledgements s (p.taken c) (p.script.next .get).1 ∧
    (fetch s c moment p).result = handed moment (p.script.next .get).1 := by
  obtain ⟨session, hs, ho⟩ := session_of_hasChannel h
  have hsend := send_of_session (f := .get s.queue s.autoAck) hs ho rfl rfl
  have hself := Peer.session?_put_self hs (p.script.next .get).2
  cases hr : (p.script.next .get).1 with
  | message d tag =>
    rw [hr] at hsend
    obtain ⟨hpeer, hresult⟩ := fetch_of_delivered moment hsend (hself _) ho
    refine ⟨?_, hresult⟩
    rw [hpeer, Peer.taken_of_session hs, acknowledgements]
    cases s.autoAck with
    | true => exact worksOn_of_session hs (hself _) rfl (by simp [Frame.works])
    | false =>
      refine worksOn_of_session hs (Peer.session?_put_self (hself _) _ _) ?_ (by simp [Frame.works])
      simp [deliveryTag, Session.hear]
  | success | nack | returned | closeChannel | closeConnection | drop | hang =>
    rw [hr] at hsend
    have quiet : (fetch s c moment p).peer = (p.send c (.get s.queue s.autoAck)).1 ∧
        (fetch s c moment p).result = handed moment (p.script.next .get).1 := by
      simp only [fetch, Dialogue.fetch, Dialogue.ask, Dialogue.hold, hsend, hr]
      exact ⟨rfl, rfl⟩
    refine ⟨?_, hr ▸ quiet.2⟩
    rw [quiet.1, hsend]
    exact worksOn_of_session hs (hself _) (Session.hear_frames _ _ _)
      (by simp [Frame.works, acknowledgements])

theorem works_fetch (s : Config.Consuming) (moment : Moment) : (Dialogue.fetch s moment).Works := by
  refine Dialogue.works_ask rfl fun reply => ?_
  cases reply with
  | delivered tag d =>
    cases s.autoAck with
    | true => trivial
    | false => exact Dialogue.works_ask rfl fun _ => trivial
  | _ => trivial

theorem tidy_consuming (s : Config.Consuming) : (consuming s).Tidy :=
  Spoken.tidy rfl (by simp [consumer, Session.refusal?]) (fun _ => rfl) (works_fetch s)
    fun _ _ _ => nofun

end Consuming

end BrokerPool.Broker
