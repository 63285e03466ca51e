import BrokerPool.Broker.Consumer
import BrokerPool.Broker.Publisher
import BrokerPool.Proofs.Broker.Quiet
import BrokerPool.Proofs.Config.Secrets
import Mathlib.Tactic.SplitIfs

/-!
# Brokers that answer alike

A broker that has seen other passwords, and is in the same state otherwise, goes on in the same way:
it answers alike, it is in the same state again, and the same is logged.

Results:
* `Peer.Alike.send`: a frame is answered alike.
* `connect_alike`: a connection for settings that differ in their secrets.
* `Dialogue.hold_alike`, `Spoken.blind`: a dialogue goes on alike, so no step that is one looks at
  what was sent before.
* `respond_alike`: every request of a controller with such a step.
* `blind_publishing`, `blind_consuming`: both roles have one.
-/

namespace BrokerPool.Broker

/-! ## Sessions -/

/-- Two frames are the same, except for what a client says when it is asked who it is. -/
inductive Frame.Alike : Frame → Frame → Prop
  | logIn (mechanism : Config.Mechanism) (r r' : List String) (name : String) :
    Alike (.logIn mechanism r name) (.logIn mechanism r' name)
  | same (f : Frame) : Alike f f

theorem Frame.Alike.point?_eq {f f' : Frame} (h : f.Alike f') : f.point? = f'.point? := by
  cases h <;> rfl

namespace Session

/-- Two sessions are in the same state, whatever frames were sent. -/
structure Alike (s s' : Session) : Prop where
  connected : s.connected = s'.connected
  channelOpen : s.channelOpen = s'.channelOpen
  deliveries : s.deliveries = s'.deliveries

variable {s s' : Session} {f f' : Frame}

theorem Alike.refl (s : Session) : s.Alike s := ⟨rfl, rfl, rfl⟩

theorem Alike.refusal?_eq (h : s.Alike s') (hf : f.Alike f') : s.refusal? f = s'.refusal? f' := by
  cases hf with
  | logIn => rfl
  | same f => cases f <;> simp [refusal?, h.connected, h.channelOpen]

theorem Alike.post (h : s.Alike s') (f f' : Frame) : (s.post f).Alike (s'.post f') :=
  ⟨h.connected, h.channelOpen, h.deliveries⟩

theorem Alike.lost (h : s.Alike s') : s.lost.Alike s'.lost := ⟨rfl, rfl, h.deliveries⟩

theorem Alike.settle (h : s.Alike s') (hf : f.Alike f') : (s.settle f).Alike (s'.settle f') := by
  cases hf with
  | logIn => exact h
  | same f =>
    cases f with
    | openConnection => exact ⟨rfl, h.channelOpen, h.deliveries⟩
    | openChannel | closeChannel => exact ⟨h.connected, rfl, h.deliveries⟩
    | closeConnection => exact h.lost
    | _ => exact h

/-- The same reaction is heard alike. -/
theorem Alike.hear (h : s.Alike s') (hf : f.Alike f') (r : Reaction) :
    (s.hear f r).1.Alike (s'.hear f' r).1 ∧ (s.hear f r).2 = (s'.hear f' r).2 := by
  have settled := h.settle hf
  cases r with
  | hang => exact ⟨h, rfl⟩
  | drop | closeConnection => exact ⟨h.lost, rfl⟩
  | closeChannel => exact ⟨⟨h.connected, rfl, h.deliveries⟩, rfl⟩
  | success => exact ⟨settled, rfl⟩
  | nack | returned =>
    cases hf with
    | logIn => exact ⟨settled, rfl⟩
    | same f => cases f <;> first | exact ⟨h, rfl⟩ | exact ⟨settled, rfl⟩
  | message d tag =>
    cases hf with
    | logIn => exact ⟨settled, rfl⟩
    | same f =>
      cases f with
      | get =>
        refine ⟨⟨h.connected, h.channelOpen, congrArg (· + 1) h.deliveries⟩, ?_⟩
        simp only [Session.hear, h.deliveries]
      | _ => exact ⟨settled, rfl⟩

end Session

/-! ## Frames -/

namespace Peer

/-- Two brokers have the same to answer and are in the same state, whatever was sent to them. -/
structure Alike (p p' : Peer) : Prop where
  route : p.route = p'.route
  script : p.script = p'.script
  sessions : ∀ c, Option.Rel Session.Alike (p.session? c) (p'.session? c)

variable {p p' : Peer} {c : ℕ}

theorem Alike.refl (p : Peer) : p.Alike p := by
  refine ⟨rfl, rfl, fun c => ?_⟩
  cases p.session? c with
  | none => exact .none
  | some s => exact .some (.refl s)

theorem session?_begin_append (p : Peer) (c c' : ℕ) :
    (p.begin c).session? c' = (p.session? c').or (if c' = c then some {} else none) := by
  rw [session?, begin, List.lookup_append, session?]
  by_cases hc : c' = c
  · simp [hc]
  · simp [hc, List.lookup_cons, beq_eq_false_iff_ne.mpr hc]

/-- Neither broker has a session on a connection, or both have one. -/
theorem Alike.session_cases (h : p.Alike p') (c : ℕ) :
    (p.session? c = none ∧ p'.session? c = none) ∨
      ∃ s s', p.session? c = some s ∧ p'.session? c = some s' ∧ s.Alike s' :=
  Config.rel_cases (h.sessions c)

theorem Alike.put (h : p.Alike p') (c : ℕ) {s s' : Session} (hs : s.Alike s') :
    (p.put c s).Alike (p'.put c s') := by
  refine ⟨h.route, h.script, fun c' => ?_⟩
  rw [session?_put, session?_put]
  split_ifs
  · rcases h.session_cases c with ⟨absent, absent'⟩ | ⟨_, _, found, found', -⟩
    · rw [absent, absent']
      exact .none
    · rw [found, found']
      exact .some hs
  · exact h.sessions c'

theorem Alike.withScript (h : p.Alike p') (script : Script) :
    ({ p with script } : Peer).Alike { p' with script } :=
  ⟨h.route, rfl, h.sessions⟩

theorem Alike.begin (h : p.Alike p') (c : ℕ) : (p.begin c).Alike (p'.begin c) := by
  refine ⟨h.route, h.script, fun c' => ?_⟩
  rw [session?_begin_append, session?_begin_append]
  rcases h.session_cases c' with ⟨absent, absent'⟩ | ⟨s, s', found, found', alike⟩
  · rw [absent, absent']
    split_ifs
    · exact .some (.refl _)
    · exact .none
  · rw [found, found']
    exact .some alike

/-- A frame is answered alike. -/
theorem Alike.send (h : p.Alike p') {f f' : Frame} (hf : f.Alike f') (c : ℕ) :
    (p.send c f).1.Alike (p'.send c f').1 ∧ (p.send c f).2 = (p'.send c f').2 := by
  unfold Peer.send
  rcases h.session_cases c with ⟨absent, absent'⟩ | ⟨s, s', found, found', alike⟩
  · rw [absent, absent']
    exact ⟨h, rfl⟩
  · rw [found, found']
    dsimp only
    rw [alike.refusal?_eq hf, hf.point?_eq]
    cases s'.refusal? f' with
    | some cause => exact ⟨h, rfl⟩
    | none =>
      cases f'.point? with
      | none => exact ⟨h.put c (alike.post f f'), rfl⟩
      | some q =>
        obtain ⟨state, reply⟩ := (alike.post f f').hear hf (p'.script.next q).1
        dsimp only
        rw [h.script]
        exact ⟨(h.withScript _).put c state, reply⟩

/-- Two brokers that were sent a frame, and the one reply of both. -/
theorem Alike.sent (h : p.Alike p') {f f' : Frame} (hf : f.Alike f') (c : ℕ) :
    ∃ q q' r, p.send c f = (q, r) ∧ p'.send c f' = (q', r) ∧ q.Alike q' := by
  obtain ⟨peer, reply⟩ := h.send hf c
  exact ⟨_, _, _, rfl, Prod.ext rfl reply.symm, peer⟩

end Peer

/-! ## Turns -/

/-- Two turns come to the same, are logged alike, and leave brokers that answer alike. -/
structure Turn.Alike {ε α : Type} (t t' : Turn ε α) : Prop where
  peer : t.peer.Alike t'.peer
  log : t.log = t'.log
  result : t.result = t'.result

section Turns

variable {ε α β : Type} {p p' : Peer} {c : ℕ}

theorem Peer.Alike.turn (h : p.Alike p') (log : List Log.Entry) (result : Option (Except ε α)) :
    Turn.Alike ⟨p, log, result⟩ ⟨p', log, result⟩ :=
  ⟨h, rfl, rfl⟩

theorem Turn.Alike.andThen {t t' : Turn ε α} (h : t.Alike t') {next next' : α → Peer → Turn ε β}
    (hn : ∀ a {p p' : Peer}, p.Alike p' → (next a p).Alike (next' a p')) :
    (t.andThen next).Alike (t'.andThen next') := by
  unfold Turn.andThen
  rw [h.result]
  split
  case h_1 a _ =>
    have rest := hn a h.peer
    exact ⟨rest.peer, congrArg₂ (· ++ ·) h.log rest.log, rest.result⟩
  case h_2 e _ => exact ⟨h.peer, h.log, rfl⟩
  case h_3 => exact ⟨h.peer, h.log, rfl⟩

theorem Peer.Alike.request (h : p.Alike p') {f f' : Frame} (hf : f.Alike f') (c : ℕ) :
    (p.request c f).Alike (p'.request c f') := by
  obtain ⟨q, q', r, sent, sent', peer⟩ := h.sent hf c
  rw [Peer.request, Peer.request, sent, sent']
  cases r <;> exact peer.turn _ _

theorem Peer.Alike.isConnected_eq (h : p.Alike p') (c : ℕ) :
    p.isConnected c = p'.isConnected c := by
  rw [Peer.isConnected, Peer.isConnected]
  rcases h.session_cases c with ⟨absent, absent'⟩ | ⟨s, s', found, found', alike⟩
  · rw [absent, absent']
  · rw [found, found']
    exact alike.connected

theorem Peer.Alike.hasChannel_eq (h : p.Alike p') (c : ℕ) : p.hasChannel c = p'.hasChannel c := by
  rw [Peer.hasChannel, Peer.hasChannel]
  rcases h.session_cases c with ⟨absent, absent'⟩ | ⟨s, s', found, found', alike⟩
  · rw [absent, absent']
  · rw [found, found']
    exact alike.channelOpen

/-! ## Connections -/

/-- The broker after one more attempt. -/
def Peer.tried (p : Peer) (a : Attempt) : Peer := { p with attempts := p.attempts ++ [a] }

theorem attempt_eq (p : Peer) (c : ℕ) (a : Attempt) : attempt p c a =
    match (p.tried a).route with
    | .unreachable => ⟨p.tried a, [], some (.error Fault.unreachable)⟩
    | .refused => ⟨p.tried a, [], some (.error Fault.refused)⟩
    | .through =>
      (((p.tried a).begin c).request c
        (.logIn a.address.mechanism (response a.address) a.connectionName)).andThen
        fun _ q => q.request c (.openConnection a.address.virtualHost) := rfl

theorem attempt_alike (h : p.Alike p') (c : ℕ) {a a' : Attempt}
    (mechanism : a.address.mechanism = a'.address.mechanism)
    (name : a.connectionName = a'.connectionName)
    (host : a.address.virtualHost = a'.address.virtualHost) :
    (attempt p c a).Alike (attempt p' c a') := by
  have tried : (p.tried a).Alike (p'.tried a') := ⟨h.route, h.script, h.sessions⟩
  rw [attempt_eq, attempt_eq, ← tried.route, mechanism, name, host]
  cases (p.tried a).route with
  | unreachable | refused => exact tried.turn _ _
  | through =>
    exact ((tried.begin c).request (.logIn ..) c).andThen fun _ _ _ hq => hq.request (.same _) c

/-- A connection for settings that differ in their secrets. -/
theorem connect_alike {b b' : Config.Broker} (hb : b.Alike b') (files : Files) (h : p.Alike p')
    (c : ℕ) : (connect files b c p).Alike (connect files b' c p') := by
  obtain ⟨-, -, virtualHost, -, -, -, byCertificate, -, name⟩ := Config.Broker.mk.inj hb.rest
  have mechanism : b.address.mechanism = b'.address.mechanism := by
    simp only [Config.Broker.address, hb.isSome_tls, byCertificate]
  have host : b.address.virtualHost = b'.address.virtualHost := by
    simp only [Config.Broker.address, virtualHost]
  have entry : establishedEntry b = establishedEntry b' := by
    simp only [establishedEntry, hb.target_eq, hb.isSome_tls, byCertificate]
  have material := hb.materialOf_error files
  unfold connect
  cases hm : materialOf files b with
  | error e =>
    rw [(material e).mp hm]
    exact h.turn _ _
  | ok m =>
    cases hm' : materialOf files b' with
    | error e => simp [(material e).mpr hm'] at hm
    | ok m' =>
      have made : (attempt p c ⟨b.address, b.connectionName, m⟩).Alike
          (attempt p' c ⟨b'.address, b'.connectionName, m'⟩) :=
        attempt_alike h c mechanism name host
      dsimp only
      rw [made.result, made.log, entry, hb.target_eq]
      split
      · exact made.peer.turn _ _
      · exact made.peer.turn _ _
      · exact made.peer.turn _ _

theorem closeConnection_alike (target : String) (h : p.Alike p') (c : ℕ) :
    (closeConnection target c p).Alike (closeConnection target c p') := by
  unfold closeConnection
  dsimp only
  rw [h.isConnected_eq]
  split_ifs
  · exact (h.request (.same _) c).andThen fun _ _ _ hq => hq.turn _ _
  · exact h.turn _ _

theorem closeChannel_alike (h : p.Alike p') (c : ℕ) :
    (closeChannel c p).Alike (closeChannel c p') := by
  unfold closeChannel
  rw [h.hasChannel_eq]
  split_ifs
  · exact h.request (.same _) c
  · exact h.turn _ _

/-! ## Steps -/

/-- A step does not look at what was sent. -/
def Step.Blind {ι ω : Type} (step : Step ι ω) : Prop :=
  ∀ c input (p p' : Peer), p.Alike p' → (step.run c input p).Alike (step.run c input p')

theorem Dialogue.hold_alike (d : Dialogue (Except ε α)) (h : p.Alike p') (c : ℕ) :
    (d.hold c p).Alike (d.hold c p') := by
  induction d generalizing p p' with
  | ended log result => exact h.turn _ _
  | say f next ih =>
    obtain ⟨q, q', reply, sent, sent', peer⟩ := h.sent (.same f) c
    simp only [hold, sent, sent']
    cases reply with
    | silent => exact peer.turn _ _
    | _ => exact ih _ peer

/-- A step that is nothing but a dialogue goes by what it hears. -/
theorem Spoken.blind {ι ω : Type} (s : Spoken ι ω) : s.step.Blind :=
  fun c input _ _ h => (s.talk input).hold_alike h c

/-- Every request of a controller is answered alike. -/
theorem respond_alike {ι ω : Type} {step : Step ι ω} (blind : step.Blind) {b b' : Config.Broker}
    (hb : b.Alike b') (files : Files) (h : p.Alike p') (request : Lifecycle.Request ι) :
    (respond files b step p request).1.Alike (respond files b' step p' request).1 ∧
      (respond files b step p request).2 = (respond files b' step p' request).2 := by
  have answer {ε α : Type} {t t' : Turn ε α} (ht : t.Alike t')
      (wrap : Except ε α → Lifecycle.Answer ω) :
      (t.answer wrap).1.Alike (t'.answer wrap).1 ∧ (t.answer wrap).2 = (t'.answer wrap).2 :=
    ⟨ht.peer, by rw [Turn.answer, Turn.answer, ht.log, ht.result]⟩
  cases request with
  | connect c => exact answer (connect_alike hb files h c) _
  | createWorker c => exact answer ((Dialogue.equip step.setup).hold_alike h c) _
  | process r input => exact answer (blind r.connection input p p' h) _
  | closeWorker r => exact answer (closeChannel_alike h r.connection) _
  | closeConnection c =>
    rw [respond, respond, hb.target_eq]
    exact answer (closeConnection_alike _ h c) _

theorem blind_publishing (s : Config.Publishing) : (publishing s).Blind := (publisher s).blind

theorem blind_consuming (s : Config.Consuming) : (consuming s).Blind := (consumer s).blind

end Turns

end BrokerPool.Broker
