import BrokerPool.Broker.Step
import Mathlib.Data.Nat.Notation

/-!
# What goes on around the work

A connection is opened, prepared, and closed again, and in between it carries the work itself:
messages that are published, taken and acknowledged. All that is done around the work touches one
connection only, sends nothing of the work, and leaves the reactions to the work where they are.

Results:
* `Peer.send_sent`: what a frame that is sent on a connection does.
* `createWorker_eq`: opening and preparing a channel is one request after the other.
* `Quiet`: nothing but what goes on around the work on one connection has happened.
* `Quiet.connect`, `Quiet.createWorker`, `Quiet.closeChannel`, `Quiet.closeConnection`: this is all
  that opening and closing do.
* `hanging_of_connect` and others: no answer comes only from a broker that keeps silent somewhere.
-/

namespace BrokerPool.Broker

/-! ## Work -/

/-- A frame of the work itself. -/
def Frame.works : Frame → Bool
  | .publish _ | .get .. | .ack .. => true
  | _ => false

/-- A point of the work itself. -/
def Point.works : Point → Bool
  | .publish | .get => true
  | _ => false

theorem Frame.point?_works {f : Frame} {q : Point} (h : f.works = false) (hq : f.point? = some q) :
    q.works = false := by
  cases f <;> simp_all [works, point?] <;> subst hq <;> rfl

namespace Peer

/-- The frames sent on a connection. -/
def framesOn (p : Peer) (c : ℕ) : List Frame := (p.session? c).elim [] (·.frames)

/-- The work done on a connection. -/
def worksOn (p : Peer) (c : ℕ) : List Frame := (p.framesOn c).filter Frame.works

/-- How many messages were handed over on a connection. -/
def taken (p : Peer) (c : ℕ) : ℕ := (p.session? c).elim 0 (·.deliveries)

end Peer

/-! ## Scripts -/

namespace Script

/-- A reaction at one point leaves those at the others. -/
theorem next_of_ne {q point : Point} (h : q ≠ point) (script : Script) :
    ((script.next q).2.next point).1 = (script.next point).1 := by
  induction script with
  | nil => rfl
  | cons x rest ih =>
    obtain ⟨p, r⟩ := x
    by_cases hq : p = q
    · have hp : p ≠ point := hq ▸ h
      rw [next, if_pos hq, next, if_neg hp]
    · by_cases hp : p = point
      · rw [next, if_neg hq, next, if_pos hp, next, if_pos hp]
      · rw [next, if_neg hq, next, if_neg hp, next, if_neg hp]
        exact ih

theorem mem_of_mem_next {q : Point} {script : Script} {x : Point × Reaction}
    (h : x ∈ (script.next q).2) : x ∈ script := by
  induction script with
  | nil => exact h
  | cons y rest ih =>
    obtain ⟨p, r⟩ := y
    by_cases hq : p = q
    · rw [next, if_pos hq] at h
      exact List.mem_cons_of_mem _ h
    · rw [next, if_neg hq] at h
      rcases List.mem_cons.mp h with rfl | h
      · exact List.mem_cons_self
      · exact List.mem_cons_of_mem _ (ih h)

/-- What does not stand in the script is success. -/
theorem next_mem (q : Point) (script : Script) :
    (script.next q).1 = .success ∨ (q, (script.next q).1) ∈ script := by
  induction script with
  | nil => exact .inl rfl
  | cons y rest ih =>
    obtain ⟨p, r⟩ := y
    by_cases hq : p = q
    · right
      rw [next, if_pos hq, hq]
      exact List.mem_cons_self
    · rw [next, if_neg hq]
      exact ih.imp id (List.mem_cons_of_mem _)

end Script

/-! ## Sessions -/

namespace Session

@[simp] theorem post_frames (s : Session) (f : Frame) : (s.post f).frames = s.frames ++ [f] := rfl

@[simp] theorem post_deliveries (s : Session) (f : Frame) :
    (s.post f).deliveries = s.deliveries := rfl

@[simp] theorem post_channelOpen (s : Session) (f : Frame) :
    (s.post f).channelOpen = s.channelOpen := rfl

@[simp] theorem settle_frames (s : Session) (f : Frame) : (s.settle f).frames = s.frames := by
  cases f <;> rfl

@[simp] theorem hear_frames (s : Session) (f : Frame) (r : Reaction) :
    (s.hear f r).1.frames = s.frames := by
  cases r <;> cases f <;> rfl

theorem hear_deliveries (s : Session) {f : Frame} (h : f.works = false) (r : Reaction) :
    (s.hear f r).1.deliveries = s.deliveries := by
  cases f <;> simp [Frame.works] at h <;> cases r <;> rfl

/-- Around the work there is success, a failure or silence. -/
theorem hear_reply (s : Session) {f : Frame} (h : f.works = false) (r : Reaction) :
    ((s.hear f r).2 = .silent ∧ r = .hang) ∨ (∃ cause, (s.hear f r).2 = .failed cause) ∨
      s.hear f r = (s.settle f, .done) := by
  cases r <;> cases f <;> simp_all [hear, Frame.works]

end Session

namespace Peer

theorem session?_put (p : Peer) (c c' : ℕ) (s : Session) :
    (p.put c s).session? c' = if c' = c then (p.session? c).map fun _ => s else p.session? c' := by
  simp only [session?, put]
  induction p.sessions with
  | nil => simp
  | cons x rest ih =>
    obtain ⟨k, old⟩ := x
    rw [List.map_cons]
    by_cases hk : c' = k
    · subst hk
      by_cases hc : c' = c
      · subst hc
        simp
      · simp [hc]
    · have hb : (c' == k) = false := by simpa using hk
      by_cases hc : c' = c
      · subst hc
        rw [if_pos rfl] at ih ⊢
        simp [Ne.symm hk, hb, ih, List.lookup_cons]
      · rw [if_neg hc] at ih ⊢
        by_cases hkc : k = c
        · have hbc : (c' == c) = false := by simpa using hc
          simp [hkc, hbc, ih, List.lookup_cons]
        · simp [hkc, hb, ih, List.lookup_cons]

/-- The session of a connection that has got another one, whatever is left of the script. -/
theorem session?_put_self {p : Peer} {c : ℕ} {s : Session} (h : p.session? c = some s)
    (script : Script) (s' : Session) :
    (({ p with script } : Peer).put c s').session? c = some s' := by
  have hs : ({ p with script } : Peer).session? c = some s := h
  rw [session?_put, if_pos rfl, hs]
  rfl

theorem framesOn_of_session {p : Peer} {c : ℕ} {s : Session} (h : p.session? c = some s) :
    p.framesOn c = s.frames := by rw [framesOn, h]; rfl

theorem taken_of_session {p : Peer} {c : ℕ} {s : Session} (h : p.session? c = some s) :
    p.taken c = s.deliveries := by rw [taken, h]; rfl

theorem worksOn_congr {p p' : Peer} {c : ℕ} (h : p'.session? c = p.session? c) :
    p'.worksOn c = p.worksOn c := by
  rw [worksOn, worksOn, framesOn, framesOn, h]

theorem hasChannel_of_session {p : Peer} {c : ℕ} {s : Session} (h : p.session? c = some s) :
    p.hasChannel c = s.channelOpen := by rw [hasChannel, h]; rfl

theorem session?_begin {p : Peer} {c : ℕ} (h : p.session? c = none) (c' : ℕ) :
    (p.begin c).session? c' = if c' = c then some {} else p.session? c' := by
  simp only [session?, begin] at h ⊢
  rw [List.lookup_append]
  by_cases hc : c' = c
  · simp [hc, h]
  · have hb : (c' == c) = false := by simpa using hc
    simp [hc, hb, List.lookup_cons]

/-- What a frame that is sent on a connection does: nothing is sent, or it is sent and not answered,
    or the session hears the next reaction at its point. -/
inductive Sent (p : Peer) (c : ℕ) (f : Frame) : Peer × Reply → Prop
  | unsent (cause : Fault) : Sent p c f (p, .failed cause)
  | unanswered (s : Session) (session : p.session? c = some s) (allowed : s.refusal? f = none)
    (point : f.point? = none) : Sent p c f (p.put c (s.post f), .done)
  | answered (s : Session) (q : Point) (session : p.session? c = some s)
    (allowed : s.refusal? f = none) (point : f.point? = some q) :
    Sent p c f (({ p with script := (p.script.next q).2 } : Peer).put c
      ((s.post f).hear f (p.script.next q).1).1, ((s.post f).hear f (p.script.next q).1).2)

theorem send_sent (p : Peer) (c : ℕ) (f : Frame) : Sent p c f (p.send c f) := by
  cases hs : p.session? c with
  | none =>
    have h : p.send c f = (p, .failed Fault.closedConnection) := by simp only [send, hs]
    exact h ▸ .unsent _
  | some s =>
    cases ha : s.refusal? f with
    | some cause =>
      have h : p.send c f = (p, .failed cause) := by simp only [send, hs, ha]
      exact h ▸ .unsent cause
    | none =>
      cases hq : f.point? with
      | none =>
        have h : p.send c f = (p.put c (s.post f), .done) := by simp only [send, hs, ha, hq]
        exact h ▸ .unanswered s hs ha hq
      | some q =>
        have h : p.send c f = (({ p with script := (p.script.next q).2 } : Peer).put c
            ((s.post f).hear f (p.script.next q).1).1,
            ((s.post f).hear f (p.script.next q).1).2) := by simp only [send, hs, ha, hq]
        exact h ▸ .answered s q hs ha hq

end Peer

/-! ## Dialogues -/

section Dialogues

variable {c : ℕ} {p : Peer} {α : Type}

/-- A frame of which only success or failure matters, and what is said after it. -/
theorem Dialogue.hold_ask (f : Frame) (d : Dialogue (Except Fault α)) :
    (Dialogue.ask f fun _ => d).hold c p = (p.request c f).andThen fun _ q => d.hold c q := by
  simp only [ask, hold, Peer.request]
  rcases p.send c f with ⟨q, reply⟩
  cases reply <;> simp [Turn.andThen, hold]

theorem Dialogue.hold_prepare (setup : Frame) :
    (Dialogue.prepare setup).hold c p = p.request c setup := by
  rw [prepare, hold_ask, Peer.request]
  rcases p.send c setup with ⟨q, reply⟩
  cases reply <;> rfl

/-- The channel is opened, and then it is prepared. -/
theorem createWorker_eq {ι ω : Type} (step : Step ι ω) : createWorker step c p =
    (p.request c .openChannel).andThen fun _ q => q.request c step.setup := by
  simp only [createWorker, Dialogue.equip, Dialogue.hold_ask, Dialogue.hold_prepare]

end Dialogues

/-! ## Around the work -/

/-- Between two moments nothing has happened but what goes on around the work on one connection. -/
structure Quiet (c : ℕ) (p p' : Peer) : Prop where
  others : ∀ c' ≠ c, p'.session? c' = p.session? c'
  works : p'.worksOn c = p.worksOn c
  taken : p'.taken c = p.taken c
  /-- The next reactions to the work are the same. -/
  reactions : ∀ q : Point, q.works → (p'.script.next q).1 = (p.script.next q).1
  script : ∀ x ∈ p'.script, x ∈ p.script

namespace Quiet

variable {c : ℕ} {p p' p'' : Peer} {α β ε : Type}

theorem refl (c : ℕ) (p : Peer) : Quiet c p p :=
  ⟨fun _ _ => rfl, rfl, rfl, fun _ _ => rfl, fun _ h => h⟩

theorem trans (h : Quiet c p p') (h' : Quiet c p' p'') : Quiet c p p'' where
  others c' hc := (h'.others c' hc).trans (h.others c' hc)
  works := h'.works.trans h.works
  taken := h'.taken.trans h.taken
  reactions q hq := (h'.reactions q hq).trans (h.reactions q hq)
  script x hx := h.script x (h'.script x hx)

theorem worksOn (h : Quiet c p p') (n : ℕ) : p'.worksOn n = p.worksOn n := by
  by_cases hn : n = c
  · rw [hn, h.works]
  · exact Peer.worksOn_congr (h.others n hn)

theorem send (p : Peer) {f : Frame} (hf : f.works = false) : Quiet c p (p.send c f).1 := by
  have hsent := p.send_sent c f
  generalize p.send c f = sent at hsent
  cases hsent with
  | unsent cause => exact refl c p
  | unanswered s session allowed point => cases f <;> simp [Frame.works, Frame.point?] at hf point
  | answered s q session allowed point =>
    have hq := Frame.point?_works hf point
    constructor
    case others =>
      intro c' hc
      rw [Peer.session?_put, if_neg hc]
      rfl
    case works =>
      rw [Peer.worksOn, Peer.worksOn,
        Peer.framesOn_of_session (Peer.session?_put_self session _ _),
        Peer.framesOn_of_session session]
      simp [hf]
    case taken =>
      rw [Peer.taken_of_session (Peer.session?_put_self session _ _),
        Peer.taken_of_session session, Session.hear_deliveries _ hf, Session.post_deliveries]
    case reactions =>
      intro point hp
      refine Script.next_of_ne ?_ p.script
      rintro rfl
      simp [hq] at hp
    case script => exact fun x hx => Script.mem_of_mem_next hx

theorem request (p : Peer) {f : Frame} (hf : f.works = false) :
    Quiet c p (p.request c f).peer := by
  have hq := send (c := c) p hf
  unfold Peer.request
  split <;> simp_all

theorem begin (h : p.session? c = none) : Quiet c p (p.begin c) := by
  have hb : (p.begin c).session? c = some {} := by rw [Peer.session?_begin h, if_pos rfl]
  constructor
  case others =>
    intro c' hc
    rw [Peer.session?_begin h, if_neg hc]
  case works =>
    rw [Peer.worksOn, Peer.worksOn, Peer.framesOn_of_session hb, Peer.framesOn, h]
    rfl
  case taken =>
    rw [Peer.taken_of_session hb, Peer.taken, h]
    rfl
  case reactions => exact fun _ _ => rfl
  case script => exact fun _ hx => hx

theorem andThen {t : Turn ε α} (ht : Quiet c p t.peer) {next : α → Peer → Turn ε β}
    (hn : ∀ a p', Quiet c p' (next a p').peer) : Quiet c p (t.andThen next).peer := by
  unfold Turn.andThen
  split
  · exact ht.trans (hn _ _)
  · exact ht
  · exact ht

theorem attempt (h : p.session? c = none) (a : Attempt) :
    Quiet c p (Broker.attempt p c a).peer := by
  have hp : Quiet c p { p with attempts := p.attempts ++ [a] } :=
    ⟨fun _ _ => rfl, rfl, rfl, fun _ _ => rfl, fun _ hx => hx⟩
  unfold Broker.attempt
  dsimp only
  split
  · exact hp
  · exact hp
  · have hb : Quiet c _ (Peer.begin { p with attempts := p.attempts ++ [a] } c) := begin h
    exact hp.trans (andThen (hb.trans (request _ rfl)) fun _ p' => request p' rfl)

/-- Opening a connection. -/
theorem connect (files : Files) (b : Config.Broker) (h : p.session? c = none) :
    Quiet c p (Broker.connect files b c p).peer := by
  unfold Broker.connect
  split
  · exact refl c p
  · have ha := fun material => attempt h ⟨b.address, b.connectionName, material⟩
    simp only
    split <;> exact ha _

/-- Preparing a channel. -/
theorem createWorker {ι ω : Type} {step : Step ι ω} (hs : step.setup.works = false) (p : Peer) :
    Quiet c p (Broker.createWorker step c p).peer :=
  createWorker_eq step ▸ andThen (request p rfl) fun _ p' => request p' hs

theorem closeChannel (p : Peer) : Quiet c p (Broker.closeChannel c p).peer := by
  unfold Broker.closeChannel
  split
  · exact request p rfl
  · exact refl c p

theorem closeConnection (target : String) (p : Peer) :
    Quiet c p (Broker.closeConnection target c p).peer := by
  unfold Broker.closeConnection
  simp only
  split
  · exact andThen (request p rfl) fun _ p' => refl c p'
  · exact refl c p

end Quiet

/-! ## Silence -/

/-- A broker keeps silent at some point. -/
def Hanging (script : Script) : Prop := ∃ q, (q, Reaction.hang) ∈ script

theorem Quiet.hanging {c : ℕ} {p p' : Peer} (h : Quiet c p p') (hang : Hanging p'.script) :
    Hanging p.script :=
  hang.imp fun _ hq => h.script _ hq

theorem Session.hear_silent {s : Session} {f : Frame} {r : Reaction}
    (h : (s.hear f r).2 = .silent) : r = .hang := by
  cases r <;> cases f <;> simp_all [hear]

section Silence

variable {c : ℕ} {p : Peer} {α β ε : Type}

theorem hanging_of_send {f : Frame} (h : (p.send c f).2 = .silent) : Hanging p.script := by
  have hsent := p.send_sent c f
  generalize p.send c f = sent at hsent h
  cases hsent with
  | unsent cause | unanswered s session allowed point => simp at h
  | answered s q session allowed point =>
    have hr := Session.hear_silent h
    rcases Script.next_mem q p.script with hn | hn
    · simp [hr] at hn
    · exact ⟨q, hr ▸ hn⟩

theorem hanging_of_request {f : Frame} (h : (p.request c f).result = none) :
    Hanging p.script := by
  refine hanging_of_send (c := c) (f := f) ?_
  unfold Peer.request at h
  split at h <;> simp_all

theorem Turn.andThen_silent {t : Turn ε α} {next : α → Peer → Turn ε β}
    (h : (t.andThen next).result = none) :
    t.result = none ∨ ∃ a, (next a t.peer).result = none := by
  unfold andThen at h
  split at h
  · exact .inr ⟨_, h⟩
  · simp at h
  · exact .inl ‹_›

theorem hanging_of_attempt {a : Attempt} (h : (attempt p c a).result = none) :
    Hanging p.script := by
  unfold attempt at h
  dsimp only at h
  split at h
  · simp at h
  · simp at h
  · have hb : Hanging (Peer.begin { p with attempts := p.attempts ++ [a] } c).script →
        Hanging p.script := id
    rcases Turn.andThen_silent h with h | ⟨_, h⟩
    · exact hb (hanging_of_request h)
    · exact hb ((Quiet.request _ rfl).hanging (hanging_of_request h))

theorem hanging_of_connect {files : Files} {b : Config.Broker}
    (h : (connect files b c p).result = none) : Hanging p.script := by
  unfold connect at h
  split at h
  · simp at h
  · dsimp only at h
    split at h
    · simp at h
    · simp at h
    · exact hanging_of_attempt ‹_›

theorem hanging_of_createWorker {ι ω : Type} {step : Step ι ω}
    (h : (createWorker step c p).result = none) : Hanging p.script := by
  rw [createWorker_eq] at h
  rcases Turn.andThen_silent h with h | ⟨_, h⟩
  · exact hanging_of_request h
  · exact (Quiet.request p rfl).hanging (hanging_of_request h)

theorem hanging_of_closeChannel (h : (closeChannel c p).result = none) : Hanging p.script := by
  unfold closeChannel at h
  split at h
  · exact hanging_of_request h
  · simp at h

theorem hanging_of_closeConnection {target : String}
    (h : (closeConnection target c p).result = none) : Hanging p.script := by
  unfold closeConnection at h
  dsimp only at h
  split at h
  · rcases Turn.andThen_silent h with h | ⟨_, h⟩
    · exact hanging_of_request h
    · simp at h
  · simp at h

end Silence

/-! ## Logs -/

section Logs

variable {c : ℕ} {p : Peer}

theorem request_log (f : Frame) : (p.request c f).log = [] := by
  unfold Peer.request
  split <;> rfl

theorem Turn.andThen_log {ε α β : Type} {t : Turn ε α} {next : α → Peer → Turn ε β}
    (ht : t.log = []) (hn : ∀ a p', (next a p').log = []) : (t.andThen next).log = [] := by
  unfold andThen
  split <;> simp [ht, hn]

theorem createWorker_log {ι ω : Type} (step : Step ι ω) : (createWorker step c p).log = [] :=
  createWorker_eq step ▸ Turn.andThen_log (request_log _) fun _ _ => request_log _

theorem attempt_log (a : Attempt) : (attempt p c a).log = [] := by
  unfold attempt
  dsimp only
  split
  · rfl
  · rfl
  · exact Turn.andThen_log (request_log _) fun _ _ => request_log _

/-- All that is written about the opening of a connection is that it was opened. -/
theorem connect_log (files : Files) (b : Config.Broker) :
    ∀ e ∈ (connect files b c p).log, e = establishedEntry b := by
  unfold connect
  split
  · simp
  · dsimp only
    split <;> simp [attempt_log]

/-- All that is written about the closing of a connection is that it was closed. -/
theorem closeConnection_log (target : String) :
    ∀ e ∈ (closeConnection target c p).log, e = closedEntry target := by
  unfold closeConnection Turn.andThen
  dsimp only
  split
  · split <;> simp [request_log]
  · simp

end Logs

end BrokerPool.Broker
