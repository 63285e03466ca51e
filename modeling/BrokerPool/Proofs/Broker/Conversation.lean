import BrokerPool.Proofs.Broker.Wire
import BrokerPool.Proofs.Lifecycle.Passage

/-!
# How a connection is used

A connection is greeted, and its channel opened and prepared; then the operations of a role go out,
at last the close of the channel and the close of the connection. How far this has got follows from
the stage of the call that has the connection, and from what the call has left to say there. A
broker that keeps the connection can close the channel at any point, also between two frames of one
request. Then nothing that is left of the request is sent, and nothing is left but to close the
connection.

Results:
* `Suits`: how far the use of a connection has got when a call stands at a stage.
* `Spoken.Speaks`: what a role sends on a channel; `speaks_publishing`, `speaks_consuming`: the two
  roles.
* `Greeted.say`, `Opened.say`, `Midway.say`: what one frame of a request does; `say_suits`: after it
  the connection suits the call again, and `ended_suits`: so it does when all has been said.
* `connect_sends`, `closeWorker_sends`, `closeConnection_sends`: what each other request sends, and
  how far it gets; `respond_suits`: what a call gets to with the answer suits its connection
  (`Responded`).
-/

namespace BrokerPool.Broker

open Lifecycle (Answer Event Goal Passage Request Resource Role Stage World)
open Message (Outbound)

variable {ι ω : Type}

/-! ## The words of a connection -/

/-- The frames with which a connection is opened. -/
def greeting (b : Config.Broker) : List Frame :=
  [.logIn b.address.mechanism (response b.address) b.connectionName,
    .openConnection b.address.virtualHost]

/-- The frame that closes the channel. -/
def channelClose : Frame := .closeChannel Frame.cleanCode Frame.cleanText

/-- The frame that closes the connection. -/
def connectionClose : Frame := .closeConnection Frame.cleanCode Frame.cleanText

/-- What is said between the greeting and the close of the connection: the channel is opened and
    prepared, operations follow, and the channel is closed unless it is closed already. -/
def Prepared (setup : Frame) (Op : List Frame → Prop) (body : List Frame) : Prop :=
  ∃ (ops : List (List Frame)) (part : List Frame), (∀ op ∈ ops, Op op) ∧
    (part = [] ∨ part = [channelClose]) ∧ body = .openChannel :: setup :: (ops.flatten ++ part)

/-- There is nothing to prepare: the broker does not open the channel, or it closes the channel of
    its own accord. -/
def Unprepared (trace : List Wire) : Prop :=
  (∃ code text, Wire.sent .openChannel (some (.closeChannel code text)) ∈ trace) ∨
    Wire.revoked ∈ trace

/-- All that is said before the connection is closed. Without a channel there is nothing to
    prepare. -/
def Complete (setup : Frame) (Op : List Frame → Prop) (trace : List Wire) (body : List Frame) :
    Prop :=
  Prepared setup Op body ∨ body = [.openChannel] ∧ Unprepared trace

/-- The trace of a connection that is used as it should be, so far. -/
structure Proper (b : Config.Broker) (setup : Frame) (Op : List Frame → Prop)
    (trace : List Wire) : Prop where
  order : ∃ body, Complete setup Op trace body ∧
    frames trace <+: greeting b ++ (body ++ [connectionClose])
  guarded : Guarded trace

/-! ## How far the use of a connection has got -/

/-- The connection is open, and there is no channel yet. -/
structure Greeted (b : Config.Broker) (trace : List Wire) (s : Session) : Prop where
  frames : frames trace = greeting b
  parted : parted trace = false
  connected : s.connected = true
  channelOpen : s.channelOpen = false

/-- The broker has opened the channel, and nothing has been done on it yet. It is open unless the
    broker has closed it again. -/
structure Opened (b : Config.Broker) (trace : List Wire) (s : Session) : Prop where
  frames : frames trace = greeting b ++ [.openChannel]
  unprepared : parted trace = true → Unprepared trace
  connected : s.connected = true
  channelOpen : s.channelOpen = !parted trace

/-- The channel is prepared and used. It is open unless the broker has closed it. -/
structure Working (b : Config.Broker) (setup : Frame) (Op : List Frame → Prop) (trace : List Wire)
    (s : Session) : Prop where
  frames : ∃ ops : List (List Frame), (∀ op ∈ ops, Op op) ∧
    frames trace = greeting b ++ .openChannel :: setup :: ops.flatten
  connected : s.connected = true
  channelOpen : s.channelOpen = !parted trace

/-- Nothing is left but to close the connection. -/
structure Leaving (b : Config.Broker) (setup : Frame) (Op : List Frame → Prop) (trace : List Wire)
    (s : Session) : Prop where
  frames : ∃ body, Complete setup Op trace body ∧ frames trace = greeting b ++ body
  parted : parted trace = true
  connected : s.connected = true

/-- However the broker answers, what is left of a dialogue goes on with an operation of which `fs`
    has been said. What cannot be sent has not been said. -/
def Dialogue.Continues {α : Type} (Op : List Frame → Prop) : Dialogue α → List Frame → Prop
  | .ended .., _ => True
  | .say f next, fs => f.works = true ∧ Op (fs ++ [f]) ∧
    (∀ reply, (next reply).Continues Op (fs ++ [f])) ∧
    ∀ cause, (next (.failed cause)).Continues Op fs

/-- The channel is used, and `d` is left of the operation that has begun. -/
structure Midway {α : Type} (b : Config.Broker) (setup : Frame) (Op : List Frame → Prop)
    (trace : List Wire) (s : Session) (d : Dialogue α) : Prop where
  frames : ∃ (ops : List (List Frame)) (fs : List Frame), (∀ op ∈ ops, Op op) ∧
    (fs = [] ∨ Op fs) ∧ d.Continues Op fs ∧
    frames trace = greeting b ++ .openChannel :: setup :: (ops.flatten ++ fs)
  connected : s.connected = true
  channelOpen : s.channelOpen = !parted trace

/-- How far the opening of a channel has got when `d` is left of it. -/
inductive Equipping (b : Config.Broker) (setup : Frame) (Op : List Frame → Prop)
    (trace : List Wire) (s : Session) : Dialogue (Answer ω) → Prop
  | opened (now : Opened b trace s) :
    Equipping b setup Op trace s ((Dialogue.prepare setup).map .equipped)
  | prepared (log : List Log.Entry) (now : Working b setup Op trace s) :
    Equipping b setup Op trace s (.ended log (.equipped (.ok ())))
  | failed (log : List Log.Entry) (cause : Fault) (now : Leaving b setup Op trace s) :
    Equipping b setup Op trace s (.ended log (.equipped (.error cause)))

/-- The connection that a call has or asks for. -/
def line? : Stage ι ω → Option ℕ
  | .connecting _ c | .equipping _ c | .unwinding c _ => some c
  | .holding r | .processing r _ | .returning r _ | .closingWorker r _
  | .closingConnection r _ _ => some r.connection
  | _ => none

@[simp] theorem line?_settled (r : Resource) (failure : Option Lifecycle.CloseError)
    (purpose : Lifecycle.Purpose ω) :
    line? (Stage.settled r failure purpose : Stage ι ω × _).1 = none := by
  cases purpose <;> cases failure <;> rfl

/-- The connection that a request is about. -/
def lineOf : Request ι → ℕ
  | .connect c | .createWorker c | .closeConnection c => c
  | .process r _ | .closeWorker r => r.connection

/-- How far the use of a connection has got when the call that has it stands at a stage, and `rest`
    is left of a request of which a part has been said. -/
def Suits (b : Config.Broker) (setup : Frame) (Op : List Frame → Prop) (trace : List Wire)
    (session : Option Session) (st : Stage ι ω) (rest : Option (Dialogue (Answer ω))) : Prop :=
  match st, rest with
  | .connecting _ _, _ => trace = [] ∧ session = none
  | .equipping _ _, none => ∃ s, session = some s ∧ Greeted b trace s
  | .equipping _ _, some d => ∃ s, session = some s ∧ Equipping b setup Op trace s d
  | .processing _ _, some d => ∃ s, session = some s ∧ Midway b setup Op trace s d
  | .holding _, _ | .processing _ _, none | .returning _ _, _ | .closingWorker _ _, _ =>
    ∃ s, session = some s ∧ Working b setup Op trace s
  | .unwinding _ _, _ | .closingConnection _ _ _, _ =>
    ∃ s, session = some s ∧ Leaving b setup Op trace s
  | _, _ => True

section Revoked

variable {b : Config.Broker} {setup : Frame} {Op : List Frame → Prop} {l : List Wire} {s : Session}

theorem Unprepared.mono (h : Unprepared l) (ws : List Wire) : Unprepared (l ++ ws) :=
  h.imp (fun ⟨code, text, hm⟩ => ⟨code, text, List.mem_append_left ws hm⟩)
    (List.mem_append_left ws)

theorem Complete.mono {body : List Frame} (h : Complete setup Op l body) (ws : List Wire) :
    Complete setup Op (l ++ ws) body :=
  h.imp id (And.imp id (·.mono ws))

theorem Proper.revoked (h : Proper b setup Op l) : Proper b setup Op (l ++ [.revoked]) := by
  obtain ⟨body, complete, order⟩ := h.order
  refine ⟨⟨body, complete.mono _, by simpa using order⟩, h.guarded.plain ?_⟩
  simp [Wire.uses, Wire.frame?, Wire.ends]

theorem Opened.revoked (h : Opened b l s) :
    Opened b (l ++ [.revoked]) { s with channelOpen := false } :=
  ⟨by simpa using h.frames, fun _ => .inr (by simp), h.connected, by simp [Wire.refuses]⟩

theorem Working.revoked (h : Working b setup Op l s) :
    Working b setup Op (l ++ [.revoked]) { s with channelOpen := false } :=
  ⟨by simpa using h.frames, h.connected, by simp [Wire.refuses]⟩

theorem Midway.revoked {α : Type} {d : Dialogue α} (h : Midway b setup Op l s d) :
    Midway b setup Op (l ++ [.revoked]) { s with channelOpen := false } d :=
  ⟨by simpa using h.frames, h.connected, by simp [Wire.refuses]⟩

theorem Leaving.revoked (h : Leaving b setup Op l s) :
    Leaving b setup Op (l ++ [.revoked]) { s with channelOpen := false } := by
  obtain ⟨body, complete, hf⟩ := h.frames
  exact ⟨⟨body, complete.mono _, by simpa using hf⟩, by simp [h.parted], h.connected⟩

theorem Equipping.revoked {d : Dialogue (Answer ω)} (h : Equipping b setup Op l s d) :
    Equipping b setup Op (l ++ [.revoked]) { s with channelOpen := false } d := by
  cases h with
  | opened now => exact .opened now.revoked
  | prepared log now => exact .prepared log now.revoked
  | failed log cause now => exact .failed log cause now.revoked

/-- When the broker closes the channel of its own accord, nobody has to be told. -/
theorem Suits.revoked {st : Stage ι ω} {rest : Option (Dialogue (Answer ω))}
    (h : Suits b setup Op l (some s) st rest) (opened : s.channelOpen = true) :
    Suits b setup Op (l ++ [.revoked]) (some { s with channelOpen := false }) st rest := by
  cases st with
  | connecting => simp [Suits] at h
  | equipping =>
    cases rest with
    | none =>
      obtain ⟨_, ⟨⟩, greeted⟩ := h
      exact absurd (opened.symm.trans greeted.channelOpen) (by simp)
    | some d =>
      obtain ⟨_, ⟨⟩, equipping⟩ := h
      exact ⟨_, rfl, equipping.revoked⟩
  | processing =>
    cases rest with
    | none =>
      obtain ⟨_, ⟨⟩, working⟩ := h
      exact ⟨_, rfl, working.revoked⟩
    | some d =>
      obtain ⟨_, ⟨⟩, midway⟩ := h
      exact ⟨_, rfl, midway.revoked⟩
  | holding | returning | closingWorker =>
    obtain ⟨_, ⟨⟩, working⟩ := h
    exact ⟨_, rfl, working.revoked⟩
  | unwinding | closingConnection =>
    obtain ⟨_, ⟨⟩, leaving⟩ := h
    exact ⟨_, rfl, leaving.revoked⟩
  | _ => trivial

end Revoked

/-! ## What a role sends -/

/-- What a role says: a frame that prepares a channel, and one operation for each input. -/
structure Spoken.Speaks (spoken : Spoken ι ω) (Op : List Frame → Prop) : Prop where
  prepares : spoken.setup.prepares = true
  operates : ∀ input, (spoken.talk input).Continues Op []

/-- The only operation of a publisher. -/
def Publishes (s : Config.Publishing) (fs : List Frame) : Prop :=
  ∃ m, fs = [.publish (publication s m)]

/-- The operations of a consumer: a message is asked for, and acknowledged at most once, unless the
    broker does so by itself. -/
def Fetches (s : Config.Consuming) (fs : List Frame) : Prop :=
  fs = [.get s.queue s.autoAck] ∨
    s.autoAck = false ∧ ∃ tag, fs = [.get s.queue s.autoAck, .ack tag false]

theorem Dialogue.continues_map {α β : Type} {Op : List Frame → Prop} (g : α → β) {d : Dialogue α}
    {fs : List Frame} (h : d.Continues Op fs) : (d.map g).Continues Op fs := by
  induction d generalizing fs with
  | ended log result => trivial
  | say f next ih =>
    obtain ⟨works, op, said, unsaid⟩ := h
    exact ⟨works, op, fun reply => ih reply (said reply), fun cause => ih _ (unsaid cause)⟩

/-- A frame is asked for and fails the dialogue if it fails. -/
theorem Dialogue.continues_ask {α : Type} {Op : List Frame → Prop} {f : Frame}
    {next : Reply → Dialogue (Except Fault α)} {fs : List Frame} (works : f.works = true)
    (op : Op (fs ++ [f])) (said : ∀ reply, (next reply).Continues Op (fs ++ [f])) :
    (Dialogue.ask f next).Continues Op fs := by
  refine ⟨works, op, fun reply => ?_, fun cause => trivial⟩
  cases reply with
  | failed cause => trivial
  | _ => exact said _

theorem speaks_publishing (s : Config.Publishing) : (publisher s).Speaks (Publishes s) := by
  refine ⟨rfl, fun m => Dialogue.continues_ask rfl ⟨m, rfl⟩ fun reply => ?_⟩
  cases reply <;> trivial

theorem speaks_consuming (s : Config.Consuming) : (consumer s).Speaks (Fetches s) := by
  refine ⟨rfl, fun moment => Dialogue.continues_ask rfl (.inl rfl) fun reply => ?_⟩
  cases reply with
  | delivered tag d =>
    cases automatic : s.autoAck with
    | true => trivial
    | false =>
      have acked : Fetches s [.get s.queue false, .ack tag false] :=
        .inr ⟨automatic, tag, by rw [automatic]⟩
      exact Dialogue.continues_ask rfl acked fun _ => trivial
  | _ => trivial

/-! ## What each request sends -/

section Requests

variable {b : Config.Broker} {setup : Frame} {Op : List Frame → Prop} {c : ℕ} {p : Peer}
  {s : Session} {l ws : List Wire}

theorem prepared_nil : Prepared setup Op [.openChannel, setup] :=
  ⟨[], [], by simp, .inl rfl, rfl⟩

/-- A turn goes on after a success only. -/
theorem Turn.andThen_cases {ε α β : Type} (t : Turn ε α) (next : α → Peer → Turn ε β) :
    (t.result = none ∧ (t.andThen next).peer = t.peer ∧ (t.andThen next).result = none) ∨
    (∃ e, t.result = some (.error e) ∧ (t.andThen next).peer = t.peer ∧
      (t.andThen next).result = some (.error e)) ∨
    ∃ a, t.result = some (.ok a) ∧ (t.andThen next).peer = (next a t.peer).peer ∧
      (t.andThen next).result = (next a t.peer).result := by
  unfold Turn.andThen
  rcases t.result with _ | e | a
  · exact .inl ⟨rfl, rfl, rfl⟩
  · exact .inr (.inl ⟨e, rfl, rfl, rfl⟩)
  · exact .inr (.inr ⟨a, rfl, rfl, rfl⟩)

/-! ### The connection -/

theorem plain_of_frame {f : Frame} (hf : f.uses = false)
    (he : ∀ r, (Wire.sent f r).ends = false) (r : Option Reaction) :
    ∀ w ∈ [Wire.sent f r], w.uses = false ∧ w.ends = false := by
  simpa [Wire.uses, Wire.frame?, hf] using he r

/-- A part of the greeting is in order. -/
theorem proper_of_greeting (hw : ∀ w ∈ ws, w.uses = false ∧ w.ends = false)
    (hf : frames ws <+: greeting b) : Proper b setup Op ws := by
  refine ⟨⟨_, .inl prepared_nil, hf.trans (List.prefix_append _ _)⟩, ?_⟩
  simpa using guarded_nil.plain hw

/-- The frames that log in and open the connection. -/
theorem greet_sends (setup : Frame) (Op : List Frame → Prop) (begun : p.session? c = some {})
    (steady : Steady p.script) {t : Turn Fault Unit}
    (ht : t = (p.request c (.logIn b.address.mechanism (response b.address)
      b.connectionName)).andThen fun _ p => p.request c (.openConnection b.address.virtualHost)) :
    ∃ ws, Sends c p ws t.peer ∧ Proper b setup Op ws ∧
      (t.result = some (.ok ()) → ∃ s, t.peer.session? c = some s ∧ Greeted b ws s) := by
  obtain ⟨r, s₁, sends₁, after₁, taken₁⟩ := request_taken
    (f := .logIn b.address.mechanism (response b.address) b.connectionName) steady begun rfl rfl rfl
  have first : Proper b setup Op [.sent (.logIn b.address.mechanism (response b.address)
      b.connectionName) (some r)] :=
    proper_of_greeting (plain_of_frame rfl (fun _ => rfl) _) ⟨[_], rfl⟩
  rcases Turn.andThen_cases (p.request c (.logIn b.address.mechanism (response b.address)
      b.connectionName)) (fun _ p => p.request c (.openConnection b.address.virtualHost)) with
    ⟨-, peer, result⟩ | ⟨cause, -, peer, result⟩ | ⟨⟨⟩, ok₁, peer, result⟩ <;> rw [ht, peer, result]
  · exact ⟨_, sends₁, first, by simp⟩
  · exact ⟨_, sends₁, first, by simp⟩
  · obtain ⟨kept₁, rfl⟩ := taken₁.done_of_ok ok₁
    obtain ⟨r', s', sends, after, taken⟩ := request_taken
      (f := .openConnection b.address.virtualHost) (sends₁.steady steady) after₁ rfl rfl rfl
    refine ⟨_, sends₁.trans sends, ?_, fun ok => ?_⟩
    · refine proper_of_greeting (fun w hw => ?_) List.prefix_rfl
      rcases List.mem_append.mp hw with hw | hw
      · exact plain_of_frame rfl (fun _ => rfl) _ w hw
      · exact plain_of_frame rfl (fun _ => rfl) _ w hw
    · obtain ⟨kept, rfl⟩ := taken.done_of_ok ok
      refine ⟨_, after, rfl, ?_, rfl, rfl⟩
      simp [Wire.leaves, kept₁, kept]

theorem attempt_sends (setup : Frame) (Op : List Frame → Prop) (material : TlsMaterial)
    (fresh : p.session? c = none) (steady : Steady p.script) {t : Turn Fault Unit}
    (ht : t = attempt p c ⟨b.address, b.connectionName, material⟩) :
    ∃ ws, Sends c p ws t.peer ∧ Proper b setup Op ws ∧
      (t.result = some (.ok ()) → ∃ s, t.peer.session? c = some s ∧ Greeted b ws s) := by
  have nothing : Proper b setup Op [] := proper_of_greeting (by simp) List.nil_prefix
  unfold attempt at ht
  dsimp only at ht
  split at ht
  case h_1 | h_2 => subst ht; exact ⟨[], .attempted _ (.nil _), nothing, by simp⟩
  case h_3 =>
    have fresh' : Peer.session? { p with attempts := p.attempts ++
        [⟨b.address, b.connectionName, material⟩] } c = none := fresh
    have begun := Peer.session?_begin fresh' c
    rw [if_pos rfl] at begun
    obtain ⟨ws, sends, rest⟩ := greet_sends setup Op begun steady ht
    exact ⟨ws, .attempted _ (.begun fresh' sends), rest⟩

/-- Opening a connection sends no more than the greeting, and all of it if it has success. -/
theorem connect_sends (setup : Frame) (Op : List Frame → Prop) (files : Files)
    (fresh : p.session? c = none) (steady : Steady p.script) :
    ∃ ws, Sends c p ws (connect files b c p).peer ∧ Proper b setup Op ws ∧
      ∀ k, (connect files b c p).result = some (.ok k) →
        ∃ s, (connect files b c p).peer.session? c = some s ∧ Greeted b ws s := by
  unfold connect
  split
  · exact ⟨[], .nil p, proper_of_greeting (by simp) List.nil_prefix, by simp⟩
  case h_2 material hm =>
    obtain ⟨ws, sends, proper, opened⟩ := attempt_sends setup Op material fresh steady rfl
    dsimp only
    split
    · exact ⟨ws, sends, proper, fun _ _ => opened ‹_›⟩
    · exact ⟨ws, sends, proper, by simp⟩
    · exact ⟨ws, sends, proper, by simp⟩

/-! ### What is in order -/

/-- What is said while a channel is used is in order. -/
theorem Working.proper (working : Working b setup Op l s) (guarded : Guarded l) :
    Proper b setup Op l := by
  obtain ⟨ops, all, hf⟩ := working.frames
  exact ⟨⟨_, .inl ⟨ops, [], all, .inl rfl, rfl⟩, [connectionClose], by rw [hf]; simp⟩, guarded⟩

/-- What is said before the close of a connection is in order. -/
theorem Leaving.proper (leaving : Leaving b setup Op l s) (guarded : Guarded l) :
    Proper b setup Op l := by
  obtain ⟨body, complete, hf⟩ := leaving.frames
  exact ⟨⟨body, complete, [connectionClose], by rw [hf, List.append_assoc]⟩, guarded⟩

/-- What has been said of an operation is an operation as well. -/
theorem Midway.working {α : Type} {d : Dialogue α} (midway : Midway b setup Op l s d) :
    Working b setup Op l s := by
  obtain ⟨ops, fs, all, part, -, hf⟩ := midway.frames
  refine ⟨?_, midway.connected, midway.channelOpen⟩
  rcases part with rfl | op
  · exact ⟨ops, all, by rw [hf, List.append_nil]⟩
  · refine ⟨ops ++ [fs], ?_, by rw [hf]; simp⟩
    simpa [or_imp, forall_and] using ⟨all, op⟩

/-- Before an operation nothing of it has been said. -/
theorem Working.midway {α : Type} {d : Dialogue α} (working : Working b setup Op l s)
    (goes : d.Continues Op []) : Midway b setup Op l s d := by
  obtain ⟨ops, all, hf⟩ := working.frames
  exact ⟨⟨ops, [], all, .inl rfl, goes, by rw [hf, List.append_nil]⟩, working.connected,
    working.channelOpen⟩

theorem timely_of_uses {f : Frame} (hf : f.uses = true) (r : Option Reaction)
    (hl : parted l = false) : (Wire.sent f r).Timely l := by
  refine ⟨fun _ => hl, fun ends => ?_⟩
  cases f <;> simp_all [Frame.uses, Frame.prepares, Frame.works, Wire.ends]

/-! ### The channel -/

/-- What comes of a frame: what passes is in order, and once something is heard, it is as it should
    be. -/
def Says (b : Config.Broker) (setup : Frame) (Op : List Frame → Prop) (c : ℕ) (p : Peer)
    (l : List Wire) (f : Frame) (Heard : Reply → List Wire → Session → Prop) : Prop :=
  ∃ ws s, Sends c p ws (p.send c f).1 ∧ (p.send c f).1.session? c = some s ∧
    Proper b setup Op (l ++ ws) ∧ ((p.send c f).2 ≠ .silent → Heard (p.send c f).2 (l ++ ws) s)

/-- The channel is opened. -/
theorem Greeted.say (setup : Frame) (Op : List Frame → Prop) (greeted : Greeted b l s)
    (session : p.session? c = some s) (steady : Steady p.script) (guarded : Guarded l)
    {next : Reply → Dialogue (Answer ω)}
    (left : (Dialogue.equip setup).map .equipped = .say .openChannel next) :
    Says b setup Op c p l .openChannel fun reply l s =>
      Equipping b setup Op l s (next reply) := by
  obtain rfl := (Dialogue.say.inj left).2
  obtain ⟨r, s', sends, after, taken⟩ := send_taken (f := .openChannel) steady session
    (by simp [Session.refusal?, greeted.connected]) rfl rfl
  have hframes : Broker.frames (l ++ [.sent .openChannel (some r)]) =
      greeting b ++ [.openChannel] := by
    simp [greeted.frames]
  refine ⟨_, s', sends, after, ⟨⟨_, .inl prepared_nil, [setup, connectionClose], ?_⟩, ?_⟩,
    fun heard => ?_⟩
  · rw [hframes, List.append_assoc]
    rfl
  · exact guarded.plain (plain_of_frame (f := .openChannel) rfl (fun _ => rfl) _)
  have refused : ∀ cause, (p.send c .openChannel).2.result = some (.error cause) →
      Leaving b setup Op (l ++ [.sent .openChannel (some r)]) s' := by
    intro cause failed
    obtain ⟨code, text, rfl, rfl⟩ := taken.refused_of_error failed
    refine ⟨⟨_, .inr ⟨rfl, .inl ⟨code, text, by simp⟩⟩, hframes⟩, ?_, greeted.connected⟩
    simp [Wire.refuses]
  have opened : (p.send c .openChannel).2.result = some (.ok ()) →
      Opened b (l ++ [.sent .openChannel (some r)]) s' := by
    intro ok
    obtain ⟨kept, rfl⟩ := taken.done_of_ok ok
    have intact : Broker.parted (l ++ [.sent .openChannel (some r)]) = false := by
      simp [greeted.parted, kept, Wire.leaves]
    exact ⟨hframes, by simp [intact], greeted.connected, by rw [intact]; rfl⟩
  generalize (p.send c .openChannel).2 = reply at heard refused opened
  cases reply with
  | silent => exact absurd rfl heard
  | failed cause => exact .failed [] cause (refused cause rfl)
  | _ => exact .opened (opened rfl)

/-- The channel is prepared, unless it is closed already. -/
theorem Opened.say (Op : List Frame → Prop) (opened : Opened b l s)
    (prepares : setup.prepares = true) (session : p.session? c = some s)
    (steady : Steady p.script) (guarded : Guarded l) {next : Reply → Dialogue (Answer ω)}
    (left : (Dialogue.prepare setup).map .equipped = .say setup next) :
    Says b setup Op c p l setup fun reply l s => Equipping b setup Op l s (next reply) := by
  obtain rfl := (Dialogue.say.inj left).2
  have uses : setup.uses = true := by simp [Frame.uses, prepares]
  obtain ⟨ws, s', sends, after, used⟩ := send_used uses steady session
  refine ⟨ws, s', sends, after, ?_⟩
  generalize (p.send c setup).2 = reply at used
  cases used with
  | unsent closed =>
    have parts : parted l = true := by simpa [closed] using opened.channelOpen
    have leaving : Leaving b setup Op l s :=
      ⟨⟨_, .inr ⟨rfl, opened.unprepared parts⟩, opened.frames⟩, parts, opened.connected⟩
    rw [List.append_nil]
    exact ⟨leaving.proper guarded, fun _ => .failed [] _ leaving⟩
  | @sent r _ _ channel connected after' failed =>
    have intact : parted l = false := by simpa [channel] using opened.channelOpen
    have hframes : Broker.frames (l ++ [.sent setup r]) = greeting b ++ [.openChannel, setup] := by
      simp [opened.frames]
    have working : Working b setup Op (l ++ [.sent setup r]) s' :=
      ⟨⟨[], by simp, hframes⟩, connected.trans opened.connected, by
        rw [after', parted_append, intact, Bool.false_or]⟩
    refine ⟨working.proper (guarded.snoc (timely_of_uses uses r intact)), fun heard => ?_⟩
    cases reply with
    | silent => exact absurd rfl heard
    | failed cause =>
      refine .failed [] cause ⟨⟨_, .inl prepared_nil, hframes⟩, ?_, working.connected⟩
      simp [failed cause rfl]
    | _ => exact .prepared [] working

/-! ### The work and the close -/

/-- An operation goes on, unless the channel is closed already. -/
theorem Midway.say {α : Type} {f : Frame} {next : Reply → Dialogue α}
    (midway : Midway b setup Op l s (.say f next)) (session : p.session? c = some s)
    (steady : Steady p.script) (guarded : Guarded l) :
    Says b setup Op c p l f fun reply l s => Midway b setup Op l s (next reply) := by
  obtain ⟨ops, fs, all, part, ⟨works, op, said, unsaid⟩, hf⟩ := midway.frames
  have uses : f.uses = true := by simp [Frame.uses, works]
  obtain ⟨ws, s', sends, after, used⟩ := send_used uses steady session
  refine ⟨ws, s', sends, after, ?_⟩
  generalize (p.send c f).2 = reply at used
  cases used with
  | unsent closed =>
    rw [List.append_nil]
    exact ⟨midway.working.proper guarded, fun _ =>
      ⟨⟨ops, fs, all, part, unsaid _, hf⟩, midway.connected, midway.channelOpen⟩⟩
  | @sent r _ _ channel connected after' failed =>
    have intact : parted l = false := by simpa [channel] using midway.channelOpen
    have on : Midway b setup Op (l ++ [.sent f r]) s' (next reply) := by
      refine ⟨⟨ops, fs ++ [f], all, .inr op, said reply, by simp [hf]⟩,
        connected.trans midway.connected, ?_⟩
      rw [after', parted_append, intact, Bool.false_or]
    exact ⟨on.working.proper (guarded.snoc (timely_of_uses uses r intact)), fun _ => on⟩

/-- The channel is closed with one frame, unless it is closed already: then nothing is said, and
    nothing fails. -/
theorem closeWorker_sends (session : p.session? c = some s) (steady : Steady p.script)
    (guarded : Guarded l) (working : Working b setup Op l s) :
    ∃ ws s', Sends c p ws (closeChannel c p).peer ∧ (closeChannel c p).peer.session? c = some s' ∧
      Proper b setup Op (l ++ ws) ∧ Leaving b setup Op (l ++ ws) s' ∧
      (parted l = true → ws = [] ∧ (closeChannel c p).result = some (.ok ())) ∧
      (parted l = false → ∃ r, ws = [.sent channelClose (some r)] ∧
        ∀ cause, (closeChannel c p).result = some (.error cause) →
          (Wire.sent channelClose (some r)).refuses = true) := by
  obtain ⟨ops, all, hf⟩ := working.frames
  unfold closeChannel
  rw [Peer.hasChannel_of_session session, working.channelOpen]
  cases hp : parted l with
  | true =>
    have leaving : Leaving b setup Op l s :=
      ⟨⟨_, .inl ⟨ops, [], all, .inl rfl, rfl⟩, by rw [hf, List.append_nil]⟩, hp,
        working.connected⟩
    refine ⟨[], s, .nil p, session, ?_, ?_, by simp, by simp⟩ <;> rw [List.append_nil]
    · exact leaving.proper guarded
    · exact leaving
  | false =>
    have opened : s.channelOpen = true := by simp [working.channelOpen, hp]
    obtain ⟨r, s', sends, after, taken⟩ := request_taken (f := channelClose) steady session
      (by simp [channelClose, Session.refusal?, opened]) rfl rfl
    have leaving : Leaving b setup Op (l ++ [.sent channelClose (some r)]) s' := by
      refine ⟨⟨_, .inl ⟨ops, [channelClose], all, .inr rfl, rfl⟩, ?_⟩, ?_, ?_⟩
      · rw [frames_append, hf]
        simp
      · simp [Wire.leaves, channelClose]
      · exact (taken.connected fun _ => rfl).trans working.connected
    have guarded' := guarded.plain (plain_of_frame (f := channelClose) rfl (fun _ => rfl) (some r))
    refine ⟨_, s', sends, after, leaving.proper guarded', leaving, by simp, fun _ => ⟨r, rfl, ?_⟩⟩
    intro cause failed
    obtain ⟨code, text, rfl, -⟩ := taken.refused_of_error failed
    rfl

/-- Closing an open connection is one request. -/
theorem closeConnection_of_connected (target : String) (connected : p.isConnected c = true) :
    (closeConnection target c p).peer = (p.request c connectionClose).peer ∧
      ∀ cause, (closeConnection target c p).result = some (.error cause) →
        (p.request c connectionClose).result = some (.error cause) := by
  unfold closeConnection Turn.andThen
  rw [if_pos connected]
  change _ = (p.request c (.closeConnection Frame.cleanCode Frame.cleanText)).peer ∧ _
  split <;> simp_all [connectionClose]

/-- The connection is closed with one frame. -/
theorem closeConnection_sends (target : String) (session : p.session? c = some s)
    (steady : Steady p.script) (guarded : Guarded l) (leaving : Leaving b setup Op l s) :
    ∃ r, Sends c p [.sent connectionClose (some r)] (closeConnection target c p).peer ∧
      Proper b setup Op (l ++ [.sent connectionClose (some r)]) ∧
        ∀ cause, (closeConnection target c p).result = some (.error cause) →
          (Wire.sent connectionClose (some r)).refuses = true := by
  obtain ⟨body, complete, hf⟩ := leaving.frames
  obtain ⟨r, s', sends, after, taken⟩ := request_taken (f := connectionClose) steady session
    (by simp [connectionClose, Session.refusal?, leaving.connected]) rfl rfl
  have connected : p.isConnected c = true := by
    rw [Peer.isConnected, session]
    exact leaving.connected
  have timely : (Wire.sent connectionClose (some r)).Timely l :=
    ⟨fun uses => Bool.noConfusion uses, fun _ => leaving.parted⟩
  have proper : Proper b setup Op (l ++ [.sent connectionClose (some r)]) := by
    refine ⟨⟨body, complete.mono _, [], ?_⟩, guarded.snoc timely⟩
    rw [frames_append, hf]
    simp
  have close := closeConnection_of_connected target connected
  refine ⟨r, close.1 ▸ sends, proper, fun cause failed => ?_⟩
  obtain ⟨code, text, rfl, -⟩ := taken.refused_of_error (close.2 cause failed)
  rfl

end Requests

/-! ## What a call gets to -/

/-- What is said for a request, if it is a dialogue. -/
def Spoken.dialogue? (spoken : Spoken ι ω) : Request ι → Option (Dialogue (Answer ω))
  | .createWorker _ => some ((Dialogue.equip spoken.setup).map .equipped)
  | .process _ input => some ((spoken.talk input).map .processed)
  | _ => none

/-- How the closing requests end. The channel is closed with one frame unless it is closed already:
    then nothing is said, and nothing fails. The connection is closed with one frame. Both fail only
    if the broker answers that frame by closing the channel. -/
def Closes (before passed : List Wire) (answer : Option (Answer ω)) : Request ι → Prop
  | .closeWorker _ =>
    (parted before = true → passed = [] ∧ answer = some (.closed (.ok ()))) ∧
    (parted before = false → ∃ r, passed = [.sent channelClose (some r)] ∧
      ∀ cause, answer = some (.closed (.error cause)) →
        (Wire.sent channelClose (some r)).refuses = true)
  | .closeConnection _ => ∃ r, passed = [.sent connectionClose (some r)] ∧
      ∀ cause, answer = some (.closed (.error cause)) →
        (Wire.sent connectionClose (some r)).refuses = true
  | _ => True

theorem Suits.obtained {b : Config.Broker} {setup : Frame} {Op : List Frame → Prop} {l : List Wire}
    {session : Option Session} {s : Session} (hs : session = some s)
    (working : Working b setup Op l s) (goal : Lifecycle.Goal ι) (r : Resource) :
    Suits b setup Op l session (Stage.obtained goal r : Stage ι ω) none := by
  cases goal <;> exact ⟨s, hs, working⟩

theorem Turn.answer_eq {ε α : Type} {wrap : Except ε α → Answer ω} {t : Turn ε α} {p' : Peer}
    {log : List Log.Entry} {answer : Option (Answer ω)} (h : t.answer wrap = (p', log, answer)) :
    p' = t.peer ∧ answer = t.result.map wrap := by
  simp only [Turn.answer, Prod.mk.injEq] at h
  exact ⟨h.1.symm, h.2.2.symm⟩

theorem result_of_closed {t : Option (Except Fault Unit)} {result : Except Fault Unit}
    (h : t.map Answer.closed = some (.closed result : Answer ω)) : t = some result := by
  obtain ⟨a, ha, hc⟩ := Option.map_eq_some_iff.mp h
  rwa [Answer.closed.inj hc] at ha

/-- What comes of a request that a call makes at the stage `st`: what is said on its connection
    (`ws`, after `l`), how the request ends, and how far the use of the connection has got when the
    call goes on with the answer. -/
structure Responded (b : Config.Broker) (setup : Frame) (Op : List Frame → Prop) (l ws : List Wire)
    (st : Stage ι ω) (request : Request ι) (p p' : Peer) (answer : Option (Answer ω)) : Prop where
  sends : Sends (lineOf request) p ws p'
  proper : Proper b setup Op (l ++ ws)
  closes : Closes l ws answer request
  next {role : Role} {w w' : World} {n : ℕ} {a : Answer ω} {new : Stage ι ω} {events : List Event}
    (answered : answer = some a)
    (passage : Passage role w (some st) (.resume n a) w' (some new) events) (c : ℕ)
    (line : line? new = some c) :
    c = lineOf request ∧ Suits b setup Op (l ++ ws) (p'.session? c) new none

section Stages

variable {files : Files} {b : Config.Broker} {setup : Frame} {Op : List Frame → Prop} {p : Peer}
  {l : List Wire} {s : Session} {c : ℕ}

theorem responded_connecting (fresh : p.session? c = none) (steady : Steady p.script)
    (goal : Goal ι) :
    ∃ ws, Responded b setup Op [] ws (.connecting goal c : Stage ι ω) (.connect c) p
      (connect files b c p).peer
      ((connect files b c p).result.map fun r => .connected (r.map fun _ => ())) := by
  obtain ⟨ws, sends, proper, opened⟩ := connect_sends (b := b) setup Op files fresh steady
  refine ⟨ws, sends, proper, trivial, fun ha passage c' hc => ?_⟩
  cases passage with
  | connect =>
    obtain rfl := Option.some.inj hc
    obtain ⟨result, hresult, ok⟩ := Option.map_eq_some_iff.mp ha
    cases result with
    | error e => cases Answer.connected.inj ok
    | ok k => exact ⟨rfl, opened k hresult⟩
  | connectFail => simp [line?] at hc

theorem responded_closingWorker {r : Resource} (session : p.session? r.connection = some s)
    (working : Working b setup Op l s) (guarded : Guarded l) (steady : Steady p.script)
    (purpose : Lifecycle.Purpose ω) :
    ∃ ws, Responded b setup Op l ws (.closingWorker r purpose : Stage ι ω) (.closeWorker r) p
      (closeChannel r.connection p).peer ((closeChannel r.connection p).result.map .closed) := by
  obtain ⟨ws, s', sends, after, proper, leaving, rests, closes⟩ := closeWorker_sends session
    steady guarded working
  refine ⟨ws, sends, proper, ⟨fun hp => ?_, fun hp => ?_⟩, fun ha passage c' hc => ?_⟩
  · obtain ⟨nothing, result⟩ := rests hp
    exact ⟨nothing, congrArg (Option.map Answer.closed) result⟩
  · obtain ⟨reaction, one, fails⟩ := closes hp
    exact ⟨reaction, one, fun cause ha => fails cause (result_of_closed ha)⟩
  · cases passage with
    | workerClosed =>
      obtain rfl := Option.some.inj hc
      exact ⟨rfl, s', after, leaving⟩

/-- A stage at which the connection is closed is the last one that has it. -/
theorem responded_leaving {st : Stage ι ω} (session : p.session? c = some s)
    (leaving : Leaving b setup Op l s) (guarded : Guarded l) (steady : Steady p.script)
    (last : ∀ {role : Role} {w w' : World} {n : ℕ} {a : Answer ω} {new : Stage ι ω}
      {events : List Event}, Passage role w (some st) (.resume n a) w' (some new) events →
      line? new = none) :
    ∃ ws, Responded b setup Op l ws st (.closeConnection c) p
      (closeConnection b.target c p).peer
      ((closeConnection b.target c p).result.map .closed) := by
  obtain ⟨reaction, sends, proper, fails⟩ := closeConnection_sends b.target session steady guarded
    leaving
  refine ⟨_, sends, proper, ⟨reaction, rfl, fun cause ha => fails cause (result_of_closed ha)⟩,
    fun ha passage c' hc => ?_⟩
  rw [last passage] at hc
  cases hc

/-- A request that is no dialogue leads from a stage that suits the connection to a stage that suits
    it again. -/
theorem respond_suits {spoken : Spoken ι ω} {st : Stage ι ω} {request : Request ι}
    (hreq : st.request? = some request) (other : spoken.dialogue? request = none)
    {rest : Option (Dialogue (Answer ω))}
    (suits : Suits b spoken.setup Op l (p.session? (lineOf request)) st rest) (guarded : Guarded l)
    (steady : Steady p.script) {p' : Peer} {log : List Log.Entry} {answer : Option (Answer ω)}
    (hr : respond files b spoken.step p request = (p', log, answer)) :
    ∃ ws, Responded b spoken.setup Op l ws st request p p' answer := by
  cases st with
  | connecting goal c =>
    obtain rfl := Option.some.inj hreq
    obtain ⟨rfl, rfl⟩ := Turn.answer_eq hr
    obtain ⟨rfl, fresh⟩ := suits
    exact responded_connecting fresh steady goal
  | equipping | processing =>
    obtain rfl := Option.some.inj hreq
    exact absurd other (by simp [Spoken.dialogue?])
  | closingWorker r purpose =>
    obtain rfl := Option.some.inj hreq
    obtain ⟨rfl, rfl⟩ := Turn.answer_eq hr
    obtain ⟨s, session, working⟩ := suits
    exact responded_closingWorker session working guarded steady purpose
  | unwinding c cause =>
    obtain rfl := Option.some.inj hreq
    obtain ⟨rfl, rfl⟩ := Turn.answer_eq hr
    obtain ⟨s, session, leaving⟩ := suits
    refine responded_leaving session leaving guarded steady fun passage => ?_
    cases passage with
    | unwound => rfl
  | closingConnection r worker purpose =>
    obtain rfl := Option.some.inj hreq
    obtain ⟨rfl, rfl⟩ := Turn.answer_eq hr
    obtain ⟨s, session, leaving⟩ := suits
    refine responded_leaving session leaving guarded steady fun passage => ?_
    cases passage with
    | connectionClosed => simp
  | _ => simp [Stage.request?] at hreq

/-- The next frame of a request leaves it to suit the connection. -/
theorem say_suits {spoken : Spoken ι ω} (speaks : spoken.Speaks Op) {st : Stage ι ω}
    {request : Request ι} (hreq : st.request? = some request) {whole : Dialogue (Answer ω)}
    (talks : spoken.dialogue? request = some whole) {rest : Option (Dialogue (Answer ω))}
    (suits : Suits b spoken.setup Op l (p.session? (lineOf request)) st rest) (guarded : Guarded l)
    (steady : Steady p.script) {f : Frame} {next : Reply → Dialogue (Answer ω)}
    (left : rest.getD whole = .say f next) :
    Says b spoken.setup Op (lineOf request) p l f fun reply l s =>
      Suits b spoken.setup Op l (some s) st (some (next reply)) := by
  cases st with
  | equipping goal c =>
    obtain rfl := Option.some.inj hreq
    obtain rfl := Option.some.inj talks
    cases rest with
    | none =>
      obtain ⟨s, session, greeted⟩ := suits
      obtain rfl := (Dialogue.say.inj left).1
      obtain ⟨ws, s', sends, after, proper, heard⟩ := greeted.say spoken.setup Op session steady
        guarded left
      exact ⟨ws, s', sends, after, proper, fun h => ⟨s', rfl, heard h⟩⟩
    | some d =>
      obtain ⟨s, session, equipping⟩ := suits
      cases equipping with
      | prepared | failed => cases left
      | opened now =>
        obtain rfl := (Dialogue.say.inj left).1
        obtain ⟨ws, s', sends, after, proper, heard⟩ := now.say Op speaks.prepares session steady
          guarded left
        exact ⟨ws, s', sends, after, proper, fun h => ⟨s', rfl, heard h⟩⟩
  | processing r input =>
    obtain rfl := Option.some.inj hreq
    obtain rfl := Option.some.inj talks
    obtain ⟨s, session, midway⟩ : ∃ s, p.session? r.connection = some s ∧
        Midway b spoken.setup Op l s (.say f next) := by
      cases rest with
      | none =>
        obtain ⟨s, session, working⟩ := suits
        exact ⟨s, session, left ▸ working.midway (Dialogue.continues_map _ (speaks.operates input))⟩
      | some d =>
        obtain ⟨s, session, midway⟩ := suits
        exact ⟨s, session, left ▸ midway⟩
    obtain ⟨ws, s', sends, after, proper, heard⟩ := midway.say session steady guarded
    exact ⟨ws, s', sends, after, proper, fun h => ⟨s', rfl, heard h⟩⟩
  | connecting | closingWorker | unwinding | closingConnection =>
    obtain rfl := Option.some.inj hreq
    cases talks
  | _ => simp [Stage.request?] at hreq

/-- When all has been said, the call goes on to a stage that suits its connection. -/
theorem ended_suits {spoken : Spoken ι ω} {st : Stage ι ω} {request : Request ι}
    (hreq : st.request? = some request) {whole : Dialogue (Answer ω)}
    (talks : spoken.dialogue? request = some whole) {rest : Option (Dialogue (Answer ω))}
    {session : Option Session} (suits : Suits b spoken.setup Op l session st rest)
    {log : List Log.Entry} {a : Answer ω} (left : rest.getD whole = .ended log a) {role : Role}
    {w w' : World} {n : ℕ} {new : Stage ι ω} {events : List Event}
    (passage : Passage role w (some st) (.resume n a) w' (some new) events) (c : ℕ)
    (line : line? new = some c) :
    c = lineOf request ∧ Suits b spoken.setup Op l session new none := by
  cases st with
  | equipping goal c' =>
    obtain rfl := Option.some.inj hreq
    obtain rfl := Option.some.inj talks
    cases rest with
    | none => cases left
    | some d =>
      obtain ⟨s, session, equipping⟩ := suits
      cases passage with
      | equip n goal c' r made =>
        cases equipping with
        | opened | failed => cases left
        | prepared log now =>
          have hc : c = c' := by
            cases goal <;> simpa [Stage.obtained, line?, made] using line.symm
          exact ⟨hc, .obtained session now goal r⟩
      | equipFail n goal c' cause =>
        obtain rfl := Option.some.inj line
        cases equipping with
        | opened | prepared => cases left
        | failed log cause now => exact ⟨rfl, s, session, now⟩
  | processing r input =>
    obtain rfl := Option.some.inj hreq
    have working : ∃ s, session = some s ∧ Working b spoken.setup Op l s := by
      cases rest with
      | none => exact suits
      | some d =>
        obtain ⟨s, session, midway⟩ := suits
        exact ⟨s, session, midway.working⟩
    cases passage with
    | succeed | fail =>
      obtain rfl := Option.some.inj line
      exact ⟨rfl, working⟩
  | connecting | closingWorker | unwinding | closingConnection =>
    obtain rfl := Option.some.inj hreq
    cases talks
  | _ => simp [Stage.request?] at hreq

end Stages

end BrokerPool.Broker
