import BrokerPool.Proofs.Broker.Work

/-!
# What passes on a connection

A connection carries the frames of the client with the broker's reactions to them. The broker may
also close the channel when nothing was asked of it. What has passed tells whether the channel was
closed, by whichever side: after that no work goes out any more, and the connection is not closed
before.

Results:
* `Sends`: a client sends one frame after the other on a connection, and hears the reactions.
* `Sends.frames`, `Sends.others`, `Sends.script`, `Sends.passed`: what that leaves behind.
* `Guarded.snoc`: a trace stays in order if its next entry comes in time.
* `send_taken`, `request_taken`: what becomes of a frame around the work if the broker keeps the
  connection.
* `send_used`: what becomes of a frame that uses an open channel.
-/

namespace BrokerPool.Broker

/-! ## Traces -/

namespace Frame

/-- A frame that prepares a channel. -/
def prepares : Frame → Bool
  | .selectConfirm _ | .setPrefetch .. => true
  | _ => false

/-- A frame that uses a channel: it prepares it, or it is a part of the work. -/
def uses (f : Frame) : Bool := f.prepares || f.works

end Frame

/-- What passes on a connection. -/
inductive Wire
  /-- A frame of the client, with the reaction of the broker if the frame is answered. -/
  | sent (f : Frame) (reaction : Option Reaction)
  /-- The broker closes the channel of its own accord. -/
  | revoked

namespace Wire

def frame? : Wire → Option Frame
  | .sent f _ => some f
  | .revoked => none

/-- The client closes the channel. -/
def leaves : Wire → Bool
  | .sent (.closeChannel ..) _ => true
  | _ => false

/-- The broker closes the channel, or does not open it. -/
def refuses : Wire → Bool
  | .sent _ (some (.closeChannel ..)) | .revoked => true
  | _ => false

/-- The client uses the channel. -/
def uses (w : Wire) : Bool := w.frame?.any Frame.uses

/-- The client closes the connection. -/
def ends : Wire → Bool
  | .sent (.closeConnection ..) _ => true
  | _ => false

end Wire

/-- The frames of a trace. -/
def frames (trace : List Wire) : List Frame := trace.filterMap Wire.frame?

/-- The channel has been closed, by either side. -/
def parted (trace : List Wire) : Bool := trace.any fun w => w.leaves || w.refuses

@[simp] theorem frames_nil : frames [] = [] := rfl

@[simp] theorem frames_append (l l' : List Wire) : frames (l ++ l') = frames l ++ frames l' :=
  List.filterMap_append

@[simp] theorem frames_sent (f : Frame) (r : Option Reaction) (l : List Wire) :
    frames (.sent f r :: l) = f :: frames l := rfl

@[simp] theorem frames_revoked (l : List Wire) : frames (.revoked :: l) = frames l := rfl

@[simp] theorem parted_nil : parted [] = false := rfl

@[simp] theorem parted_append (l l' : List Wire) : parted (l ++ l') = (parted l || parted l') :=
  List.any_append

@[simp] theorem parted_cons (w : Wire) (l : List Wire) :
    parted (w :: l) = (w.leaves || w.refuses || parted l) := rfl

/-- The channel is only used while it has not been closed, and the connection is only closed after
    it. -/
structure Wire.Timely (w : Wire) (before : List Wire) : Prop where
  uses : w.uses = true → parted before = false
  ends : w.ends = true → parted before = true

/-- Every entry of a trace came in time. -/
def Guarded (trace : List Wire) : Prop :=
  ∀ before w after, trace = before ++ w :: after → w.Timely before

theorem guarded_nil : Guarded [] := by
  intro before w after h
  simp at h

/-- An entry of a list that was extended is the last one, or it was there before. -/
theorem snoc_split {α : Type} {l before after : List α} {x y : α}
    (h : l ++ [x] = before ++ y :: after) :
    before = l ∧ y = x ∨ ∃ after', l = before ++ y :: after' := by
  rcases List.eq_nil_or_concat after with rfl | ⟨after', last, rfl⟩
  · obtain ⟨hl, hx⟩ := List.append_inj' h rfl
    exact .inl ⟨hl.symm, (List.singleton_inj.mp hx).symm⟩
  · rw [List.concat_eq_append, ← List.cons_append, ← List.append_assoc] at h
    exact .inr ⟨after', (List.append_inj' h rfl).1⟩

theorem Guarded.snoc {l : List Wire} (h : Guarded l) {w : Wire} (hw : w.Timely l) :
    Guarded (l ++ [w]) := by
  intro before w' after hl
  rcases snoc_split hl with ⟨rfl, rfl⟩ | ⟨after', hl⟩
  · exact hw
  · exact h before w' after' hl

/-- What neither uses the channel nor closes the connection has no time of its own. -/
theorem Guarded.plain {l ws : List Wire} (h : Guarded l)
    (hw : ∀ w ∈ ws, w.uses = false ∧ w.ends = false) : Guarded (l ++ ws) := by
  induction ws generalizing l with
  | nil => simpa using h
  | cons w ws ih =>
    obtain ⟨uses, ends⟩ := hw w List.mem_cons_self
    have timely : w.Timely l := ⟨fun h => by simp [uses] at h, fun h => by simp [ends] at h⟩
    rw [← List.singleton_append, ← List.append_assoc]
    exact ih (h.snoc timely) fun w' hw' => hw w' (List.mem_cons_of_mem _ hw')

/-! ## Sending frames -/

/-- A client sends one frame after the other on a connection and hears the reactions to them. -/
inductive Sends (c : ℕ) : Peer → List Wire → Peer → Prop
  | nil (p : Peer) : Sends c p [] p
  /-- An attempt to get through to the broker. -/
  | attempted {p p' : Peer} {ws : List Wire} (attempts : List Attempt)
    (rest : Sends c { p with attempts } ws p') : Sends c p ws p'
  | begun {p p' : Peer} {ws : List Wire} (fresh : p.session? c = none)
    (rest : Sends c (p.begin c) ws p') : Sends c p ws p'
  | unanswered {p p' : Peer} {s : Session} {f : Frame} {ws : List Wire}
    (session : p.session? c = some s) (allowed : s.refusal? f = none) (point : f.point? = none)
    (rest : Sends c (p.put c (s.post f)) ws p') : Sends c p (.sent f none :: ws) p'
  | answered {p p' : Peer} {s : Session} {f : Frame} {q : Point} {ws : List Wire}
    (session : p.session? c = some s) (allowed : s.refusal? f = none) (point : f.point? = some q)
    (rest : Sends c (({ p with script := (p.script.next q).2 } : Peer).put c
      ((s.post f).hear f (p.script.next q).1).1) ws p') :
    Sends c p (.sent f (some (p.script.next q).1) :: ws) p'

/-- The frames with the reactions to them that a script has. -/
def heard (script : Script) : List Frame → List Wire
  | [] => []
  | f :: fs =>
    match f.point? with
    | none => .sent f none :: heard script fs
    | some q => .sent f (some (script.next q).1) :: heard (script.next q).2 fs

/-- What has passed on a connection between two moments. -/
def passed (c : ℕ) (p p' : Peer) : List Wire :=
  heard p.script ((p'.framesOn c).drop (p.framesOn c).length)

namespace Sends

variable {c : ℕ} {p p' p'' : Peer} {ws ws' : List Wire}

theorem trans (h : Sends c p ws p') (h' : Sends c p' ws' p'') : Sends c p (ws ++ ws') p'' := by
  induction h with
  | nil => exact h'
  | attempted attempts _ ih => exact .attempted attempts (ih h')
  | begun fresh _ ih => exact .begun fresh (ih h')
  | unanswered session allowed point _ ih => exact .unanswered session allowed point (ih h')
  | answered session allowed point _ ih => exact .answered session allowed point (ih h')

theorem framesOn_begin (fresh : p.session? c = none) : (p.begin c).framesOn c = p.framesOn c := by
  rw [Peer.framesOn, Peer.framesOn, Peer.session?_begin fresh, if_pos rfl, fresh]
  rfl

theorem framesOn_put {s s' : Session} (session : p.session? c = some s) (script : Script)
    {f : Frame} (hf : s'.frames = s.frames ++ [f]) :
    (({ p with script } : Peer).put c s').framesOn c = p.framesOn c ++ [f] := by
  rw [Peer.framesOn_of_session (Peer.session?_put_self session script s'),
    Peer.framesOn_of_session session, hf]

/-- What is said is sent. -/
theorem frames (h : Sends c p ws p') : p'.framesOn c = p.framesOn c ++ Broker.frames ws := by
  induction h with
  | nil => simp
  | attempted attempts _ ih => exact ih
  | begun fresh _ ih => rw [ih, framesOn_begin fresh]
  | @unanswered p p' s f ws session allowed point _ ih =>
    rw [ih, framesOn_put session p.script (f := f) rfl, frames_sent, List.append_assoc]
    rfl
  | @answered p p' s f q ws session allowed point _ ih =>
    rw [ih, framesOn_put session _ (f := f) (Session.hear_frames _ _ _), frames_sent,
      List.append_assoc]
    rfl

/-- Nothing is said on another connection. -/
theorem others (h : Sends c p ws p') {c' : ℕ} (hc : c' ≠ c) : p'.session? c' = p.session? c' := by
  induction h with
  | nil => rfl
  | attempted attempts _ ih => exact ih
  | begun fresh _ ih => rw [ih, Peer.session?_begin fresh, if_neg hc]
  | unanswered session allowed point _ ih => rw [ih, Peer.session?_put, if_neg hc]
  | answered session allowed point _ ih =>
    rw [ih, Peer.session?_put, if_neg hc]
    rfl

/-- Reactions are only used up. -/
theorem script (h : Sends c p ws p') : ∀ x ∈ p'.script, x ∈ p.script := by
  induction h with
  | nil => exact fun _ hx => hx
  | attempted attempts _ ih => exact ih
  | begun fresh _ ih => exact ih
  | unanswered session allowed point _ ih => exact ih
  | answered session allowed point _ ih => exact fun x hx => Script.mem_of_mem_next (ih x hx)

/-- The reactions to what is said are the next ones of the script. -/
theorem heard (h : Sends c p ws p') : Broker.heard p.script (Broker.frames ws) = ws := by
  induction h with
  | nil => rfl
  | attempted attempts _ ih => exact ih
  | begun fresh _ ih => exact ih
  | unanswered session allowed point _ ih =>
    rw [frames_sent, Broker.heard, point]
    exact congrArg _ ih
  | answered session allowed point _ ih =>
    rw [frames_sent, Broker.heard, point]
    exact congrArg _ ih

/-- What a client sends can be read off the brokers before and after it. -/
theorem passed (h : Sends c p ws p') : passed c p p' = ws := by
  rw [Broker.passed, h.frames, List.drop_left, h.heard]

end Sends

/-! ## Brokers that keep the connection -/

/-- The reaction leaves the connection open. -/
def Reaction.keeps : Reaction → Bool
  | .drop | .closeConnection .. => false
  | _ => true

/-- The broker keeps every connection open. -/
def Steady (script : Script) : Prop := ∀ x ∈ script, x.2.keeps = true

instance (script : Script) : Decidable (Steady script) :=
  inferInstanceAs (Decidable (∀ x ∈ script, x.2.keeps = true))

theorem Steady.next {script : Script} (h : Steady script) (q : Point) :
    (script.next q).1.keeps = true := by
  rcases Script.next_mem q script with hn | hn
  · rw [hn]; rfl
  · exact h _ hn

theorem Sends.steady {c : ℕ} {p p' : Peer} {ws : List Wire} (h : Sends c p ws p')
    (hp : Steady p.script) : Steady p'.script :=
  fun x hx => hp x (h.script x hx)

/-- What a reply means where only success or failure matters. -/
def Reply.result : Reply → Option (Except Fault Unit)
  | .silent => none
  | .failed cause => some (.error cause)
  | _ => some (.ok ())

/-- What becomes of a frame around the work: the reaction, what the sender hears, and the session
    after it. -/
inductive Taken (s : Session) (f : Frame) : Reaction → Option (Except Fault Unit) → Session → Prop
  | silent : Taken s f .hang none (s.post f)
  | refused (code : ℕ) (text : String) (cause : Fault) :
    Taken s f (.closeChannel code text) (some (.error cause)) { s.post f with channelOpen := false }
  | done (r : Reaction) (kept : (Wire.sent f (some r)).refuses = false) :
    Taken s f r (some (.ok ())) ((s.post f).settle f)

namespace Taken

variable {s s' : Session} {f : Frame} {r : Reaction} {result : Option (Except Fault Unit)}

/-- A frame has success only if the broker does not close the channel, and then it has its
    effect. -/
theorem done_of_ok (h : Taken s f r result s') (ok : result = some (.ok ())) :
    (Wire.sent f (some r)).refuses = false ∧ s' = (s.post f).settle f := by
  cases h <;> simp_all

/-- A frame fails only if the broker closes the channel. -/
theorem refused_of_error (h : Taken s f r result s') {cause : Fault}
    (failed : result = some (.error cause)) :
    ∃ code text, r = .closeChannel code text ∧ s' = { s.post f with channelOpen := false } := by
  cases h <;> simp_all

theorem connected (h : Taken s f r result s')
    (hf : ∀ s : Session, (s.settle f).connected = s.connected) : s'.connected = s.connected := by
  cases h with
  | done => exact hf _
  | _ => rfl

end Taken

section Requests

variable {c : ℕ} {p : Peer} {s : Session} {f : Frame} {q : Point}

/-- A frame that may be sent is said with the next reaction. -/
theorem sends_of_send (session : p.session? c = some s) (allowed : s.refusal? f = none)
    (point : f.point? = some q) : Sends c p [.sent f (some (p.script.next q).1)] (p.send c f).1 ∧
      (p.send c f).1.session? c = some ((s.post f).hear f (p.script.next q).1).1 ∧
      (p.send c f).2 = ((s.post f).hear f (p.script.next q).1).2 := by
  have hsend : p.send c f = (({ p with script := (p.script.next q).2 } : Peer).put c
      ((s.post f).hear f (p.script.next q).1).1, ((s.post f).hear f (p.script.next q).1).2) := by
    simp only [Peer.send, session, allowed, point]
  rw [hsend]
  exact ⟨.answered session allowed point (.nil _), Peer.session?_put_self session _ _, rfl⟩

/-- What becomes of a frame around the work if the broker keeps the connection. -/
theorem send_taken (steady : Steady p.script) (session : p.session? c = some s)
    (allowed : s.refusal? f = none) (hf : f.works = false) (point : f.point? = some q) :
    ∃ r s', Sends c p [.sent f (some r)] (p.send c f).1 ∧ (p.send c f).1.session? c = some s' ∧
      Taken s f r (p.send c f).2.result s' := by
  obtain ⟨sends, after, reply⟩ := sends_of_send session allowed point
  have hr := steady.next q
  refine ⟨_, _, sends, after, ?_⟩
  rw [reply]
  generalize (p.script.next q).1 = r at hr ⊢
  cases r with
  | drop | closeConnection => simp [Reaction.keeps] at hr
  | hang => exact .silent
  | closeChannel code text => exact .refused code text _
  | success => exact .done .success rfl
  | nack | returned | message =>
    cases f with
    | publish | get | ack => simp [Frame.works] at hf
    | _ => exact .done _ rfl

theorem request_eq (f : Frame) :
    p.request c f = ⟨(p.send c f).1, [], (p.send c f).2.result⟩ := by
  rw [Peer.request]
  rcases p.send c f with ⟨q, reply⟩
  cases reply <;> rfl

theorem request_taken (steady : Steady p.script) (session : p.session? c = some s)
    (allowed : s.refusal? f = none) (hf : f.works = false) (point : f.point? = some q) :
    ∃ r s', Sends c p [.sent f (some r)] (p.request c f).peer ∧
      (p.request c f).peer.session? c = some s' ∧ Taken s f r (p.request c f).result s' := by
  rw [request_eq]
  exact send_taken steady session allowed hf point

/-- What becomes of a frame that uses the channel: what passes, what is heard, and the session after
    it. -/
inductive Used (s : Session) (f : Frame) : List Wire → Reply → Session → Prop
  | unsent (closed : s.channelOpen = false) : Used s f [] (.failed Fault.closedChannel) s
  | sent {r : Option Reaction} {reply : Reply} {s' : Session} (opened : s.channelOpen = true)
    (connected : s'.connected = s.connected) (channel : s'.channelOpen = !parted [.sent f r])
    (failed : ∀ cause, reply = .failed cause → (Wire.sent f r).refuses = true) :
    Used s f [.sent f r] reply s'

/-- The reactions of a broker that keeps the connection leave it to the channel whether it is still
    there. -/
theorem used_hear (hf : f.uses = true) (opened : s.channelOpen = true) {r : Reaction}
    (hr : r.keeps = true) :
    Used s f [.sent f (some r)] ((s.post f).hear f r).2 ((s.post f).hear f r).1 := by
  refine .sent opened ?_ ?_ ?_ <;> cases r <;> simp [Reaction.keeps] at hr <;> cases f <;>
    simp_all [Frame.uses, Frame.prepares, Frame.works, Session.hear, Session.settle, Session.post,
      Wire.leaves, Wire.refuses]

/-- A frame that uses the channel is only sent as long as the channel is open. -/
theorem send_used (hf : f.uses = true) (steady : Steady p.script)
    (session : p.session? c = some s) : ∃ ws s',
      Sends c p ws (p.send c f).1 ∧ (p.send c f).1.session? c = some s' ∧
        Used s f ws (p.send c f).2 s' := by
  have refusal : s.refusal? f = if s.channelOpen then none else some Fault.closedChannel := by
    cases f <;> simp_all [Frame.uses, Frame.prepares, Frame.works, Session.refusal?]
  cases opened : s.channelOpen with
  | false =>
    have unsent : p.send c f = (p, .failed Fault.closedChannel) := by
      simp [Peer.send, session, refusal, opened]
    rw [unsent]
    exact ⟨[], s, .nil p, session, .unsent opened⟩
  | true =>
    have allowed : s.refusal? f = none := by simp [refusal, opened]
    cases point : f.point? with
    | none =>
      have sent : p.send c f = (p.put c (s.post f), .done) := by
        simp only [Peer.send, session, allowed, point]
      rw [sent]
      refine ⟨_, _, .unanswered session allowed point (.nil _),
        Peer.session?_put_self session p.script _, .sent opened rfl ?_ (by simp)⟩
      cases f <;> simp_all [Frame.point?, Wire.leaves, Wire.refuses]
    | some q =>
      obtain ⟨sends, after, reply⟩ := sends_of_send session allowed point
      exact ⟨_, _, sends, after, reply ▸ used_hear hf opened (steady.next q)⟩

end Requests

end BrokerPool.Broker
