import BrokerPool.Proofs.Broker.Conversation

/-!
# A controller and its broker

A controller with any number of calls at once, and a broker at the other end that answers its
requests, keeps silent for good, or closes a channel of its own accord. Triggers and shutdowns begin
at any time, and any order in which calls go on is a run. A request to open or to use a channel goes
out frame by frame, and what other calls and the broker do can fall between two of its frames.

Results:
* `Site.act`, `Site.run`: what can happen, and one thing after the other.
* `Site.answers_together`: a request that nothing interrupts goes as `respond` has it.
-/

namespace BrokerPool.Broker

open Lifecycle (Action Answer Request Stage System)

variable {ι ω : Type}

/-! ## Runs -/

/-- What happens between a controller and its broker. -/
inductive Happening (ι ω : Type)
  /-- A request that is no dialogue, with what passes on its connection and the answer, if one ever
      comes. -/
  | asked (request : Request ι) (wires : List Wire) (answer : Option (Answer ω))
  /-- One frame of a request, with what passes on its connection. -/
  | said (connection : ℕ) (wires : List Wire)
  /-- The broker closes the channel of a connection of its own accord. -/
  | revoked (connection : ℕ)

/-- What passes on a connection. -/
def Happening.on (c : ℕ) : Happening ι ω → List Wire
  | .asked request wires _ => if lineOf request = c then wires else []
  | .said c' wires => if c' = c then wires else []
  | .revoked c' => if c' = c then [.revoked] else []

/-- All that has passed on a connection. -/
def trace (history : List (Happening ι ω)) (c : ℕ) : List Wire := history.flatMap (·.on c)

/-- The broker closes the channel of a connection. -/
def Peer.revoke (p : Peer) (c : ℕ) : Peer :=
  match p.session? c with
  | some s => p.put c { s with channelOpen := false }
  | none => p

/-- A controller and its broker. -/
structure Site (ι ω : Type) where
  system : System ι ω := {}
  peer : Peer
  /-- The calls whose requests are never answered. -/
  stuck : List ℕ := []
  /-- What a call has left to say of a request of which a part has been said. -/
  talks : ℕ → Option (Dialogue (Answer ω)) := fun _ => none
  history : List (Happening ι ω) := []

/-- What can happen to a controller and its broker. -/
inductive Act (ι : Type)
  | trigger (input : ι)
  | shutdown
  /-- A call that does not wait makes its move. -/
  | proceed (call : ℕ)
  /-- The broker deals with the request of a call that waits, or with its next frame; a call that
      has nothing more to say goes on. -/
  | answer (call : ℕ)
  | revoke (connection : ℕ)

namespace Site

variable (files : Files) (b : Config.Broker) (spoken : Spoken ι ω)

/-- The site after an action of the controller. -/
def moved (s : Site ι ω) (a : Action ι ω) : Option (Site ι ω) :=
  (s.system.step ⟨b.target, spoken.name⟩ a).map fun (system, _) => { s with system }

/-- The site after something has happened between the controller and its broker. -/
def happened (s : Site ι ω) (peer : Peer) (x : Happening ι ω) : Site ι ω :=
  { s with peer, history := s.history ++ [x] }

/-- The site after the broker has dealt with a request: the call that made it goes on with the
    answer, or never does. -/
def answered (s : Site ι ω) (call : ℕ) (request : Request ι) : Option (Site ι ω) :=
  let (peer, _, answer) := respond files b spoken.step s.peer request
  let s := s.happened peer (.asked request (passed (lineOf request) s.peer peer) answer)
  match answer with
  | some a => s.moved b spoken (.resume call a)
  | none => some { s with stuck := call :: s.stuck }

/-- What a call has left to say. -/
def left (s : Site ι ω) (call : ℕ) (rest : Option (Dialogue (Answer ω))) : Site ι ω :=
  { s with talks := Function.update s.talks call rest }

/-- The site after a call has said one more frame; when nothing is left to say, it goes on. -/
def said (s : Site ι ω) (call connection : ℕ) : Dialogue (Answer ω) → Option (Site ι ω)
  | .ended _ a => (s.left call none).moved b spoken (.resume call a)
  | .say f next =>
    let (peer, reply) := s.peer.send connection f
    let s := s.happened peer (.said connection (passed connection s.peer peer))
    match reply with
    | .silent => some { s with stuck := call :: s.stuck }
    | reply => some (s.left call (some (next reply)))

/-- The site after something has happened, if it can happen. -/
def act (s : Site ι ω) : Act ι → Option (Site ι ω)
  | .trigger input => s.moved b spoken (.start (.acquire (.trigger input)))
  | .shutdown => s.moved b spoken (.start .shutdown)
  | .proceed call => s.moved b spoken (.proceed call)
  | .answer call =>
    if call ∈ s.stuck then none
    else do
      let request ← (← s.system.stage? call).request?
      match spoken.dialogue? request with
      | some whole => s.said b spoken call (lineOf request) ((s.talks call).getD whole)
      | none => s.answered files b spoken call request
  | .revoke c =>
    if s.peer.hasChannel c then some (s.happened (s.peer.revoke c) (.revoked c)) else none

/-- The site after one thing has happened after the other. -/
def run (s : Site ι ω) (acts : List (Act ι)) : Option (Site ι ω) :=
  acts.foldlM (act files b spoken) s

end Site

/-! ## Requests that nothing interrupts -/

namespace Site

section Together

variable (files : Files) (b : Config.Broker) {spoken : Spoken ι ω} {s : Site ι ω} {n : ℕ}
  {st : Stage ι ω} {request : Request ι} {whole : Dialogue (Answer ω)}

theorem act_answer (hst : s.system.stage? n = some st) (hreq : st.request? = some request)
    (talks : spoken.dialogue? request = some whole) (goes : n ∉ s.stuck) :
    s.act files b spoken (.answer n) =
      s.said b spoken n (lineOf request) ((s.talks n).getD whole) := by
  simp [act, goes, hst, hreq, talks]

/-- The site after a frame has been said to which the broker keeps silent for good. -/
theorem said_silent {c : ℕ} {f : Frame} {next : Reply → Dialogue (Answer ω)} {peer : Peer}
    (sent : s.peer.send c f = (peer, .silent)) : s.said b spoken n c (.say f next) =
      some { s.happened peer (.said c (passed c s.peer peer)) with stuck := n :: s.stuck } := by
  rw [said, sent]
  rfl

/-- The site after a frame has been said and something was heard. -/
theorem said_heard {c : ℕ} {f : Frame} {next : Reply → Dialogue (Answer ω)} {peer : Peer}
    {reply : Reply} (sent : s.peer.send c f = (peer, reply)) (heard : reply ≠ .silent) :
    s.said b spoken n c (.say f next) =
      some ((s.happened peer (.said c (passed c s.peer peer))).left n (some (next reply))) := by
  rw [said, sent]
  cases reply with
  | silent => exact absurd rfl heard
  | _ => rfl

/-- Frame by frame a dialogue gets to where it gets without a pause. -/
theorem run_hold {α : Type} (wrap : Except Fault α → Answer ω) (d : Dialogue (Except Fault α))
    (hst : s.system.stage? n = some st) (hreq : st.request? = some request)
    (talks : spoken.dialogue? request = some whole) (goes : n ∉ s.stuck)
    (rest : (s.talks n).getD whole = d.map wrap) :
    ∃ k t, s.run files b spoken (List.replicate k (.answer n)) = some t ∧ t.system = s.system ∧
      t.peer = (d.hold (lineOf request) s.peer).peer ∧
      match (d.hold (lineOf request) s.peer).result with
      | some r => n ∉ t.stuck ∧ ∃ log, (t.talks n).getD whole = .ended log (wrap r)
      | none => n ∈ t.stuck := by
  induction d generalizing s with
  | ended log r => exact ⟨0, s, rfl, rfl, rfl, goes, log, rest⟩
  | say f next ih =>
    have first := act_answer files b hst hreq talks goes
    rw [rest, Dialogue.map] at first
    rcases sent : s.peer.send (lineOf request) f with ⟨peer, reply⟩
    by_cases silent : reply = .silent
    · subst silent
      rw [said_silent b sent] at first
      rw [Dialogue.hold_say_silent sent]
      have runs : s.run files b spoken (List.replicate 1 (.answer n)) = some { s.happened peer
          (.said (lineOf request) (passed (lineOf request) s.peer peer)) with
            stuck := n :: s.stuck } := by
        rw [List.replicate_one, run, List.foldlM_cons, first]
        rfl
      exact ⟨1, _, runs, rfl, rfl, List.mem_cons_self⟩
    · rw [said_heard b sent silent] at first
      rw [Dialogue.hold_say sent silent]
      obtain ⟨k, t, runs, got⟩ := ih reply (s := (s.happened peer
        (.said (lineOf request) (passed (lineOf request) s.peer peer))).left n
          (some ((next reply).map wrap))) hst goes (by simp [left])
      refine ⟨k + 1, t, ?_, got⟩
      rw [List.replicate_succ, run, List.foldlM_cons, first]
      exact runs

/-- A call that waits for a dialogue goes on with what comes of it. -/
theorem resumes {p : Peer} {a : Answer ω} (hst : s.system.stage? n = some st)
    (hreq : st.request? = some request) (talks : spoken.dialogue? request ≠ none)
    (answer : (respond files b spoken.step p request).2.2 = some a) :
    ∃ system events, s.system.step ⟨b.target, spoken.name⟩ (.resume n a) =
      some (system, events) := by
  cases st with
  | equipping goal c =>
    obtain rfl := Option.some.inj hreq
    obtain ⟨result, -, rfl⟩ := Option.map_eq_some_iff.mp answer
    rw [System.step, hst]
    cases result <;> exact ⟨_, _, rfl⟩
  | processing r input =>
    obtain rfl := Option.some.inj hreq
    obtain ⟨result, -, rfl⟩ := Option.map_eq_some_iff.mp answer
    rw [System.step, hst]
    cases result <;> exact ⟨_, _, rfl⟩
  | connecting | closingWorker | unwinding | closingConnection =>
    obtain rfl := Option.some.inj hreq
    exact absurd rfl talks
  | _ => simp [Stage.request?] at hreq

/-- A request that nothing interrupts goes as `respond` has it: the broker is the same afterwards,
    and the call goes on with the same answer, or waits for ever. -/
theorem answers_together (hst : s.system.stage? n = some st) (hreq : st.request? = some request)
    (talks : spoken.dialogue? request = some whole) (goes : n ∉ s.stuck)
    (begins : s.talks n = none) :
    ∃ k t, s.run files b spoken (List.replicate k (.answer n)) = some t ∧
      t.peer = (respond files b spoken.step s.peer request).1 ∧
      match (respond files b spoken.step s.peer request).2.2 with
      | some a => ∃ events, s.system.step ⟨b.target, spoken.name⟩ (.resume n a) =
          some (t.system, events)
      | none => t.system = s.system ∧ n ∈ t.stuck := by
  obtain ⟨α, wrap, d, rfl, hr⟩ : ∃ (α : Type) (wrap : Except Fault α → Answer ω)
      (d : Dialogue (Except Fault α)), whole = d.map wrap ∧
        respond files b spoken.step s.peer request =
          (d.hold (lineOf request) s.peer).answer wrap := by
    cases request with
    | createWorker c => exact ⟨Unit, _, _, (Option.some.inj talks).symm, rfl⟩
    | process r input => exact ⟨ω, _, _, (Option.some.inj talks).symm, rfl⟩
    | _ => cases talks
  obtain ⟨k, t, runs, system, peer, got⟩ := run_hold files b wrap d hst hreq talks
    goes (by rw [begins]; rfl)
  have dialogue : spoken.dialogue? request ≠ none := by rw [talks]; exact Option.some_ne_none _
  have goesOn {a : Answer ω} := resumes files b (p := s.peer) (a := a) hst hreq dialogue
  rw [hr] at goesOn ⊢
  simp only [Turn.answer] at goesOn ⊢
  cases result : (d.hold (lineOf request) s.peer).result with
  | none =>
    rw [result] at got
    exact ⟨k, t, runs, peer, system, got⟩
  | some r =>
    rw [result] at got
    obtain ⟨going, log, ended⟩ := got
    obtain ⟨after, events, steps⟩ := goesOn (congrArg (Option.map wrap) result)
    have last := act_answer files b (s := t) (system ▸ hst) hreq talks going
    rw [ended, said, moved] at last
    refine ⟨k + 1, { t.left n none with system := after }, ?_, peer, events, steps⟩
    have tail : [Act.answer n].foldlM (act files b spoken) t =
        some { t.left n none with system := after } := by
      rw [List.foldlM_cons, last]
      simp [left, system, steps]
    rw [run] at runs ⊢
    rw [List.replicate_succ', List.foldlM_append, runs]
    exact tail

end Together

end Site

end BrokerPool.Broker
