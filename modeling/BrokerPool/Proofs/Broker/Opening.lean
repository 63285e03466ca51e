import BrokerPool.Proofs.Broker.Alike
import BrokerPool.Proofs.Broker.Conversation

/-!
# One attempt to open a connection

The files that secure a connection are read first, the certificates before the identity. The first
one that cannot be used is named, and the broker hears nothing. If all of them can be used, there is
one attempt, with what is in them, and no other if it fails.

Results:
* `load_spec`: the material is what is in the files, or the first file that cannot be used is named.
* `attempt_once`, `attempt_greets`: what an attempt adds to the broker.
* `connection_opened_once`: opening a connection, whatever the settings, the files and the broker.
-/

namespace BrokerPool.Broker

open Lifecycle (ConnectionError)

/-! ## Files -/

/-- A file that settings point to. -/
structure Reference where
  path : String
  /-- Whether it has to be a text. -/
  text : Bool
deriving DecidableEq, Repr

/-- The files that settings point to, in the order in which they are read. -/
def references (tls : Config.Tls) : List Reference :=
  tls.authorityPath.toList.map (⟨·, true⟩) ++ tls.identityPath.toList.map (⟨·, false⟩)

/-- Why a file cannot be used: it cannot be read, or it is no text where one is needed. -/
def Reference.fault? (files : Files) (r : Reference) : Option FileError :=
  match files.read r.path with
  | .error e => some e
  | .ok bytes => if r.text ∧ Text.Utf8.decode? bytes = none then some .notText else none

/-- The path of the first of some files that cannot be used, and why it cannot. -/
def firstFault? (files : Files) (refs : List Reference) : Option (String × FileError) :=
  refs.findSome? fun r => (r.fault? files).map (r.path, ·)

/-- The material is what is in the files: there are certificates if there is a path for them, and an
    identity if there is one for it. Without a password the identity has an empty one. -/
structure Holds (files : Files) (tls : Config.Tls) (m : TlsMaterial) : Prop where
  certificates : Option.Rel (fun path text => ∃ bytes, files.read path = .ok bytes ∧
    Text.Utf8.decode? bytes = some text) tls.authorityPath m.certificates
  identity : Option.Rel (fun path i => files.read path = .ok i.archive ∧
    i.password = tls.identityPassword.getD "") tls.identityPath m.identity

section Material

variable {α : Type} {files : Files} {path text : String} {e : FileError}

theorem readText_eq (files : Files) (path : String) : files.readText path =
    (files.read path).bind fun bytes =>
      (Text.Utf8.decode? bytes).elim (.error .notText) .ok := by
  rw [Files.readText]
  cases files.read path with
  | error e => rfl
  | ok bytes => cases h : Text.Utf8.decode? bytes <;> simp [h, bind, Except.bind] <;> rfl

theorem readText_ok : files.readText path = .ok text ↔
    ∃ bytes, files.read path = .ok bytes ∧ Text.Utf8.decode? bytes = some text := by
  rw [readText_eq]
  cases files.read path with
  | error e => simp [Except.bind]
  | ok bytes => cases h : Text.Utf8.decode? bytes <;> simp [Except.bind, h]

theorem fault?_text : (⟨path, true⟩ : Reference).fault? files = some e ↔
    files.readText path = .error e := by
  rw [readText_eq, Reference.fault?]
  cases files.read path with
  | error e => simp [Except.bind]
  | ok bytes => cases h : Text.Utf8.decode? bytes <;> simp [Except.bind, h]

theorem fault?_bytes : (⟨path, false⟩ : Reference).fault? files = some e ↔
    files.read path = .error e := by
  rw [Reference.fault?]
  cases files.read path <;> simp

theorem rel_map {β γ : Type} {R : α → β → Prop} {R' : α → γ → Prop} {o : Option α} {o' : Option β}
    (f : β → γ) (h : Option.Rel R o o') (imp : ∀ a b, R a b → R' a (f b)) :
    Option.Rel R' o (o'.map f) := by
  cases h with
  | none => exact .none
  | some related => exact .some (imp _ _ related)

/-- A file that settings may point to is read, or it is the one that cannot be used. -/
theorem readAt_spec {read : String → Except FileError α} {text : Bool}
    (fault : ∀ path e, (⟨path, text⟩ : Reference).fault? files = some e ↔ read path = .error e)
    (path : Option String) :
    (∃ name e, firstFault? files (path.toList.map (⟨·, text⟩)) = some (name, e) ∧
      readAt read path = .error (.tls name e)) ∨
    firstFault? files (path.toList.map (⟨·, text⟩)) = none ∧
      ∃ a, readAt read path = .ok a ∧ Option.Rel (fun path a => read path = .ok a) path a := by
  cases path with
  | none => exact .inr ⟨rfl, none, rfl, .none⟩
  | some name =>
    cases content : read name with
    | error e =>
      refine .inl ⟨name, e, ?_, by rw [readAt, content]⟩
      simp [firstFault?, (fault name e).mpr content]
    | ok a =>
      have fine : (⟨name, text⟩ : Reference).fault? files = none := by
        refine Option.eq_none_iff_forall_ne_some.mpr fun e he => ?_
        rw [(fault name e).mp he] at content
        cases content
      refine .inr ⟨by simp [firstFault?, fine], some a, by rw [readAt, content], .some content⟩

/-- The material is what is in the files, or the first file that cannot be used is named. -/
theorem load_spec (files : Files) (tls : Config.Tls) :
    (∃ path e, firstFault? files (references tls) = some (path, e) ∧
      TlsMaterial.load files tls = .error (.tls path e)) ∨
    firstFault? files (references tls) = none ∧
      ∃ m, TlsMaterial.load files tls = .ok m ∧ Holds files tls m := by
  rw [firstFault?, references, List.findSome?_append, ← firstFault?, ← firstFault?,
    TlsMaterial.load]
  rcases readAt_spec (fun _ _ => fault?_text) tls.authorityPath with
    ⟨path, e, first, failed⟩ | ⟨none_first, certificates, read_first, certified⟩
  · exact .inl ⟨path, e, by rw [first, Option.some_or], by rw [failed]; rfl⟩
  rcases readAt_spec (fun _ _ => fault?_bytes) tls.identityPath with
    ⟨path, e, second, failed⟩ | ⟨none_second, archive, read_second, identified⟩
  · exact .inl ⟨path, e, by rw [none_first, second, Option.none_or], by
      rw [read_first, failed]; rfl⟩
  refine .inr ⟨by rw [none_first, none_second, Option.none_or], _, by
    rw [read_first, read_second]; rfl, ?_, ?_⟩
  · simpa using rel_map id certified fun _ _ => readText_ok.mp
  · exact rel_map _ identified fun _ _ read => ⟨read, rfl⟩

end Material

/-! ## Attempts -/

/-- Between two moments no attempt was made and no session begun. -/
structure Peer.Holding (p p' : Peer) : Prop where
  attempts : p'.attempts = p.attempts
  sessions : p'.sessions.map (·.1) = p.sessions.map (·.1)

/-- The frames that log in and open the connection of an attempt. -/
def Attempt.greeting (a : Attempt) : List Frame :=
  [.logIn a.address.mechanism (response a.address) a.connectionName,
    .openConnection a.address.virtualHost]

section Attempts

variable {p p' p'' : Peer} {c : ℕ} {s : Session}

theorem Peer.Holding.trans (h : p.Holding p') (h' : p'.Holding p'') : p.Holding p'' :=
  ⟨h'.attempts.trans h.attempts, h'.sessions.trans h.sessions⟩

theorem holding_put (p : Peer) (c : ℕ) (s : Session) : p.Holding (p.put c s) := by
  refine ⟨rfl, ?_⟩
  rw [Peer.put, List.map_map]
  refine List.map_congr_left fun e _ => ?_
  obtain ⟨k, old⟩ := e
  simp only [Function.comp_apply]
  split_ifs <;> rfl

theorem holding_send (p : Peer) (c : ℕ) (f : Frame) : p.Holding (p.send c f).1 := by
  have sent := p.send_sent c f
  generalize p.send c f = result at sent
  cases sent with
  | unsent cause => exact ⟨rfl, rfl⟩
  | unanswered s => exact holding_put p c _
  | answered s q =>
    have used : p.Holding { p with script := (p.script.next q).2 } := ⟨rfl, rfl⟩
    exact used.trans (holding_put _ c _)

theorem holding_request (p : Peer) (c : ℕ) (f : Frame) : p.Holding (p.request c f).peer := by
  rw [request_eq]
  exact holding_send p c f

theorem holding_andThen {ε α β : Type} {t : Turn ε α} {next : α → Peer → Turn ε β}
    (h : p.Holding t.peer) (hn : ∀ a (q : Peer), q.Holding (next a q).peer) :
    p.Holding (t.andThen next).peer := by
  rcases Turn.andThen_cases t next with ⟨-, peer, -⟩ | ⟨e, -, peer, -⟩ | ⟨a, -, peer, -⟩ <;>
    rw [peer]
  · exact h
  · exact h
  · exact h.trans (hn a t.peer)

/-- An attempt is one more attempt, and a session with it if it gets through. -/
theorem attempt_once (p : Peer) (c : ℕ) (a : Attempt) :
    (attempt p c a).peer.attempts = p.attempts ++ [a] ∧
      (attempt p c a).peer.sessions.map (·.1) =
        p.sessions.map (·.1) ++ if p.route = .through then [c] else [] := by
  have tried : (p.tried a).route = p.route := rfl
  rw [attempt_eq, tried]
  cases p.route with
  | unreachable | refused => simp [Peer.tried]
  | through =>
    have held := holding_andThen (holding_request ((p.tried a).begin c) c
      (.logIn a.address.mechanism (response a.address) a.connectionName))
      fun _ q => holding_request q c (.openConnection a.address.virtualHost)
    refine ⟨held.attempts, held.sessions.trans ?_⟩
    simp [Peer.begin, Peer.tried]

/-- A frame that may be sent is sent. -/
theorem request_sends {f : Frame} {q : Point} (session : p.session? c = some s)
    (allowed : s.refusal? f = none) (point : f.point? = some q) :
    ∃ r s', Sends c p [.sent f (some r)] (p.request c f).peer ∧
      (p.request c f).peer.session? c = some s' := by
  obtain ⟨sends, after, -⟩ := sends_of_send session allowed point
  rw [request_eq]
  exact ⟨_, _, sends, after⟩

/-- An attempt sends no more than its greeting, and all of it if it has success. -/
theorem attempt_greets (fresh : p.session? c = none) (a : Attempt) :
    ∃ ws, Sends c p ws (attempt p c a).peer ∧ frames ws <+: a.greeting ∧
      ((attempt p c a).result = some (.ok ()) → frames ws = a.greeting) := by
  have untried : (p.tried a).session? c = none := fresh
  have begun := Peer.session?_begin untried c
  rw [if_pos rfl] at begun
  have start {ws : List Wire} {p' : Peer} (rest : Sends c ((p.tried a).begin c) ws p') :
      Sends c p ws p' := .attempted _ (.begun untried rest)
  rw [attempt_eq]
  cases (p.tried a).route with
  | unreachable | refused => exact ⟨[], .attempted _ (.nil _), List.nil_prefix, by simp⟩
  | through =>
    obtain ⟨r, s', first, after⟩ := request_sends
      (f := .logIn a.address.mechanism (response a.address) a.connectionName) begun rfl rfl
    obtain ⟨r', -, second, -⟩ := request_sends
      (f := .openConnection a.address.virtualHost) after rfl rfl
    dsimp only
    rcases Turn.andThen_cases (((p.tried a).begin c).request c
        (.logIn a.address.mechanism (response a.address) a.connectionName))
        (fun _ q => q.request c (.openConnection a.address.virtualHost)) with
      ⟨-, peer, result⟩ | ⟨cause, -, peer, result⟩ | ⟨⟨⟩, -, peer, -⟩ <;> rw [peer]
    · exact ⟨_, start first, ⟨[_], rfl⟩, by simp [result]⟩
    · exact ⟨_, start first, ⟨[_], rfl⟩, by simp [result]⟩
    · exact ⟨_, start (first.trans second), List.prefix_rfl, fun _ => rfl⟩

end Attempts

/-! ## Connections -/

/-- The files that the settings of a broker point to. -/
def filesOf (b : Config.Broker) : List Reference := references (b.tls.getD {})

/-- What comes of opening a connection. -/
structure Opens (files : Files) (b : Config.Broker) (c : ℕ) (p : Peer) : Prop where
  /-- The first file that cannot be used is named, and the broker hears nothing. -/
  unusable : ∀ path e, firstFault? files (filesOf b) = some (path, e) →
    connect files b c p = ⟨p, [], some (.error (.tls path e))⟩
  /-- Otherwise there is one more attempt, with what is in the files. -/
  attempted : firstFault? files (filesOf b) = none → ∃ m, Holds files (b.tls.getD {}) m ∧
    (connect files b c p).peer.attempts = p.attempts ++ [⟨b.address, b.connectionName, m⟩]
  /-- And one more session, if the attempt gets through. -/
  sessions : firstFault? files (filesOf b) = none →
    (connect files b c p).peer.sessions.map (·.1) =
      p.sessions.map (·.1) ++ if p.route = .through then [c] else []
  /-- What goes wrong with the attempt is an error that names the broker. -/
  failed : firstFault? files (filesOf b) = none → ∀ e,
    (connect files b c p).result = some (.error e) → ∃ cause, e = .establish b.target cause
  /-- A connection knows the broker, and it is written that it was opened. -/
  succeeded : ∀ k, (connect files b c p).result = some (.ok k) →
    k = ⟨c, b.target⟩ ∧ (connect files b c p).log = [establishedEntry b]
  /-- Only a broker that never answers leaves the opening without a result. -/
  silent : (connect files b c p).result = none → Hanging p.script
  /-- On the new connection there is the greeting or a part of it, and all of it with success; on
      the others there is nothing new. -/
  greeted : p.session? c = none →
    (connect files b c p).peer.framesOn c <+: greeting b ∧
      (∀ k, (connect files b c p).result = some (.ok k) →
        (connect files b c p).peer.framesOn c = greeting b) ∧
      ∀ c' ≠ c, (connect files b c p).peer.session? c' = p.session? c'

section Opening

variable {files : Files} {b : Config.Broker} {m : TlsMaterial} {p : Peer} {c : ℕ}

theorem materialOf_eq (files : Files) (b : Config.Broker) :
    materialOf files b = TlsMaterial.load files (b.tls.getD {}) := by
  rw [materialOf]
  cases b.tls <;> rfl

/-- The opening of a connection once its files are read: what comes of the attempt, with the name of
    the broker. -/
theorem connect_of_material (read : materialOf files b = .ok m) :
    (connect files b c p).peer = (attempt p c ⟨b.address, b.connectionName, m⟩).peer ∧
      (((attempt p c ⟨b.address, b.connectionName, m⟩).result = none ∧
        (connect files b c p).result = none) ∨
      (∃ cause, (attempt p c ⟨b.address, b.connectionName, m⟩).result = some (.error cause) ∧
        (connect files b c p).result = some (.error (.establish b.target cause))) ∨
      (attempt p c ⟨b.address, b.connectionName, m⟩).result = some (.ok ()) ∧
        (connect files b c p).result = some (.ok ⟨c, b.target⟩) ∧
        (connect files b c p).log = [establishedEntry b]) := by
  simp only [connect, read]
  rcases (attempt p c ⟨b.address, b.connectionName, m⟩).result with _ | cause | _ <;>
    simp [attempt_log]

theorem framesOn_of_fresh (fresh : p.session? c = none) : p.framesOn c = [] := by
  rw [Peer.framesOn, fresh]
  rfl

/-- A file that cannot be used is all that comes of the opening. -/
theorem opens_of_refused {path : String} {e : FileError}
    (first : firstFault? files (filesOf b) = some (path, e))
    (refused : connect files b c p = ⟨p, [], some (.error (.tls path e))⟩) :
    Opens files b c p := by
  have faulty : firstFault? files (filesOf b) ≠ none := by simp [first]
  constructor
  case unusable =>
    intro path' e' first'
    obtain ⟨rfl, rfl⟩ := Prod.mk.inj (Option.some.inj (first.symm.trans first'))
    exact refused
  case attempted | sessions | failed => exact fun fine => absurd fine faulty
  case succeeded | silent => simp [refused]
  case greeted =>
    intro fresh
    rw [refused, framesOn_of_fresh fresh]
    exact ⟨List.nil_prefix, by simp, fun _ _ => rfl⟩

/-- Opening a connection, whatever the settings, the files and the broker. -/
theorem connection_opened_once (files : Files) (b : Config.Broker) (c : ℕ) (p : Peer) :
    Opens files b c p := by
  rcases load_spec files (b.tls.getD {}) with ⟨path, e, first, failed⟩ | ⟨fine, m, read, holds⟩
  · exact opens_of_refused first (by rw [connect, materialOf_eq, failed])
  rw [← materialOf_eq] at read
  obtain ⟨peer, result⟩ := connect_of_material (c := c) (p := p) read
  obtain ⟨attempts, sessions⟩ := attempt_once p c ⟨b.address, b.connectionName, m⟩
  constructor
  case unusable =>
    intro path e first
    rw [filesOf, fine] at first
    cases first
  case attempted => exact fun _ => ⟨m, holds, by rw [peer, attempts]⟩
  case sessions => exact fun _ => by rw [peer, sessions]
  case failed =>
    intro _ e failed
    rcases result with ⟨-, silent⟩ | ⟨cause, -, named⟩ | ⟨-, opened, -⟩
    · simp [silent] at failed
    · exact ⟨cause, by simpa [named] using failed.symm⟩
    · simp [opened] at failed
  case succeeded =>
    intro k succeeded
    rcases result with ⟨-, silent⟩ | ⟨cause, -, named⟩ | ⟨-, opened, written⟩
    · simp [silent] at succeeded
    · simp [named] at succeeded
    · exact ⟨by simpa [opened] using succeeded.symm, written⟩
  case silent => exact hanging_of_connect
  case greeted =>
    intro fresh
    obtain ⟨ws, sends, part, all⟩ := attempt_greets fresh ⟨b.address, b.connectionName, m⟩
    have said : (connect files b c p).peer.framesOn c = frames ws := by
      rw [peer, sends.frames, framesOn_of_fresh fresh, List.nil_append]
    refine ⟨said ▸ part, fun k succeeded => ?_, fun c' other => by rw [peer, sends.others other]⟩
    rcases result with ⟨-, silent⟩ | ⟨cause, -, named⟩ | ⟨opened, -⟩
    · simp [silent] at succeeded
    · simp [named] at succeeded
    · rw [said, all opened]
      rfl

end Opening

end BrokerPool.Broker
