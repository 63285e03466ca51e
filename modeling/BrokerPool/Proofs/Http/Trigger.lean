import BrokerPool.Http.Server
import BrokerPool.Proofs.Broker.Work
import BrokerPool.Proofs.Lifecycle.Course

/-!
# One trigger at a time

The server handles one request after the other, so every trigger has its controller to itself. It
takes the idle resource that came back last, or makes a new one, and it touches no other connection.
Its step runs once. After a success the resource is idle again, and nothing more is done on its
connection; otherwise the resource is closed, or forgotten if the broker keeps silent.

Results:
* `Doing.move`: how far a trigger has got at each stage, kept by every move.
* `Leaving.move`: the same when its caller has gone away.
* `triggered`: how every trigger of a server ends (`Triggered`), and that only a broker which keeps
  silent somewhere leaves it without a result.
-/

namespace BrokerPool.Http

open Broker (Hanging Peer Quiet Step createWorker respond workerEntry)
open Lifecycle (Answer Apt Course Event Outcome Pool Resource Role Stage TriggerError World)

variable {ι ω : Type}

/-! ## Entries -/

/-- The entries that warn about something. -/
def warnings (log : List Log.Entry) : List Log.Entry := log.filter (·.level = .warn)

theorem warnings_append (log log' : List Log.Entry) :
    warnings (log ++ log') = warnings log ++ warnings log' := List.filter_append ..

theorem warnings_within (span : Log.Span) (log : List Log.Entry) :
    warnings (Log.within span log) = Log.within span (warnings log) := by
  simp [warnings, Log.within, Log.Entry.within, List.filter_map, Function.comp_def]

theorem connect_workerEntry {files : Files} {b : Config.Broker} {n : ℕ} {p : Peer} :
    ∀ e ∈ (Broker.connect files b n p).log, workerEntry e = false := by
  intro e he
  rw [Broker.connect_log files b e he]
  simp [workerEntry, Broker.establishedEntry, Log.entry, Log.Entry.within]

theorem connect_warnings {files : Files} {b : Config.Broker} {n : ℕ} {p : Peer} :
    warnings (Broker.connect files b n p).log = [] := by
  rw [warnings, List.filter_eq_nil_iff]
  intro e he
  rw [Broker.connect_log files b e he]
  simp [Broker.establishedEntry, Log.entry, Log.Entry.within]

theorem closeConnection_workerEntry {target : String} {n : ℕ} {p : Peer} :
    ∀ e ∈ (Broker.closeConnection target n p).log, workerEntry e = false := by
  intro e he
  rw [Broker.closeConnection_log target e he]
  simp [workerEntry, Broker.closedEntry, Log.entry]

/-! ## What a trigger has got -/

/-- What a trigger relies on when it begins. -/
structure Begins (p₀ : Peer) (w₀ : World) : Prop where
  opened : w₀.pool.closed = false
  /-- The number of the next connection is a new one. -/
  unused : p₀.session? (w₀.supply.connections + 1) = none
  channels : ∀ r ∈ w₀.pool.idle, p₀.hasChannel r.connection = true

/-- A trigger has taken the resource that came back last, or made a new one because nothing was
    idle; `rest` is what is idle now, and `last` the number of the last connection. -/
def Took (w₀ : World) (r : Resource) (rest : List Resource) (last : ℕ) : Prop :=
  (w₀.pool.idle = r :: rest ∧ last = w₀.supply.connections) ∨
  (w₀.pool.idle = [] ∧ rest = [] ∧ last = w₀.supply.connections + 1 ∧ r.connection = last)

/-- A trigger that has found nothing idle, and has no worker on its new connection `n`. -/
structure Unserved (p₀ : Peer) (w₀ : World) (n : ℕ) (c : Course Peer ι ω) : Prop where
  idle : w₀.pool.idle = []
  number : n = w₀.supply.connections + 1
  pool : c.world.pool = w₀.pool
  supply : c.world.supply.connections = n
  quiet : Quiet n p₀ c.outside
  log : ∀ e ∈ c.log, workerEntry e = false

/-- A trigger that has got the resource `r`, and `p₁` as the peer then was; `rest` is idle. -/
structure Serving (p₀ : Peer) (w₀ : World) (r : Resource) (rest : List Resource) (p₁ : Peer)
    (c : Course Peer ι ω) : Prop where
  opened : c.world.pool.closed = false
  took : Took w₀ r rest c.world.supply.connections
  quiet : Quiet r.connection p₀ p₁
  channel : p₁.hasChannel r.connection = true
  log : c.log.any workerEntry = true

section Trigger

variable (step : Step ι ω) (input : ι) (p₀ : Peer) (w₀ : World)

/-! ## How far a trigger has got -/

/-- How far a trigger has got where it stands. -/
def Doing (c : Course Peer ι ω) : Prop :=
  match c.stage with
  | .entering goal | .picking goal =>
    goal = .trigger input ∧ c.world = w₀ ∧ c.outside = p₀ ∧ c.log = []
  | .connecting goal n =>
    goal = .trigger input ∧ Unserved p₀ w₀ n c ∧ c.outside = p₀ ∧ c.log = []
  | .equipping goal n =>
    goal = .trigger input ∧ Unserved p₀ w₀ n c ∧ warnings c.log = []
  | .unwinding n _ => Unserved p₀ w₀ n c
  | .processing r i =>
    i = input ∧ Serving p₀ w₀ r c.world.pool.idle c.outside c ∧ warnings c.log = []
  | .returning r o =>
    ∃ p₁, Serving p₀ w₀ r c.world.pool.idle p₁ c ∧
      (step.run r.connection input p₁).result = some (.ok o) ∧
      c.outside = (step.run r.connection input p₁).peer ∧
      warnings c.log = warnings (step.run r.connection input p₁).log
  | .closingWorker r (.discard cause) | .closingConnection r _ (.discard cause) =>
    ∃ p₁, Serving p₀ w₀ r c.world.pool.idle p₁ c ∧
      (step.run r.connection input p₁).result = some (.error cause) ∧
      Quiet r.connection (step.run r.connection input p₁).peer c.outside
  | .ended (.output o) =>
    ∃ r rest p₁, Serving p₀ w₀ r rest p₁ c ∧ c.world.pool.idle = r :: rest ∧
      (step.run r.connection input p₁).result = some (.ok o) ∧
      c.outside = (step.run r.connection input p₁).peer ∧
      warnings c.log = warnings (step.run r.connection input p₁).log
  | .ended (.failed (.processing e)) =>
    ∃ r p₁, Serving p₀ w₀ r c.world.pool.idle p₁ c ∧ e.resource = r.id ∧
      (step.run r.connection input p₁).result = some (.error e.cause) ∧
      Quiet r.connection (step.run r.connection input p₁).peer c.outside
  | .ended (.failed (.connection _)) => ∃ n, Unserved p₀ w₀ n c
  | _ => False

/-- A trigger without an answer to its step, whose caller has gone away. -/
def Leaving (r : Resource) (p₁ : Peer) (c : Course Peer ι ω) : Prop :=
  Serving p₀ w₀ r c.world.pool.idle p₁ c ∧
  Quiet r.connection (step.run r.connection input p₁).peer c.outside ∧
  (c.stage = .closingWorker r .background ∨
    (∃ worker, c.stage = .closingConnection r worker .background) ∨ c.stage = .ended .gone)

variable {step input p₀ w₀} {role : Role} {c : Course Peer ι ω} {files : Files}
  {b : Config.Broker}

/-- Without a worker, more may be done around the work, and more may be written. -/
theorem Unserved.extend {n : ℕ} (h : Unserved p₀ w₀ n c) (st : Stage ι ω) {q : Peer}
    (quiet : Quiet n c.outside q) {log : List Log.Entry}
    (hl : ∀ e ∈ log, workerEntry e = false) {events : List Event}
    (he : ∀ e ∈ events, workerEntry e.entry = false) :
    Unserved p₀ w₀ n ⟨st, c.world, q, c.log ++ log ++ events.map Event.entry⟩ where
  idle := h.idle
  number := h.number
  pool := h.pool
  supply := h.supply
  quiet := h.quiet.trans quiet
  log e hm := by
    rcases List.mem_append.mp hm with hm | hm
    · rcases List.mem_append.mp hm with hm | hm
      · exact h.log e hm
      · exact hl e hm
    · obtain ⟨event, hevent, rfl⟩ := List.mem_map.mp hm
      exact he event hevent

/-- A trigger that has got a resource keeps it while more is written. -/
theorem Serving.write {r : Resource} {rest : List Resource} {p₁ : Peer}
    (h : Serving p₀ w₀ r rest p₁ c) (st : Stage ι ω) (q : Peer) (more : List Log.Entry) :
    Serving p₀ w₀ r rest p₁ ⟨st, c.world, q, c.log ++ more⟩ :=
  ⟨h.opened, h.took, h.quiet, h.channel, by simp [h.log]⟩

theorem Serving.extend {r : Resource} {rest : List Resource} {p₁ : Peer}
    (h : Serving p₀ w₀ r rest p₁ c) (st : Stage ι ω) (q : Peer) (log : List Log.Entry)
    (events : List Event) :
    Serving p₀ w₀ r rest p₁ ⟨st, c.world, q, c.log ++ log ++ events.map Event.entry⟩ := by
  rw [List.append_assoc]
  exact h.write st q _

/-- What an answer tells about the turn that it comes from. -/
theorem answer_eq {ε α : Type} {t : Broker.Turn ε α} {wrap : Except ε α → Answer ω} {q : Peer}
    {log : List Log.Entry} {a : Answer ω} (h : t.answer wrap = (q, log, some a)) :
    q = t.peer ∧ log = t.log ∧ ∃ result, t.result = some result ∧ wrap result = a := by
  simp only [Broker.Turn.answer, Prod.mk.injEq, Option.map_eq_some_iff] at h
  exact ⟨h.1.symm, h.2.1.symm, h.2.2⟩

theorem silence_eq {ε α : Type} {t : Broker.Turn ε α} {wrap : Except ε α → Answer ω} {q : Peer}
    {log : List Log.Entry} (h : t.answer wrap = (q, log, none)) :
    q = t.peer ∧ log = t.log ∧ t.result = none := by
  simp only [Broker.Turn.answer, Prod.mk.injEq, Option.map_eq_none_iff] at h
  exact ⟨h.1.symm, h.2.1.symm, h.2.2⟩

/-- What a trigger has got is kept by every move that it makes by itself. -/
theorem Doing.proceed (begins : Begins p₀ w₀) (h : Doing step input p₀ w₀ c)
    {m : Lifecycle.Move ι ω} (move : c.stage.proceed role c.world = some m) :
    Doing step input p₀ w₀ (c.moved m) := by
  obtain ⟨st, w, p, log⟩ := c
  obtain ⟨st', w', events⟩ := m
  have pass := Lifecycle.proceed_passage 0 move
  unfold Doing at h
  dsimp only at h
  cases pass with
  | refuse n goal closed =>
    obtain ⟨-, rfl, -⟩ := h
    simp [begins.opened] at closed
  | pass n goal opened =>
    obtain ⟨rfl, rfl, rfl, rfl⟩ := h
    exact ⟨rfl, rfl, rfl, rfl⟩
  | reuse n goal r rest idle =>
    obtain ⟨rfl, rfl, rfl, rfl⟩ := h
    have hr : r ∈ w.pool.idle := idle ▸ List.mem_cons_self
    refine ⟨rfl, ⟨begins.opened, .inl ⟨idle, rfl⟩, .refl _ _, begins.channels r hr, ?_⟩, ?_⟩
    · simp [Course.moved, workerEntry, Event.entry, Log.entry]
    · simp [Course.moved, warnings, Event.entry, Log.entry]
  | miss n goal idle =>
    obtain ⟨rfl, rfl, rfl, rfl⟩ := h
    exact ⟨rfl, ⟨idle, rfl, rfl, rfl, .refl _ _, by simp [Course.moved]⟩, rfl, rfl⟩
  | giveBack n r output opened =>
    obtain ⟨p₁, serving, ran, outside, warned⟩ := h
    refine ⟨r, w.pool.idle, p₁,
      ⟨opened, serving.took, serving.quiet, serving.channel, ?_⟩, rfl, ran, outside, ?_⟩
    · simpa [Course.moved] using serving.log
    · simpa [Course.moved] using warned
  | turnAway n r output closed =>
    obtain ⟨p₁, serving, -⟩ := h
    simp [show w.pool.closed = false from serving.opened] at closed
  | close | drain | drained => exact h.elim

/-- What a trigger has got is kept by every move that it makes on an answer. -/
theorem Doing.resume (tidy : step.Tidy) (begins : Begins p₀ w₀) (h : Doing step input p₀ w₀ c)
    {request : Lifecycle.Request ι} {q : Peer} {log : List Log.Entry} {answer : Answer ω}
    {m : Lifecycle.Move ι ω} (waits : c.stage.request? = some request)
    (answered : respond files b step c.outside request = (q, log, some answer))
    (move : c.stage.resume role c.world answer = some m) :
    Doing step input p₀ w₀ (Course.moved { c with outside := q, log := c.log ++ log } m) := by
  obtain ⟨st, w, p, before⟩ := c
  obtain ⟨st', w', events⟩ := m
  have pass := Lifecycle.resume_passage 0 move
  unfold Doing at h
  dsimp only at h answered waits
  cases pass
  -- The stage names the request, and with it the one turn of the peer that the answer comes from.
  all_goals
    obtain rfl : _ = request := Option.some.inj waits
    obtain ⟨rfl, rfl, result, hr, hw⟩ := answer_eq answered
  case connect goal k =>
    obtain ⟨rfl, unserved, rfl, rfl⟩ := h
    have fresh : p.session? k = none := unserved.number ▸ begins.unused
    refine ⟨rfl, unserved.extend _ (.connect files b fresh) connect_workerEntry (by simp), ?_⟩
    simpa [Course.moved] using connect_warnings
  case connectFail goal k e =>
    obtain ⟨rfl, unserved, rfl, rfl⟩ := h
    have fresh : p.session? k = none := unserved.number ▸ begins.unused
    exact ⟨k, unserved.extend _ (.connect files b fresh) connect_workerEntry (by simp)⟩
  case equip goal k r made =>
    obtain ⟨rfl, unserved, warned⟩ := h
    obtain rfl : result = .ok () := Answer.equipped.inj hw
    obtain rfl : k = r.connection := by rw [made]
    have took : Took w₀ r w.pool.idle w.supply.connections := .inr
      ⟨unserved.idle, unserved.pool ▸ unserved.idle, unserved.supply.trans unserved.number,
        unserved.supply.symm⟩
    have opened : w.pool.closed = false := unserved.pool ▸ begins.opened
    refine ⟨rfl, ⟨opened, took, unserved.quiet.trans (.createWorker tidy.setup_works p),
      Broker.hasChannel_of_createWorker tidy hr, ?_⟩, ?_⟩
    · simp [Course.moved, workerEntry, Event.entry, Log.entry]
    · simp only [Course.moved, Broker.createWorker_log, List.append_nil, warnings_append, warned]
      simp [warnings, Event.entry, Log.entry]
  case equipFail goal k cause =>
    obtain ⟨rfl, unserved, warned⟩ := h
    refine unserved.extend _ (.createWorker tidy.setup_works p) ?_ (by simp)
    simp [Broker.createWorker_log]
  case unwound k cause closed =>
    refine ⟨k, h.extend _ (.closeConnection _ p) closeConnection_workerEntry ?_⟩
    cases closed <;> simp [Stage.fault?, workerEntry, Event.entry, Log.entry]
  case succeed r i output =>
    obtain ⟨rfl, serving, warned⟩ := h
    obtain rfl : result = .ok output := Answer.processed.inj hw
    refine ⟨p, serving.extend _ _ _ _, hr, rfl, ?_⟩
    simp [Course.moved, warnings_append, warned]
  case fail r i cause =>
    obtain ⟨rfl, serving, warned⟩ := h
    obtain rfl : result = .error cause := Answer.processed.inj hw
    exact ⟨p, serving.extend _ _ _ _, hr, .refl _ _⟩
  case workerClosed r purpose closed =>
    cases purpose with
    | discard cause =>
      obtain ⟨p₁, serving, ran, quiet⟩ := h
      exact ⟨p₁, serving.extend _ _ _ _, ran, quiet.trans (.closeChannel p)⟩
    | refused | drain | background | direct => exact h.elim
  case connectionClosed r worker purpose closed =>
    cases purpose with
    | discard cause =>
      obtain ⟨p₁, serving, ran, quiet⟩ := h
      exact ⟨r, p₁, serving.extend _ _ _ _, rfl, ran, quiet.trans (.closeConnection b.target p)⟩
    | refused | drain | background | direct => exact h.elim

theorem Doing.move (tidy : step.Tidy) (begins : Begins p₀ w₀) (h : Doing step input p₀ w₀ c)
    {c' : Course Peer ι ω} (move : c.Moves role (respond files b step) c') :
    Doing step input p₀ w₀ c' := by
  cases move with
  | proceed m waits move => exact h.proceed begins move
  | resume request outside log answer m waits answered move =>
    exact h.resume tidy begins waits answered move

theorem Leaving.move {r : Resource} {p₁ : Peer} (h : Leaving step input p₀ w₀ r p₁ c)
    {c' : Course Peer ι ω} (move : c.Moves role (respond files b step) c') :
    Leaving step input p₀ w₀ r p₁ c' := by
  obtain ⟨st, w, p, log⟩ := c
  obtain ⟨serving, quiet, stage⟩ := h
  dsimp only at stage quiet
  cases move with
  | proceed m waits move =>
    rcases stage with rfl | ⟨worker, rfl⟩ | rfl <;> simp [Stage.proceed] at move
  | resume request outside log answer m waits answered move =>
    obtain ⟨st', w', events⟩ := m
    have pass := Lifecycle.resume_passage 0 move
    dsimp only at waits answered pass
    rcases stage with rfl | ⟨worker, rfl⟩ | rfl
    · cases pass
      case workerClosed closed =>
        obtain rfl : _ = request := Option.some.inj waits
        obtain ⟨rfl, rfl, result, hr, hw⟩ := answer_eq answered
        exact ⟨serving.extend _ _ _ _, quiet.trans (.closeChannel p), .inr (.inl ⟨_, rfl⟩)⟩
    · cases pass
      case connectionClosed closed =>
        obtain rfl : _ = request := Option.some.inj waits
        obtain ⟨rfl, rfl, result, hr, hw⟩ := answer_eq answered
        exact ⟨serving.extend _ _ _ _, quiet.trans (.closeConnection b.target p),
          .inr (.inr rfl)⟩
    · cases pass

/-! ## Answers -/

theorem apt_respond : Apt (respond files b step) := by
  intro p request q log answer h
  cases request <;>
    (obtain ⟨-, -, result, -, rfl⟩ := answer_eq h
     trivial)

/-- No answer comes only from a broker that keeps silent. -/
theorem hanging_of_respond (tidy : step.Tidy) {p q : Peer} {request : Lifecycle.Request ι}
    {log : List Log.Entry} (h : respond files b step p request = (q, log, none)) :
    Hanging p.script := by
  cases request <;>
    simp only [respond, Broker.Turn.answer, Prod.mk.injEq, Option.map_eq_none_iff] at h
  case connect => exact Broker.hanging_of_connect h.2.2
  case createWorker => exact Broker.hanging_of_createWorker h.2.2
  case process => exact tidy.silent _ _ _ h.2.2
  case closeWorker => exact Broker.hanging_of_closeChannel h.2.2
  case closeConnection => exact Broker.hanging_of_closeConnection h.2.2

/-- A trigger adds no reactions. -/
theorem Doing.script (tidy : step.Tidy) (h : Doing step input p₀ w₀ c)
    {request : Lifecycle.Request ι} (waits : c.stage.request? = some request) :
    ∀ x ∈ c.outside.script, x ∈ p₀.script := by
  obtain ⟨st, w, p, log⟩ := c
  unfold Doing at h
  dsimp only at h waits
  cases st with
  | connecting =>
    obtain ⟨-, -, rfl, -⟩ := h
    exact fun _ hx => hx
  | equipping => exact h.2.1.quiet.script
  | unwinding => exact h.quiet.script
  | processing => exact h.2.1.quiet.script
  | closingWorker r purpose | closingConnection r worker purpose =>
    cases purpose with
    | discard cause =>
      obtain ⟨p₁, serving, -, quiet⟩ := h
      exact fun x hx => serving.quiet.script x (tidy.script _ _ _ x (quiet.script x hx))
    | refused | drain | background | direct => exact h.elim
  | _ => simp [Stage.request?] at waits

/-! ## How a trigger ends -/

variable (step input p₀ w₀) in
/-- How a trigger ends, and its result. -/
inductive Triggered (c : Course Peer ι ω) : Option (Except TriggerError ω) → Prop
  /-- There is no worker. -/
  | unserved (n : ℕ) (result : Option (Except TriggerError ω)) (unserved : Unserved p₀ w₀ n c)
    (failed : ∀ a, result = some a → ∃ e, a = .error (.connection e)) : Triggered c result
  /-- The step has success, and the resource is idle again. -/
  | done (r : Resource) (rest : List Resource) (p₁ : Peer) (o : ω)
    (serving : Serving p₀ w₀ r rest p₁ c) (idle : c.world.pool.idle = r :: rest)
    (ran : (step.run r.connection input p₁).result = some (.ok o))
    (outside : c.outside = (step.run r.connection input p₁).peer)
    (warned : warnings c.log = Log.within (Server.triggerSpan step)
      (warnings (step.run r.connection input p₁).log)) : Triggered c (some (.ok o))
  /-- The step fails, and the resource is closed or forgotten. -/
  | failed (r : Resource) (p₁ : Peer) (cause : Fault) (result : Option (Except TriggerError ω))
    (serving : Serving p₀ w₀ r c.world.pool.idle p₁ c)
    (ran : (step.run r.connection input p₁).result = some (.error cause))
    (quiet : Quiet r.connection (step.run r.connection input p₁).peer c.outside)
    (failed : ∀ a, result = some a →
      ∃ suppressed, a = .error (.processing ⟨r.id, cause, suppressed⟩)) : Triggered c result
  /-- The step gets no answer, and the resource is closed or forgotten. -/
  | silent (r : Resource) (p₁ : Peer) (serving : Serving p₀ w₀ r c.world.pool.idle p₁ c)
    (ran : (step.run r.connection input p₁).result = none)
    (quiet : Quiet r.connection (step.run r.connection input p₁).peer c.outside) :
    Triggered c none

theorem Unserved.within {n : ℕ} (h : Unserved p₀ w₀ n c) (span : Log.Span) :
    Unserved p₀ w₀ n { c with log := Log.within span c.log } where
  __ := h
  log e he := by
    obtain ⟨entry, hentry, rfl⟩ := List.mem_map.mp he
    exact h.log entry hentry

theorem Serving.within {r : Resource} {rest : List Resource} {p₁ : Peer}
    (h : Serving p₀ w₀ r rest p₁ c) (span : Log.Span) :
    Serving p₀ w₀ r rest p₁ { c with log := Log.within span c.log } where
  __ := h
  log := by
    have hw : workerEntry ∘ Log.Entry.within span = workerEntry := rfl
    simp [Log.within, hw, h.log]

theorem run_ended {outcome : Outcome ω} (respond : Lifecycle.Responder Peer ι ω) (fuel : ℕ)
    (h : c.stage = .ended outcome) : Course.run role respond fuel c = c := by
  cases fuel with
  | zero => rfl
  | succ fuel => simp [Course.run, h, Stage.request?, Stage.proceed]

/-- The end of a trigger that ends by itself. -/
theorem Doing.triggered (h : Doing step input p₀ w₀ c) {outcome : Outcome ω}
    (stage : c.stage = .ended outcome) (span : Log.Span) (hs : span = Server.triggerSpan step) :
    ∃ a, Server.result? { c with log := Log.within span c.log } = some a ∧
      Triggered step input p₀ w₀ { c with log := Log.within span c.log } (some a) := by
  subst hs
  obtain ⟨st, w, p, log⟩ := c
  obtain rfl : st = .ended outcome := stage
  unfold Doing at h
  dsimp only at h
  cases outcome with
  | output o =>
    obtain ⟨r, rest, p₁, serving, idle, ran, outside, warned⟩ := h
    refine ⟨.ok o, rfl, .done r rest p₁ o (serving.within _) idle ran outside ?_⟩
    rw [warnings_within, warned]
  | failed e =>
    cases e with
    | connection e =>
      obtain ⟨n, unserved⟩ := h
      exact ⟨.error (.connection e), rfl, .unserved n _ (unserved.within _) (by simp)⟩
    | processing e =>
      obtain ⟨r, p₁, serving, id, ran, quiet⟩ := h
      refine ⟨.error (.processing e), rfl, .failed r p₁ e.cause _ (serving.within _) ran quiet ?_⟩
      rintro a ha
      obtain rfl := Option.some.inj ha
      exact ⟨e.suppressed, by rw [← id]⟩
    | shutdown => exact h.elim
  | closed | drained | gone => exact h.elim

/-- Of most calls nothing is left when their caller goes away. -/
theorem cancel_of_none (respond : Lifecycle.Responder Peer ι ω) (h : c.stage.cancel = (none, [])) :
    Course.cancel role respond c = { c with stage := .ended .gone } := by
  rw [Course.cancel, h]
  simp only [Option.getD_none, List.map_nil, List.append_nil]
  exact run_ended respond _ rfl

theorem Unserved.forsaken {n : ℕ} (h : Unserved p₀ w₀ n c) {q : Peer} (quiet : Quiet n c.outside q)
    {log : List Log.Entry} (hl : ∀ e ∈ log, workerEntry e = false) (span : Log.Span) :
    Triggered step input p₀ w₀
      ⟨.ended .gone, c.world, q, Log.within span (c.log ++ log)⟩ none := by
  have none_ : ∀ e ∈ ([] : List Event), workerEntry e.entry = false := by simp
  have he := h.extend (.ended .gone) quiet hl none_
  rw [List.map_nil, List.append_nil] at he
  exact .unserved n _ (he.within span) (by simp)

theorem Serving.forsaken {r : Resource} {rest : List Resource} {p₁ : Peer} {cause : Fault}
    (h : Serving p₀ w₀ r rest p₁ c) (idle : c.world.pool.idle = rest)
    (ran : (step.run r.connection input p₁).result = some (.error cause)) {q : Peer}
    (quiet : Quiet r.connection (step.run r.connection input p₁).peer q)
    (log : List Log.Entry) (span : Log.Span) :
    Triggered step input p₀ w₀
      ⟨.ended .gone, c.world, q, Log.within span (c.log ++ log)⟩ none := by
  subst idle
  have written := (h.write (.ended .gone) q log).within span
  exact .failed r p₁ cause _ written ran quiet (by simp)

/-- Where a trigger comes to rest whose caller went away while its step ran. -/
theorem Leaving.triggered {r : Resource} (p₁ : Peer) (h : Leaving step input p₀ w₀ r p₁ c)
    (ran : (step.run r.connection input p₁).result = none)
    (enough : c.stage.rank ≤ Course.enough c.world) :
    Server.result? (Course.run role (respond files b step) (Course.enough c.world) c) = none ∧
      Triggered step input p₀ w₀
        (Course.run role (respond files b step) (Course.enough c.world) c) none := by
  have hs : c.stage.shutsDown = false := by
    rcases h.2.2 with hst | ⟨worker, hst⟩ | hst <;> rw [hst] <;> rfl
  obtain ⟨c', left, rests⟩ := Course.run_rests role (respond files b step) apt_respond
    (fun _ _ h move => Leaving.move h move) _ h hs enough
  generalize Course.run role (respond files b step) (Course.enough c.world) c = final at rests ⊢
  obtain ⟨serving, quiet, stage⟩ := left
  cases rests with
  | ended outcome hst =>
    rcases stage with hst' | ⟨worker, hst'⟩ | hst' <;> rw [hst'] at hst
    · simp at hst
    · simp at hst
    · refine ⟨?_, .silent r p₁ serving ran quiet⟩
      simp [Server.result?, Course.outcome?, hst']
  | holding r' hst => rcases stage with hst' | ⟨worker, hst'⟩ | hst' <;> simp [hst'] at hst
  | silent request outside log waits unanswered =>
    obtain ⟨st, w, p, before⟩ := c'
    dsimp only at stage waits unanswered quiet serving
    rcases stage with rfl | ⟨worker, rfl⟩ | rfl
    · obtain rfl : _ = request := Option.some.inj waits
      obtain ⟨rfl, rfl, -⟩ := silence_eq unanswered
      have written := serving.write (.closingWorker r .background)
        (Broker.closeChannel r.connection p).peer (Broker.closeChannel r.connection p).log
      exact ⟨rfl, .silent r p₁ written ran (quiet.trans (.closeChannel p))⟩
    · obtain rfl : _ = request := Option.some.inj waits
      obtain ⟨rfl, rfl, -⟩ := silence_eq unanswered
      have written := serving.write (.closingConnection r worker .background)
        (Broker.closeConnection b.target r.connection p).peer
        (Broker.closeConnection b.target r.connection p).log
      exact ⟨rfl, .silent r p₁ written ran (quiet.trans (.closeConnection b.target p))⟩
    · simp [Stage.request?] at waits

/-- The end of a trigger whose caller goes away because no answer comes. -/
theorem Doing.forsaken (role : Role) (tidy : step.Tidy) (begins : Begins p₀ w₀)
    (h : Doing step input p₀ w₀ c) {request : Lifecycle.Request ι} {q : Peer}
    {log : List Log.Entry} (span : Log.Span) (waits : c.stage.request? = some request)
    (unanswered : respond files b step c.outside request = (q, log, none)) :
    Server.result? (Course.cancel role (respond files b step)
        { c with outside := q, log := Log.within span (c.log ++ log) }) = none ∧
      Triggered step input p₀ w₀ (Course.cancel role (respond files b step)
        { c with outside := q, log := Log.within span (c.log ++ log) }) none := by
  obtain ⟨st, w, p, before⟩ := c
  unfold Doing at h
  dsimp only at h waits unanswered
  cases st with
  | connecting goal k =>
    obtain rfl : _ = request := Option.some.inj waits
    obtain ⟨rfl, rfl, -⟩ := silence_eq unanswered
    obtain ⟨-, unserved, rfl, rfl⟩ := h
    have fresh : p.session? k = none := unserved.number ▸ begins.unused
    rw [cancel_of_none _ rfl]
    exact ⟨rfl, unserved.forsaken (.connect files b fresh) connect_workerEntry span⟩
  | equipping goal k =>
    obtain rfl : _ = request := Option.some.inj waits
    obtain ⟨rfl, rfl, -⟩ := silence_eq unanswered
    rw [cancel_of_none _ rfl]
    refine ⟨rfl, h.2.1.forsaken (.createWorker tidy.setup_works p) ?_ span⟩
    simp [Broker.createWorker_log]
  | unwinding k cause =>
    obtain rfl : _ = request := Option.some.inj waits
    obtain ⟨rfl, rfl, -⟩ := silence_eq unanswered
    rw [cancel_of_none _ rfl]
    exact ⟨rfl, h.forsaken (.closeConnection _ p) closeConnection_workerEntry span⟩
  | processing r i =>
    obtain rfl : _ = request := Option.some.inj waits
    obtain ⟨rfl, rfl, ran⟩ := silence_eq unanswered
    obtain ⟨rfl, serving, -⟩ := h
    have written := (serving.write (.processing r i) (step.run r.connection i p).peer
      (step.run r.connection i p).log).within span
    refine Leaving.triggered p ⟨?_, .refl _ _, .inl rfl⟩ ran ?_
    · exact written.write _ _ _
    · simp [Stage.rank, Course.enough]
  | closingWorker r purpose =>
    cases purpose with
    | discard cause =>
      obtain rfl : _ = request := Option.some.inj waits
      obtain ⟨rfl, rfl, -⟩ := silence_eq unanswered
      obtain ⟨p₁, serving, ran, quiet⟩ := h
      have ended := serving.forsaken rfl ran (quiet.trans (.closeChannel p))
        (Broker.closeChannel r.connection p).log span
      rw [cancel_of_none _ rfl]
      exact ⟨rfl, ended⟩
    | refused | drain | background | direct => exact h.elim
  | closingConnection r worker purpose =>
    cases purpose with
    | discard cause =>
      obtain rfl : _ = request := Option.some.inj waits
      obtain ⟨rfl, rfl, -⟩ := silence_eq unanswered
      obtain ⟨p₁, serving, ran, quiet⟩ := h
      have ended := serving.forsaken rfl ran (quiet.trans (.closeConnection b.target p))
        (Broker.closeConnection b.target r.connection p).log span
      rw [cancel_of_none _ rfl]
      exact ⟨rfl, ended⟩
    | refused | drain | background | direct => exact h.elim
  | _ => simp [Stage.request?] at waits

/-- How every trigger of a server ends. Only a broker that keeps silent somewhere leaves it without
    a result. -/
theorem triggered (s : Server) {step : Step ι ω} (tidy : step.Tidy) (pool : Pool Resource)
    (begins : Begins s.peer ⟨pool, s.supply⟩) (input : ι) :
    Triggered step input s.peer ⟨pool, s.supply⟩ (s.trigger step pool input)
        (Server.result? (s.trigger step pool input)) ∧
      (Server.result? (s.trigger step pool input) = none → Hanging s.peer.script) := by
  have start : Doing step input s.peer ⟨pool, s.supply⟩
      { stage := .entering (.trigger input), world := ⟨pool, s.supply⟩, outside := s.peer } :=
    ⟨rfl, rfl, rfl, rfl⟩
  obtain ⟨c, doing, rests⟩ := Course.run_rests (s.role step)
    (respond s.files s.settings.broker step) apt_respond
    (fun _ _ h move => Doing.move tidy begins h move)
    (Course.enough ⟨pool, s.supply⟩) start rfl (by simp [Stage.rank, Course.enough])
  have called : s.call step pool (.entering (.trigger input)) = Course.run (s.role step)
    (respond s.files s.settings.broker step) (Course.enough ⟨pool, s.supply⟩)
      { stage := .entering (.trigger input), world := ⟨pool, s.supply⟩, outside := s.peer } := rfl
  rw [← called] at rests
  unfold Server.trigger
  generalize s.call step pool (.entering (.trigger input)) = final at rests ⊢
  cases rests with
  | ended outcome stage =>
    obtain ⟨a, ha, triggered⟩ := doing.triggered stage _ rfl
    have ho : ({ c with log := Log.within (Server.triggerSpan step) c.log } :
        Course Peer ι ω).outcome? = some outcome := by simp only [Course.outcome?, stage]
    simp only [ho]
    rw [ha]
    exact ⟨triggered, by simp⟩
  | holding r stage =>
    -- A trigger never leaves its resource with the caller.
    unfold Doing at doing
    rw [stage] at doing
    exact doing.elim
  | silent request outside log waits unanswered =>
    have ho : (⟨c.stage, c.world, outside, Log.within (Server.triggerSpan step) (c.log ++ log)⟩ :
        Course Peer ι ω).outcome? = none := by
      cases hst : c.stage <;> simp_all [Course.outcome?, Stage.request?]
    obtain ⟨hr, triggered⟩ := doing.forsaken (s.role step) tidy begins
      (Server.triggerSpan step) waits unanswered
    simp only [ho]
    rw [hr]
    refine ⟨triggered, fun _ => ?_⟩
    obtain ⟨q, hq⟩ := hanging_of_respond tidy unanswered
    exact ⟨q, doing.script tidy waits _ hq⟩

end Trigger

end BrokerPool.Http
