import BrokerPool.Proofs.Http.Trigger
import Mathlib.Data.List.Perm.Basic

/-!
# Requests one after the other

Between two requests every idle resource has an open channel on a connection of its own, in
whichever of the two pools it is, and no number above the last one has been given to a connection.
A connection that is not idle is never used again.

Results:
* `Triggered.touched`: a trigger touches one connection, an idle one or a new one.
* `Triggered.served`: the work of a trigger is that of its step, which runs at most once.
* `Server.handle_goes`, `Server.after_goes`: what every request, and every sequence of requests,
  keeps of a server.
* `Server.Reached.sound`: what holds of every server that has handled some requests.
-/

namespace BrokerPool.Http

open Broker (Frame Moment Peer Quiet Step consuming publishing workerEntry)
open Lifecycle (Course Resource TriggerError World)

variable {ι ω : Type}

/-! ## What is idle -/

/-- What is known of idle resources, and of the connections up to the last one. -/
structure Stocked (p : Peer) (last : ℕ) (idle : List Resource) : Prop where
  channel : ∀ r ∈ idle, p.hasChannel r.connection = true
  le_last : ∀ r ∈ idle, r.connection ≤ last
  nodup : (idle.map (·.connection)).Nodup
  unused : ∀ n, last < n → p.session? n = none

/-- A connection that was made, and is not idle. -/
def Spent (last : ℕ) (idle : List Resource) (n : ℕ) : Prop :=
  n ≤ last ∧ ∀ r ∈ idle, r.connection ≠ n

theorem Stocked.perm {p : Peer} {last : ℕ} {idle idle' : List Resource} (h : Stocked p last idle)
    (hp : idle.Perm idle') : Stocked p last idle' where
  channel r hr := h.channel r (hp.mem_iff.mpr hr)
  le_last r hr := h.le_last r (hp.mem_iff.mpr hr)
  nodup := (hp.map _).nodup_iff.mp h.nodup
  unused := h.unused

theorem Spent.perm {last n : ℕ} {idle idle' : List Resource} (h : Spent last idle n)
    (hp : idle.Perm idle') : Spent last idle' n :=
  ⟨h.1, fun r hr => h.2 r (hp.mem_iff.mpr hr)⟩

theorem Stocked.cons {p : Peer} {last : ℕ} {idle : List Resource} (h : Stocked p last idle)
    {r : Resource} (spent : Spent last idle r.connection) (hc : p.hasChannel r.connection = true) :
    Stocked p last (r :: idle) where
  channel := List.forall_mem_cons.mpr ⟨hc, h.channel⟩
  le_last := List.forall_mem_cons.mpr ⟨spent.1, h.le_last⟩
  nodup := by
    rw [List.map_cons, List.nodup_cons]
    refine ⟨fun hm => ?_, h.nodup⟩
    obtain ⟨r', hr', he⟩ := List.mem_map.mp hm
    exact spent.2 r' hr' he
  unused := h.unused

/-- The first of some idle resources is gone, and nothing has happened to the others. -/
theorem Stocked.tail {p q : Peer} {last : ℕ} {r : Resource} {idle : List Resource}
    (h : Stocked p last (r :: idle)) (others : ∀ n ≠ r.connection, q.session? n = p.session? n) :
    Stocked q last idle ∧ Spent last idle r.connection := by
  have hn := h.nodup
  rw [List.map_cons, List.nodup_cons] at hn
  have apart : ∀ r' ∈ idle, r'.connection ≠ r.connection := fun r' hr' he =>
    hn.1 (he ▸ List.mem_map.mpr ⟨r', hr', rfl⟩)
  have hl := (List.forall_mem_cons.mp h.le_last).1
  refine ⟨⟨fun r' hr' => ?_, (List.forall_mem_cons.mp h.le_last).2, hn.2, fun n hlast => ?_⟩,
    hl, apart⟩
  · rw [Peer.hasChannel, others _ (apart r' hr')]
    exact h.channel r' (List.mem_cons_of_mem _ hr')
  · rw [others n (by omega)]
    exact h.unused n hlast

/-- A new connection is made, and nothing has happened to the others. -/
theorem Stocked.new {p q : Peer} {last : ℕ} {idle : List Resource} (h : Stocked p last idle)
    (others : ∀ n ≠ last + 1, q.session? n = p.session? n) :
    Stocked q (last + 1) idle ∧ Spent (last + 1) idle (last + 1) := by
  have apart : ∀ r ∈ idle, r.connection ≠ last + 1 := fun r hr => by
    have := h.le_last r hr
    omega
  refine ⟨⟨fun r hr => ?_, fun r hr => (h.le_last r hr).trans (Nat.le_succ _), h.nodup,
    fun n hlast => ?_⟩, le_rfl, apart⟩
  · rw [Peer.hasChannel, others _ (apart r hr)]
    exact h.channel r hr
  · rw [others n (by omega)]
    exact h.unused n (by omega)

/-! ## What a trigger touches -/

/-- A trigger touches the connection `k`, which is that of the resource that came back last, or a
    new one because nothing was idle; `rest` is idle besides it. -/
structure Touched (p₀ p : Peer) (w₀ : World) (k : ℕ) (rest : List Resource) (last : ℕ) : Prop where
  others : ∀ n ≠ k, p.session? n = p₀.session? n
  origin : (∃ r, w₀.pool.idle = r :: rest ∧ r.connection = k ∧ last = w₀.supply.connections) ∨
    (w₀.pool.idle = [] ∧ rest = [] ∧ last = w₀.supply.connections + 1 ∧ k = last)

/-- A trigger that has got a resource touches no other connection. -/
theorem Serving.others {step : Step ι ω} (tidy : step.Tidy) {input : ι} {p₀ p₁ q : Peer}
    {w₀ : World} {r : Resource} {rest : List Resource} {c : Course Peer ι ω}
    (h : Serving p₀ w₀ r rest p₁ c)
    (quiet : Quiet r.connection (step.run r.connection input p₁).peer q) :
    ∀ n ≠ r.connection, q.session? n = p₀.session? n := fun n hn => by
  rw [quiet.others n hn, tidy.others _ _ _ n hn, h.quiet.others n hn]

theorem Took.origin {w₀ : World} {r : Resource} {rest : List Resource} {last : ℕ}
    (h : Took w₀ r rest last) :
    (∃ r', w₀.pool.idle = r' :: rest ∧ r'.connection = r.connection ∧
      last = w₀.supply.connections) ∨
    (w₀.pool.idle = [] ∧ rest = [] ∧ last = w₀.supply.connections + 1 ∧ r.connection = last) :=
  h.imp (fun h => ⟨r, h.1, rfl, h.2⟩) id

/-- A trigger touches one connection, which is idle afterwards only if its channel is open. -/
theorem Triggered.touched {step : Step ι ω} (tidy : step.Tidy) {input : ι} {p₀ : Peer} {w₀ : World}
    (begins : Begins p₀ w₀) {c : Course Peer ι ω} {result : Option (Except TriggerError ω)}
    (h : Triggered step input p₀ w₀ c result) : c.world.pool.closed = false ∧ ∃ k rest,
      Touched p₀ c.outside w₀ k rest c.world.supply.connections ∧
      (c.world.pool.idle = rest ∨ ∃ r, c.world.pool.idle = r :: rest ∧ r.connection = k ∧
        c.outside.hasChannel k = true) := by
  cases h with
  | unserved n result unserved failed =>
    refine ⟨unserved.pool ▸ begins.opened, n, [], ⟨unserved.quiet.others, .inr ?_⟩,
      .inl (unserved.pool ▸ unserved.idle)⟩
    exact ⟨unserved.idle, rfl, unserved.supply.trans unserved.number, unserved.supply.symm⟩
  | done r rest p₁ o serving idle ran outside warned =>
    rw [outside]
    exact ⟨serving.opened, r.connection, rest, ⟨serving.others tidy (.refl _ _),
      serving.took.origin⟩, .inr ⟨r, idle, rfl, tidy.keeps _ _ _ o ran⟩⟩
  | failed r p₁ cause result serving ran quiet failed =>
    exact ⟨serving.opened, r.connection, _, ⟨serving.others tidy quiet, serving.took.origin⟩,
      .inl rfl⟩
  | silent r p₁ serving ran quiet =>
    exact ⟨serving.opened, r.connection, _, ⟨serving.others tidy quiet, serving.took.origin⟩,
      .inl rfl⟩

/-- The connection that a trigger touches is spent, and all others are as before. -/
theorem Touched.stocked {p₀ p : Peer} {w₀ : World} {k last : ℕ} {rest others : List Resource}
    (h : Touched p₀ p w₀ k rest last)
    (stocked : Stocked p₀ w₀.supply.connections (w₀.pool.idle ++ others)) :
    Stocked p last (rest ++ others) ∧ Spent last (rest ++ others) k ∧
      ∀ n, Spent w₀.supply.connections (w₀.pool.idle ++ others) n →
        n ≠ k ∧ Spent last (rest ++ others) n := by
  rcases h.origin with ⟨r, idle, rfl, rfl⟩ | ⟨idle, rfl, rfl, rfl⟩
  · rw [idle, List.cons_append] at stocked ⊢
    obtain ⟨hs, hk⟩ := stocked.tail h.others
    refine ⟨hs, hk, fun n hn => ?_⟩
    obtain ⟨hne, hrest⟩ := List.forall_mem_cons.mp hn.2
    exact ⟨hne.symm, hn.1, hrest⟩
  · rw [idle, List.nil_append] at stocked ⊢
    obtain ⟨hs, hk⟩ := stocked.new h.others
    refine ⟨hs, hk, fun n hn => ⟨?_, hn.1.trans (Nat.le_succ _), hn.2⟩⟩
    have := hn.1
    omega

/-- What a trigger leaves idle. -/
theorem Triggered.stocked {step : Step ι ω} (tidy : step.Tidy) {input : ι} {p₀ : Peer}
    {w₀ : World} (begins : Begins p₀ w₀) {c : Course Peer ι ω}
    {result : Option (Except TriggerError ω)} (h : Triggered step input p₀ w₀ c result)
    {others : List Resource}
    (stocked : Stocked p₀ w₀.supply.connections (w₀.pool.idle ++ others)) :
    c.world.pool.closed = false ∧
    Stocked c.outside c.world.supply.connections (c.world.pool.idle ++ others) ∧
    ∀ n, Spent w₀.supply.connections (w₀.pool.idle ++ others) n →
      Spent c.world.supply.connections (c.world.pool.idle ++ others) n ∧
      c.outside.session? n = p₀.session? n := by
  obtain ⟨opened, k, rest, touched, idle⟩ := h.touched tidy begins
  obtain ⟨hs, hk, hspent⟩ := touched.stocked stocked
  refine ⟨opened, ?_, fun n hn => ?_⟩
  · rcases idle with idle | ⟨r, idle, rfl, channel⟩
    · rwa [idle]
    · rw [idle, List.cons_append]
      exact hs.cons hk channel
  · obtain ⟨hne, hsp⟩ := hspent n hn
    refine ⟨?_, touched.others n hne⟩
    rcases idle with idle | ⟨r, idle, rfl, channel⟩
    · rwa [idle]
    · rw [idle, List.cons_append]
      exact ⟨hsp.1, List.forall_mem_cons.mpr ⟨hne.symm, hsp.2⟩⟩

theorem Triggered.script {step : Step ι ω} (tidy : step.Tidy) {input : ι} {p₀ : Peer} {w₀ : World}
    {c : Course Peer ι ω} {result : Option (Except TriggerError ω)}
    (h : Triggered step input p₀ w₀ c result) : ∀ x ∈ c.outside.script, x ∈ p₀.script := by
  cases h with
  | unserved n result unserved failed => exact unserved.quiet.script
  | done r rest p₁ o serving idle ran outside warned =>
    rw [outside]
    exact fun x hx => serving.quiet.script x (tidy.script _ _ _ x hx)
  | failed r p₁ cause result serving ran quiet failed =>
    exact fun x hx => serving.quiet.script x (tidy.script _ _ _ x (quiet.script x hx))
  | silent r p₁ serving ran quiet =>
    exact fun x hx => serving.quiet.script x (tidy.script _ _ _ x (quiet.script x hx))

/-- A trigger with input `input` that has got a worker on the connection `k`, and `p₁` as the peer
    then was: its step runs once on that connection. -/
structure Served (step : Step ι ω) (input : ι) (p₀ : Peer) (w₀ : World) (k : ℕ) (p₁ : Peer)
    (c : Course Peer ι ω) (result : Option (Except TriggerError ω)) : Prop where
  quiet : Quiet k p₀ p₁
  channel : p₁.hasChannel k = true
  others : ∀ n ≠ k, c.outside.session? n = p₀.session? n
  works : c.outside.worksOn k = (step.run k input p₁).peer.worksOn k
  /-- After a success the resource is the next one to be taken. -/
  success : ∀ o, (step.run k input p₁).result = some (.ok o) → result = some (.ok o) ∧
    (∃ r rest, c.world.pool.idle = r :: rest ∧ r.connection = k) ∧
    warnings c.log = Log.within (Server.triggerSpan step) (warnings (step.run k input p₁).log)
  /-- Without a success the connection is spent. -/
  failure : (∀ o, (step.run k input p₁).result ≠ some (.ok o)) →
    (∀ a, result = some a → ∃ e, a = .error (.processing e)) ∧
    ∀ others, Stocked p₀ w₀.supply.connections (w₀.pool.idle ++ others) →
      Spent c.world.supply.connections (c.world.pool.idle ++ others) k

/-- The work of a trigger: that of its step, if it has got a worker, and none otherwise. -/
theorem Triggered.served {step : Step ι ω} (tidy : step.Tidy) {input : ι} {p₀ : Peer} {w₀ : World}
    {c : Course Peer ι ω} {result : Option (Except TriggerError ω)}
    (h : Triggered step input p₀ w₀ c result) :
    (c.log.any workerEntry = false ∧ (∀ n, c.outside.worksOn n = p₀.worksOn n) ∧
      ∀ a, result = some a → ∃ e, a = .error (.connection e)) ∨
    (c.log.any workerEntry = true ∧ ∃ k p₁, Served step input p₀ w₀ k p₁ c result) := by
  cases h with
  | unserved n result unserved failed =>
    refine .inl ⟨by simpa using unserved.log, unserved.quiet.worksOn, failed⟩
  | done r rest p₁ o serving idle ran outside warned =>
    refine .inr ⟨serving.log, r.connection, p₁, serving.quiet, serving.channel, ?_,
      by rw [outside], fun o' ho => ?_, fun hno => absurd ran (hno o)⟩
    · exact outside ▸ serving.others tidy (.refl _ _)
    · obtain rfl : o = o' := by simpa [ran] using ho
      exact ⟨rfl, ⟨r, rest, idle, rfl⟩, warned⟩
  | failed r p₁ cause result serving ran quiet failed =>
    have others := serving.others tidy quiet
    refine .inr ⟨serving.log, r.connection, p₁, serving.quiet, serving.channel, others,
      quiet.works, fun o ho => by simp [ran] at ho, fun _ => ⟨fun a ha => ?_, fun _ stocked => ?_⟩⟩
    · obtain ⟨suppressed, rfl⟩ := failed a ha
      exact ⟨_, rfl⟩
    · exact (Touched.stocked ⟨others, serving.took.origin⟩ stocked).2.1
  | silent r p₁ serving ran quiet =>
    have others := serving.others tidy quiet
    refine .inr ⟨serving.log, r.connection, p₁, serving.quiet, serving.channel, others,
      quiet.works, fun o ho => by simp [ran] at ho, fun _ => ⟨by simp, fun _ stocked => ?_⟩⟩
    exact (Touched.stocked ⟨others, serving.took.origin⟩ stocked).2.1

/-- All work on any connection was there before, or comes from the step. -/
theorem Served.mem_worksOn {step : Step ι ω} {input : ι} {p₀ p₁ : Peer} {w₀ : World} {k : ℕ}
    {c : Course Peer ι ω} {result : Option (Except TriggerError ω)}
    (h : Served step input p₀ w₀ k p₁ c result) {P : Frame → Prop}
    (stepped : ∀ f ∈ (step.run k input p₁).peer.worksOn k, f ∈ p₁.worksOn k ∨ P f) (n : ℕ) :
    ∀ f ∈ c.outside.worksOn n, f ∈ p₀.worksOn n ∨ P f := by
  intro f hf
  by_cases hn : n = k
  · subst hn
    rw [h.works] at hf
    rw [← h.quiet.works]
    exact stepped f hf
  · rw [Peer.worksOn_congr (h.others n hn)] at hf
    exact .inl hf

theorem Triggered.mem_worksOn {step : Step ι ω} (tidy : step.Tidy) {input : ι} {p₀ : Peer}
    {w₀ : World} {c : Course Peer ι ω} {result : Option (Except TriggerError ω)}
    (h : Triggered step input p₀ w₀ c result) {P : Frame → Prop}
    (stepped : ∀ k p₁, p₁.hasChannel k = true →
      ∀ f ∈ (step.run k input p₁).peer.worksOn k, f ∈ p₁.worksOn k ∨ P f) (n : ℕ) :
    ∀ f ∈ c.outside.worksOn n, f ∈ p₀.worksOn n ∨ P f := by
  rcases h.served tidy with ⟨-, works, -⟩ | ⟨-, k, p₁, served⟩
  · rw [works]
    exact fun f hf => .inl hf
  · exact served.mem_worksOn (stepped k p₁ served.channel) n

/-! ## Between two requests -/

namespace Server

/-- The resources that are idle in one of the pools. -/
def idle (s : Server) : List Resource := s.publishers.idle ++ s.consumers.idle

/-- What holds of a server between two requests. -/
structure Sound (s : Server) : Prop where
  publishers : s.publishers.closed = false
  consumers : s.consumers.closed = false
  stocked : Stocked s.peer s.supply.connections s.idle

/-- A connection was made, and is idle in neither pool. -/
def Retired (s : Server) (n : ℕ) : Prop := Spent s.supply.connections s.idle n

/-- A frame of the work as the settings want it. -/
def Fits (settings : Config.Service) : Frame → Prop
  | .publish p => p.mandatory = true ∧ p.destination.exchange = settings.publishing.exchange
  | .get queue noAck => queue = settings.consuming.queue ∧ noAck = settings.consuming.autoAck
  | .ack _ multiple => settings.consuming.autoAck = false ∧ multiple = false
  | _ => True

/-- A server goes on from one state between two requests to another. -/
structure Goes (s s' : Server) : Prop where
  settings : s'.settings = s.settings
  sound : s'.Sound
  retired : ∀ n, s.Retired n → s'.Retired n ∧ s'.peer.session? n = s.peer.session? n
  script : ∀ x ∈ s'.peer.script, x ∈ s.peer.script
  works : ∀ n, ∀ f ∈ s'.peer.worksOn n, f ∈ s.peer.worksOn n ∨ Fits s.settings f

variable {s s' s'' : Server}

theorem Goes.refl (sound : s.Sound) : s.Goes s :=
  ⟨rfl, sound, fun _ h => ⟨h, rfl⟩, fun _ h => h, fun _ _ h => .inl h⟩

theorem Goes.trans (h : s.Goes s') (h' : s'.Goes s'') : s.Goes s'' where
  settings := h'.settings.trans h.settings
  sound := h'.sound
  retired n hn :=
    have ⟨hn', same⟩ := h.retired n hn
    have ⟨hn'', same'⟩ := h'.retired n hn'
    ⟨hn'', same'.trans same⟩
  script x hx := h.script x (h'.script x hx)
  works n f hf := (h'.works n f hf).elim (h.works n f) fun fits => .inr (h.settings ▸ fits)

/-- Nothing more is done on a connection that is not idle. -/
theorem Goes.worksOn (h : s.Goes s') {n : ℕ} (retired : s.Retired n) :
    s'.peer.worksOn n = s.peer.worksOn n :=
  Peer.worksOn_congr (h.retired n retired).2

theorem Sound.begins_publishing (h : s.Sound) : Begins s.peer ⟨s.publishers, s.supply⟩ where
  opened := h.publishers
  unused := h.stocked.unused _ (Nat.lt_succ_self _)
  channels r hr := h.stocked.channel r (List.mem_append_left _ hr)

theorem Sound.begins_consuming (h : s.Sound) : Begins s.peer ⟨s.consumers, s.supply⟩ where
  opened := h.consumers
  unused := h.stocked.unused _ (Nat.lt_succ_self _)
  channels r hr := h.stocked.channel r (List.mem_append_right _ hr)

theorem publish_goes (h : s.Sound) (m : Message.Outbound) : s.Goes (s.publish m).1 := by
  have tidy := Broker.tidy_publishing s.settings.publishing
  have ended := (triggered s tidy s.publishers h.begins_publishing m).1
  obtain ⟨opened, stocked, spent⟩ := ended.stocked tidy h.begins_publishing h.stocked
  refine ⟨rfl, ⟨opened, h.consumers, stocked⟩, spent, ended.script tidy,
    ended.mem_worksOn tidy fun k p₁ channel f hf => ?_⟩
  rw [show ((publishing s.settings.publishing).run k m p₁).peer.worksOn k = _ from
    (Broker.publish_spec _ m channel).1] at hf
  refine (List.mem_append.mp hf).imp_right fun hf => ?_
  obtain rfl := List.mem_singleton.mp hf
  exact ⟨rfl, rfl⟩

theorem consume_goes (h : s.Sound) (moment : Moment) : s.Goes (s.consume moment).1 := by
  have tidy := Broker.tidy_consuming s.settings.consuming
  have ended := (triggered s tidy s.consumers h.begins_consuming moment).1
  have swapped := h.stocked.perm List.perm_append_comm
  obtain ⟨opened, stocked, spent⟩ := ended.stocked tidy h.begins_consuming swapped
  refine ⟨rfl, ⟨h.publishers, opened, stocked.perm List.perm_append_comm⟩, fun n hn => ?_,
    ended.script tidy, ended.mem_worksOn tidy fun k p₁ channel f hf => ?_⟩
  · exact (spent n (hn.perm List.perm_append_comm)).imp (·.perm List.perm_append_comm) id
  · rw [show ((consuming s.settings.consuming).run k moment p₁).peer.worksOn k = _ from
      (Broker.fetch_spec _ moment channel).1] at hf
    refine (List.mem_append.mp hf).imp_right fun hf => ?_
    rcases List.mem_cons.mp hf with rfl | hf
    · exact ⟨rfl, rfl⟩
    · obtain ⟨acknowledges, tag, rfl⟩ := Broker.acknowledgements_mem hf
      exact ⟨acknowledges, rfl⟩

theorem handlePublish_server (r : Request) :
    (s.handlePublish r).server = s ∨ ∃ m, (s.handlePublish r).server = (s.publish m).1 := by
  unfold handlePublish
  split
  · exact .inl rfl
  · rename_i m hm
    dsimp only
    exact .inr ⟨m, by split <;> simp_all⟩

theorem handleConsume_server (moment : Moment) :
    (s.handleConsume moment).server = (s.consume moment).1 := by
  unfold handleConsume
  split <;> simp_all

/-- A request does nothing, or it is one trigger. -/
theorem handle_server (s : Server) (moment : Moment) (r : Request) :
    (s.handle moment r).server = s ∨ (∃ m, (s.handle moment r).server = (s.publish m).1) ∨
      (s.handle moment r).server = (s.consume moment).1 := by
  have at_ : ∀ endpoint, (s.handleAt moment r endpoint).server = s ∨
      (∃ m, (s.handleAt moment r endpoint).server = (s.publish m).1) ∨
      (s.handleAt moment r endpoint).server = (s.consume moment).1
    | .health | .pool => .inl rfl
    | .publish => (handlePublish_server r).imp_right .inl
    | .consume => .inr (.inr (handleConsume_server moment))
  unfold handle
  split
  · exact .inl rfl
  · split
    · dsimp only
      split <;> exact at_ _
    · exact .inl rfl

theorem handle_goes (h : s.Sound) (moment : Moment) (r : Request) :
    s.Goes (s.handle moment r).server := by
  rcases s.handle_server moment r with he | ⟨m, he⟩ | he <;> rw [he]
  · exact .refl h
  · exact publish_goes h m
  · exact consume_goes h moment

/-- The server after some requests, handled one after the other. -/
def after (s : Server) (requests : List (Moment × Request)) : Server :=
  requests.foldl (fun s r => (s.handle r.1 r.2).server) s

theorem after_goes (h : s.Sound) (requests : List (Moment × Request)) :
    s.Goes (s.after requests) := by
  induction requests generalizing s with
  | nil => exact .refl h
  | cons r rest ih =>
    -- The first request leaves a sound server, so the others go on from there.
    have first := handle_goes h r.1 r.2
    exact first.trans (ih first.sound)

/-- A server with some settings, and with a broker that was to react as in a script, after any
    requests. -/
def Reached (settings : Config.Service) (script : Broker.Script) (s : Server) : Prop :=
  ∃ files route s₀ requests,
    ofSettings settings files { route, script } = .ok s₀ ∧ s = s₀.after requests

/-- A new server is sound. -/
theorem sound_new (settings : Config.Service) (files : Files) (route : Broker.Route)
    (script : Broker.Script) : Sound { settings, files, peer := { route, script } } :=
  ⟨rfl, rfl, by simp [idle], by simp [idle], by simp [idle], fun _ _ => rfl⟩

/-- What holds after any requests: the server is sound, it has the settings it began with, all
    reactions are from the script, and all work is as the settings want it. -/
theorem Reached.sound {settings : Config.Service} {script : Broker.Script}
    (h : s.Reached settings script) :
    s.Sound ∧ s.settings = settings ∧ (∀ x ∈ s.peer.script, x ∈ script) ∧
      ∀ n, ∀ f ∈ s.peer.worksOn n, Fits settings f := by
  obtain ⟨files, route, s₀, requests, fresh, rfl⟩ := h
  unfold ofSettings at fresh
  split at fresh
  · obtain rfl := Except.ok.inj fresh
    have goes := after_goes (sound_new settings files route script) requests
    exact ⟨goes.sound, goes.settings, goes.script, fun n f hf =>
      (goes.works n f hf).resolve_left List.not_mem_nil⟩
  · simp at fresh

end Server

end BrokerPool.Http
