import BrokerPool.Proofs.Broker.Site
import BrokerPool.Proofs.Lifecycle.Ownership

/-!
# The order of the frames

On each connection the frames of a run stand in the order in which they make sense. A connection has
at most one owner, a call or the pool (`lines_le`), and how far its use has got follows from where
the owner stands and what it has left to say (`Suits`). So one step lemma for each thing that can
happen is enough: whatever it does to one connection, it leaves the others alone (`Touched`).

Results:
* `line_unique`, `line_not_idle`: a connection has one owner.
* `Site.Sound`: what holds all along; `Site.Sound.act` for one step, `Site.Sound.run` for a run.
* `frames_in_order`: in every run of both roles the frames on every connection are in order, a
  channel is not used after it was closed, and a closed channel makes no close fail.
-/

namespace BrokerPool.Broker

open Lifecycle (Action Answer Event Goal Passage Request Resource Role Run Stage System World)
open Message (Outbound)

variable {ι ω : Type}

/-! ## Who has a connection -/

/-- A call has a connection or asks for one. -/
theorem elim_line (o : Option (Stage ι ω)) :
    o.elim 0 (fun st => ((line? st).toList : Multiset ℕ)) =
      (o.bind Stage.attempt?).toList + (o.bind Stage.connection?).toList := by
  rcases o with _ | st
  · rfl
  · cases st <;> rfl

section Lines

variable {role : Role} {permits : Option (Stage ι ω) → Action ι ω → Prop} {s : System ι ω}
  {history : List (Lifecycle.Turn ι ω)} {w w' : World} {old new : Option (Stage ι ω)}
  {a : Action ι ω} {events : List Event}

/-- The connection, or the attempt to open one, that ends with a turn. -/
def shed (old : Option (Stage ι ω)) (a : Action ι ω) (new : Option (Stage ι ω)) : Multiset ℕ :=
  ((Lifecycle.closed? old a).map Prod.fst).toList +
    ((Lifecycle.lost? old new).bind Stage.connection?).toList + (Lifecycle.failed? old a).toList

/-- A connection stays with its call, or with its resource, from the attempt to open it on. -/
theorem passage_lines (p : Passage role w old a w' new events) :
    ((w'.pool.idle.map (·.connection) : List ℕ) : Multiset ℕ) +
        new.elim 0 (fun st => ((line? st).toList : Multiset ℕ)) + shed old a new =
      ((w.pool.idle.map (·.connection) : List ℕ) : Multiset ℕ) +
        old.elim 0 (fun st => ((line? st).toList : Multiset ℕ)) +
        (new.bind Stage.attempt?).toList := by
  have moved := p.connections
  have ended := p.attempt_ends
  rw [elim_line, elim_line, shed, ← ended]
  generalize (((Lifecycle.closed? old a).map Prod.fst).toList : Multiset ℕ) = closed at moved ⊢
  generalize (((Lifecycle.lost? old new).bind Stage.connection?).toList : Multiset ℕ) = lost
    at moved ⊢
  generalize ((w'.pool.idle.map (·.connection) : List ℕ) : Multiset ℕ) = idle' at moved ⊢
  generalize ((new.bind Stage.connection?).toList : Multiset ℕ) = has' at moved ⊢
  calc idle' + ((new.bind Stage.attempt?).toList + has') +
        (closed + lost + (Lifecycle.failed? old a).toList)
      = idle' + has' + (closed + lost) + (Lifecycle.failed? old a).toList +
          (new.bind Stage.attempt?).toList := by abel
    _ = _ := by rw [moved]; abel

/-- No connection is with two calls, or with a call and in the pool, and all have been given out. -/
theorem lines_le (run : Run role permits {} history s) :
    ((s.world.pool.idle.map (·.connection) : List ℕ) : Multiset ℕ) +
      (s.calls.filterMap fun c => line? c.2 : List ℕ) ≤
      (List.range' 1 s.world.supply.connections : List ℕ) := by
  have given := run.tally_world (fun w => (List.range' 1 w.supply.connections : Multiset ℕ))
    (fun _ _ new => (new.bind Stage.attempt?).toList) Lifecycle.numbered_empty
    fun _ _ _ _ _ _ p => p.attempts
  have kept := run.tally (fun _ st => ((line? st).toList : Multiset ℕ))
    (fun w => (w.pool.idle.map (·.connection) : List ℕ))
    (fun _ _ _ new => (new.bind Stage.attempt?).toList) (fun _ old a new => shed old a new)
    Lifecycle.numbered_empty fun _ _ _ _ _ _ _ p _ => passage_lines p
  rw [System.total, Lifecycle.sum_map_toList] at kept
  rw [given]
  refine le_trans (Multiset.le_add_right _ _) (le_of_eq (kept.trans ?_))
  simp

/-- Two calls do not have one connection. -/
theorem line_unique (run : Run role permits {} history s) {x y : ℕ × Stage ι ω} (hx : x ∈ s.calls)
    (hy : y ∈ s.calls) {c : ℕ} (hxc : line? x.2 = some c) (hyc : line? y.2 = some c) : x = y := by
  have hn : (s.calls.filterMap fun c => line? c.2).Nodup :=
    Multiset.coe_nodup.mp (Multiset.nodup_of_le ((Multiset.le_add_left _ _).trans (lines_le run))
      (Multiset.coe_nodup.mpr List.nodup_range'))
  exact Lifecycle.eq_of_nodup_filterMap hn hx hy hxc hyc

/-- The connection of a call is not in the pool. -/
theorem line_not_idle (run : Run role permits {} history s) {x : ℕ × Stage ι ω} (hx : x ∈ s.calls)
    {r : Resource} (hr : r ∈ s.world.pool.idle) : line? x.2 ≠ some r.connection := by
  intro hc
  have hn := Multiset.nodup_of_le (lines_le run) (Multiset.coe_nodup.mpr List.nodup_range')
  rw [Multiset.coe_add, Multiset.coe_nodup] at hn
  exact (List.nodup_append.mp hn).2.2 r.connection (List.mem_map.mpr ⟨r, hr, rfl⟩) r.connection
    (List.mem_filterMap.mpr ⟨x, hx, hc⟩) rfl

/-- The connection of a call has been given out. -/
theorem line_le (run : Run role permits {} history s) {x : ℕ × Stage ι ω} (hx : x ∈ s.calls)
    {c : ℕ} (hc : line? x.2 = some c) : c ≤ s.world.supply.connections := by
  have hm : c ∈ (s.calls.filterMap fun c => line? c.2) := List.mem_filterMap.mpr ⟨x, hx, hc⟩
  have := Multiset.mem_of_le ((Multiset.le_add_left _ _).trans (lines_le run))
    (Multiset.mem_coe.mpr hm)
  have hr := List.mem_range'_1.mp (Multiset.mem_coe.mp this)
  omega

end Lines

/-! ## What holds all along -/

namespace Site

/-- Who stands where, and what it has left to say: the calls that can still go on, and the resources
    in the pool, which wait for somebody to hold them. -/
inductive Standing (system : System ι ω) (stuck : List ℕ)
    (talks : ℕ → Option (Dialogue (Answer ω))) : Stage ι ω → Option (Dialogue (Answer ω)) → Prop
  | call (n : ℕ) (st : Stage ι ω) (mem : (n, st) ∈ system.calls)
    (goes : n ∈ stuck → st.request? = none) : Standing system stuck talks st (talks n)
  | idle (r : Resource) (mem : r ∈ system.world.pool.idle) :
    Standing system stuck talks (.holding r) none

/-- What holds of a controller and its broker all along. -/
structure Sound (b : Config.Broker) (spoken : Spoken ι ω) (Op : List Frame → Prop) (s : Site ι ω) :
    Prop where
  reached : ∃ history, Run ⟨b.target, spoken.name⟩ (fun _ _ => True) {} history s.system
  steady : Steady s.peer.script
  told : ∀ c, s.peer.framesOn c = frames (trace s.history c)
  fresh : ∀ c, s.system.world.supply.connections < c →
    s.peer.session? c = none ∧ trace s.history c = []
  proper : ∀ c, Proper b spoken.setup Op (trace s.history c)
  suits : ∀ st rest, Standing s.system s.stuck s.talks st rest → ∀ c, line? st = some c →
    Suits b spoken.setup Op (trace s.history c) (s.peer.session? c) st rest
  /-- Only a call that waits for a dialogue has something left to say. -/
  talkers : ∀ n d, s.talks n = some d → ∃ st request, s.system.stage? n = some st ∧
    st.request? = some request ∧ spoken.dialogue? request ≠ none
  closes : ∀ earlier request wires answer later,
    s.history = earlier ++ .asked request wires answer :: later →
    Closes (trace earlier (lineOf request)) wires answer request

end Site

/-- An action that begins a call, or with which a call goes on by itself. -/
def alone : Action ι ω → Bool
  | .start _ | .proceed _ => true
  | _ => false

/-- What a call gets to by itself suits its connection, if what it had did; or it asks for a new
    connection. -/
theorem passage_suits {b : Config.Broker} {setup : Frame} {Op : List Frame → Prop} {role : Role}
    {w w' : World} {old new : Option (Stage ι ω)} {a : Action ι ω} {events : List Event}
    (p : Passage role w old a w' new events) (ha : alone a = true)
    {st' : Stage ι ω} (hst : new = some st' ∨ ∃ r ∈ w'.pool.idle, st' = .holding r) {c : ℕ}
    (hc : line? st' = some c) :
    (∃ st, (old = some st ∧ st.request? = none ∨ ∃ r ∈ w.pool.idle, st = .holding r) ∧
      line? st = some c ∧
      ∀ l session, Suits b setup Op l session st none → Suits b setup Op l session st' none) ∨
    c = w.supply.connections + 1 ∧ ∃ goal, st' = .connecting goal c := by
  rcases hst with hst | ⟨r, hr, rfl⟩
  · cases p with
    | miss n goal idle =>
      obtain rfl := Option.some.inj hst
      obtain rfl := Option.some.inj hc
      exact .inr ⟨rfl, goal, rfl⟩
    | reuse n goal r rest idle =>
      obtain rfl := Option.some.inj hst
      refine .inl ⟨.holding r, .inr ⟨r, by simp [idle], rfl⟩, ?_, ?_⟩ <;> cases goal
      all_goals first | exact hc | exact fun _ _ h => h
    | drain n summary r rest idle =>
      obtain rfl := Option.some.inj hst
      exact .inl ⟨.holding r, .inr ⟨r, by simp [idle], rfl⟩, hc, fun _ _ h => h⟩
    | turnAway n r output closed =>
      obtain rfl := Option.some.inj hst
      exact .inl ⟨_, .inl ⟨rfl, rfl⟩, hc, fun _ _ h => h⟩
    | enter | enterShutdown | refuse | pass | giveBack | close | drained =>
      obtain rfl := Option.some.inj hst
      simp [line?] at hc
    | _ => simp [alone] at ha
  · left
    cases p with
    | reuse n goal r' rest idle | drain n summary r' rest idle =>
      exact ⟨_, .inr ⟨r, idle ▸ List.mem_cons_of_mem _ hr, rfl⟩, hc, fun _ _ h => h⟩
    | giveBack n r' output opened =>
      rcases List.mem_cons.mp hr with rfl | hr
      · exact ⟨_, .inl ⟨rfl, rfl⟩, hc, fun _ _ h => h⟩
      · exact ⟨_, .inr ⟨r, hr, rfl⟩, hc, fun _ _ h => h⟩
    | _ => exact ⟨_, .inr ⟨r, hr, rfl⟩, hc, fun _ _ h => h⟩

/-- An answer brings nothing into the pool, and no number of a connection. -/
theorem resume_world {role : Role} {w w' : World} {old new : Option (Stage ι ω)} {n : ℕ}
    {answer : Answer ω} {events : List Event}
    (p : Passage role w old (.resume n answer) w' new events) :
    w'.pool = w.pool ∧ w'.supply.connections = w.supply.connections := by
  cases p <;> exact ⟨rfl, rfl⟩

theorem request?_of_alone {role : Role} {w w' : World} {st : Stage ι ω} {new : Option (Stage ι ω)}
    {a : Action ι ω} {events : List Event} (p : Passage role w (some st) a w' new events)
    (ha : alone a = true) : st.request? = none := by
  cases p <;> first | rfl | simp [alone] at ha

theorem supply_le {role : Role} {w w' : World} {old new : Option (Stage ι ω)} {a : Action ι ω}
    {events : List Event} (p : Passage role w old a w' new events) :
    w.supply.connections ≤ w'.supply.connections := by
  cases p <;> simp

namespace Site

section Steps

variable {files : Files} {b : Config.Broker} {spoken : Spoken ι ω} {Op : List Frame → Prop}
  {s s' : Site ι ω}

theorem moved_eq {a : Action ι ω} (h : s.moved b spoken a = some s') : ∃ system events,
    s.system.step ⟨b.target, spoken.name⟩ a = some (system, events) ∧ s' = { s with system } := by
  obtain ⟨⟨system, events⟩, hs, hm⟩ := Option.map_eq_some_iff.mp h
  exact ⟨system, events, hs, hm.symm⟩

theorem Sound.numbered (h : s.Sound b spoken Op) : s.system.Numbered :=
  h.reached.elim fun _ run => run.numbered Lifecycle.numbered_empty

/-- A call that does not wait has nothing left to say. -/
theorem Sound.talks_none (h : s.Sound b spoken Op) {n : ℕ}
    (waits : ∀ st request, s.system.stage? n = some st → st.request? = some request →
      spoken.dialogue? request = none) : s.talks n = none := by
  cases talk : s.talks n with
  | none => rfl
  | some d =>
    obtain ⟨st, request, hst, hreq, talks⟩ := h.talkers n d talk
    exact absurd (waits st request hst hreq) talks

/-- The calls that have something left to say are not the one that moves. -/
theorem Sound.talkers_moved (h : s.Sound b spoken Op) {a : Action ι ω} {system : System ι ω}
    {events : List Event} (hs : s.system.step ⟨b.target, spoken.name⟩ a = some (system, events))
    (quiet : s.talks (a.call s.system.last) = none) (n : ℕ) (d : Dialogue (Answer ω))
    (talk : s.talks n = some d) : ∃ st request, system.stage? n = some st ∧
      st.request? = some request ∧ spoken.dialogue? request ≠ none := by
  obtain ⟨st, request, hst, rest⟩ := h.talkers n d talk
  obtain ⟨history, run⟩ := h.reached
  obtain ⟨left, right, around⟩ := Lifecycle.step_around h.numbered hs
  have numbered := (run.snoc trivial hs).numbered Lifecycle.numbered_empty
  refine ⟨st, request, numbered.mem_iff.mp (around.mem_after.mpr (.inl ?_)), rest⟩
  rcases around.mem_before.mp (h.numbered.mem_iff.mpr hst) with other | ⟨_, _, hn⟩
  · exact other
  · obtain rfl : n = a.call s.system.last := congrArg Prod.fst hn
    simp [quiet] at talk

/-- A call begins, or goes on by itself. -/
theorem Sound.move (h : s.Sound b spoken Op) {a : Action ι ω} (ha : alone a = true)
    (hm : s.moved b spoken a = some s') : s'.Sound b spoken Op := by
  obtain ⟨system, events, hs, rfl⟩ := moved_eq hm
  obtain ⟨history, run⟩ := h.reached
  obtain ⟨left, right, around⟩ := Lifecycle.step_around h.numbered hs
  have hle := supply_le around.passage
  have quiet : s.talks (a.call s.system.last) = none := by
    refine h.talks_none fun st request hst hreq => ?_
    have passage := around.passage
    rw [show Lifecycle.Turn.old ⟨s.system, a, system, events⟩ = some st from hst] at passage
    simp [request?_of_alone passage ha] at hreq
  refine
    { h with
      reached := ⟨_, run.snoc trivial hs⟩
      fresh := fun c hc => h.fresh c (lt_of_le_of_lt hle hc)
      talkers := h.talkers_moved hs quiet
      suits := ?_ }
  intro st' rest standing c hc
  -- Who moves, or comes back into the pool, had the connection before.
  have carried : ∀ st, (Lifecycle.Turn.old ⟨s.system, a, system, events⟩ = some st ∧
      st.request? = none ∨ ∃ r ∈ s.system.world.pool.idle, st = .holding r) →
      Standing s.system s.stuck s.talks st none := by
    rintro st (⟨hold, alone⟩ | ⟨r, hr, rfl⟩)
    · have mem := around.mem_before.mpr (.inr ⟨st, hold, rfl⟩)
      exact quiet ▸ .call _ st mem fun _ => alone
    · exact .idle r hr
  have mover (hst : Lifecycle.Turn.new ⟨s.system, a, system, events⟩ = some st' ∨
      ∃ r ∈ system.world.pool.idle, st' = .holding r) :
      Suits b spoken.setup Op (trace s.history c) (s.peer.session? c) st' none := by
    rcases passage_suits around.passage ha hst hc with ⟨st, hst, line, carries⟩ | ⟨hnew, goal, rfl⟩
    · exact carries _ _ (h.suits st none (carried st hst) c line)
    · obtain ⟨session, nothing⟩ := h.fresh c (by rw [hnew]; exact Nat.lt_succ_self _)
      exact ⟨nothing, session⟩
  cases standing with
  | idle r mem => exact mover (.inr ⟨r, mem, rfl⟩)
  | call n st mem goes =>
    rcases around.mem_after.mp mem with other | ⟨st, hst, hn⟩
    · exact h.suits st' _ (.call n st' (around.mem_before.mpr (.inl other)) goes) c hc
    · obtain rfl : st' = st := congrArg Prod.snd hn
      obtain rfl : n = a.call s.system.last := congrArg Prod.fst hn
      exact quiet ▸ mover (.inl hst)

theorem line?_of_request {st : Stage ι ω} {request : Request ι}
    (h : st.request? = some request) : line? st = some (lineOf request) := by
  cases st <;> simp [Stage.request?] at h <;> subst h <;> rfl

/-- Something passes on one connection, and the others are left alone. -/
structure Touched (c₀ : ℕ) (wires : List Wire) (s t : Site ι ω) : Prop where
  system : t.system = s.system
  trace_eq : trace t.history c₀ = trace s.history c₀ ++ wires
  frames_eq : t.peer.framesOn c₀ = s.peer.framesOn c₀ ++ frames wires
  others : ∀ c ≠ c₀, trace t.history c = trace s.history c ∧
    t.peer.session? c = s.peer.session? c

section Touched

variable {c₀ : ℕ} {wires : List Wire} {t : Site ι ω}

theorem Touched.told (touched : Touched c₀ wires s t) (h : s.Sound b spoken Op) (c : ℕ) :
    t.peer.framesOn c = frames (trace t.history c) := by
  by_cases hc : c = c₀
  · rw [hc, touched.trace_eq, touched.frames_eq, frames_append, h.told]
  · obtain ⟨same, session⟩ := touched.others c hc
    rw [same, ← h.told c, Peer.framesOn, Peer.framesOn, session]

theorem Touched.fresh (touched : Touched c₀ wires s t) (h : s.Sound b spoken Op)
    (given : c₀ ≤ s.system.world.supply.connections) (c : ℕ)
    (hc : t.system.world.supply.connections < c) :
    t.peer.session? c = none ∧ trace t.history c = [] := by
  rw [touched.system] at hc
  obtain ⟨same, session⟩ := touched.others c (by omega)
  rw [same, session]
  exact h.fresh c hc

theorem Touched.proper (touched : Touched c₀ wires s t) (h : s.Sound b spoken Op)
    (proper : Proper b spoken.setup Op (trace s.history c₀ ++ wires)) (c : ℕ) :
    Proper b spoken.setup Op (trace t.history c) := by
  by_cases hc : c = c₀
  · rwa [hc, touched.trace_eq]
  · rw [(touched.others c hc).1]
    exact h.proper c

end Touched

theorem trace_happened (s : Site ι ω) (peer : Peer) (x : Happening ι ω) (c : ℕ) :
    trace (s.happened peer x).history c = trace s.history c ++ x.on c := by
  simp [trace, happened]

/-- What a call that waits has left to say suits its connection. -/
theorem Sound.suits_of_call (h : s.Sound b spoken Op) {n : ℕ} {st : Stage ι ω}
    (hst : s.system.stage? n = some st) (goes : n ∉ s.stuck) {request : Request ι}
    (hreq : st.request? = some request) :
    Suits b spoken.setup Op (trace s.history (lineOf request))
      (s.peer.session? (lineOf request)) st (s.talks n) :=
  h.suits st _ (.call n st (h.numbered.mem_iff.mpr hst) fun stuck => absurd stuck goes) _
    (line?_of_request hreq)

/-- Whoever else stands somewhere has another connection than a call that waits. -/
theorem Sound.apart (h : s.Sound b spoken Op) {n : ℕ} {st : Stage ι ω}
    (hst : s.system.stage? n = some st) {request : Request ι} (hreq : st.request? = some request)
    {st' : Stage ι ω} {rest : Option (Dialogue (Answer ω))}
    (standing : Standing s.system (n :: s.stuck) s.talks st' rest) {c : ℕ}
    (hc : line? st' = some c) :
    c ≠ lineOf request ∧ Standing s.system s.stuck s.talks st' rest := by
  obtain ⟨history, run⟩ := h.reached
  have mem := h.numbered.mem_iff.mpr hst
  have line := line?_of_request hreq
  cases standing with
  | idle r mem' =>
    obtain rfl := Option.some.inj hc
    exact ⟨fun he => line_not_idle run mem mem' (he ▸ line), .idle r mem'⟩
  | call m st' mem' goes =>
    have hm : m ≠ n := by
      rintro rfl
      obtain rfl := Option.some.inj (hst.symm.trans (h.numbered.mem_iff.mp mem'))
      simp [goes List.mem_cons_self] at hreq
    refine ⟨fun he => hm ?_, .call m st' mem' fun stuck => goes (List.mem_cons_of_mem n stuck)⟩
    exact congrArg Prod.fst (line_unique run mem' mem hc (he ▸ line))

/-- Something passes on the connection of a call that waits, and the call does not go on yet. -/
theorem Sound.touch (h : s.Sound b spoken Op) {n : ℕ} {st : Stage ι ω}
    (hst : s.system.stage? n = some st) {request : Request ι} (hreq : st.request? = some request)
    {peer : Peer} {wires : List Wire} (sends : Sends (lineOf request) s.peer wires peer)
    (proper : Proper b spoken.setup Op (trace s.history (lineOf request) ++ wires))
    {x : Happening ι ω} (on : ∀ c, x.on c = if lineOf request = c then wires else [])
    (closes : ∀ request wires answer, x = .asked request wires answer →
      Closes (trace s.history (lineOf request)) wires answer request) :
    Sound b spoken Op { s.happened peer x with stuck := n :: s.stuck } := by
  obtain ⟨history, run⟩ := h.reached
  have given := line_le run (h.numbered.mem_iff.mpr hst) (line?_of_request hreq)
  have touched : Touched (lineOf request) wires s (s.happened peer x) := by
    refine ⟨rfl, ?_, sends.frames, fun c hc => ⟨?_, sends.others hc⟩⟩
    · rw [trace_happened, on, if_pos rfl]
    · rw [trace_happened, on, if_neg hc.symm, List.append_nil]
  refine ⟨⟨history, run⟩, sends.steady h.steady, touched.told h, touched.fresh h given,
    touched.proper h proper, ?suits, h.talkers, ?closes⟩
  case suits =>
    intro st' rest standing c hc
    obtain ⟨hne, standing'⟩ := h.apart hst hreq standing hc
    obtain ⟨same, session⟩ := touched.others c hne
    rw [same, session]
    exact h.suits st' rest standing' c hc
  case closes =>
    intro earlier request' wires' answer' later hh
    rcases snoc_split hh with ⟨rfl, hx⟩ | ⟨later', hh⟩
    · exact closes request' wires' answer' hx.symm
    · exact h.closes earlier request' wires' answer' later' hh

/-- A call that waits has said a frame, and has something left to say. -/
theorem Sound.stay {t : Site ι ω} {n : ℕ}
    (waits : Sound b spoken Op { t with stuck := n :: t.stuck }) {st : Stage ι ω}
    (hst : t.system.stage? n = some st) {request : Request ι} (hreq : st.request? = some request)
    (talks : spoken.dialogue? request ≠ none) {d : Dialogue (Answer ω)}
    (suits : Suits b spoken.setup Op (trace t.history (lineOf request))
      (t.peer.session? (lineOf request)) st (some d)) :
    (t.left n (some d)).Sound b spoken Op := by
  refine { waits with suits := ?_, talkers := ?_ }
  · intro st' rest standing c hc
    cases standing with
    | idle r mem => exact waits.suits _ _ (.idle r mem) c hc
    | call m st' mem goes =>
      by_cases hm : m = n
      · subst hm
        obtain rfl := Option.some.inj (hst.symm.trans (waits.numbered.mem_iff.mp mem))
        obtain rfl := Option.some.inj ((line?_of_request hreq).symm.trans hc)
        simpa [left] using suits
      · have goes' : m ∈ n :: t.stuck → st'.request? = none :=
          fun stuck => goes ((List.mem_cons.mp stuck).resolve_left hm)
        simpa [left, hm] using waits.suits st' _ (.call m st' mem goes') c hc
  · intro m d' talk
    by_cases hm : m = n
    · exact ⟨st, request, hm ▸ hst, hreq, talks⟩
    · exact waits.talkers m d' (by simpa [left, hm] using talk)

/-- A call that waits goes on with an answer. -/
theorem Sound.resume {t : Site ι ω} {n : ℕ}
    (waits : Sound b spoken Op { t with stuck := n :: t.stuck }) (quiet : t.talks n = none)
    {st : Stage ι ω} (hst : t.system.stage? n = some st) {a : Answer ω}
    (next : ∀ {role : Role} {w w' : World} {new : Stage ι ω} {events : List Event},
      Passage role w (some st) (.resume n a) w' (some new) events → ∀ c, line? new = some c →
        Suits b spoken.setup Op (trace t.history c) (t.peer.session? c) new none)
    (hm : t.moved b spoken (.resume n a) = some s') : s'.Sound b spoken Op := by
  obtain ⟨system, events, hs, rfl⟩ := moved_eq hm
  obtain ⟨history, run⟩ := waits.reached
  obtain ⟨left, right, around⟩ := Lifecycle.step_around waits.numbered hs
  obtain ⟨pool, supply⟩ := resume_world around.passage
  refine
    { waits with
      reached := ⟨_, run.snoc trivial hs⟩
      fresh := fun c hc => waits.fresh c (supply ▸ hc)
      talkers := waits.talkers_moved hs quiet
      suits := ?_ }
  intro st' rest standing c hc
  cases standing with
  | idle r mem => exact waits.suits _ _ (.idle r (pool ▸ mem)) c hc
  | call m st' mem goes =>
    rcases around.mem_after.mp mem with other | ⟨new, hnew, hm⟩
    · have before := around.mem_before.mpr (.inl other)
      refine waits.suits st' _ (.call m st' before fun stuck => ?_) c hc
      exact goes ((List.mem_cons.mp stuck).resolve_left (around.others _ other))
    · obtain rfl : st' = new := congrArg Prod.snd hm
      obtain rfl : m = n := congrArg Prod.fst hm
      have passage := around.passage
      rw [hnew, show Lifecycle.Turn.old ⟨t.system, .resume m a, system, events⟩ = some st from hst]
        at passage
      exact quiet ▸ next passage c hc

/-- The broker deals with a request that is no dialogue. -/
theorem Sound.answered (h : s.Sound b spoken Op) {n : ℕ} {st : Stage ι ω}
    (hst : s.system.stage? n = some st) (goes : n ∉ s.stuck) {request : Request ι}
    (hreq : st.request? = some request) (other : spoken.dialogue? request = none)
    (ha : s.answered files b spoken n request = some s') : s'.Sound b spoken Op := by
  have quiet : s.talks n = none := h.talks_none fun st' request' hst' hreq' => by
    obtain rfl := Option.some.inj (hst.symm.trans hst')
    obtain rfl := Option.some.inj (hreq.symm.trans hreq')
    exact other
  have suits := h.suits_of_call hst goes hreq
  unfold Site.answered at ha
  rcases hr : respond files b spoken.step s.peer request with ⟨peer, log, answer⟩
  rw [hr] at ha
  obtain ⟨wires, sends, proper, closes, next⟩ := respond_suits hreq other suits
    (h.proper _).guarded h.steady hr
  simp only [sends.passed] at ha
  have waits := h.touch hst hreq sends proper (x := .asked request wires answer) (fun _ => rfl)
    fun request' wires' answer' hx => by
      obtain ⟨rfl, rfl, rfl⟩ := Happening.asked.inj hx
      exact closes
  cases answer with
  | none => exact Option.some.inj ha ▸ waits
  | some a =>
    refine waits.resume (t := s.happened peer (.asked request wires (some a))) quiet hst ?_ ha
    intro role w w' new events passage c hc
    obtain ⟨rfl, suits⟩ := next rfl passage c hc
    rw [trace_happened, Happening.on, if_pos rfl]
    exact suits

/-- A call that has nothing left to say has not gone on yet. -/
theorem Sound.silence (h : s.Sound b spoken Op) {n : ℕ} {st : Stage ι ω}
    (hst : s.system.stage? n = some st) {request : Request ι} (hreq : st.request? = some request) :
    Sound b spoken Op { s.left n none with stuck := n :: s.stuck } := by
  refine { h with suits := ?_, talkers := ?_ }
  · intro st' rest standing c hc
    cases standing with
    | idle r mem => exact h.suits _ _ (.idle r mem) c hc
    | call m st' mem goes =>
      have hm : m ≠ n := by
        rintro rfl
        obtain rfl := Option.some.inj (hst.symm.trans (h.numbered.mem_iff.mp mem))
        simp [goes List.mem_cons_self] at hreq
      have goes' : m ∈ s.stuck → st'.request? = none :=
        fun stuck => goes (List.mem_cons_of_mem n stuck)
      simpa [left, hm] using h.suits st' _ (.call m st' mem goes') c hc
  · intro m d talk
    by_cases hm : m = n
    · simp [left, hm] at talk
    · exact h.talkers m d (by simpa [left, hm] using talk)

/-- A call says the next frame of its request, or goes on when it has said all of it. -/
theorem Sound.said (h : s.Sound b spoken Op) (speaks : spoken.Speaks Op) {n : ℕ} {st : Stage ι ω}
    (hst : s.system.stage? n = some st) (goes : n ∉ s.stuck) {request : Request ι}
    (hreq : st.request? = some request) {whole : Dialogue (Answer ω)}
    (talks : spoken.dialogue? request = some whole)
    (ha : s.said b spoken n (lineOf request) ((s.talks n).getD whole) = some s') :
    s'.Sound b spoken Op := by
  have suits := h.suits_of_call hst goes hreq
  cases left : (s.talks n).getD whole with
  | ended log a =>
    rw [left] at ha
    refine Sound.resume (t := s.left n none) (h.silence hst hreq) (by simp [Site.left]) hst ?_ ha
    intro role w w' new events passage c hc
    obtain ⟨rfl, suits⟩ := ended_suits hreq talks suits left passage c hc
    exact suits
  | say f next =>
    obtain ⟨wires, session, sends, after, proper, heard⟩ := say_suits speaks hreq talks suits
      (h.proper _).guarded h.steady left
    rcases sent : s.peer.send (lineOf request) f with ⟨peer, reply⟩
    rw [sent] at sends after heard
    have waits := h.touch hst hreq sends proper (x := .said (lineOf request) wires) (fun _ => rfl)
      (by simp)
    by_cases silent : reply = .silent
    · subst silent
      rw [left, said_silent b sent, sends.passed] at ha
      exact Option.some.inj ha ▸ waits
    · rw [left, said_heard b sent silent, sends.passed] at ha
      refine Option.some.inj ha ▸ Sound.stay
        (t := s.happened peer (.said (lineOf request) wires)) waits hst hreq (by simp [talks]) ?_
      rw [trace_happened, Happening.on, if_pos rfl]
      simp only [happened, after]
      exact heard silent

/-- The broker closes a channel of its own accord. -/
theorem Sound.revoke (h : s.Sound b spoken Op) {c : ℕ} (opened : s.peer.hasChannel c = true) :
    Sound b spoken Op (s.happened (s.peer.revoke c) (.revoked c)) := by
  obtain ⟨session, hs, channel⟩ := session_of_hasChannel opened
  have revoked : s.peer.revoke c = s.peer.put c { session with channelOpen := false } := by
    rw [Peer.revoke, hs]
  have after : (s.peer.revoke c).session? c = some { session with channelOpen := false } := by
    rw [revoked]
    exact Peer.session?_put_self hs s.peer.script _
  have touched : Touched c [.revoked] s (s.happened (s.peer.revoke c) (.revoked c)) := by
    refine ⟨rfl, ?_, ?_, fun c' hc => ⟨?_, ?_⟩⟩
    · rw [trace_happened, Happening.on, if_pos rfl]
    · rw [happened, Peer.framesOn_of_session after, Peer.framesOn_of_session hs]
      simp
    · rw [trace_happened, Happening.on, if_neg hc.symm, List.append_nil]
    · rw [happened, revoked, Peer.session?_put, if_neg hc]
  have given : c ≤ s.system.world.supply.connections := by
    by_contra hlt
    simp [(h.fresh c (by omega)).1] at hs
  refine ⟨h.reached, ?steady, touched.told h, touched.fresh h given,
    touched.proper h (h.proper c).revoked, ?suits, h.talkers, ?closes⟩
  case steady => rw [revoked]; exact h.steady
  case suits =>
    intro st rest standing c' line
    have suits : Suits b spoken.setup Op _ _ st rest := h.suits st rest standing c' line
    by_cases hc : c' = c
    · subst hc
      rw [hs] at suits
      rw [touched.trace_eq, happened, after]
      exact Suits.revoked suits channel
    · rw [(touched.others c' hc).1, (touched.others c' hc).2]
      exact suits
  case closes =>
    intro earlier request wires answer later hh
    rcases snoc_split hh with ⟨-, hx⟩ | ⟨later', hh⟩
    · simp at hx
    · exact h.closes earlier request wires answer later' hh

/-- Whatever happens, what holds of a controller and its broker still holds. -/
theorem Sound.act (h : s.Sound b spoken Op) (speaks : spoken.Speaks Op) {a : Act ι}
    (ha : s.act files b spoken a = some s') : s'.Sound b spoken Op := by
  cases a with
  | trigger | shutdown | proceed => exact h.move rfl ha
  | answer n =>
    simp only [Site.act] at ha
    split at ha
    · simp at ha
    · simp only [Option.bind_eq_bind, Option.bind_eq_some_iff] at ha
      obtain ⟨st, hst, request, hreq, ha⟩ := ha
      cases talks : spoken.dialogue? request with
      | some whole =>
        rw [talks] at ha
        exact h.said speaks hst ‹_› hreq talks ha
      | none =>
        rw [talks] at ha
        exact h.answered hst ‹_› hreq talks ha
  | revoke c =>
    simp only [Site.act] at ha
    split at ha
    · exact Option.some.inj ha ▸ h.revoke ‹_›
    · simp at ha

theorem Sound.run {acts : List (Act ι)} (h : s.Sound b spoken Op) (speaks : spoken.Speaks Op)
    (hr : s.run files b spoken acts = some s') : s'.Sound b spoken Op := by
  induction acts generalizing s with
  | nil => exact Option.some.inj hr ▸ h
  | cons a acts ih =>
    simp only [Site.run, List.foldlM_cons, Option.bind_eq_bind, Option.bind_eq_some_iff] at hr
    obtain ⟨next, ha, hr⟩ := hr
    exact ih (h.act speaks ha) hr

/-- A broker without any connection. -/
theorem sound_start {peer : Peer} (fresh : peer.sessions = []) (steady : Steady peer.script) :
    Sound b spoken Op { peer } := by
  have nobody : ∀ c, peer.session? c = none := fun c => by rw [Peer.session?, fresh]; rfl
  constructor
  case reached => exact ⟨[], .nil⟩
  case steady => exact steady
  case told => exact fun c => by rw [Peer.framesOn, nobody]; rfl
  case fresh => exact fun c _ => ⟨nobody c, rfl⟩
  case proper =>
    intro c
    show Proper b spoken.setup Op []
    exact proper_of_greeting (by simp) List.nil_prefix
  case suits =>
    intro st rest standing c hc
    cases standing with
    | call n st mem goes => simp at mem
    | idle r mem => simp at mem
  case talkers =>
    intro n d talk
    simp at talk
  case closes =>
    intro earlier request wires answer later hh
    simp at hh

end Steps

end Site

/-! ## The order of the frames -/

/-- How a controller uses its connections. -/
structure Conduct (b : Config.Broker) (setup : Frame) (Op : List Frame → Prop) (s : Site ι ω) :
    Prop where
  /-- The frames of a trace are the frames that the session has sent. -/
  told : ∀ c, s.peer.framesOn c = frames (trace s.history c)
  /-- After the greeting the channel is opened and prepared, operations follow, and the channel and
      the connection are closed. Where the broker does not open the channel, or closes it before it
      is prepared, nothing but the close of the connection follows. -/
  order : ∀ c, (∃ body, Prepared setup Op body ∧
      s.peer.framesOn c <+: greeting b ++ (body ++ [connectionClose])) ∨
    Unprepared (trace s.history c) ∧
      s.peer.framesOn c = greeting b ++ [.openChannel, connectionClose]
  /-- The connection is only closed after the channel, which the client closes itself unless the
      broker has closed it, or has not opened it. -/
  last : ∀ c before w after, trace s.history c = before ++ w :: after → w.ends = true →
    ∃ v ∈ before, v.leaves = true ∨ v.refuses = true
  /-- Nothing is prepared and no work goes out after either side has closed the channel. -/
  uses : ∀ c before w after, trace s.history c = before ++ w :: after → w.uses = true →
    ∀ v ∈ before, v.leaves = false ∧ v.refuses = false
  /-- A closed channel does not make a close fail: only the broker does that, by its reaction to the
      very frame that is to close the channel or the connection. -/
  closes : ∀ earlier request wires answer later,
    s.history = earlier ++ .asked request wires answer :: later →
    Closes (trace earlier (lineOf request)) wires answer request

theorem Proper.order_cases {b : Config.Broker} {setup : Frame} {Op : List Frame → Prop}
    {l : List Wire} (h : Proper b setup Op l) :
    (∃ body, Prepared setup Op body ∧ frames l <+: greeting b ++ (body ++ [connectionClose])) ∨
      Unprepared l ∧ frames l = greeting b ++ [.openChannel, connectionClose] := by
  obtain ⟨body, prepared | ⟨rfl, refused⟩, order⟩ := h.order
  · exact .inl ⟨body, prepared, order⟩
  · rw [← List.append_assoc, List.prefix_concat_iff] at order
    rcases order with whole | part
    · exact .inr ⟨refused, by rw [whole, List.append_assoc]; rfl⟩
    · refine .inl ⟨_, prepared_nil, part.trans ?_⟩
      exact (List.prefix_append_right_inj _).mpr ⟨[setup, connectionClose], rfl⟩

theorem Site.Sound.conduct {b : Config.Broker} {spoken : Spoken ι ω} {Op : List Frame → Prop}
    {s : Site ι ω} (h : s.Sound b spoken Op) : Conduct b spoken.setup Op s where
  told := h.told
  order c := by
    rw [h.told]
    exact (h.proper c).order_cases
  last c before w after hl ends := by
    have parts := ((h.proper c).guarded before w after hl).ends ends
    simpa [parted] using parts
  uses c before w after hl uses := by
    have intact := ((h.proper c).guarded before w after hl).uses uses
    simpa [parted] using intact
  closes := h.closes

/-- Whatever triggers and shutdowns there are, and however the broker reacts as long as it keeps the
    connections: both roles use every connection in order. -/
theorem frames_in_order (files : Files) (b : Config.Broker) {peer : Peer}
    (fresh : peer.sessions = []) (steady : Steady peer.script) :
    (∀ (settings : Config.Publishing) (acts : List (Act Outbound)) (s : Site Outbound Unit),
      Site.run files b (publisher settings) { peer } acts = some s →
        Conduct b (.selectConfirm false) (Publishes settings) s) ∧
    ∀ (settings : Config.Consuming) (acts : List (Act Moment))
      (s : Site Moment (Option Message.Inbound)),
      Site.run files b (consumer settings) { peer } acts = some s →
        Conduct b (.setPrefetch settings.prefetch false) (Fetches settings) s := by
  constructor
  · intro settings acts s run
    exact ((Site.sound_start fresh steady).run (speaks_publishing settings) run).conduct
  · intro settings acts s run
    exact ((Site.sound_start fresh steady).run (speaks_consuming settings) run).conduct

/-- Settings for a broker that knows the client by its name and password. -/
def guestBroker : Config.Broker := .ofCredentials "broker" "guest" "guest"

/-- A message is published and comes back. Then the broker closes the idle channel, and the next
    message finds it closed: its resource is closed, and it is not sent. The third message gets a
    new connection, but the broker closes the channel as soon as it has opened it. -/
def interrupted : List (Act Outbound) :=
  [.trigger { payload := "hello" }, .proceed 1, .proceed 1, .answer 1, .answer 1, .answer 1,
    .answer 1, .answer 1, .answer 1, .proceed 1, .revoke 1,
    .trigger { payload := "again" }, .proceed 2, .proceed 2, .answer 2, .answer 2, .answer 2,
    .answer 2,
    .trigger { payload := "at last" }, .proceed 3, .proceed 3, .answer 3, .answer 3, .revoke 2,
    .answer 3, .answer 3, .answer 3]

theorem frames_in_order_interrupted :
    let peer : Peer := { route := .through, script := [(.publish, .returned)] }
    ∃ s, Site.run {} guestBroker (publisher {}) { peer } interrupted = some s ∧
      s.peer.framesOn 1 = greeting guestBroker ++ [.openChannel, .selectConfirm false,
        .publish (publication {} { payload := "hello" }), connectionClose] ∧
      s.peer.framesOn 2 = greeting guestBroker ++ [.openChannel, connectionClose] ∧
      Conduct guestBroker (.selectConfirm false) (Publishes {}) s := by
  have fresh : Peer.sessions { route := .through, script := [(.publish, .returned)] } = [] := rfl
  have conduct := (frames_in_order {} guestBroker fresh (by decide)).1 {} interrupted _ rfl
  exact ⟨_, rfl, rfl, rfl, conduct⟩

/-- A channel that is not opened is not prepared either: the connection is closed at once. -/
theorem setup_left_out_refused :
    let refusal := Reaction.closeChannel 403 "no channel for this user"
    let peer : Peer := { route := .through, script := [(.openChannel, refusal)] }
    peer.sessions = [] ∧ Steady peer.script ∧
      ∃ s, Site.run {} guestBroker (publisher {}) { peer } [.trigger { payload := "hello" },
        .proceed 1, .proceed 1, .answer 1, .answer 1, .answer 1, .answer 1] = some s ∧
      s.peer.framesOn 1 = greeting guestBroker ++ [.openChannel, connectionClose] ∧
      ∀ body, Prepared (.selectConfirm false) (Publishes {}) body →
        ¬ s.peer.framesOn 1 <+: greeting guestBroker ++ (body ++ [connectionClose]) := by
  refine ⟨rfl, by decide, _, rfl, rfl, ?_⟩
  rintro body ⟨ops, part, -, -, rfl⟩ order
  have sent : greeting guestBroker ++ [Frame.openChannel, connectionClose] <+:
      greeting guestBroker ++ (.openChannel :: .selectConfirm false :: (ops.flatten ++ part) ++
        [connectionClose]) := order
  have second := (List.cons_prefix_cons.mp ((List.prefix_append_right_inj _).mp sent)).2
  exact nomatch (List.cons_prefix_cons.mp second).1

end BrokerPool.Broker
