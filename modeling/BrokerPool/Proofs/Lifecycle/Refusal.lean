import BrokerPool.Proofs.Lifecycle.Drain
import BrokerPool.Proofs.Lifecycle.Precedence

/-!
# A closed pool refuses

A trigger asks once whether the pool is closed, before it does anything else. Whoever asks too late
gets nothing and does nothing. Whoever has asked in time goes on as if nothing had happened, up to
the moment when the resource would go back: a resource that comes too late is closed.

Results:
* `Run.shutdown_of_closed`: a pool is closed by a shutdown, and by nothing else.
* `refusal_of_late`: where a trigger stands that began in a closed pool (`Refusal`).
* `Ends.turned_away`, `Ends.own`: how a trigger ends that found the pool open.
* `refused_once_closed`: the laws of a closed pool, in every run whatever.
-/

namespace BrokerPool.Lifecycle

variable {ι ω : Type}

/-! ## One turn -/

section Turns

variable {role : Role} {w w' : World} {old new : Option (Stage ι ω)} {a : Action ι ω}
  {events : List Event} {goal : Goal ι} {word : List (Deed ι ω)}

/-- Only an open pool admits anybody. -/
theorem Passage.opened_of_admitted (p : Passage role w old a w' new events)
    (h : .admitted ∈ deeds old a new) : w.pool.closed = false := by
  cases p with
  | pass n goal opened => exact opened
  | _ => simp [deeds, noted, Stage.resource?] at h

/-- Only a closed pool refuses anybody. -/
theorem Passage.closed_of_refused (p : Passage role w old a w' new events)
    (h : new = some (.ended (.failed .shutdown))) : w.pool.closed = true := by
  cases p with
  | refuse n goal closed => exact closed
  | reuse n goal r rest idle => cases goal <;> simp [Stage.obtained] at h
  | equip n goal c r made => cases goal <;> simp [Stage.obtained] at h
  | connectionClosed n r worker purpose result =>
    generalize Stage.firstFailure r worker (Stage.fault? result) = failure at h
    cases purpose <;> cases failure <;> simp [Stage.settled] at h
  | _ => simp at h

theorem Passage.proceed_of_closes (p : Passage role w old a w' new events)
    (h : w.pool.closed = false) (h' : w'.pool.closed = true) : ∃ n, a = .proceed n := by
  cases p with
  | close n => exact ⟨n, rfl⟩
  | _ => simp [h] at h'

theorem Passage.closed_of_seals {n : ℕ} (p : Passage role w (some .sealing) a w' new events)
    (h : a = .proceed n) : w'.pool.closed = true := by
  cases p with
  | close => rfl
  | cancel | abandon => simp at h

theorem Passage.start_of_began {what : Start ι} (p : Passage role w old a w' new events)
    (h : .began what ∈ deeds old a new) : a = .start what := by
  cases p with
  | enter goal => simpa [deeds, noted, created?, Stage.request?, eq_comm] using h
  | enterShutdown => simpa [deeds, noted, created?, Stage.request?, eq_comm] using h
  | _ => simp [deeds, noted, Stage.resource?] at h

/-- The check-in of a resource that comes too late. -/
theorem Passage.turns_away {r : Resource} {output : ω} {n : ℕ}
    (p : Passage role w (some (.returning r output)) (.proceed n) w' new events)
    (h : w.pool.closed = true) : new = some (.closingWorker r (.refused output)) ∧ w' = w := by
  cases p with
  | turnAway n r output closed => exact ⟨rfl, rfl⟩
  | giveBack n r output opened => simp [h] at opened

/-- Where a trigger stands, and what it has done, if the pool was closed when it began: it waits to
    be refused, or it was refused, or its caller went away before. -/
inductive Refusal (goal : Goal ι) : List (Deed ι ω) → Option (Stage ι ω) → Prop
  | waiting : Refusal goal [] (some (.entering goal))
  | refused : Refusal goal [.refused] (some (.ended (.failed .shutdown)))
  | left : Refusal goal [.left] none

/-- What a refused trigger does leaves everything as it is, and asks for nothing. -/
theorem Refusal.quiet (h : Refusal goal word old) (p : Passage role w old a w' new events)
    (closed : w.pool.closed = true) : new.bind Stage.request? = none ∧ w' = w := by
  cases h with
  | waiting =>
    cases p with
    | pass n goal opened => simp [closed] at opened
    | refuse | cancel | abandon => exact ⟨rfl, rfl⟩
  | refused =>
    cases p with
    | cancel n stage awaited step => simp [Stage.awaited] at awaited
    | abandon n stage awaited => simp [Stage.awaited] at awaited
  | left => cases p <;> exact ⟨rfl, rfl⟩

end Turns

/-! ## Stories of triggers that were admitted, or not -/

section Stories

variable {target : String} {goal : Goal ι} {word got : List (Deed ι ω)} {r : Resource}
  {outcome : Outcome ω}

theorem Stands.refusal {st : Stage ι ω} (h : Stands target goal word st) (out : .admitted ∉ word) :
    Refusal goal word (some st) := by
  cases st with
  | entering g =>
    obtain ⟨rfl, rfl⟩ := h
    exact .waiting
  | picking | connecting | equipping =>
    obtain ⟨-, rfl⟩ := h
    simp at out
  | unwinding =>
    obtain rfl := h
    simp at out
  | holding | processing =>
    obtain ⟨-, got, -, rfl⟩ := h
    simp at out
  | returning =>
    obtain ⟨got, input, -, -, rfl⟩ := h
    simp at out
  | closingWorker =>
    obtain ⟨before, -, rfl⟩ := h
    simp at out
  | closingConnection =>
    obtain ⟨before, worker, -, -, rfl⟩ := h
    simp at out
  | sealing | draining => exact h.elim
  | ended outcome =>
    cases h with
    | refused => exact .refused
    | _ => simp at out

/-- A trigger that was admitted ends as its step does. -/
theorem Ends.own (h : Ends target goal word outcome) (admitted : .admitted ∈ word) :
    outcome ≠ .failed .shutdown ∧
    (∀ output, outcome = .output output ↔ .heard (.processed (.ok output)) ∈ word) ∧
    ∀ cause, (∃ r suppressed, outcome = .failed (.processing ⟨r, cause, suppressed⟩)) ↔
      .heard (.processed (.error cause)) ∈ word := by
  cases h with
  | refused => simp at admitted
  | unconnected | unequipped => simp [exchange]
  | pooled output obtains _ | turnedAway output _ _ obtains _ =>
    cases obtains <;> simp [exchange, closing, eq_comm]
  | discarded cause _ _ obtains _ => cases obtains <;> simp [exchange, closing, eq_comm]
  | deserted _ _ obtains _ | closed _ _ obtains _ => cases obtains <;> simp [exchange, closing]

/-- A trigger whose step has succeeded, and that closes the resource, gives its output when it has
    closed both halves. -/
theorem Ends.turned_away {output : ω} (h : Ends target goal word outcome)
    (processed : .heard (.processed (.ok output)) ∈ word)
    (closes : .asked (.closeWorker r) ∈ word) :
    outcome = .output output ∧ ∃ got input worker connection, Obtains got r ∧ goal.Allows input ∧
      word = .admitted :: (got ++ exchange (.process r input) (.processed (.ok output)) ++
        closing r worker connection) := by
  cases h with
  | @turnedAway got r' input output' worker connection obtains allows =>
    have he : output = output' ∧ r = r' := by
      cases obtains <;> simpa [exchange, closing, eq_comm] using And.intro processed closes
    obtain ⟨rfl, rfl⟩ := he
    exact ⟨rfl, got, input, worker, connection, obtains, allows, rfl⟩
  | refused | unconnected | unequipped => simp [exchange] at processed
  | pooled _ obtains _ => cases obtains <;> simp [exchange] at closes
  | discarded _ _ _ obtains _ | deserted _ _ obtains _ | closed _ _ obtains _ =>
    cases obtains <;> simp [exchange, closing] at processed

end Stories

/-! ## The turn that closes the pool -/

section Sealing

variable {role : Role} {permits : Option (Stage ι ω) → Action ι ω → Prop} {start s : System ι ω}
  {history : List (Turn ι ω)}

/-- The turn of a shutdown that closes the pool. -/
def Turn.Seals (t : Turn ι ω) : Prop := t.old = some .sealing ∧ t.action = .proceed t.call

theorem Turn.Around.closed_of_seals {t : Turn ι ω} {left right : List (ℕ × Stage ι ω)}
    (h : t.Around role left right) (seals : t.Seals) : t.after.world.pool.closed = true := by
  have p := h.passage
  rw [seals.1] at p
  exact p.closed_of_seals seals.2

/-- A closed pool was closed by a turn of a shutdown. -/
theorem Run.sealed_of_closed (run : Run role permits {} history s)
    (h : s.world.pool.closed = true) :
    ∃ earlier t later, history = earlier ++ t :: later ∧ t.Seals := by
  refine run.induction (P := fun history s => s.world.pool.closed = true →
    ∃ earlier t later, history = earlier ++ t :: later ∧ t.Seals) numbered_empty (by simp) ?_ h
  intro history t left right _ _ _ ha ih hc
  by_cases hb : t.before.world.pool.closed = true
  · obtain ⟨earlier, u, later, rfl, seals⟩ := ih hb
    exact ⟨earlier, u, later ++ [t], by simp, seals⟩
  · rw [Bool.not_eq_true] at hb
    obtain ⟨n, hn⟩ := ha.passage.proceed_of_closes hb hc
    refine ⟨history, t, [], rfl, (ha.passage.closes hb hc).1, ?_⟩
    rw [hn, Turn.call, hn, Action.call]

/-- What a story tells of a beginning has happened. -/
theorem start_of_story (run : Run role permits {} history s) {n : ℕ} {what : Start ι}
    (h : .began what ∈ story n history) : ∃ t ∈ history, t.call = n ∧ t.action = .start what := by
  obtain ⟨t, ht, hd⟩ := List.mem_flatMap.mp h
  split_ifs at hd with hn
  · obtain ⟨before, after, rfl⟩ := List.append_of_mem ht
    obtain ⟨-, -, -, ⟨left, right, ha⟩, -⟩ := run.split numbered_empty
    exact ⟨t, ht, hn, ha.passage.start_of_began hd⟩
  · simp at hd

/-- A pool is closed by a shutdown that somebody has called, and by nothing else. -/
theorem Run.shutdown_of_closed (run : Run role permits {} history s)
    (h : s.world.pool.closed = true) :
    ∃ v ∈ history, v.action = .start .shutdown ∧ ∃ t ∈ history, t.call = v.call ∧ t.Seals := by
  obtain ⟨earlier, t, later, rfl, seals⟩ := run.sealed_of_closed h
  obtain ⟨before, -, -, -, -⟩ := run.split numbered_empty
  have telling := telling_of_run before t.call
  rw [show t.before.stage? t.call = some .sealing from seals.1] at telling
  obtain ⟨what, rest, began, stands⟩ := telling
  cases what with
  | acquire goal => exact (stands goal rfl).elim
  | shutdown =>
    obtain ⟨v, hv, hn, start⟩ := start_of_story before (began ▸ List.mem_cons_self)
    exact ⟨v, List.mem_append_left _ hv, start, t, by simp, hn.symm, seals⟩

/-- What is not idle in a closed pool never is again. -/
theorem Run.not_idle_of_closed (hs : start.Numbered) (run : Run role permits start history s)
    (h : start.world.pool.closed = true) {r : Resource} (hr : r ∉ start.world.pool.idle) :
    r ∉ s.world.pool.idle := by
  have hk := run.induction (P := fun _ s => s.world.pool.closed = true ∧ r ∉ s.world.pool.idle) hs
    ⟨h, hr⟩ ?_
  · exact hk.2
  intro history t left right _ _ _ ha ⟨hc, hi⟩
  refine ⟨ha.passage.stays_closed hc, ?_⟩
  rcases ha.passage.shrinks hc with he | ⟨r', he⟩
  · rwa [he]
  · rw [he] at hi
    exact fun hm => hi (List.mem_cons_of_mem _ hm)

theorem Run.last_le (hs : start.Numbered) (run : Run role permits start history s) :
    start.last ≤ s.last := by
  refine run.induction (P := fun _ s => start.last ≤ s.last) hs le_rfl ?_
  intro history t left right _ _ _ ha ih
  exact ih.trans ((le_max_left _ _).trans ha.last)

end Sealing

/-! ## Triggers that begin in a closed pool -/

section Late

variable {role : Role} {permits : Option (Stage ι ω) → Action ι ω → Prop} {s : System ι ω}
  {earlier later : List (Turn ι ω)} {t u : Turn ι ω} {goal : Goal ι} {word : List (Deed ι ω)}
  {n : ℕ}

/-- Where a trigger stood before one of its turns is told by its story up to there. -/
theorem stood_before {st : Stage ι ω} (run : Run role permits {} (earlier ++ u :: later) s)
    (hold : u.old = some st)
    (began : story u.call (earlier ++ u :: later) = .began (.acquire goal) :: word) :
    ∃ rest, story u.call earlier = .began (.acquire goal) :: rest ∧
      word = rest ++ u.deeds ++ story u.call later ∧ Stands role.target goal rest st := by
  obtain ⟨before, -, -, -, -⟩ := run.split numbered_empty
  have telling := telling_of_run before u.call
  rw [show u.before.stage? u.call = some st from hold] at telling
  obtain ⟨what, rest, he, stands⟩ := telling
  have hsplit : story u.call (u :: later) = u.deeds ++ story u.call later := by
    rw [story, List.flatMap_cons, if_pos rfl]
    rfl
  rw [story_append, he, hsplit, List.cons_append] at began
  obtain ⟨hw, rfl⟩ := List.cons.inj began
  cases hw
  exact ⟨rest, he, by rw [List.append_assoc], stands goal rfl⟩

/-- Nobody who begins after the pool is closed is admitted. -/
theorem not_admitted_of_late (run : Run role permits {} (earlier ++ t :: later) s)
    (closed : t.after.world.pool.closed = true) (hn : t.after.last < n) :
    .admitted ∉ story n (earlier ++ t :: later) := by
  obtain ⟨-, through, -, -, after⟩ := run.split numbered_empty
  rw [List.append_cons, story_append, story_of_last_lt through hn, List.nil_append]
  intro hm
  obtain ⟨u, hu, hd⟩ := List.mem_flatMap.mp hm
  obtain ⟨hc, -, left, right, ha⟩ := after.turn_closed (through.numbered numbered_empty) closed hu
  split_ifs at hd
  · simp [ha.passage.opened_of_admitted hd] at hc
  · simp at hd

/-- Where a trigger stands that began in a closed pool. -/
theorem refusal_of_late (run : Run role permits {} (earlier ++ t :: later) s)
    (closed : t.after.world.pool.closed = true) (hn : t.after.last < n)
    (began : story n (earlier ++ t :: later) = .began (.acquire goal) :: word) :
    Refusal goal word (s.stage? n) := by
  have out : .admitted ∉ word := fun hm =>
    not_admitted_of_late run closed hn (began ▸ List.mem_cons_of_mem _ hm)
  cases hs : s.stage? n with
  | some st => exact (stands_of_run run hs began).refusal out
  | none =>
    obtain ⟨rest, st, rfl, hst, stands⟩ := stood_of_run run hs began
    cases stands.refusal fun hm => out (List.mem_append_left _ hm) with
    | waiting => exact .left
    | refused => exact absurd rfl (hst _)

/-- A trigger that began in a closed pool leaves everything as it is, and asks for nothing. -/
theorem quiet_of_late (run : Run role permits {} (earlier ++ t :: later) s)
    (closed : t.after.world.pool.closed = true) (hu : u ∈ later) (hn : t.after.last < u.call)
    (began : story u.call (earlier ++ t :: later) = .began (.acquire goal) :: word) :
    u.asked = none ∧ u.after.world = u.before.world := by
  obtain ⟨-, through, -, -, after⟩ := run.split numbered_empty
  obtain ⟨hc, -, left, right, ha⟩ := after.turn_closed (through.numbered numbered_empty) closed hu
  obtain ⟨before, behind, rfl⟩ := List.append_of_mem hu
  rw [← List.cons_append, ← List.append_assoc] at run began
  obtain ⟨hb, -, -, -, -⟩ := run.split numbered_empty
  have p := ha.passage
  cases hold : u.old with
  | none =>
    rw [hold] at p
    have gone : Refusal goal [.left] (none : Option (Stage ι ω)) := .left
    exact gone.quiet p hc
  | some st =>
    obtain ⟨rest, hr, -, -⟩ := stood_before run hold began
    exact (refusal_of_late hb closed hn hr).quiet p hc

/-- A trigger that waits to be refused has only to make its move. -/
theorem System.refuses (hs : s.Numbered) (closed : s.world.pool.closed = true)
    (h : s.stage? n = some (.entering goal)) (role : Role) :
    ∃ s', s.step role (.proceed n) = some (s', []) ∧
      s'.stage? n = some (.ended (.failed .shutdown)) ∧ s'.world = s.world := by
  obtain ⟨left, right, hc, ho⟩ := hs.split h
  refine ⟨s.put n (.ended (.failed .shutdown)), ?_, ?_, rfl⟩
  · simp [System.step, h, Stage.proceed, closed, System.apply, System.put]
  · exact System.stage?_of_split (by simpa using System.put_calls hc ho) ho

/-- A resource that comes back too late is closed, and is not in the pool again. -/
theorem turned_away_of_late {r : Resource} {output : ω}
    (run : Run role permits {} (earlier ++ t :: later) s)
    (closed : t.after.world.pool.closed = true) (hu : u ∈ later)
    (hold : u.old = some (.returning r output)) (ha : u.action = .proceed n) :
    u.new = some (.closingWorker r (.refused output)) ∧ u.after.world = u.before.world ∧
      r ∉ s.world.pool.idle := by
  obtain ⟨-, through, -, -, after⟩ := run.split numbered_empty
  obtain ⟨hc, -, left, right, around⟩ :=
    after.turn_closed (through.numbered numbered_empty) closed hu
  obtain ⟨before, behind, rfl⟩ := List.append_of_mem hu
  rw [← List.cons_append, ← List.append_assoc] at run
  obtain ⟨hb, htu, -, -, hafter⟩ := run.split numbered_empty
  have p := around.passage
  rw [hold, ha] at p
  obtain ⟨hnew, hw⟩ := p.turns_away hc
  refine ⟨hnew, hw, ?_⟩
  -- The call that comes back has the resource, so it is not idle, and the pool takes nothing.
  have hi : r ∉ u.before.world.pool.idle :=
    not_idle_of_owner hb (around.mem_before.mpr (.inr ⟨_, hold, rfl⟩)) rfl
  exact hafter.not_idle_of_closed (htu.numbered numbered_empty) (by rw [hw]; exact hc)
    (by rw [hw]; exact hi)

/-- Such a call closes both halves of the resource, and gives its output. -/
theorem Ends.of_turned_away {r : Resource} {output : ω} {outcome : Outcome ω}
    (run : Run role permits {} (earlier ++ u :: later) s)
    (began : story u.call (earlier ++ u :: later) = .began (.acquire goal) :: word)
    (hold : u.old = some (.returning r output))
    (hnew : u.new = some (.closingWorker r (.refused output)))
    (hs : s.stage? u.call = some (.ended outcome)) :
    outcome = .output output ∧ ∃ got input worker connection, Obtains got r ∧ goal.Allows input ∧
      word = .admitted :: (got ++ exchange (.process r input) (.processed (.ok output)) ++
        closing r worker connection) := by
  have ends : Ends role.target goal word outcome := stands_of_run run hs began
  obtain ⟨rest, -, rfl, got, input, -, -, rfl⟩ := stood_before run hold began
  refine ends.turned_away (by simp [exchange]) ?_
  have : .asked (.closeWorker r) ∈ u.deeds := by
    rw [Turn.deeds, hnew]
    simp [deeds, Stage.request?]
  simp [this]

end Late

/-! ## The laws of a closed pool -/

section Laws

variable {role : Role} {permits : Option (Stage ι ω) → Action ι ω → Prop} {s : System ι ω}
  {history : List (Turn ι ω)}

/-- What holds of the turns `later` that come after the pool was closed. -/
structure Refuses (role : Role) (history later : List (Turn ι ω)) (s : System ι ω) : Prop where
  /-- Nothing opens the pool again. -/
  closed : s.world.pool.closed = true ∧ ∀ u ∈ later, u.before.world.pool.closed = true
  /-- Whoever begins now to look for a resource gets nothing but the refusal, -/
  refused : ∀ u ∈ later, ∀ goal, u.action = .start (.acquire goal) →
    ∃ word, story u.call history = .began (.acquire goal) :: word ∧
      Refusal goal word (s.stage? u.call)
  /-- which needs one move and no answer. -/
  returns : ∀ n goal, s.stage? n = some (.entering goal) →
    ∃ s', s.step role (.proceed n) = some (s', []) ∧
      s'.stage? n = some (.ended (.failed .shutdown)) ∧ s'.world = s.world
  /-- No turn of it asks for anything, or changes what is idle. -/
  quiet : ∀ u ∈ later, ∀ goal, u.action = .start (.acquire goal) → ∀ v ∈ later, v.call = u.call →
    v.asked = none ∧ v.after.world = v.before.world

/-- What holds of a trigger `n` that found the pool open, or of a caller that wants a resource to
    hold; `word` is what it does. -/
structure Admitted (role : Role) (goal : Goal ι) (n : ℕ) (word : List (Deed ι ω))
    (history : List (Turn ι ω)) (s : System ι ω) : Prop where
  /-- Its result is that of its own step. -/
  own : ∀ outcome, s.stage? n = some (.ended outcome) → outcome ≠ .failed .shutdown ∧
    (∀ output, outcome = .output output ↔ .heard (.processed (.ok output)) ∈ word) ∧
    ∀ cause, (∃ r suppressed, outcome = .failed (.processing ⟨r, cause, suppressed⟩)) ↔
      .heard (.processed (.error cause)) ∈ word
  /-- It moves on whatever it is answered, until it ends or its caller holds the resource, -/
  goes_on : ∀ st, s.stage? n = some st → (∃ outcome, st = .ended outcome) ∨
    (∃ r, st = .holding r ∧ goal = .acquire) ∨ (s.step role (.proceed n)).isSome ∨
    ∃ request, st.request? = some request ∧
      ∀ answer, request.Answers answer → (s.step role (.resume n answer)).isSome
  /-- and makes a few turns only. -/
  turns : (history.countP fun t => t.call == n) ≤ 14
  /-- If the pool was closed before its resource comes back, the resource does not get into the pool
      again, -/
  late : ∀ earlier t later, history = earlier ++ t :: later → t.Seals → ∀ u ∈ later, u.call = n →
    ∀ r output m, u.old = some (.returning r output) → u.action = .proceed m →
      u.asked = some (.closeWorker r) ∧ u.after.world = u.before.world ∧ r ∉ s.world.pool.idle ∧
      -- and both of its halves are closed when the output is returned.
      ∀ outcome, s.stage? n = some (.ended outcome) → outcome = .output output ∧
        ∃ got input worker connection, Obtains got r ∧ goal.Allows input ∧
          word = .admitted :: (got ++ exchange (.process r input) (.processed (.ok output)) ++
            closing r worker connection)

/-- What the shutdown of a controller means for all others. -/
structure RefusalLaws (role : Role) (history : List (Turn ι ω)) (s : System ι ω) : Prop where
  from_close : ∀ earlier t later, history = earlier ++ t :: later → t.Seals →
    Refuses role history later s
  /-- Nobody is refused before a shutdown was called and has closed the pool. -/
  only_then : ∀ earlier u later, history = earlier ++ u :: later →
    u.new = some (.ended (.failed .shutdown)) → ∃ v ∈ earlier, v.action = .start .shutdown ∧
      ∃ t ∈ earlier, t.call = v.call ∧ t.Seals
  admitted : ∀ t ∈ history, ∀ goal, t.action = .start (.acquire goal) →
    ∃ word, story t.call history = .began (.acquire goal) :: word ∧
      (.admitted ∈ word → Admitted role goal t.call word history s)

theorem refuses_of_run {earlier later : List (Turn ι ω)} {t : Turn ι ω}
    (run : Run role permits {} (earlier ++ t :: later) s) (seals : t.Seals) :
    Refuses role (earlier ++ t :: later) later s := by
  obtain ⟨-, through, -, ⟨left, right, around⟩, after⟩ := run.split numbered_empty
  have numbered := through.numbered numbered_empty
  have closed := around.closed_of_seals seals
  have late : ∀ u ∈ later, ∀ goal, u.action = .start (.acquire goal) → t.after.last < u.call := by
    intro u hu goal start
    obtain ⟨before, behind, rfl⟩ := List.append_of_mem hu
    obtain ⟨hb, -, -, -, -⟩ := after.split numbered
    have := hb.last_le numbered
    rw [Turn.call, start, Action.call]
    omega
  have began : ∀ u ∈ later, ∀ goal, u.action = .start (.acquire goal) →
      ∃ word, story u.call (earlier ++ t :: later) = .began (.acquire goal) :: word :=
    fun u hu goal start => story_of_start run (by simp [hu]) start
  constructor
  case closed =>
    exact ⟨after.stays_closed numbered closed, fun u hu => (after.turn_closed numbered closed hu).1⟩
  case refused =>
    intro u hu goal start
    obtain ⟨word, hw⟩ := began u hu goal start
    exact ⟨word, hw, refusal_of_late run closed (late u hu goal start) hw⟩
  case returns =>
    exact fun n goal hs => System.refuses (run.numbered numbered_empty)
      (after.stays_closed numbered closed) hs role
  case quiet =>
    intro u hu goal start v hv hn
    obtain ⟨word, hw⟩ := began u hu goal start
    rw [← hn] at hw
    exact quiet_of_late run closed hv (hn ▸ late u hu goal start) hw

theorem admitted_of_run (run : Run role permits {} history s) {n : ℕ} {goal : Goal ι}
    {word : List (Deed ι ω)} (began : story n history = .began (.acquire goal) :: word)
    (admitted : .admitted ∈ word) : Admitted role goal n word history s := by
  constructor
  case own => exact fun outcome hs => Ends.own (stands_of_run run hs began) admitted
  case goes_on => exact fun st hst => goes_on_of_run run began hst
  case turns => exact turns_of_run run began
  case late =>
    rintro earlier t later rfl seals u hu rfl r output m hold ha
    obtain ⟨-, -, -, ⟨left, right, around⟩, -⟩ := run.split numbered_empty
    obtain ⟨hnew, hw, hi⟩ :=
      turned_away_of_late run (around.closed_of_seals seals) hu hold ha
    refine ⟨by rw [Turn.asked, hnew]; rfl, hw, hi, fun outcome hs => ?_⟩
    obtain ⟨before, behind, rfl⟩ := List.append_of_mem hu
    rw [← List.cons_append, ← List.append_assoc] at run began
    exact Ends.of_turned_away run began hold hnew hs

/-- From the close of the pool on every trigger that begins is refused, nobody is refused before,
    and those that found the pool open end as their steps do, in every run whatever. -/
theorem refused_once_closed (run : Run role permits {} history s) : RefusalLaws role history s := by
  constructor
  case from_close =>
    rintro earlier t later rfl seals
    exact refuses_of_run run seals
  case only_then =>
    rintro earlier u later rfl hu
    obtain ⟨before, -, -, ⟨left, right, around⟩, -⟩ := run.split numbered_empty
    exact before.shutdown_of_closed (around.passage.closed_of_refused hu)
  case admitted =>
    intro t ht goal start
    obtain ⟨word, began⟩ := story_of_start run ht start
    exact ⟨word, began, admitted_of_run run began⟩

/-- A shutdown closes the pool while one step runs and another trigger waits for its connection.
    Both resources come back too late, and a third trigger is refused. -/
theorem refused_once_closed_between : ∃ history s,
    Run ⟨"broker", "step"⟩ Orderly ({} : System Unit Unit) history s ∧
      s.stage? 1 = some (.ended (.output ())) ∧ s.stage? 2 = some (.ended (.output ())) ∧
      s.stage? 4 = some (.ended (.failed .shutdown)) ∧
      RefusalLaws ⟨"broker", "step"⟩ history s := by
  have h : System.turns ⟨"broker", "step"⟩ ({} : System Unit Unit)
      [.start (.acquire (.trigger ())), .proceed 1, .proceed 1, .resume 1 (.connected (.ok ())),
        .resume 1 (.equipped (.ok ())), .start (.acquire (.trigger ())), .proceed 2, .proceed 2,
        .start .shutdown, .proceed 3, .start (.acquire (.trigger ())), .proceed 4,
        .resume 1 (.processed (.ok ())), .proceed 1, .resume 2 (.connected (.ok ())),
        .resume 2 (.equipped (.ok ())), .resume 2 (.processed (.ok ())), .proceed 2,
        .resume 1 (.closed (.error ⟨"gone", []⟩)), .resume 1 (.closed (.ok ())),
        .resume 2 (.closed (.ok ())), .resume 2 (.closed (.ok ())), .proceed 3] = some (_, _) := rfl
  have run : Run _ Orderly _ _ _ := Run.of_turns h (by decide)
  exact ⟨_, _, run, rfl, rfl, rfl, refused_once_closed run⟩

end Laws

end BrokerPool.Lifecycle
