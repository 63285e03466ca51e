import BrokerPool.Proofs.Lifecycle.Ownership

/-!
# Draining the pool

The first shutdown that closes the pool finds a number of idle resources, and from then on there can
only be fewer. Every drain takes some of them, one in each iteration, and so do triggers that have
asked whether the pool is closed before it was. Whatever is given back later is closed at once.

Results:
* `Passage.stays_closed`, `Passage.shrinks`: a closed pool stays closed and takes nothing back.
* `Passage.advance`: how a shutdown goes from one stage to the next (`Advance`).
* `drain_balanced`: idle resources, those that drains have taken, and those that triggers took come
  to what there was.
* `failures_balanced`: the summaries have the failures that the drains have met.
-/

namespace BrokerPool.Lifecycle

variable {ι ω : Type}

/-! ## The stages of a shutdown -/

/-- The number of resources that a shutdown has closed, with or without a failure. -/
def Summary.handled (summary : Summary) : ℕ := summary.closed + summary.failures.length

namespace Stage

/-- What a shutdown has achieved, once it has closed the pool. -/
def summary? : Stage ι ω → Option Summary
  | .draining summary | .closingWorker _ (.drain summary)
  | .closingConnection _ _ (.drain summary) | .ended (.drained summary) => some summary
  | _ => none

/-- A shutdown that has not returned. -/
def shutting : Stage ι ω → Bool
  | .sealing | .draining _ | .closingWorker _ (.drain _) | .closingConnection _ _ (.drain _) => true
  | _ => false

/-- A trigger that has not returned, or the holder of a resource. What goes on in the background is
    no trigger any more. -/
def triggers : Stage ι ω → Bool
  | .sealing | .draining _ | .ended _ => false
  | .closingWorker _ (.drain _) | .closingWorker _ .background => false
  | .closingConnection _ _ (.drain _) | .closingConnection _ _ .background => false
  | _ => true

/-- The resources that a shutdown has taken out of the pool. -/
def taken : Stage ι ω → ℕ
  | .draining summary | .ended (.drained summary) => summary.handled
  | .closingWorker _ (.drain summary) | .closingConnection _ _ (.drain summary) =>
    summary.handled + 1
  | _ => 0

/-- The turns that a shutdown has made: it begins, closes the pool, makes three turns for each
    resource, and ends. -/
def turnsMade : Stage ι ω → ℕ
  | .sealing => 1
  | .draining summary => 3 * summary.handled + 2
  | .closingWorker _ (.drain summary) => 3 * summary.handled + 3
  | .closingConnection _ _ (.drain summary) => 3 * summary.handled + 4
  | .ended (.drained summary) => 3 * summary.handled + 3
  | _ => 0

/-- The failures that a shutdown has met. -/
def failures (st : Stage ι ω) : List CloseError := (st.summary?.map (·.failures)).getD []

/-- The call is a shutdown. -/
def shutsDown (st : Stage ι ω) : Bool := st.shutting || st.summary?.isSome

theorem turnsMade_le (st : Stage ι ω) : st.turnsMade ≤ 3 * st.taken + 3 := by
  cases st with
  | closingWorker r purpose => cases purpose <;> simp only [turnsMade, taken] <;> omega
  | closingConnection r worker purpose => cases purpose <;> simp only [turnsMade, taken] <;> omega
  | ended outcome => cases outcome <;> simp only [turnsMade, taken] <;> omega
  | _ => simp only [turnsMade, taken]; omega

theorem taken_of_summary? {st : Stage ι ω} (h : st.summary? = none) : st.taken = 0 := by
  cases st with
  | closingWorker r purpose => cases purpose <;> simp_all [summary?, taken]
  | closingConnection r worker purpose => cases purpose <;> simp_all [summary?, taken]
  | ended outcome => cases outcome <;> simp_all [summary?, taken]
  | _ => simp_all [summary?, taken]

@[simp] theorem shutsDown_obtained (goal : Goal ι) (r : Resource) :
    (obtained goal r : Stage ι ω).shutsDown = false := by cases goal <;> rfl

theorem summary?_of_shutsDown {st : Stage ι ω} (h : st.shutsDown = false) : st.summary? = none := by
  rw [shutsDown, Bool.or_eq_false_iff, Option.isSome_eq_false_iff, Option.isNone_iff_eq_none] at h
  exact h.2

theorem turnsMade_of_shutsDown {st : Stage ι ω} (h : st.shutsDown = false) : st.turnsMade = 0 := by
  cases st with
  | closingWorker r purpose => cases purpose <;> simp_all [shutsDown, shutting, turnsMade]
  | closingConnection r worker purpose =>
    cases purpose <;> simp_all [shutsDown, shutting, turnsMade]
  | ended outcome => cases outcome <;> simp_all [shutsDown, summary?, turnsMade]
  | _ => simp_all [shutsDown, shutting, turnsMade]

@[simp] theorem taken_obtained (goal : Goal ι) (r : Resource) :
    (obtained goal r : Stage ι ω).taken = 0 := by cases goal <;> rfl

/-- A shutdown goes on with its summary, where the resource counts as dealt with. -/
theorem taken_settled (r : Resource) (worker : Option Fault) (failure : Option CloseError)
    (purpose : Purpose ω) : (settled r failure purpose : Stage ι ω × _).1.taken =
      (.closingConnection r worker purpose : Stage ι ω).taken := by
  cases purpose <;> cases failure <;>
    simp [settled, taken, Summary.handled, Nat.add_assoc, Nat.add_comm 1]

end Stage

/-! ## What a turn does in a closed pool -/

section Turns

variable {role : Role} {permits : Option (Stage ι ω) → Action ι ω → Prop} {w w' : World}
  {old new : Option (Stage ι ω)} {a : Action ι ω} {events : List Event}

theorem Passage.stays_closed (p : Passage role w old a w' new events)
    (h : w.pool.closed = true) : w'.pool.closed = true := by
  cases p <;> first | exact h | rfl

/-- Only a shutdown that closes the pool changes whether it is closed. -/
theorem Passage.closes (p : Passage role w old a w' new events) (h : w.pool.closed = false)
    (h' : w'.pool.closed = true) :
    old = some .sealing ∧ new = some (.draining {}) ∧ w'.pool.idle = w.pool.idle := by
  cases p with
  | close n => exact ⟨rfl, rfl, rfl⟩
  | _ => simp [h] at h'

/-- A closed pool takes nothing back: what is idle stays so, or the first resource is taken out. -/
theorem Passage.shrinks (p : Passage role w old a w' new events) (h : w.pool.closed = true) :
    w'.pool.idle = w.pool.idle ∨ ∃ r, w.pool.idle = r :: w'.pool.idle := by
  cases p with
  | reuse n goal r rest idle => exact .inr ⟨r, idle⟩
  | drain n summary r rest idle => exact .inr ⟨r, idle⟩
  | giveBack n r output opened => simp [h] at opened
  | _ => exact .inl rfl

/-- No shutdown gets past the close of the pool while the pool is open. -/
theorem Passage.unsealed (p : Passage role w old a w' new events) (h : w'.pool.closed = false)
    (ho : ∀ st, old = some st → st.summary? = none) : ∀ st, new = some st → st.summary? = none := by
  cases p with
  | reuse n goal r rest idle => simp [Stage.summary?_of_shutsDown (Stage.shutsDown_obtained goal r)]
  | equip n goal c r made => simp [Stage.summary?_of_shutsDown (Stage.shutsDown_obtained goal r)]
  | connectionClosed n r worker purpose result =>
    have := ho _ rfl
    cases purpose <;> simp_all [Stage.summary?, Stage.settled]
  | workerClosed n r purpose result =>
    have := ho _ rfl
    cases purpose <;> simp_all [Stage.summary?]
  | close n => simp [Pool.close] at h
  | drain n summary r rest idle => simp [Stage.summary?] at ho
  | drained n summary idle => simp [Stage.summary?] at ho
  | _ => simp [Stage.summary?]

theorem Passage.open_of_open (p : Passage role w old a w' new events)
    (h : w'.pool.closed = false) : w.pool.closed = false := by
  by_contra hw
  rw [Bool.not_eq_false] at hw
  simp [p.stays_closed hw] at h

/-- No call gets to the idle resources of a closed pool, except a shutdown. -/
theorem Passage.not_picking (p : Passage role w old a w' new events) (h : w.pool.closed = true)
    (goal : Goal ι) : new ≠ some (.picking goal) := by
  cases p with
  | pass n goal opened => simp [h] at opened
  | reuse n goal r rest idle => cases goal <;> simp [Stage.obtained]
  | equip n goal c r made => cases goal <;> simp [Stage.obtained]
  | connectionClosed n r worker purpose result =>
    generalize Stage.firstFailure r worker (Stage.fault? result) = failure
    cases purpose <;> cases failure <;> simp [Stage.settled]
  | _ => simp

theorem Passage.idle_of_drained (p : Passage role w old a w' new events) {summary : Summary}
    (h : new = some (.ended (.drained summary))) : w'.pool.idle = [] := by
  cases p with
  | reuse n goal r rest idle => cases goal <;> simp [Stage.obtained] at h
  | equip n goal c r made => cases goal <;> simp [Stage.obtained] at h
  | connectionClosed n r worker purpose result =>
    generalize Stage.firstFailure r worker (Stage.fault? result) = failure at h
    cases purpose <;> cases failure <;> simp [Stage.settled] at h
  | drained n summary idle => exact idle
  | _ => simp at h

/-! ## How a shutdown advances -/

/-- A summary with one more resource, which has failed to close or not. -/
def Summary.add (summary : Summary) : Option CloseError → Summary
  | none => { summary with closed := summary.closed + 1 }
  | some e => { summary with failures := summary.failures ++ [e] }

theorem Summary.handled_add (summary : Summary) (failure : Option CloseError) :
    (summary.add failure).handled = summary.handled + 1 := by
  cases failure with
  | none => simp only [add, handled]; omega
  | some e => simp only [add, handled, List.length_append, List.length_singleton]; omega

theorem Summary.failures_add (summary : Summary) (failure : Option CloseError) :
    (summary.add failure).failures = summary.failures ++ failure.toList := by
  cases failure with
  | none => exact (List.append_nil _).symm
  | some e => rfl

/-- What a turn does to a call as far as shutdowns are concerned, if no caller of one goes away. -/
inductive Advance : Option (Stage ι ω) → Action ι ω → Option (Stage ι ω) → Prop
  | other {old : Option (Stage ι ω)} {a : Action ι ω} {new : Option (Stage ι ω)}
    (before : old.any Stage.shutsDown = false) (after : new.any Stage.shutsDown = false) :
    Advance old a new
  | enter : Advance none (.start .shutdown) (some .sealing)
  | close (n : ℕ) : Advance (some .sealing) (.proceed n) (some (.draining {}))
  | take (n : ℕ) (r : Resource) (summary : Summary) :
    Advance (some (.draining summary)) (.proceed n) (some (.closingWorker r (.drain summary)))
  | closeWorker (n : ℕ) (r : Resource) (summary : Summary) (result : Except Fault Unit) :
    Advance (some (.closingWorker r (.drain summary))) (.resume n (.closed result))
      (some (.closingConnection r (Stage.fault? result) (.drain summary)))
  | closeConnection (n : ℕ) (r : Resource) (worker : Option Fault) (summary : Summary)
    (result : Except Fault Unit) :
    Advance (some (.closingConnection r worker (.drain summary))) (.resume n (.closed result))
      (some (.draining (summary.add (Stage.firstFailure r worker (Stage.fault? result)))))
  | finish (n : ℕ) (summary : Summary) :
    Advance (some (.draining summary)) (.proceed n) (some (.ended (.drained summary)))

theorem Passage.advance (p : Passage role w old a w' new events) (ho : Orderly old a) :
    Advance old a new := by
  have hl := p.orderly ho
  cases p with
  | enterShutdown => exact .enter
  | reuse n goal r rest idle => exact .other rfl (Stage.shutsDown_obtained goal r)
  | equip n goal c r made => exact .other rfl (Stage.shutsDown_obtained goal r)
  | workerClosed n r purpose result =>
    cases purpose with
    | drain summary => exact .closeWorker n r summary result
    | _ => exact .other rfl rfl
  | connectionClosed n r worker purpose result =>
    cases purpose with
    | drain summary =>
      have h : Advance (some (.closingConnection r worker (.drain summary) : Stage ι ω)) _ _ :=
        .closeConnection n r worker summary result
      cases hf : Stage.firstFailure r worker (Stage.fault? result) <;> rw [hf] at h <;> exact h
    | _ => exact .other rfl rfl
  | close n => exact .close n
  | drain n summary r rest idle => exact .take n r summary
  | drained n summary idle => exact .finish n summary
  | cancel n stage awaited step => simp [lost?] at hl
  | abandon n stage awaited => simp [lost?] at hl
  | _ => exact .other rfl rfl

/-! ## What turns count -/

/-- A trigger takes an idle resource. -/
def reuses : Option (Stage ι ω) → Option (Stage ι ω) → Bool
  | some (.picking _), some st => st.resource?.isSome
  | _, _ => false

/-- A resource is given back to the pool. -/
def givesBack : Option (Stage ι ω) → Option (Stage ι ω) → Bool
  | some (.returning _ _), some (.ended _) => true
  | _, _ => false

/-- An iteration of a drain: it takes an idle resource. -/
def iterates : Option (Stage ι ω) → Option (Stage ι ω) → Bool
  | some (.draining _), some (.closingWorker _ _) => true
  | _, _ => false

/-- A turn of a shutdown. -/
def ofShutdown (new : Option (Stage ι ω)) : Bool := new.any Stage.shutsDown

/-- The failure of a resource that a drain has closed. -/
def drainFailure? : Option (Stage ι ω) → Action ι ω → Option (Resource × CloseError)
  | some (.closingConnection r worker (.drain _)), .resume _ (.closed result) =>
    (Stage.firstFailure r worker (Stage.fault? result)).map (r, ·)
  | _, _ => none

theorem Passage.keeps_out (p : Passage role w old a w' new events) (h : w.pool.closed = true) :
    givesBack old new = false := by
  cases p with
  | giveBack n r output opened => simp [h] at opened
  | cancel n stage awaited step => cases stage <;> rfl
  | abandon n stage awaited => cases stage <;> rfl
  | _ => rfl

/-- What is taken out of the pool or given back to it. -/
theorem Passage.idle_taken (p : Passage role w old a w' new events) (ho : Orderly old a) :
    w'.pool.idle.length + new.elim 0 Stage.taken + (reuses old new).toNat =
      w.pool.idle.length + old.elim 0 Stage.taken + (givesBack old new).toNat := by
  have hl := p.orderly ho
  cases p with
  | reuse n goal r rest idle =>
    rw [Option.elim_some, Stage.taken_obtained]
    simp [idle, reuses, givesBack, Stage.taken]
  | equip n goal c r made =>
    rw [Option.elim_some, Stage.taken_obtained]
    simp [reuses, givesBack, Stage.taken]
  | miss n goal idle => simp [reuses, givesBack, Stage.taken, Stage.resource?]
  | giveBack n r output opened => simp [reuses, givesBack, Stage.taken]
  | connectionClosed n r worker purpose result =>
    simp only [Option.elim_some, Stage.taken_settled r worker, reuses, givesBack]
  | drain n summary r rest idle =>
    simp [idle, reuses, givesBack, Stage.taken, Nat.add_assoc, Nat.add_comm 1]
  | workerClosed n r purpose result => cases purpose <;> simp [reuses, givesBack, Stage.taken]
  | cancel n stage awaited step => simp [lost?] at hl
  | abandon n stage awaited => simp [lost?] at hl
  | _ => simp [reuses, givesBack, Stage.taken, Summary.handled, Pool.close]

/-- What is nothing for a call that is no shutdown is nothing without a call. -/
theorem elim_eq_zero {M : Type} [Zero M] {f : Stage ι ω → M} {o : Option (Stage ι ω)}
    (hf : ∀ st, st.shutsDown = false → f st = 0) (h : o.any Stage.shutsDown = false) :
    o.elim 0 f = 0 := by
  cases o with
  | none => rfl
  | some st => exact hf st h

/-- A shutdown has taken as many resources as it has made iterations. -/
theorem Advance.taken (h : Advance old a new) :
    new.elim 0 Stage.taken = old.elim 0 Stage.taken + (iterates old new).toNat := by
  cases h with
  | other before after =>
    have hz : ∀ st : Stage ι ω, st.shutsDown = false → st.taken = 0 := fun st hst =>
      Stage.taken_of_summary? (Stage.summary?_of_shutsDown hst)
    have hi : iterates old new = false := by
      unfold iterates
      split
      · simp [Stage.shutsDown, Stage.shutting] at before
      · rfl
    rw [elim_eq_zero hz before, elim_eq_zero hz after, hi]
    rfl
  | closeConnection n r worker summary result => exact Summary.handled_add summary _
  | _ => rfl

/-- The stage of a shutdown tells how many turns it has made. -/
theorem Advance.turnsMade (h : Advance old a new) :
    new.elim 0 Stage.turnsMade = old.elim 0 Stage.turnsMade + (ofShutdown new).toNat := by
  cases h with
  | other before after =>
    have hz : ∀ st : Stage ι ω, st.shutsDown = false → st.turnsMade = 0 := fun st =>
      Stage.turnsMade_of_shutsDown
    rw [elim_eq_zero hz before, elim_eq_zero hz after, ofShutdown, after]
    rfl
  | closeConnection n r worker summary result =>
    simp only [Option.elim_some, Stage.turnsMade, Summary.handled_add, ofShutdown, Option.any_some,
      Stage.shutsDown, Stage.shutting, Bool.true_or, Bool.toNat_true]
    omega
  | _ => rfl

/-- The failures that a shutdown has met are in its summary. -/
theorem Advance.failures (h : Advance old a new) :
    (new.elim 0 fun st => (st.failures : Multiset CloseError)) =
      (old.elim 0 fun st => (st.failures : Multiset CloseError)) +
        ((drainFailure? old a).map Prod.snd).toList := by
  cases h with
  | other before after =>
    have hz : ∀ st : Stage ι ω, st.shutsDown = false → (st.failures : Multiset CloseError) = 0 := by
      intro st hst
      rw [Stage.failures, Stage.summary?_of_shutsDown hst]
      rfl
    have hi : drainFailure? old a = none := by
      unfold drainFailure?
      split
      · simp [Stage.shutsDown, Stage.shutting] at before
      · rfl
    rw [elim_eq_zero hz before, elim_eq_zero hz after, hi]
    rfl
  | closeConnection n r worker summary result =>
    simp only [Option.elim_some, Stage.failures, Stage.summary?, Option.map_some, Option.getD_some,
      Summary.failures_add, drainFailure?, ← Multiset.coe_add]
    cases Stage.firstFailure r worker (Stage.fault? result) <;> rfl
  | _ => simp [drainFailure?, Stage.failures, Stage.summary?]

/-- A shutdown stays one. -/
theorem Advance.summary?_isSome (h : Advance old a new) {st : Stage ι ω} (hold : old = some st)
    (hst : st.summary?.isSome) : ∃ st', new = some st' ∧ st'.summary?.isSome := by
  subst hold
  cases h with
  | other before after => simp_all [Stage.shutsDown]
  | close n => simp [Stage.summary?] at hst
  | _ => exact ⟨_, rfl, rfl⟩

end Turns

/-! ## From the first close on -/

theorem sum_map_toNat {α : Type} (p : α → Bool) (l : List α) :
    (l.map fun a => (p a).toNat).sum = l.countP p := by
  induction l with
  | nil => rfl
  | cons a l ih =>
    rw [List.map_cons, List.sum_cons, ih, List.countP_cons, Nat.add_comm]
    cases p a <;> rfl

theorem sum_map_coe {α β : Type} (f : α → List β) (l : List α) :
    (l.map fun a => (f a : Multiset β)).sum = (l.flatMap f : List β) := by
  induction l with
  | nil => rfl
  | cons a l ih => rw [List.map_cons, List.sum_cons, ih, List.flatMap_cons, Multiset.coe_add]

section Closed

variable {role : Role} {permits : Option (Stage ι ω) → Action ι ω → Prop} {start s : System ι ω}
  {history : List (Turn ι ω)}

theorem Run.stays_closed (hs : start.Numbered) (run : Run role permits start history s)
    (h : start.world.pool.closed = true) : s.world.pool.closed = true := by
  refine run.induction (P := fun _ s => s.world.pool.closed = true) hs h ?_
  intro history t left right _ _ _ h ih
  exact h.passage.stays_closed ih

/-- Every turn of a run from a closed pool finds it closed. -/
theorem Run.turn_closed (hs : start.Numbered) (run : Run role permits start history s)
    (h : start.world.pool.closed = true) {t : Turn ι ω} (ht : t ∈ history) :
    t.before.world.pool.closed = true ∧ permits t.old t.action ∧
      ∃ left right, t.Around role left right := by
  obtain ⟨before, after, rfl⟩ := List.append_of_mem ht
  obtain ⟨hb, -, hp, ha, -⟩ := run.split hs
  exact ⟨hb.stays_closed hs h, hp, ha⟩

/-- What a closed pool had is still there, or was taken by a drain or by a trigger. -/
theorem drain_balanced (hs : start.Numbered) (run : Run role Orderly start history s)
    (h : start.world.pool.closed = true) :
    s.world.pool.idle.length + s.total (fun _ => Stage.taken) +
        (history.countP fun t => reuses t.old t.new) =
      start.world.pool.idle.length + start.total (fun _ => Stage.taken) := by
  have hb := run.tally (fun _ => Stage.taken) (fun w => w.pool.idle.length)
    (fun _ old _ new => (givesBack old new).toNat) (fun _ old _ new => (reuses old new).toNat) hs
    fun n w old a w' new events p permitted => p.idle_taken permitted
  have hk : (history.countP fun t => givesBack t.old t.new) = 0 := by
    rw [List.countP_eq_zero]
    intro t ht
    obtain ⟨hc, -, left, right, ha⟩ := run.turn_closed hs h ht
    simp [ha.passage.keeps_out hc]
  simp only [sum_map_toNat, hk, add_zero] at hb
  exact hb

/-- The failures in all summaries are those that the drains have met. -/
theorem failures_balanced (hs : start.Numbered) (run : Run role Orderly start history s)
    (h : ∀ c ∈ start.calls, c.2.failures = []) :
    (s.calls.flatMap (·.2.failures)).Perm
      (history.filterMap fun t => (drainFailure? t.old t.action).map Prod.snd) := by
  have hb := run.tally (fun _ st => (st.failures : Multiset CloseError)) (fun _ => 0)
    (fun _ old a _ => ((drainFailure? old a).map Prod.snd).toList) (fun _ _ _ _ => 0) hs
    fun n w old a w' new events p permitted => by
      rw [zero_add, add_zero, zero_add, (p.advance permitted).failures]
  have h0 : start.total (fun _ st => (st.failures : Multiset CloseError)) = 0 := by
    rw [System.total, List.sum_eq_zero]
    intro x hx
    obtain ⟨c, hc, rfl⟩ := List.mem_map.mp hx
    rw [h c hc, Multiset.coe_nil]
  rw [h0] at hb
  simp only [sum_map_toList, zero_add, add_zero, List.sum_map_zero] at hb
  rw [← Multiset.coe_eq_coe, ← hb, System.total, sum_map_coe]

/-- While the pool is open, no shutdown has closed it. -/
theorem Run.summary?_of_open (run : Run role permits {} history s)
    (h : s.world.pool.closed = false) : ∀ c ∈ s.calls, c.2.summary? = none := by
  have hq := run.each_call (I := fun _ => True)
    (Q := fun w _ st => w.pool.closed = false → st.summary? = none) numbered_empty trivial
    (by simp) (fun _ _ _ _ _ _ _ _ => trivial) ?frame ?move
  case frame =>
    intro w old a w' new events n st p _ hq ho
    exact hq (p.open_of_open ho)
  case move =>
    intro w old a w' new events n p _ _ hq st hst ho
    exact p.unsealed ho (fun st hst => hq st hst (p.open_of_open ho)) st hst
  exact fun c hc => hq.2 c hc h

/-- Whoever takes an idle resource out of a closed pool for a trigger was about to do so before. -/
theorem Run.picking_of_closed (hs : start.Numbered) (run : Run role permits start history s)
    (h : start.world.pool.closed = true) {n : ℕ} {goal : Goal ι}
    (hn : s.stage? n = some (.picking goal)) : start.stage? n = some (.picking goal) := by
  have hq := run.each_call (I := fun w => w.pool.closed = true)
    (Q := fun _ n st => ∀ goal, st = .picking goal → start.stage? n = some (.picking goal)) hs h
    ?base (fun _ _ _ _ _ _ p => p.stays_closed) (fun _ _ _ _ _ _ _ _ _ _ hq => hq) ?move
  case base => rintro ⟨n, _⟩ hc goal rfl; exact hs.mem_iff.mp hc
  case move =>
    rintro w old a w' new events n p _ hw hq _ hst goal rfl
    exact absurd hst (p.not_picking hw goal)
  exact hq.2 (n, .picking goal) ((run.numbered hs).mem_iff.mpr hn) goal rfl

/-- When a shutdown has returned, nothing is idle. -/
theorem Run.idle_of_drained (hs : start.Numbered) (run : Run role permits start history s)
    (h : start.world.pool.closed = true) (base : ∀ c ∈ start.calls, ∀ summary,
      c.2 ≠ .ended (.drained summary)) {n : ℕ} {summary : Summary}
    (hc : (n, .ended (.drained summary)) ∈ s.calls) : s.world.pool.idle = [] := by
  have hq := run.each_call (I := fun w => w.pool.closed = true)
    (Q := fun w _ st => ∀ summary, st = .ended (.drained summary) → w.pool.idle = []) hs h
    (fun c hc summary he => absurd he (base c hc summary)) (fun _ _ _ _ _ _ p => p.stays_closed)
    ?frame ?move
  case frame =>
    intro w old a w' new events n st p hw hq summary he
    rcases p.shrinks hw with hi | ⟨r, hi⟩
    · rw [hi, hq summary he]
    · simp [hq summary he] at hi
  case move =>
    rintro w old a w' new events n p _ _ _ _ hst summary rfl
    exact p.idle_of_drained hst
  exact hq.2 _ hc summary rfl

/-- A shutdown stays one. -/
theorem Run.summary?_isSome (hs : start.Numbered) (run : Run role Orderly start history s)
    {n : ℕ} (h : ∃ st, start.stage? n = some st ∧ st.summary?.isSome) :
    ∃ st, s.stage? n = some st ∧ st.summary?.isSome := by
  refine run.induction (P := fun _ s => ∃ st, s.stage? n = some st ∧ st.summary?.isSome) hs h ?_
  rintro history t left right _ _ permitted ha ⟨st, hst, hsome⟩
  by_cases hn : n = t.call
  · subst hn
    exact (ha.passage.advance permitted).summary?_isSome hst hsome
  · exact ⟨st, by rw [ha.stage?_of_ne hn]; exact hst, hsome⟩

end Closed

end BrokerPool.Lifecycle
