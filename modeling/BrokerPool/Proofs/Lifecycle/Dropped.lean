import BrokerPool.Proofs.Lifecycle.Ownership

/-!
# Callers that go away

A caller may go away wherever it waits. While its step runs, somebody is left to close the
resource. While a worker is made or closed, nobody is: the connection that the call has is forsaken,
and this is the only way to lose one. In the end every connection is idle, or was closed once, or is
forsaken.

Results:
* `closes_balanced`: idle connections, those with calls that are still to close them, those closed
  and those forsaken are all that were made.
* `closed_unless_forsaken`: when all calls have ended, all connections but the forsaken ones are
  idle or were closed once.
* `worker_creation_dropped`: a connection can be forsaken.
-/

namespace BrokerPool.Lifecycle

variable {ι ω : Type}

/-! ## Connections that are asked to close -/

/-- The connection that a request closes. -/
def Request.closing? : Request ι → Option ℕ
  | .closeConnection c => some c
  | _ => none

/-- The connection that a call has and has not asked to close. -/
def Stage.unclosed? : Stage ι ω → Option ℕ
  | .equipping _ c => some c
  | .holding r | .processing r _ | .returning r _ | .closingWorker r _ => some r.connection
  | _ => none

/-- The connection of a call that goes away while it waits for the worker to be made or closed. -/
def forsaken? : Option (Stage ι ω) → Action ι ω → Option ℕ
  | some (.equipping _ c), .cancel _ => some c
  | some (.closingWorker r _), .cancel _ => some r.connection
  | _, _ => none

/-- The connections that were asked to close, each as often as it was. -/
def closeCalls (history : List (Turn ι ω)) : List ℕ :=
  history.filterMap fun t => t.asked.bind Request.closing?

/-- The connections that were forsaken. -/
def forsaken (history : List (Turn ι ω)) : List ℕ :=
  history.filterMap fun t => forsaken? t.old t.action

namespace Stage

/-- The call has ended. -/
def finished : Stage ι ω → Bool
  | .ended _ => true
  | _ => false

@[simp] theorem unclosed?_obtained (goal : Goal ι) (r : Resource) :
    (obtained goal r : Stage ι ω).unclosed? = some r.connection := by cases goal <;> rfl

@[simp] theorem unclosed?_settled (r : Resource) (failure : Option CloseError)
    (purpose : Purpose ω) : (settled r failure purpose : Stage ι ω × _).1.unclosed? = none := by
  cases purpose <;> cases failure <;> rfl

@[simp] theorem closing?_obtained (goal : Goal ι) (r : Resource) :
    ((obtained goal r : Stage ι ω).request?.bind Request.closing?) = none := by cases goal <;> rfl

@[simp] theorem closing?_settled (r : Resource) (failure : Option CloseError)
    (purpose : Purpose ω) :
    ((settled r failure purpose : Stage ι ω × _).1.request?.bind Request.closing?) = none := by
  cases purpose <;> cases failure <;> rfl

end Stage

section Account

variable {role : Role} {s : System ι ω} {history : List (Turn ι ω)} {w w' : World}
  {old new : Option (Stage ι ω)} {a : Action ι ω} {events : List Event}

/-- A connection stays with those who have not asked to close it until it is asked to close or
    forsaken. -/
theorem Passage.unclosed (p : Passage role w old a w' new events) (h : Droppable old a) :
    ((w'.pool.idle.map (·.connection) : List ℕ) : Multiset ℕ) +
        (new.bind Stage.unclosed?).toList +
        (((new.bind Stage.request?).bind Request.closing?).toList + (forsaken? old a).toList) =
      ((w.pool.idle.map (·.connection) : List ℕ) : Multiset ℕ) +
        (old.bind Stage.unclosed?).toList + (opened? old a).toList := by
  cases p with
  | reuse n goal r rest idle =>
    rw [Option.bind_some, Option.bind_some, Stage.unclosed?_obtained, Stage.closing?_obtained]
    simp [idle, coe_cons, opened?, forsaken?, Stage.unclosed?]
  | equip n goal c r made =>
    rw [Option.bind_some, Option.bind_some, Stage.unclosed?_obtained, Stage.closing?_obtained]
    simp [made, opened?, forsaken?, Stage.unclosed?]
  | giveBack n r output opened =>
    simp [coe_cons, opened?, forsaken?, Stage.unclosed?, Stage.request?]
  | connectionClosed n r worker purpose result =>
    rw [Option.bind_some, Option.bind_some, Stage.unclosed?_settled, Stage.closing?_settled]
    simp [opened?, forsaken?, Stage.unclosed?]
  | close n => simp [Pool.close, opened?, forsaken?, Stage.unclosed?, Stage.request?]
  | drain n summary r rest idle =>
    simp [idle, coe_cons, opened?, forsaken?, Stage.unclosed?, Stage.request?, Request.closing?]
  | cancel n stage awaited step =>
    cases stage with
    | processing r input => exact absurd rfl (step r input)
    | _ => simp_all [Droppable, opened?, forsaken?, Stage.unclosed?, Stage.request?]
  | letGo n r => exact h.elim
  | abandon n stage awaited => exact h.elim
  | _ => simp [opened?, forsaken?, Stage.unclosed?, Stage.request?, Request.closing?]

/-- Connections made are idle, with a call that is still to close them, asked to close, or
    forsaken. -/
theorem closes_balanced (run : Run role Droppable {} history s) :
    ((s.world.pool.idle.map (·.connection) : List ℕ) : Multiset ℕ) +
      (s.calls.filterMap (·.2.unclosed?) : List ℕ) +
      ((closeCalls history : List ℕ) + (forsaken history : List ℕ)) =
        (opened history : List ℕ) := by
  have h := run.tally (fun _ st => (st.unclosed?.toList : Multiset ℕ))
    (fun w => (w.pool.idle.map (·.connection) : List ℕ)) (fun _ old a _ => (opened? old a).toList)
    (fun _ old a new => (((new.bind Stage.request?).bind Request.closing?).toList : Multiset ℕ) +
      (forsaken? old a).toList) numbered_empty ?_
  · simp only [List.sum_map_add, System.total, sum_map_toList] at h
    simpa [closeCalls, forsaken, opened, Turn.asked] using h
  · intro n w old a w' new events p permitted
    simpa only [elim_toList] using p.unclosed permitted

/-- When all calls have ended, nobody is left to close anything. -/
theorem closes_perm (run : Run role Droppable {} history s)
    (done : ∀ c ∈ s.calls, c.2.finished = true) :
    (s.world.pool.idle.map (·.connection) ++ (closeCalls history ++ forsaken history)).Perm
      (opened history) := by
  have hn : s.calls.filterMap (·.2.unclosed?) = [] := by
    rw [List.filterMap_eq_nil_iff]
    intro c hc
    have ho := done c hc
    cases hst : c.2 <;> simp_all [Stage.finished, Stage.unclosed?]
  have h := closes_balanced run
  rw [hn, Multiset.coe_nil, add_zero, Multiset.coe_add, Multiset.coe_add] at h
  exact Multiset.coe_eq_coe.mp h

/-- Where every connection has ended up. -/
structure EndedUp (history : List (Turn ι ω)) (s : System ι ω) : Prop where
  /-- A connection is idle once, was asked to close once, or was forsaken once. -/
  one_end : ∀ c ∈ opened history, (s.world.pool.idle.map (·.connection)).count c +
    (closeCalls history).count c + (forsaken history).count c = 1
  kept : ∀ c ∈ opened history, (c ∈ s.world.pool.idle.map (·.connection) ∨
    (closeCalls history).count c = 1) ↔ c ∉ forsaken history
  /-- All connections are idle or were closed exactly when none was forsaken. -/
  all_kept : (∀ c ∈ opened history, c ∈ s.world.pool.idle.map (·.connection) ∨
    (closeCalls history).count c = 1) ↔ forsaken history = []

/-- When all calls have ended, every connection is idle, or was asked to close exactly once, unless
    it was forsaken. -/
theorem closed_unless_forsaken (run : Run role Droppable {} history s)
    (done : ∀ c ∈ s.calls, c.2.finished = true) : EndedUp history s := by
  have hperm := closes_perm run done
  have one_end : ∀ c ∈ opened history, (s.world.pool.idle.map (·.connection)).count c +
      (closeCalls history).count c + (forsaken history).count c = 1 := by
    intro c hc
    rw [← List.count_eq_one_of_mem (opened_nodup run) hc, ← hperm.count_eq, List.count_append,
      List.count_append, Nat.add_assoc]
  have kept : ∀ c ∈ opened history, (c ∈ s.world.pool.idle.map (·.connection) ∨
      (closeCalls history).count c = 1) ↔ c ∉ forsaken history := by
    intro c hc
    have := one_end c hc
    rw [← List.count_pos_iff, ← List.count_eq_zero]
    omega
  refine ⟨one_end, kept, fun h => ?_, fun h c hc => (kept c hc).mpr (by simp [h])⟩
  refine List.eq_nil_iff_forall_not_mem.mpr fun c hf => ?_
  have hc : c ∈ opened history :=
    hperm.mem_iff.mp (List.mem_append_right _ (List.mem_append_right _ hf))
  exact (kept c hc).mp (h c hc) hf

/-- One caller goes away while its worker is made. Another one gives back what it used, and the
    caller of a shutdown goes away while the worker is closed. -/
theorem closed_unless_forsaken_twice : ∃ history s,
    Run ⟨"broker", "step"⟩ Droppable ({} : System Unit Unit) history s ∧
      (∀ c ∈ s.calls, c.2.finished = true) ∧ forsaken history = [1, 2] ∧
      EndedUp history s := by
  have h : System.turns ⟨"broker", "step"⟩ ({} : System Unit Unit)
      [.start (.acquire (.trigger ())), .proceed 1, .proceed 1, .resume 1 (.connected (.ok ())),
        .cancel 1, .start (.acquire (.trigger ())), .proceed 2, .proceed 2,
        .resume 2 (.connected (.ok ())), .resume 2 (.equipped (.ok ())),
        .resume 2 (.processed (.ok ())), .proceed 2, .start .shutdown, .proceed 3, .proceed 3,
        .cancel 3] = some (_, _) := rfl
  have run : Run _ Droppable _ _ _ := Run.of_turns h (by decide)
  exact ⟨_, _, run, by decide, rfl, closed_unless_forsaken run (by decide)⟩

/-- A caller that goes away while its worker is made leaves an open connection behind that nobody
    closes. -/
theorem worker_creation_dropped : ¬ ∀ history s,
    Run ⟨"broker", "step"⟩ Droppable ({} : System Unit Unit) history s →
      (∀ c ∈ s.calls, c.2.finished = true) →
      ∀ c ∈ opened history, c ∈ s.world.pool.idle.map (·.connection) ∨
        (closeCalls history).count c = 1 := by
  intro all
  have h : System.turns ⟨"broker", "step"⟩ ({} : System Unit Unit)
      [.start (.acquire (.trigger ())), .proceed 1, .proceed 1, .resume 1 (.connected (.ok ())),
        .cancel 1] = some (_, _) := rfl
  have hc := all _ _ (Run.of_turns h (by decide)) (by decide) 1 (by decide)
  revert hc
  decide

end Account

end BrokerPool.Lifecycle
