import BrokerPool.Proofs.Lifecycle.Drain

/-!
# The pool grows with its callers

A resource is only built when nothing is idle. At that moment every resource that is in use or under
construction belongs to a caller of its own, so there are no more of them than callers in flight.
At all other times resources only change hands or go away. Hence there are never more of them than
there have been callers in flight at one time.

Results:
* `Passage.occupied`: a turn makes no additional resource, unless nothing is idle.
* `System.size_le_callers`: with nothing idle, every resource has a caller of its own.
* `size_le_peak`: the bound, over every run whatever.
-/

namespace BrokerPool.Lifecycle

variable {ι ω : Type}

/-! ## Counting resources and callers -/

namespace Stage

/-- A resource is under construction: its connection or its worker is awaited, or its connection is
    closed again because there is no worker. -/
def constructs : Stage ι ω → Bool
  | .connecting _ _ | .equipping _ _ | .unwinding _ _ => true
  | _ => false

/-- The call has a resource to use, or builds one. -/
def occupies (st : Stage ι ω) : Bool := st.holds || st.constructs

@[simp] theorem occupies_obtained (goal : Goal ι) (r : Resource) :
    (obtained goal r : Stage ι ω).occupies = true := by cases goal <;> rfl

@[simp] theorem occupies_settled (r : Resource) (failure : Option CloseError)
    (purpose : Purpose ω) : (settled r failure purpose : Stage ι ω × _).1.occupies = false := by
  cases purpose <;> cases failure <;> rfl

theorem triggers_of_occupies {st : Stage ι ω} (h : st.occupies = true) : st.triggers = true := by
  cases st <;> simp_all [occupies, holds, constructs, triggers]

end Stage

namespace System

/-- The callers in flight: their triggers have begun and not returned, or they hold a resource. -/
def callers (s : System ι ω) : ℕ := s.calls.countP (·.2.triggers)

/-- The resources that are idle, held or under construction. -/
def size (s : System ι ω) : ℕ := s.world.pool.idle.length + s.calls.countP (·.2.occupies)

/-- With nothing idle, every resource has a caller of its own. -/
theorem size_le_callers {s : System ι ω} (h : s.world.pool.idle = []) : s.size ≤ s.callers := by
  rw [size, h, List.length_nil, Nat.zero_add, callers]
  exact List.countP_mono_left fun c _ hc => Stage.triggers_of_occupies hc

end System

/-- The greatest number of callers that have been in flight at one time. -/
def peak (history : List (Turn ι ω)) : ℕ := (history.map (·.after.callers)).foldl max 0

theorem peak_snoc (history : List (Turn ι ω)) (t : Turn ι ω) :
    peak (history ++ [t]) = max (peak history) t.after.callers := by
  simp [peak]

/-! ## One turn -/

section Turns

variable {role : Role} {w w' : World} {old new : Option (Stage ι ω)} {a : Action ι ω}
  {events : List Event}

/-- A turn makes no additional resource, unless nothing is idle. -/
theorem Passage.occupied (p : Passage role w old a w' new events) :
    w'.pool.idle.length + new.elim 0 (·.occupies.toNat) ≤
      w.pool.idle.length + old.elim 0 (·.occupies.toNat) ∨ w'.pool.idle = [] := by
  cases p with
  | miss n goal idle => exact .inr idle
  | reuse n goal r rest idle =>
    left
    rw [Option.elim_some, Stage.occupies_obtained]
    simp [idle]
  | equip n goal c r made =>
    left
    rw [Option.elim_some, Stage.occupies_obtained]
    simp [Stage.occupies, Stage.constructs]
  | connectionClosed n r worker purpose result =>
    left
    rw [Option.elim_some, Stage.occupies_settled]
    simp
  | drain n summary r rest idle => left; simp [idle, Stage.occupies, Stage.holds, Stage.constructs]
  | close n => left; simp [Pool.close, Stage.occupies, Stage.holds, Stage.constructs]
  | _ => left; simp [Stage.occupies, Stage.holds, Stage.constructs]

theorem Turn.Around.size_le {t : Turn ι ω} {left right : List (ℕ × Stage ι ω)}
    (h : t.Around role left right) :
    t.after.size ≤ t.before.size ∨ t.after.size ≤ t.after.callers := by
  rcases h.passage.occupied with ho | hi
  · left
    obtain ⟨rest, hb, ha⟩ := h.total fun _ st => st.occupies.toNat
    simp only [System.total, sum_map_toNat] at hb ha
    rw [System.size, System.size, hb, ha]
    omega
  · exact .inr (System.size_le_callers hi)

end Turns

/-! ## All turns -/

section Runs

variable {role : Role} {permits : Option (Stage ι ω) → Action ι ω → Prop} {s : System ι ω}
  {history : List (Turn ι ω)}

/-- There are never more resources idle, held or under construction than there have been callers in
    flight at one time. -/
theorem size_le_peak (run : Run role permits {} history s) : s.size ≤ peak history := by
  refine run.induction (P := fun history s => s.size ≤ peak history) numbered_empty (by rfl) ?_
  intro history t left right _ _ _ h ih
  rw [peak_snoc]
  rcases h.size_le with hs | hs
  · exact hs.trans (ih.trans (le_max_left _ _))
  · exact hs.trans (le_max_right _ _)

/-- Two callers find nothing idle while the other one is still building. Both give back what they
    built, a third one takes one of the two resources, and its step fails. A fourth one goes away
    while its step runs, and a fifth one builds anew. -/
theorem size_le_peak_two : ∃ history s,
    Run ⟨"broker", "step"⟩ (fun _ _ => True) ({} : System Unit Unit) history s ∧
      peak history = 2 ∧ s.size = 1 ∧ (∃ t ∈ history, t.after.size = 2 ∧ t.after.callers = 0) ∧
      s.size ≤ peak history := by
  have h : System.turns ⟨"broker", "step"⟩ ({} : System Unit Unit)
      [.start (.acquire (.trigger ())), .proceed 1, .proceed 1, .start (.acquire (.trigger ())),
        .proceed 2, .proceed 2, .resume 1 (.connected (.ok ())), .resume 1 (.equipped (.ok ())),
        .resume 1 (.processed (.ok ())), .proceed 1, .resume 2 (.connected (.ok ())),
        .resume 2 (.equipped (.ok ())), .resume 2 (.processed (.ok ())), .proceed 2,
        .start (.acquire (.trigger ())), .proceed 3, .proceed 3,
        .resume 3 (.processed (.error ⟨"gone", []⟩)), .resume 3 (.closed (.ok ())),
        .resume 3 (.closed (.ok ())), .start (.acquire (.trigger ())), .proceed 4, .proceed 4,
        .cancel 4, .start (.acquire .acquire), .proceed 5, .proceed 5] = some (_, _) := rfl
  have run : Run _ (fun _ _ => True) _ _ _ := Run.of_turns h fun _ _ => trivial
  exact ⟨_, _, run, by decide, by decide, by decide, size_le_peak run⟩

end Runs

end BrokerPool.Lifecycle
