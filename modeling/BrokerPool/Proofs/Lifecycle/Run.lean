import BrokerPool.Proofs.Lifecycle.Passage
import Mathlib.Tactic.Abel

/-!
# Runs of a system

A run is a sequence of turns from one system to another, where every action is possible and
permitted. What a claim is about can be read off the turns: the history of a run.

Results:
* `Run.induction`: what every turn keeps holds at the end of every run.
* `Run.each_call`: what every call satisfies is kept if the call that moves keeps it.
* `Run.split`: every turn of a run comes after a run and before another one.
* `Run.of_turns`: actions that are possible and permitted one after the other make a run.
* `Run.count`: a count of the turns of one call can be read off its stage.
* `Run.tally`: an account that every single turn balances is balanced by every run.
-/

namespace BrokerPool.Lifecycle

variable {ι ω : Type}

/-- The runs from a system: any number of turns, where a permission decides by the stage of the call
    that moves and by the action. -/
inductive Run (role : Role) (permits : Option (Stage ι ω) → Action ι ω → Prop)
    (start : System ι ω) : List (Turn ι ω) → System ι ω → Prop
  | nil : Run role permits start [] start
  | snoc {history : List (Turn ι ω)} {s s' : System ι ω} {a : Action ι ω} {events : List Event}
    (run : Run role permits start history s) (permitted : permits (s.stage? (a.call s.last)) a)
    (step : s.step role a = some (s', events)) :
    Run role permits start (history ++ [⟨s, a, s', events⟩]) s'

/-! ## Permissions -/

/-- The step runs. -/
def Stage.runs : Stage ι ω → Bool
  | .processing _ _ => true
  | _ => false

/-- Callers may go away only while their step runs, and a resource that was acquired is used. -/
def Orderly (st : Option (Stage ι ω)) : Action ι ω → Prop
  | .start _ | .proceed _ | .resume _ _ | .run _ _ => True
  | .cancel _ => st.any Stage.runs
  | .close _ | .drop _ | .abandon _ => False

/-- Callers may go away wherever they wait for something. -/
def Droppable (st : Option (Stage ι ω)) : Action ι ω → Prop
  | .start _ | .proceed _ | .resume _ _ | .run _ _ => True
  | .cancel _ => (st.bind Stage.request?).isSome
  | .close _ | .drop _ | .abandon _ => False

instance (st : Option (Stage ι ω)) : DecidablePred (Orderly st)
  | .start _ | .proceed _ | .resume _ _ | .run _ _ => isTrue trivial
  | .cancel _ => inferInstanceAs (Decidable (st.any Stage.runs = true))
  | .close _ | .drop _ | .abandon _ => isFalse id

instance (st : Option (Stage ι ω)) : DecidablePred (Droppable st)
  | .start _ | .proceed _ | .resume _ _ | .run _ _ => isTrue trivial
  | .cancel _ => inferInstanceAs (Decidable ((st.bind Stage.request?).isSome = true))
  | .close _ | .drop _ | .abandon _ => isFalse id

namespace Run

variable {role : Role} {permits : Option (Stage ι ω) → Action ι ω → Prop} {start s s' : System ι ω}
  {history later : List (Turn ι ω)}

theorem append (first : Run role permits start history s) (second : Run role permits s later s') :
    Run role permits start (history ++ later) s' := by
  induction second with
  | nil => simpa using first
  | snoc _ permitted step ih => rw [← List.append_assoc]; exact ih.snoc permitted step

theorem numbered (hs : start.Numbered) (run : Run role permits start history s) : s.Numbered := by
  induction run with
  | nil => exact hs
  | snoc _ _ step ih =>
    obtain ⟨left, right, h⟩ := step_around ih step
    exact h.numbered ih

/-- What holds at the beginning, and is kept by every turn, holds at the end. -/
theorem induction {P : List (Turn ι ω) → System ι ω → Prop} (hs : start.Numbered)
    (base : P [] start)
    (next : ∀ history (t : Turn ι ω) left right, Run role permits start history t.before →
      Run role permits start (history ++ [t]) t.after → permits t.old t.action →
      t.Around role left right → P history t.before → P (history ++ [t]) t.after)
    (run : Run role permits start history s) : P history s := by
  induction run with
  | nil => exact base
  | snoc run permitted step ih =>
    obtain ⟨left, right, h⟩ := step_around (run.numbered hs) step
    exact next _ _ left right run (run.snoc permitted step) permitted h ih

/-- What every call satisfies is kept if it does not depend on what others do to the world (`frame`)
    and the call that moves keeps it. Both may use an invariant of the world. -/
theorem each_call {I : World → Prop} {Q : World → ℕ → Stage ι ω → Prop} (hs : start.Numbered)
    (world : I start.world) (base : ∀ c ∈ start.calls, Q start.world c.1 c.2)
    (keep : ∀ w (old : Option (Stage ι ω)) a w' new events,
      Passage role w old a w' new events → I w → I w')
    (frame : ∀ w (old : Option (Stage ι ω)) a w' new events n st,
      Passage role w old a w' new events → I w → Q w n st → Q w' n st)
    (move : ∀ w old a w' new events n, Passage role w old a w' new events → permits old a → I w →
      (∀ st, old = some st → Q w n st) → ∀ st, new = some st → Q w' n st)
    (run : Run role permits start history s) : I s.world ∧ ∀ c ∈ s.calls, Q s.world c.1 c.2 := by
  refine run.induction (P := fun _ s => I s.world ∧ ∀ c ∈ s.calls, Q s.world c.1 c.2)
    hs ⟨world, base⟩ ?_
  intro history t left right _ _ permitted h ⟨hw, ih⟩
  refine ⟨keep _ _ _ _ _ _ h.passage hw, fun c hc => ?_⟩
  rcases h.mem_after.mp hc with hc | ⟨st, hst, rfl⟩
  · exact frame _ _ _ _ _ _ _ _ h.passage hw (ih c (h.mem_before.mpr (.inl hc)))
  · refine move _ _ _ _ _ _ _ h.passage permitted hw (fun st hst => ?_) st hst
    exact ih (t.call, st) (h.mem_before.mpr (.inr ⟨st, hst, rfl⟩))

/-- A turn of a run comes after a run and before another one. -/
theorem split (hs : start.Numbered) {before after : List (Turn ι ω)} {t : Turn ι ω}
    (run : Run role permits start (before ++ t :: after) s) :
    Run role permits start before t.before ∧ Run role permits start (before ++ [t]) t.after ∧
      permits t.old t.action ∧ (∃ left right, t.Around role left right) ∧
      Run role permits t.after after s := by
  generalize hh : before ++ t :: after = history at run
  induction run generalizing after with
  | nil => simp at hh
  | @snoc history s s' a events run permitted step ih =>
    rcases List.eq_nil_or_concat after with rfl | ⟨after', last, rfl⟩
    · obtain ⟨rfl, ht⟩ := List.append_inj' hh rfl
      obtain rfl : t = _ := by simpa using ht
      exact ⟨run, run.snoc permitted step, permitted, step_around (run.numbered hs) step, .nil⟩
    · rw [List.concat_eq_append, ← List.cons_append, ← List.append_assoc] at hh
      obtain ⟨hh, hl⟩ := List.append_inj' hh rfl
      obtain ⟨hb, ht, hp, h, ha⟩ := ih hh
      obtain rfl : last = _ := by simpa using hl
      exact ⟨hb, ht, hp, h, by simpa using ha.snoc permitted step⟩

end Run

/-! ## Turns of given actions -/

/-- The turns of a sequence of actions, and the system after them, if all of them can happen. -/
def System.turns (role : Role) (s : System ι ω) :
    List (Action ι ω) → Option (List (Turn ι ω) × System ι ω)
  | [] => some ([], s)
  | a :: actions => do
    let (next, events) ← s.step role a
    let (history, last) ← next.turns role actions
    return (⟨s, a, next, events⟩ :: history, last)

theorem Run.of_turns {role : Role} {permits : Option (Stage ι ω) → Action ι ω → Prop}
    {actions : List (Action ι ω)} {s s' : System ι ω} {history : List (Turn ι ω)}
    (h : s.turns role actions = some (history, s'))
    (permitted : ∀ t ∈ history, permits t.old t.action) :
    Run role permits s history s' := by
  induction actions generalizing s history with
  | nil =>
    simp only [System.turns, Option.some.injEq, Prod.mk.injEq] at h
    obtain ⟨rfl, rfl⟩ := h
    exact .nil
  | cons a actions ih =>
    simp only [System.turns, Option.bind_eq_bind, Option.bind_eq_some_iff, Option.pure_def,
      Option.some.injEq, Prod.exists, Prod.mk.injEq] at h
    obtain ⟨next, events, hstep, rest, last, hrest, rfl, rfl⟩ := h
    rw [List.forall_mem_cons] at permitted
    exact (Run.nil.snoc permitted.1 hstep).append (ih hrest permitted.2)

/-- The system before any call. -/
theorem numbered_empty : ({} : System ι ω).Numbered := ⟨by simp, by simp⟩

/-! ## Accounts -/

section Tally

variable {M : Type} [AddCommMonoid M]

/-- What all calls of a system come to. -/
def System.total (f : ℕ → Stage ι ω → M) (s : System ι ω) : M :=
  (s.calls.map fun c => f c.1 c.2).sum

@[simp] theorem System.total_empty (f : ℕ → Stage ι ω → M) : ({} : System ι ω).total f = 0 := rfl

variable {role : Role} {permits : Option (Stage ι ω) → Action ι ω → Prop} {start s : System ι ω}
  {history : List (Turn ι ω)}

/-- The total changes by what the call that moves comes to. -/
theorem Turn.Around.total {t : Turn ι ω} {left right : List (ℕ × Stage ι ω)}
    (h : t.Around role left right) (f : ℕ → Stage ι ω → M) :
    ∃ rest, t.before.total f = t.old.elim 0 (f t.call) + rest ∧
      t.after.total f = t.new.elim 0 (f t.call) + rest := by
  refine ⟨(left.map fun c => f c.1 c.2).sum + (right.map fun c => f c.1 c.2).sum, ?_, ?_⟩
  · rw [System.total, h.before]
    cases t.old with
    | none => simp
    | some st => simp [add_left_comm]
  · rw [System.total, h.after]
    cases t.new with
    | none => simp
    | some st => simp [add_left_comm]

/-- An account of what calls stand for (`f`) and what they share (`g`) is balanced over a run if
    every turn balances it: the end and all losses come to the beginning and all gains. -/
theorem Run.tally (f : ℕ → Stage ι ω → M) (g : World → M)
    (gain loss : ℕ → Option (Stage ι ω) → Action ι ω → Option (Stage ι ω) → M) (hs : start.Numbered)
    (law : ∀ n w old a w' new events, Passage role w old a w' new events → permits old a →
      g w' + new.elim 0 (f n) + loss n old a new = g w + old.elim 0 (f n) + gain n old a new)
    (run : Run role permits start history s) :
    g s.world + s.total f + (history.map fun t => loss t.call t.old t.action t.new).sum =
      g start.world + start.total f +
        (history.map fun t => gain t.call t.old t.action t.new).sum := by
  refine run.induction (P := fun history s =>
    g s.world + s.total f + (history.map fun t => loss t.call t.old t.action t.new).sum =
      g start.world + start.total f + (history.map fun t => gain t.call t.old t.action t.new).sum)
    hs (by simp) ?_
  intro history t left right _ _ permitted h ih
  obtain ⟨rest, hb, ha⟩ := h.total f
  have hl := law t.call _ _ _ _ _ _ h.passage permitted
  rw [hb] at ih
  simp only [List.map_append, List.map_cons, List.map_nil, List.sum_append, List.sum_cons,
    List.sum_nil, add_zero]
  rw [ha, ← add_assoc (g start.world + start.total f), ← ih]
  generalize (history.map fun t => loss t.call t.old t.action t.new).sum = lost
  generalize loss t.call t.old t.action t.new = losing at hl ⊢
  generalize gain t.call t.old t.action t.new = gaining at hl ⊢
  calc g t.after.world + (t.new.elim 0 (f t.call) + rest) + (lost + losing)
      = g t.after.world + t.new.elim 0 (f t.call) + losing + (rest + lost) := by abel
    _ = g t.before.world + t.old.elim 0 (f t.call) + gaining + (rest + lost) := by rw [hl]
    _ = g t.before.world + (t.old.elim 0 (f t.call) + rest) + lost + gaining := by abel

/-- A count of turns of one call agrees with what its stage tells about it, if every turn does. -/
theorem Run.count (n : ℕ) (f : Stage ι ω → ℕ)
    (counts : Option (Stage ι ω) → Action ι ω → Option (Stage ι ω) → Bool) (hs : start.Numbered)
    (law : ∀ w old a w' new events, Passage role w old a w' new events → permits old a →
      new.elim 0 f = old.elim 0 f + (counts old a new).toNat)
    (run : Run role permits start history s) :
    (s.stage? n).elim 0 f = (start.stage? n).elim 0 f +
      history.countP fun t => t.call == n && counts t.old t.action t.new := by
  refine run.induction (P := fun history s => (s.stage? n).elim 0 f =
    (start.stage? n).elim 0 f +
      history.countP fun t => t.call == n && counts t.old t.action t.new) hs (by simp) ?_
  intro history t left right _ _ permitted h ih
  rw [List.countP_append, List.countP_singleton, ← add_assoc, ← ih]
  by_cases hn : t.call = n
  · subst hn
    have hl := law _ _ _ _ _ _ h.passage permitted
    rw [Turn.old, Turn.new] at hl
    rw [hl]
    rw [beq_self_eq_true, Bool.true_and, Turn.old, Turn.new]
    cases counts (t.before.stage? t.call) t.action (t.after.stage? t.call) <;> rfl
  · rw [h.stage?_of_ne (Ne.symm hn)]
    simp [hn]

/-- An account of what the calls share alone. -/
theorem Run.tally_world (g : World → M)
    (gain : Option (Stage ι ω) → Action ι ω → Option (Stage ι ω) → M) (hs : start.Numbered)
    (law : ∀ w old a w' new events, Passage role w old a w' new events →
      g w' = g w + gain old a new)
    (run : Run role permits start history s) :
    g s.world = g start.world + (history.map fun t => gain t.old t.action t.new).sum := by
  have h := run.tally (fun _ _ => 0) g (fun _ => gain) (fun _ _ _ _ => 0) hs
    fun n w old a w' new events p _ => by
      rw [law _ _ _ _ _ _ p]
      cases old <;> cases new <;> simp
  simpa [System.total] using h

end Tally

end BrokerPool.Lifecycle
