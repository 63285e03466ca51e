import BrokerPool.Lifecycle.Controller
import BrokerPool.Proofs.Lifecycle.Story

/-!
# The first failure is returned

A trigger asks for up to five things, and each of them may fail: a connection, a worker, its step,
and the close of the worker and of the connection. What the caller gets is decided by the first
failure. The failures of closes come later and stand beside it, or are not returned at all.

Results:
* `brief_of_run`: a trigger asks for each thing at most once, in a fixed order.
* `Ends.pools_of_failed`: a trigger that fails gives nothing back to the pool.
* `primary_failure_returned`: how every trigger ends, in every run whatever.
-/

namespace BrokerPool.Lifecycle

variable {ι ω : Type}

/-! ## The order of requests -/

/-- The place of a request in the order in which a trigger makes them. -/
def Request.rank : Request ι → ℕ
  | .connect _ => 0
  | .createWorker _ => 1
  | .process _ _ => 2
  | .closeWorker _ => 3
  | .closeConnection _ => 4

/-! ## What all stories have in common -/

/-- A few deeds, and requests in the order of their ranks, none twice. -/
structure Brief (word : List (Deed ι ω)) : Prop where
  length : word.length ≤ 12
  requests : ((word.filterMap Deed.request?).map Request.rank).Pairwise (· < ·)

section Stories

variable {target : String} {goal : Goal ι} {word got : List (Deed ι ω)} {r : Resource}
  {st : Stage ι ω} {outcome : Outcome ω}

attribute [local simp] exchange closing List.filterMap_cons Deed.request? Request.rank

theorem Ends.brief (h : Ends target goal word outcome) : Brief word := by
  cases h with
  | refused | unconnected | unequipped => constructor <;> simp
  | pooled _ obtains _ | turnedAway _ _ _ obtains _ | discarded _ _ _ obtains _
  | deserted _ _ obtains _ | closed _ _ obtains _ =>
    cases obtains <;> constructor <;> simp

/-- What leads to the close of a resource leaves room for the two closes. -/
theorem Leads.brief {purpose : Purpose ω} (h : Leads goal word r purpose) :
    Brief (.admitted :: (word ++ [.asked (.closeWorker r)])) ∧
    ∀ result, Brief (.admitted :: (word ++ exchange (.closeWorker r) (.closed result) ++
      [.asked (.closeConnection r.connection)])) := by
  cases h with
  | direct obtains _ | discard _ obtains _ | refused _ obtains _ | background obtains _ =>
    cases obtains <;> refine ⟨⟨?_, ?_⟩, fun _ => ⟨?_, ?_⟩⟩ <;> simp

/-- A trigger asks for each thing at most once, in a fixed order. -/
theorem Stands.brief (h : Stands target goal word st) : Brief word := by
  cases st with
  | entering | picking | connecting | equipping =>
    obtain ⟨-, rfl⟩ := h
    constructor <;> simp
  | unwinding =>
    obtain rfl := h
    constructor <;> simp
  | holding | processing =>
    obtain ⟨-, got, obtains, rfl⟩ := h
    cases obtains <;> constructor <;> simp
  | returning =>
    obtain ⟨got, input, obtains, -, rfl⟩ := h
    cases obtains <;> constructor <;> simp
  | closingWorker =>
    obtain ⟨before, leads, rfl⟩ := h
    exact leads.brief.1
  | closingConnection =>
    obtain ⟨before, worker, leads, -, rfl⟩ := h
    exact leads.brief.2 worker
  | sealing | draining => exact h.elim
  | ended outcome => exact Ends.brief h

/-- A trigger that fails takes at most one resource out of the pool, and gives none back. -/
theorem Ends.pools_of_failed {e : TriggerError} (h : Ends target goal word (.failed e)) :
    word.filter Deed.pools = [] ∨ ∃ r, word.filter Deed.pools = [.took r] := by
  cases h with
  | refused | unconnected | unequipped => left; simp [exchange, Deed.pools]
  | discarded _ _ _ obtains _ =>
    cases obtains with
    | reuse => exact .inr ⟨_, rfl⟩
    | build => exact .inl rfl

end Stories

/-! ## How every trigger ends -/

section Triggers

variable {role : Role} {permits : Option (Stage ι ω) → Action ι ω → Prop} {s : System ι ω}
  {history : List (Turn ι ω)}

/-- A trigger does little, also when its caller goes away. -/
theorem brief_of_run (run : Run role permits {} history s) {n : ℕ} {goal : Goal ι}
    {word : List (Deed ι ω)} (began : story n history = .began (.acquire goal) :: word) :
    word.length ≤ 13 ∧ ((word.filterMap Deed.request?).map Request.rank).Pairwise (· < ·) := by
  cases hs : s.stage? n with
  | none =>
    obtain ⟨rest, st, rfl, -, stands⟩ := stood_of_run run hs began
    refine ⟨?_, ?_⟩
    · rw [List.length_append]
      exact Nat.succ_le_succ stands.brief.length
    · rw [List.filterMap_append]
      simpa [List.filterMap_cons, Deed.request?] using stands.brief.requests
  | some st =>
    have brief := (stands_of_run run hs began).brief
    exact ⟨brief.length.trans (Nat.le_succ _), brief.requests⟩

/-- A trigger makes a few turns only. -/
theorem turns_of_run (run : Run role permits {} history s) {n : ℕ} {goal : Goal ι}
    {word : List (Deed ι ω)} (began : story n history = .began (.acquire goal) :: word) :
    (history.countP fun t => t.call == n) ≤ 14 := by
  have hl := turns_le_story run n
  rw [began, List.length_cons] at hl
  exact hl.trans (Nat.succ_le_succ (brief_of_run run began).1)

/-- A trigger moves on whatever it is answered, until it ends or its caller holds the resource. -/
theorem goes_on_of_run (run : Run role permits {} history s) {n : ℕ} {goal : Goal ι}
    {word : List (Deed ι ω)} (began : story n history = .began (.acquire goal) :: word)
    {st : Stage ι ω} (hst : s.stage? n = some st) : (∃ outcome, st = .ended outcome) ∨
      (∃ r, st = .holding r ∧ goal = .acquire) ∨ (s.step role (.proceed n)).isSome ∨
      ∃ request, st.request? = some request ∧
        ∀ answer, request.Answers answer → (s.step role (.resume n answer)).isSome := by
  rcases System.moves hst role with h | ⟨r, rfl⟩ | h
  · exact .inl h
  · exact .inr (.inl ⟨r, rfl, (stands_of_run run hst began).1⟩)
  · exact .inr (.inr h)

/-- What holds of a trigger `n`, or of a caller that wants a resource to hold: what it does (`word`)
    decides what it returns. -/
structure TriggerLaws (target : String) (goal : Goal ι) (n : ℕ) (word : List (Deed ι ω))
    (role : Role) (history : List (Turn ι ω)) (s : System ι ω) : Prop where
  /-- It ends in one of the ways of `Ends`: the first failure is the one that is returned. -/
  ends : ∀ outcome, s.stage? n = some (.ended outcome) → Ends target goal word outcome
  /-- With each turn of it the idle resources stay as they are, or lose the one that it takes, or
      get the one that it gives back. -/
  idle : ∀ t ∈ history, t.call = n →
    (t.after.world.pool.idle = t.before.world.pool.idle ∧ t.deeds.filter Deed.pools = []) ∨
    (∃ r, t.before.world.pool.idle = r :: t.after.world.pool.idle ∧
      t.deeds.filter Deed.pools = [.took r]) ∨
    ∃ r, t.after.world.pool.idle = r :: t.before.world.pool.idle ∧
      t.deeds.filter Deed.pools = [.gave r]
  /-- If it fails, it takes one at most and gives none back. -/
  idle_failed : ∀ e, s.stage? n = some (.ended (.failed e)) →
    word.filter Deed.pools = [] ∨ ∃ r, word.filter Deed.pools = [.took r]
  /-- It asks at most once for a connection, a worker, its step, and the close of each half, in this
      order. -/
  once : ((word.filterMap Deed.request?).map Request.rank).Pairwise (· < ·)
  /-- It moves on whatever it is answered, until it ends or its caller holds the resource, -/
  goes_on : ∀ st, s.stage? n = some st → (∃ outcome, st = .ended outcome) ∨
    (∃ r, st = .holding r ∧ goal = .acquire) ∨ (s.step role (.proceed n)).isSome ∨
    ∃ request, st.request? = some request ∧
      ∀ answer, request.Answers answer → (s.step role (.resume n answer)).isSome
  /-- and makes a few turns only. -/
  turns : (history.countP fun t => t.call == n) ≤ 14

/-- Every trigger of a controller returns its first failure, and later failures never take its
    place, in every run whatever. -/
theorem primary_failure_returned {b : Config.Broker} {name : String}
    (controller : Role.ofBroker b name = .ok role) (run : Run role permits {} history s)
    {t : Turn ι ω} (ht : t ∈ history) {goal : Goal ι} (start : t.action = .start (.acquire goal)) :
    ∃ word, story t.call history = .began (.acquire goal) :: word ∧
      TriggerLaws b.target goal t.call word role history s := by
  obtain ⟨word, began⟩ := story_of_start run ht start
  have target : role.target = b.target := by
    unfold Role.ofBroker at controller
    split at controller <;> simp only [Except.ok.injEq, reduceCtorEq] at controller
    rw [← controller]
  have stands : ∀ st, s.stage? t.call = some st → Stands b.target goal word st := fun st hst =>
    target ▸ stands_of_run run hst began
  refine ⟨word, began, ?_⟩
  constructor
  case ends => exact fun outcome hst => stands _ hst
  case idle =>
    intro u hu hn
    obtain ⟨before, after, rfl⟩ := List.append_of_mem hu
    obtain ⟨-, -, -, ⟨left, right, around⟩, -⟩ := run.split numbered_empty
    exact around.passage.pool_deeds
  case idle_failed => exact fun e hst => Ends.pools_of_failed (stands _ hst)
  case once => exact (brief_of_run run began).2
  case goes_on => exact fun st hst => goes_on_of_run run began hst
  case turns => exact turns_of_run run began

/-- One trigger gives back what it used. Another one takes it, its step fails, and so do both
    closes. -/
theorem primary_failure_returned_twice : ∃ history s word,
    Run ⟨"broker:5672/", "step"⟩ Orderly ({} : System Unit Unit) history s ∧
      s.stage? 2 = some (.ended (.failed (.processing
        ⟨⟨1⟩, ⟨"rejected", []⟩, some ⟨.worker, ⟨1⟩, ⟨"gone", []⟩⟩⟩))) ∧
      story 2 history = .began (.acquire (.trigger ())) :: word ∧
      TriggerLaws "broker:5672/" (.trigger ()) 2 word ⟨"broker:5672/", "step"⟩ history s := by
  have controller : Role.ofBroker (.ofCredentials "broker" "user" "secret") "step" =
      .ok ⟨"broker:5672/", "step"⟩ := by decide +kernel
  have h : System.turns ⟨"broker:5672/", "step"⟩ ({} : System Unit Unit)
      [.start (.acquire (.trigger ())), .proceed 1, .proceed 1, .resume 1 (.connected (.ok ())),
        .resume 1 (.equipped (.ok ())), .resume 1 (.processed (.ok ())), .proceed 1,
        .start (.acquire (.trigger ())), .proceed 2, .proceed 2,
        .resume 2 (.processed (.error ⟨"rejected", []⟩)),
        .resume 2 (.closed (.error ⟨"gone", []⟩)), .resume 2 (.closed (.error ⟨"reset", []⟩))] =
      some ([_, _, _, _, _, _, _] ++ _ :: _, _) := rfl
  have run : Run _ Orderly _ _ _ := Run.of_turns h (by decide)
  obtain ⟨word, began, laws⟩ := primary_failure_returned controller run
    (List.mem_append_right _ List.mem_cons_self) rfl
  exact ⟨_, _, word, run, rfl, began, laws⟩

end Triggers

end BrokerPool.Lifecycle
