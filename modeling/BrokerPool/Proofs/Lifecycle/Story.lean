import BrokerPool.Proofs.Lifecycle.Lifetime

/-!
# The story of a call

What one call does and what it is told, in order, while other calls do what they do in between. The
story of a trigger depends on what is answered and on what it finds in the pool, and on nothing
else: at every stage its story is one of a few (`Stands`), and every way in which it ends has a
story and an outcome of its own (`Ends`).

Results:
* `Run.follow`: what every turn of a call keeps about its story is kept by every run.
* `Passage.pool_deeds`: a turn changes what is idle just as the story tells.
* `Passage.stands`, `stands_of_run`: where a trigger stands is told by its story.
* `stood_of_run`: the same when its caller has gone away.
* `System.moves`: a call waits for nothing but the answer to what it has asked.
-/

namespace BrokerPool.Lifecycle

variable {ι ω : Type}

/-! ## Stories -/

/-- What a call does, and what it is told. -/
inductive Deed (ι ω : Type)
  | began (what : Start ι)
  /-- It found the pool open. -/
  | admitted
  /-- It found the pool closed. -/
  | refused
  /-- It took an idle resource. -/
  | took (r : Resource)
  | made (r : Resource)
  /-- It gave a resource back to the pool. -/
  | gave (r : Resource)
  /-- It closed the pool. -/
  | sealed
  /-- It found nothing idle any more. -/
  | emptied
  | asked (request : Request ι)
  | heard (answer : Answer ω)
  /-- Its caller went away. -/
  | left

/-- What a call does with a turn, apart from what it makes and what it asks. -/
def noted : Option (Stage ι ω) → Action ι ω → Option (Stage ι ω) → List (Deed ι ω)
  | _, .start what, _ => [.began what]
  | _, .resume _ answer, _ => [.heard answer]
  | _, .drop _, _ | _, .cancel _, _ | _, .abandon _, _ => [.left]
  | some (.entering _), .proceed _, some (.picking _) => [.admitted]
  | some (.entering _), .proceed _, _ => [.refused]
  | some (.picking _), .proceed _, some st => (st.resource?.map .took).toList
  | some (.returning r _), .proceed _, some (.ended _) => [.gave r]
  | some .sealing, .proceed _, _ => [.sealed]
  | some (.draining _), .proceed _, some (.closingWorker r _) => [.took r]
  | some (.draining _), .proceed _, _ => [.emptied]
  | _, _, _ => []

/-- What a call does with a turn. -/
def deeds (old : Option (Stage ι ω)) (a : Action ι ω) (new : Option (Stage ι ω)) :
    List (Deed ι ω) :=
  noted old a new ++ ((created? old new).map .made).toList ++
    ((new.bind Stage.request?).map .asked).toList

def Turn.deeds (t : Turn ι ω) : List (Deed ι ω) := Lifecycle.deeds t.old t.action t.new

namespace Deed

/-- It changes what is idle. -/
def pools : Deed ι ω → Bool
  | .took _ | .gave _ => true
  | _ => false

def request? : Deed ι ω → Option (Request ι)
  | .asked request => some request
  | _ => none

end Deed

/-- The story of a call. -/
def story (n : ℕ) (history : List (Turn ι ω)) : List (Deed ι ω) :=
  history.flatMap fun t => if t.call = n then t.deeds else []

theorem story_append (n : ℕ) (first second : List (Turn ι ω)) :
    story n (first ++ second) = story n first ++ story n second := List.flatMap_append

theorem story_snoc (n : ℕ) (history : List (Turn ι ω)) (t : Turn ι ω) :
    story n (history ++ [t]) = story n history ++ if t.call = n then t.deeds else [] := by
  simp [story]

/-! ## What every turn tells -/

section Deeds

variable {role : Role} {w w' : World} {old new : Option (Stage ι ω)} {a : Action ι ω}
  {events : List Event}

theorem filter_pools_deeds (old : Option (Stage ι ω)) (a : Action ι ω) (new : Option (Stage ι ω)) :
    (deeds old a new).filter Deed.pools = (noted old a new).filter Deed.pools := by
  rw [deeds, List.filter_append, List.filter_append]
  cases created? old new <;> cases new.bind Stage.request? <;> simp [Deed.pools]

/-- A turn changes what is idle just as its deeds tell. -/
theorem Passage.pool_deeds (p : Passage role w old a w' new events) :
    (w'.pool.idle = w.pool.idle ∧ (deeds old a new).filter Deed.pools = []) ∨
    (∃ r, w.pool.idle = r :: w'.pool.idle ∧ (deeds old a new).filter Deed.pools = [.took r]) ∨
    ∃ r, w'.pool.idle = r :: w.pool.idle ∧ (deeds old a new).filter Deed.pools = [.gave r] := by
  simp only [filter_pools_deeds]
  cases p with
  | reuse n goal r rest idle =>
    exact .inr (.inl ⟨r, idle, by simp [noted, Deed.pools]⟩)
  | drain n summary r rest idle =>
    exact .inr (.inl ⟨r, idle, by simp [noted, Deed.pools]⟩)
  | giveBack n r output opened => exact .inr (.inr ⟨r, rfl, by simp [noted, Deed.pools]⟩)
  | _ => exact .inl ⟨rfl, by simp [noted, Stage.resource?, Deed.pools]⟩

/-- Every turn of a call is part of its story. -/
theorem Passage.deeds_ne_nil (p : Passage role w old a w' new events) : deeds old a new ≠ [] := by
  cases p with
  | reuse n goal r rest idle => simp [deeds, noted]
  | _ => simp [deeds, noted, Stage.request?]

end Deeds

section Follow

variable {role : Role} {permits : Option (Stage ι ω) → Action ι ω → Prop} {s : System ι ω}
  {history : List (Turn ι ω)}

/-- A call that stands nowhere begins. -/
theorem Passage.begins {w w' : World} {a : Action ι ω} {new : Option (Stage ι ω)}
    {events : List Event} (p : Passage role w none a w' new events) :
    ∃ what, a = .start what := by
  cases p with
  | enter goal => exact ⟨_, rfl⟩
  | enterShutdown => exact ⟨_, rfl⟩

/-- A number that was not given yet has no story. -/
theorem story_of_last_lt (run : Run role permits {} history s) {n : ℕ} (h : s.last < n) :
    story n history = [] := by
  refine run.induction (P := fun history s => s.last < n → story n history = []) numbered_empty
    (fun _ => rfl) ?_ h
  intro history t left right _ _ _ ha ih hn
  have hl := ha.last
  rw [story_snoc, ih (by omega), if_neg (by omega)]
  rfl

/-- A story begins with its call. -/
theorem story_of_start (run : Run role permits {} history s) {t : Turn ι ω} (ht : t ∈ history)
    {what : Start ι} (start : t.action = .start what) :
    ∃ word, story t.call history = .began what :: word := by
  obtain ⟨earlier, later, rfl⟩ := List.append_of_mem ht
  obtain ⟨before, -, -, ⟨left, right, ha⟩, -⟩ := run.split numbered_empty
  have hn : story t.call earlier = [] :=
    story_of_last_lt before (by rw [Turn.call, start, Action.call]; omega)
  have hd : ∃ rest, t.deeds = .began what :: rest := by
    rw [Turn.deeds, deeds, start, noted]
    exact ⟨_, rfl⟩
  obtain ⟨rest, hd⟩ := hd
  refine ⟨rest ++ story t.call later, ?_⟩
  rw [story_append, hn, List.nil_append, story, List.flatMap_cons, if_pos rfl, hd]
  rfl

/-- What every turn of a call keeps about its story is kept by every run. -/
theorem Run.follow (n : ℕ) {P : List (Deed ι ω) → Option (Stage ι ω) → Prop} (start : P [] none)
    (next : ∀ w old a w' new events word, Passage role w old a w' new events → permits old a →
      (old = none → word = []) → P word old → P (word ++ deeds old a new) new)
    (run : Run role permits {} history s) : P (story n history) (s.stage? n) := by
  refine run.induction (P := fun history s => P (story n history) (s.stage? n)) numbered_empty
    start ?_
  intro history t left right before _ permitted ha ih
  rw [story_snoc]
  by_cases hn : t.call = n
  · subst hn
    rw [if_pos rfl]
    refine next _ _ _ _ _ _ _ ha.passage permitted (fun hold => ?_) ih
    -- Only a call that begins stands nowhere, and it has the next number.
    refine story_of_last_lt before ?_
    obtain ⟨what, he⟩ := (hold ▸ ha.passage).begins
    simp [Turn.call, he, Action.call]
  · rw [if_neg hn, List.append_nil, ha.stage?_of_ne (Ne.symm hn)]
    exact ih

end Follow

/-! ## The stories of a trigger -/

/-- A request and its answer. -/
def exchange (request : Request ι) (answer : Answer ω) : List (Deed ι ω) :=
  [.asked request, .heard answer]

/-- The close of both halves of a resource. -/
def closing (r : Resource) (worker connection : Except Fault Unit) : List (Deed ι ω) :=
  exchange (.closeWorker r) (.closed worker) ++
    exchange (.closeConnection r.connection) (.closed connection)

/-- The first half of a resource that failed to close: the worker, or else the connection. -/
def suppressed (r : Resource) : Except Fault Unit → Except Fault Unit → Option CloseError
  | .error cause, _ => some ⟨.worker, r.id, cause⟩
  | .ok _, .error cause => some ⟨.connection, r.id, cause⟩
  | .ok _, .ok _ => none

theorem firstFailure_eq_suppressed (r : Resource) (worker connection : Except Fault Unit) :
    Stage.firstFailure r (Stage.fault? worker) (Stage.fault? connection) =
      suppressed r worker connection := by
  cases worker <;> cases connection <;> rfl

/-- The ways to get a resource: one that is idle, or a new one. -/
inductive Obtains : List (Deed ι ω) → Resource → Prop
  | reuse (r : Resource) : Obtains [.took r] r
  | build (r : Resource) :
    Obtains (exchange (.connect r.connection) (.connected (.ok ())) ++
      exchange (.createWorker r.connection) (.equipped (.ok ())) ++ [.made r]) r

/-- The inputs of a step: that of the trigger, or any if the resource was wanted by itself. -/
def Goal.Allows : Goal ι → ι → Prop
  | .trigger input, input' => input' = input
  | .acquire, _ => True

/-- The ways in which a trigger ends: its story and its outcome. The same for a caller that wants a
    resource to hold, and then runs a step on it or closes it. -/
inductive Ends (target : String) (goal : Goal ι) : List (Deed ι ω) → Outcome ω → Prop
  | refused : Ends target goal [.refused] (.failed .shutdown)
  /-- A failed connect is returned as it is, and nothing else is asked. -/
  | unconnected (c : ℕ) (e : ConnectionError) :
    Ends target goal (.admitted :: exchange (.connect c) (.connected (.error e)))
      (.failed (.connection e))
  /-- Without a worker the connection is closed, and the fault of the worker is returned. -/
  | unequipped (c : ℕ) (cause : Fault) (result : Except Fault Unit) :
    Ends target goal (.admitted :: (exchange (.connect c) (.connected (.ok ())) ++
        exchange (.createWorker c) (.equipped (.error cause)) ++
        exchange (.closeConnection c) (.closed result)))
      (.failed (.connection (.worker target cause)))
  /-- A step that succeeds gives its output, -/
  | pooled {got : List (Deed ι ω)} {r : Resource} {input : ι} (output : ω)
    (obtains : Obtains got r) (allows : goal.Allows input) :
    Ends target goal (.admitted :: (got ++ exchange (.process r input) (.processed (.ok output)) ++
        [.gave r]))
      (.output output)
  /-- also when the pool does not take the resource back. -/
  | turnedAway {got : List (Deed ι ω)} {r : Resource} {input : ι} (output : ω)
    (worker connection : Except Fault Unit) (obtains : Obtains got r)
    (allows : goal.Allows input) :
    Ends target goal (.admitted :: (got ++ exchange (.process r input) (.processed (.ok output)) ++
        closing r worker connection))
      (.output output)
  /-- A step that fails gives its cause, with what went wrong while the resource was closed. -/
  | discarded {got : List (Deed ι ω)} {r : Resource} {input : ι} (cause : Fault)
    (worker connection : Except Fault Unit) (obtains : Obtains got r)
    (allows : goal.Allows input) :
    Ends target goal (.admitted ::
        (got ++ exchange (.process r input) (.processed (.error cause)) ++
          closing r worker connection))
      (.failed (.processing ⟨r.id, cause, suppressed r worker connection⟩))
  /-- The caller went away while its step ran. -/
  | deserted {got : List (Deed ι ω)} {r : Resource} {input : ι}
    (worker connection : Except Fault Unit) (obtains : Obtains got r)
    (allows : goal.Allows input) :
    Ends target goal (.admitted :: (got ++ [.asked (.process r input), .left] ++
        closing r worker connection))
      .gone
  /-- The holder closed the resource. -/
  | closed {got : List (Deed ι ω)} {r : Resource} (worker connection : Except Fault Unit)
    (obtains : Obtains got r) (wanted : goal = .acquire) :
    Ends target goal (.admitted :: (got ++ closing r worker connection))
      (.closed (suppressed r worker connection))

/-- The stories that lead to the close of a resource, each for its purpose. -/
inductive Leads (goal : Goal ι) : List (Deed ι ω) → Resource → Purpose ω → Prop
  | discard {got : List (Deed ι ω)} {r : Resource} {input : ι} (cause : Fault)
    (obtains : Obtains got r) (allows : goal.Allows input) :
    Leads goal (got ++ exchange (.process r input) (.processed (.error cause))) r (.discard cause)
  | refused {got : List (Deed ι ω)} {r : Resource} {input : ι} (output : ω)
    (obtains : Obtains got r) (allows : goal.Allows input) :
    Leads goal (got ++ exchange (.process r input) (.processed (.ok output))) r (.refused output)
  | background {got : List (Deed ι ω)} {r : Resource} {input : ι} (obtains : Obtains got r)
    (allows : goal.Allows input) :
    Leads goal (got ++ [.asked (.process r input), .left]) r .background
  | direct {got : List (Deed ι ω)} {r : Resource} (obtains : Obtains got r)
    (wanted : goal = .acquire) : Leads goal got r .direct

/-- The story of a trigger that stands at a stage. -/
def Stands (target : String) (goal : Goal ι) (word : List (Deed ι ω)) : Stage ι ω → Prop
  | .entering g => g = goal ∧ word = []
  | .picking g => g = goal ∧ word = [.admitted]
  | .connecting g c => g = goal ∧ word = [.admitted, .asked (.connect c)]
  | .equipping g c => g = goal ∧
    word = .admitted :: (exchange (.connect c) (.connected (.ok ())) ++ [.asked (.createWorker c)])
  | .unwinding c cause => word = .admitted :: (exchange (.connect c) (.connected (.ok ())) ++
      exchange (.createWorker c) (.equipped (.error cause)) ++ [.asked (.closeConnection c)])
  | .holding r => goal = .acquire ∧ ∃ got, Obtains got r ∧ word = .admitted :: got
  | .processing r input => goal.Allows input ∧
    ∃ got, Obtains got r ∧ word = .admitted :: (got ++ [.asked (.process r input)])
  | .returning r output => ∃ got input, Obtains got r ∧ goal.Allows input ∧
    word = .admitted :: (got ++ exchange (.process r input) (.processed (.ok output)))
  | .closingWorker r purpose =>
    ∃ before, Leads goal before r purpose ∧
      word = .admitted :: (before ++ [.asked (.closeWorker r)])
  | .closingConnection r fault purpose =>
    ∃ before worker, Leads goal before r purpose ∧ fault = Stage.fault? worker ∧
      word = .admitted :: (before ++ exchange (.closeWorker r) (.closed worker) ++
        [.asked (.closeConnection r.connection)])
  | .sealing | .draining _ => False
  | .ended outcome => Ends target goal word outcome

/-! ## One turn of a trigger -/

section Step

variable {role : Role} {w w' : World} {old new : Option (Stage ι ω)} {a : Action ι ω}
  {events : List Event} {goal : Goal ι} {word : List (Deed ι ω)}

/-- A call that gets a resource runs its step on it, or holds it. -/
theorem stands_obtained {got : List (Deed ι ω)} {r : Resource} (target : String)
    (h : Obtains got r) : Stands target goal
      (.admitted :: (got ++ (((Stage.obtained goal r : Stage ι ω).request?).map .asked).toList))
      (Stage.obtained goal r) := by
  cases goal with
  | trigger input => exact ⟨rfl, got, h, rfl⟩
  | acquire => exact ⟨rfl, got, h, by simp [Stage.obtained, Stage.request?]⟩

/-- Behind the close of a resource, a trigger ends as its purpose says. -/
theorem ends_settled {before : List (Deed ι ω)} {r : Resource} {purpose : Purpose ω}
    (target : String) (h : Leads goal before r purpose) (worker connection : Except Fault Unit) :
    Stands target goal (.admitted :: (before ++ closing r worker connection))
      (Stage.settled r (Stage.firstFailure r (Stage.fault? worker) (Stage.fault? connection))
        purpose).1 := by
  rw [firstFailure_eq_suppressed]
  cases h with
  | discard cause obtains allows => exact .discarded cause worker connection obtains allows
  | refused output obtains allows => exact .turnedAway output worker connection obtains allows
  | background obtains allows => exact .deserted worker connection obtains allows
  | direct obtains wanted => exact .closed worker connection obtains wanted

/-- A turn of a trigger takes its story from one stage to the next. -/
theorem Passage.stands {st st' : Stage ι ω} (p : Passage role w (some st) a w' (some st') events)
    (h : Stands role.target goal word st) :
    Stands role.target goal (word ++ deeds (some st) a (some st')) st' := by
  cases p with
  | refuse n g closed =>
    obtain ⟨rfl, rfl⟩ := h
    exact .refused
  | pass n g opened =>
    obtain ⟨rfl, rfl⟩ := h
    exact ⟨rfl, rfl⟩
  | reuse n g r rest idle =>
    obtain ⟨rfl, rfl⟩ := h
    simpa [deeds, noted, created?] using stands_obtained role.target (.reuse r)
  | miss n g idle =>
    obtain ⟨rfl, rfl⟩ := h
    exact ⟨rfl, rfl⟩
  | connect n g c =>
    obtain ⟨rfl, rfl⟩ := h
    exact ⟨rfl, rfl⟩
  | connectFail n g c e =>
    obtain ⟨rfl, rfl⟩ := h
    exact .unconnected c e
  | equip n g c r made =>
    obtain ⟨rfl, rfl⟩ := h
    have hc : r.connection = c := by rw [made]
    simpa [deeds, noted, created?, exchange, hc] using
      stands_obtained (ι := ι) (ω := ω) role.target (.build r)
  | equipFail n g c cause =>
    obtain ⟨rfl, rfl⟩ := h
    rfl
  | unwound n c cause result =>
    obtain rfl := h
    exact .unequipped c cause result
  | succeed n r input output =>
    obtain ⟨allows, got, obtains, rfl⟩ := h
    exact ⟨got, input, obtains, allows, by simp [deeds, noted, created?, exchange, Stage.request?]⟩
  | fail n r input cause =>
    obtain ⟨allows, got, obtains, rfl⟩ := h
    exact ⟨_, .discard cause obtains allows,
      by simp [deeds, noted, created?, exchange, Stage.request?]⟩
  | giveBack n r output opened =>
    obtain ⟨got, input, obtains, allows, rfl⟩ := h
    exact .pooled output obtains allows
  | turnAway n r output closed =>
    obtain ⟨got, input, obtains, allows, rfl⟩ := h
    exact ⟨_, .refused output obtains allows,
      by simp [deeds, noted, created?, exchange, Stage.request?]⟩
  | workerClosed n r purpose result =>
    obtain ⟨before, leads, rfl⟩ := h
    exact ⟨before, result, leads, rfl,
      by simp [deeds, noted, created?, exchange, Stage.request?]⟩
  | connectionClosed n r worker purpose result =>
    obtain ⟨before, worker, leads, rfl, rfl⟩ := h
    simpa [deeds, noted, created?, closing, exchange] using
      ends_settled (ι := ι) role.target leads worker result
  | close | drain | drained => exact h.elim
  | use n r input =>
    obtain ⟨rfl, got, obtains, rfl⟩ := h
    exact ⟨trivial, got, obtains, by simp [deeds, noted, created?, Stage.request?]⟩
  | discard n r =>
    obtain ⟨rfl, got, obtains, rfl⟩ := h
    exact ⟨_, .direct obtains rfl, by simp [deeds, noted, created?, Stage.request?]⟩
  | rescue n r input =>
    obtain ⟨allows, got, obtains, rfl⟩ := h
    exact ⟨_, .background obtains allows, by simp [deeds, noted, created?, Stage.request?]⟩

end Step

/-! ## Over a run -/

section Runs

variable {role : Role} {permits : Option (Stage ι ω) → Action ι ω → Prop} {s : System ι ω}
  {history : List (Turn ι ω)} {n : ℕ} {goal : Goal ι} {word : List (Deed ι ω)}

/-- A story begins with its call, and a trigger stands where its story tells, or stood there when
    its caller went away. -/
def Telling (target : String) (word : List (Deed ι ω)) : Option (Stage ι ω) → Prop
  | none => word = [] ∨ ∃ what rest st, word = .began what :: (rest ++ [.left]) ∧
    (∀ outcome, st ≠ .ended outcome) ∧ ∀ goal, what = .acquire goal → Stands target goal rest st
  | some st => ∃ what rest, word = .began what :: rest ∧
    ∀ goal, what = .acquire goal → Stands target goal rest st

theorem Passage.deeds_of_left {w w' : World} {st : Stage ι ω} {a : Action ι ω} {events : List Event}
    (p : Passage role w (some st) a w' none events) :
    deeds (some st) a none = [.left] ∧ ∀ outcome, st ≠ .ended outcome := by
  cases p with
  | letGo n r => exact ⟨rfl, fun _ => by simp⟩
  | cancel n stage awaited step =>
    exact ⟨by simp [deeds, noted, created?], by rintro outcome rfl; simp [Stage.awaited] at awaited⟩
  | abandon n stage awaited =>
    exact ⟨by simp [deeds, noted, created?], by rintro outcome rfl; simp [Stage.awaited] at awaited⟩

theorem telling_of_run (run : Run role permits {} history s) (n : ℕ) :
    Telling role.target (story n history) (s.stage? n) := by
  refine run.follow n (.inl rfl) ?_
  intro w old a w' new events word p _ first h
  cases old with
  | none =>
    obtain rfl := first rfl
    cases p with
    | enter goal => exact ⟨_, [], rfl, fun g hg => by cases hg; exact ⟨rfl, rfl⟩⟩
    | enterShutdown => exact ⟨_, [], rfl, fun g hg => by cases hg⟩
  | some st =>
    obtain ⟨what, rest, rfl, stands⟩ := h
    cases new with
    | none =>
      obtain ⟨hd, he⟩ := p.deeds_of_left
      exact .inr ⟨what, rest, st, by rw [hd]; rfl, he, stands⟩
    | some st' => exact ⟨what, _, rfl, fun g hg => p.stands (stands g hg)⟩

/-- Where a trigger stands is told by its story. -/
theorem stands_of_run (run : Run role permits {} history s) {st : Stage ι ω}
    (hs : s.stage? n = some st) (began : story n history = .began (.acquire goal) :: word) :
    Stands role.target goal word st := by
  have h := telling_of_run run n
  rw [hs, began] at h
  obtain ⟨what, rest, he, stands⟩ := h
  obtain ⟨hw, rfl⟩ := List.cons.inj he
  exact stands goal (Deed.began.inj hw).symm

/-- When the caller of a trigger has gone away, this is the last thing that its story tells. -/
theorem stood_of_run (run : Run role permits {} history s) (hs : s.stage? n = none)
    (began : story n history = .began (.acquire goal) :: word) :
    ∃ rest st, word = rest ++ [.left] ∧ (∀ outcome, st ≠ .ended outcome) ∧
      Stands role.target goal rest st := by
  have h := telling_of_run run n
  rw [hs, began] at h
  rcases h with h | ⟨what, rest, st, he, hst, stands⟩
  · simp at h
  · obtain ⟨hw, rfl⟩ := List.cons.inj he
    exact ⟨rest, st, rfl, hst, stands goal (Deed.began.inj hw).symm⟩

/-- A call has made no more turns than its story has deeds. -/
theorem turns_le_story (run : Run role permits {} history s) (n : ℕ) :
    (history.countP fun t => t.call == n) ≤ (story n history).length := by
  refine run.induction (P := fun history _ => (history.countP fun t => t.call == n) ≤
    (story n history).length) numbered_empty le_rfl ?_
  intro history t left right _ _ _ ha ih
  rw [List.countP_append, List.countP_singleton, story_snoc, List.length_append]
  by_cases hn : t.call = n
  · have hd : 0 < t.deeds.length := List.length_pos_iff.mpr ha.passage.deeds_ne_nil
    simp only [hn, beq_self_eq_true, ite_true]
    omega
  · simpa [hn] using ih

end Runs

/-! ## Nothing gets stuck -/

/-- The answer is one to the request. -/
def Request.Answers : Request ι → Answer ω → Prop
  | .connect _, .connected _ | .createWorker _, .equipped _ | .process _ _, .processed _
  | .closeWorker _, .closed _ | .closeConnection _, .closed _ => True
  | _, _ => False

/-- A call that has not ended, and whose caller does not hold a resource, moves by itself, or waits
    for an answer and moves on whatever the answer is. -/
theorem Stage.moves (role : Role) (w : World) (st : Stage ι ω) :
    (∃ outcome, st = .ended outcome) ∨ (∃ r, st = .holding r) ∨ (st.proceed role w).isSome ∨
      ∃ request, st.request? = some request ∧
        ∀ answer : Answer ω, request.Answers answer → (st.resume role w answer).isSome := by
  cases st with
  | ended outcome => exact .inl ⟨outcome, rfl⟩
  | holding r => exact .inr (.inl ⟨r, rfl⟩)
  | entering goal =>
    right; right; left
    cases hc : w.pool.closed <;> simp [proceed, hc]
  | picking goal =>
    right; right; left
    cases hc : w.pool.checkout <;> simp [proceed, hc]
  | returning r output =>
    right; right; left
    cases hc : w.pool.checkin r <;> simp [proceed, hc]
  | sealing => exact .inr (.inr (.inl rfl))
  | draining summary =>
    right; right; left
    cases hc : w.pool.checkout <;> simp [proceed, hc]
  | connecting goal c =>
    right; right; right
    refine ⟨_, rfl, fun answer h => ?_⟩
    rcases answer with (_ | ⟨⟩) | _ | _ | _ <;> first | rfl | exact h.elim
  | equipping goal c =>
    right; right; right
    refine ⟨_, rfl, fun answer h => ?_⟩
    rcases answer with _ | (_ | ⟨⟩) | _ | _ <;> first | rfl | exact h.elim
  | processing r input =>
    right; right; right
    refine ⟨_, rfl, fun answer h => ?_⟩
    rcases answer with _ | _ | (_ | _) | _ <;> first | rfl | exact h.elim
  | unwinding | closingWorker | closingConnection =>
    right; right; right
    refine ⟨_, rfl, fun answer h => ?_⟩
    cases answer <;> first | rfl | exact h.elim

theorem System.moves {s : System ι ω} {st : Stage ι ω} {n : ℕ} (hs : s.stage? n = some st)
    (role : Role) : (∃ outcome, st = .ended outcome) ∨ (∃ r, st = .holding r) ∨
      (s.step role (.proceed n)).isSome ∨ ∃ request, st.request? = some request ∧
        ∀ answer, request.Answers answer → (s.step role (.resume n answer)).isSome := by
  rcases st.moves role s.world with h | h | h | ⟨request, hr, h⟩
  · exact .inl h
  · exact .inr (.inl h)
  · obtain ⟨m, hm⟩ := Option.isSome_iff_exists.mp h
    exact .inr (.inr (.inl (by simp [System.step, hs, hm])))
  · refine .inr (.inr (.inr ⟨request, hr, fun answer ha => ?_⟩))
    obtain ⟨m, hm⟩ := Option.isSome_iff_exists.mp (h answer ha)
    simp [System.step, hs, hm]

end BrokerPool.Lifecycle
