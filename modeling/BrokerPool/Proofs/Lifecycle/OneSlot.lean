import BrokerPool.Proofs.Lifecycle.Dropped
import BrokerPool.Proofs.Lifecycle.Precedence

/-!
# One trigger after the other

When triggers come one after the other, and each of them waits for the end of the one before it, the
pool never holds more than one resource. The controller is then a cache with one slot: a trigger
uses what is in the slot, or makes a new resource if the slot is empty, and what it has used stays
in the slot if its step succeeds.

Results:
* `Serves`: what one trigger does to a cache with one slot.
* `Passage.lone`: what every turn of the last trigger keeps.
* `refines_one_slot`: the controller is such a cache, in every run with one trigger after the other.
-/

namespace BrokerPool.Lifecycle

variable {ι ω : Type}

/-! ## A cache with one slot -/

/-- The ways to get a resource out of a slot: the one that is in it, or a new one if it is empty. -/
inductive Fills : Option Resource → List (Deed ι ω) → Resource → Prop
  | hit (r : Resource) : Fills (some r) [.took r] r
  | miss (r : Resource) :
    Fills none (exchange (.connect r.connection) (.connected (.ok ())) ++
      exchange (.createWorker r.connection) (.equipped (.ok ())) ++ [.made r]) r

/-- One trigger on a cache with one slot: what was in the slot before, the story of the trigger, its
    outcome, and what is in the slot afterwards. -/
inductive Serves (target : String) (input : ι) :
    Option Resource → List (Deed ι ω) → Outcome ω → Option Resource → Prop
  | unconnected (c : ℕ) (e : ConnectionError) :
    Serves target input none (.admitted :: exchange (.connect c) (.connected (.error e)))
      (.failed (.connection e)) none
  | unequipped (c : ℕ) (cause : Fault) (result : Except Fault Unit) :
    Serves target input none (.admitted :: (exchange (.connect c) (.connected (.ok ())) ++
        exchange (.createWorker c) (.equipped (.error cause)) ++
        exchange (.closeConnection c) (.closed result)))
      (.failed (.connection (.worker target cause))) none
  | done {slot : Option Resource} {got : List (Deed ι ω)} {r : Resource} (output : ω)
    (fills : Fills slot got r) :
    Serves target input slot (.admitted :: (got ++
        exchange (.process r input) (.processed (.ok output)) ++ [.gave r]))
      (.output output) (some r)
  | failed {slot : Option Resource} {got : List (Deed ι ω)} {r : Resource} (cause : Fault)
    (worker connection : Except Fault Unit) (fills : Fills slot got r) :
    Serves target input slot (.admitted :: (got ++
        exchange (.process r input) (.processed (.error cause)) ++ closing r worker connection))
      (.failed (.processing ⟨r.id, cause, suppressed r worker connection⟩)) none

/-! ## What a trigger takes and leaves -/

namespace Deed

def took? : Deed ι ω → Option Resource
  | .took r => some r
  | _ => none

def gave? : Deed ι ω → Option Resource
  | .gave r => some r
  | _ => none

/-- The resource on which a step is run. -/
def used? : Deed ι ω → Option Resource
  | .asked (.process r _) => some r
  | _ => none

def connects : Deed ι ω → Bool
  | .asked (.connect _) => true
  | _ => false

end Deed

/-- The resource that a call has taken out of the pool. -/
def taken? (word : List (Deed ι ω)) : Option Resource := word.findSome? Deed.took?

/-- The resource that a call has given back to the pool. -/
def kept? (word : List (Deed ι ω)) : Option Resource := word.findSome? Deed.gave?

/-- What the trigger with a number leaves in the slot. Before the first trigger nothing is in it. -/
def slot (history : List (Turn ι ω)) (n : ℕ) : Option Resource := kept? (story n history)

/-! ## The trigger that is alone -/

namespace Stage

/-- The trigger has not looked at what is idle. -/
def chooses : Stage ι ω → Bool
  | .entering _ | .picking _ => true
  | _ => false

/-- Where a trigger stands that has an open pool to itself. -/
def lone : Stage ι ω → Bool
  | .holding _ | .sealing | .draining _ => false
  | .closingWorker _ (.discard _) | .closingConnection _ _ (.discard _) => true
  | .closingWorker .. | .closingConnection .. => false
  | .ended (.output _) | .ended (.failed (.connection _)) | .ended (.failed (.processing _)) => true
  | .ended _ => false
  | _ => true

end Stage

/-- A trigger alone: what it has taken was in the slot, and what it has given back is idle. -/
structure Lone (slot : Option Resource) (word : List (Deed ι ω)) (idle : List Resource)
    (st : Stage ι ω) : Prop where
  lone : st.lone = true
  idle : if st.chooses then idle = slot.toList else taken? word = slot ∧ idle = (kept? word).toList
  kept : ∀ o, st = .ended (.output o) → (kept? word).isSome

section Words

variable (d : Deed ι ω) (word rest : List (Deed ι ω)) (old new : Option (Stage ι ω))
  (a : Action ι ω)

@[simp] theorem taken?_nil : taken? ([] : List (Deed ι ω)) = none := rfl

@[simp] theorem kept?_nil : kept? ([] : List (Deed ι ω)) = none := rfl

@[simp] theorem taken?_cons : taken? (d :: word) = d.took?.or (taken? word) := by
  rw [taken?, List.findSome?_cons]
  cases d.took? <;> rfl

@[simp] theorem kept?_cons : kept? (d :: word) = d.gave?.or (kept? word) := by
  rw [kept?, List.findSome?_cons]
  cases d.gave? <;> rfl

@[simp] theorem taken?_append : taken? (word ++ rest) = (taken? word).or (taken? rest) :=
  List.findSome?_append

@[simp] theorem kept?_append : kept? (word ++ rest) = (kept? word).or (kept? rest) :=
  List.findSome?_append

/-- What is made and what is asked has nothing to do with the slot. -/
@[simp] theorem taken?_deeds : taken? (deeds old a new) = taken? (noted old a new) := by
  cases hc : created? old new <;> cases hq : new.bind Stage.request? <;>
    simp [deeds, hc, hq, Deed.took?]

@[simp] theorem kept?_deeds : kept? (deeds old a new) = kept? (noted old a new) := by
  cases hc : created? old new <;> cases hq : new.bind Stage.request? <;>
    simp [deeds, hc, hq, Deed.gave?]

end Words

section Turns

variable {role : Role} {w w' : World} {st st' : Stage ι ω} {a : Action ι ω} {events : List Event}
  {input : ι} {word : List (Deed ι ω)} {slot : Option Resource}

attribute [local simp] Deed.took? Deed.gave? Stage.lone Stage.chooses noted exchange closing

/-- A trigger that has not ended has given nothing back. -/
theorem kept_of_stands {target : String} {goal : Goal ι} (h : Stands target goal word st)
    (ended : ∀ o, st ≠ .ended o) : kept? word = none := by
  cases st with
  | entering | picking | connecting | equipping =>
    obtain ⟨-, rfl⟩ := h
    simp
  | unwinding =>
    obtain rfl := h
    simp
  | holding | processing =>
    obtain ⟨-, got, obtains, rfl⟩ := h
    cases obtains <;> simp
  | returning =>
    obtain ⟨got, input, obtains, -, rfl⟩ := h
    cases obtains <;> simp
  | closingWorker =>
    obtain ⟨before, leads, rfl⟩ := h
    cases leads with
    | discard _ obtains _ | refused _ obtains _ | background obtains _ | direct obtains _ =>
      cases obtains <;> simp
  | closingConnection =>
    obtain ⟨before, worker, leads, -, rfl⟩ := h
    cases leads with
    | discard _ obtains _ | refused _ obtains _ | background obtains _ | direct obtains _ =>
      cases obtains <;> simp
  | sealing | draining => exact h.elim
  | ended o => exact absurd rfl (ended o)

/-- What is in the slot is taken, and then nothing is idle. -/
theorem taken_of_idle {r : Resource} {rest : List Resource} (h : r :: rest = slot.toList) :
    slot = some r ∧ rest = [] := by
  cases slot <;> simp_all

/-- Every turn of a trigger that is alone. -/
theorem Passage.lone (p : Passage role w (some st) a w' (some st') events)
    (ha : ∀ n, a ≠ .cancel n) (opened : w.pool.closed = false)
    (stands : Stands role.target (.trigger input) word st) (h : Lone slot word w.pool.idle st) :
    Lone slot (word ++ deeds (some st) a (some st')) w'.pool.idle st' ∧
      w'.pool.closed = false := by
  have nothing := kept_of_stands stands
  obtain ⟨lone, idle, kept⟩ := h
  cases p with
  | refuse n goal closed => simp [opened] at closed
  | pass n goal opened' => exact ⟨⟨rfl, idle, by simp⟩, opened⟩
  | reuse n goal r rest found =>
    obtain ⟨rfl, rfl⟩ := stands
    obtain ⟨rfl, rfl⟩ := taken_of_idle (found.symm.trans idle)
    exact ⟨⟨rfl, by simp [Stage.obtained, Stage.resource?], by simp [Stage.obtained]⟩, opened⟩
  | miss n goal found =>
    obtain ⟨rfl, rfl⟩ := stands
    have empty : slot = none := by simpa [found] using idle
    exact ⟨⟨rfl, by simp [empty, found, Stage.resource?], by simp⟩, opened⟩
  | equip n goal c r made =>
    obtain ⟨rfl, rfl⟩ := stands
    exact ⟨⟨rfl, by simpa [Stage.obtained] using idle, by simp [Stage.obtained]⟩, opened⟩
  | giveBack n r output opened' =>
    have before := nothing (by simp)
    have none_idle : w.pool.idle = [] := by simpa [before] using idle.2
    exact ⟨⟨rfl, by simpa [before, none_idle] using idle.1, by simp [before]⟩, opened⟩
  | turnAway n r output closed => simp [opened] at closed
  | workerClosed n r purpose result =>
    cases purpose with
    | discard cause => exact ⟨⟨rfl, by simpa using idle, by simp⟩, opened⟩
    | refused | drain | background | direct => simp at lone
  | connectionClosed n r worker purpose result =>
    cases purpose with
    | discard cause =>
      exact ⟨⟨rfl, by simpa [Stage.settled] using idle, by simp [Stage.settled]⟩, opened⟩
    | refused | drain | background | direct => simp at lone
  | use | discard => simp at lone
  | rescue n r input => exact absurd rfl (ha n)
  | close | drain | drained => simp at lone
  | _ => exact ⟨⟨rfl, by simpa using idle, by simp⟩, opened⟩

end Turns

/-! ## Triggers in line -/

/-- A trigger begins when all before it have ended; nothing else begins, and nobody goes away. -/
def OneByOne (t : Turn ι ω) : Prop :=
  match t.action with
  | .start (.acquire (.trigger _)) => t.before.calls.all (·.2.finished) = true
  | .proceed _ | .resume _ _ => True
  | _ => False

instance : DecidablePred (OneByOne (ι := ι) (ω := ω)) := fun t => by
  unfold OneByOne
  split <;> infer_instance

/-- Where triggers stand that come one after the other. -/
structure InLine (target : String) (history : List (Turn ι ω)) (s : System ι ω) : Prop where
  opened : s.world.pool.closed = false
  calls : ∀ n, (s.stage? n).isSome ↔ 0 < n ∧ n ≤ s.last
  /-- There is no trigger before the first one. -/
  first : story 0 history = []
  past : ∀ n, 0 < n → n < s.last → ∃ input word outcome, s.stage? n = some (.ended outcome) ∧
    story n history = .began (.acquire (.trigger input)) :: word ∧
    Serves target input (slot history (n - 1)) word outcome (slot history n)
  fresh : s.last = 0 → s.world.pool.idle = []
  present : 0 < s.last → ∃ input word st, s.stage? s.last = some st ∧
    story s.last history = .began (.acquire (.trigger input)) :: word ∧
    Lone (slot history (s.last - 1)) word s.world.pool.idle st

section Line

variable {role : Role} {permits : Option (Stage ι ω) → Action ι ω → Prop} {s s' : System ι ω}
  {history : List (Turn ι ω)} {a : Action ι ω} {events : List Event}

/-- A trigger that was alone has done what it does to a cache with one slot. -/
theorem Lone.serves {target : String} {input : ι} {slot : Option Resource} {idle : List Resource}
    {word : List (Deed ι ω)} {outcome : Outcome ω} (h : Lone slot word idle (.ended outcome))
    (ends : Ends target (.trigger input) word outcome) :
    Serves target input slot word outcome (kept? word) ∧ idle = (kept? word).toList := by
  obtain ⟨lone, law, kept⟩ := h
  obtain ⟨rfl, rfl⟩ : taken? word = slot ∧ idle = (kept? word).toList := law
  refine ⟨?_, rfl⟩
  cases ends with
  | refused | deserted | closed => simp [Stage.lone] at lone
  | unconnected c e => exact .unconnected c e
  | unequipped c cause result => exact .unequipped c cause result
  | pooled output obtains allows =>
    obtain rfl := allows
    cases obtains with
    | reuse => exact .done output (.hit _)
    | build => exact .done output (.miss _)
  | turnedAway output worker connection obtains allows =>
    -- The pool is open, so what was used is given back.
    have := kept output rfl
    cases obtains <;> simp [exchange, closing, Deed.gave?] at this
  | discarded cause worker connection obtains allows =>
    obtain rfl := allows
    cases obtains with
    | reuse => exact .failed cause worker connection (.hit _)
    | build => exact .failed cause worker connection (.miss _)

/-- A call that has ended makes no more turns of its own. -/
theorem Passage.not_ended {w w' : World} {st : Stage ι ω} {new : Option (Stage ι ω)}
    (p : Passage role w (some st) a w' new events) : st.finished = false := by
  cases p with
  | cancel n stage awaited step | abandon n stage awaited =>
    cases st <;> simp_all [Stage.awaited, Stage.finished]
  | _ => rfl

/-- The last trigger has ended, so the next one finds in the pool what it has left in the slot. -/
theorem InLine.idle (run : Run role permits {} history s) (line : InLine role.target history s)
    (finished : ∀ st, s.stage? s.last = some st → st.finished = true) :
    s.world.pool.idle = (slot history s.last).toList ∧
    (0 < s.last → ∃ input word outcome, s.stage? s.last = some (.ended outcome) ∧
      story s.last history = .began (.acquire (.trigger input)) :: word ∧
      Serves role.target input (slot history (s.last - 1)) word outcome (slot history s.last)) := by
  rcases Nat.eq_zero_or_pos s.last with none_ | some_
  · refine ⟨?_, by omega⟩
    rw [line.fresh none_, none_, slot, line.first]
    rfl
  · obtain ⟨input, word, st, hst, began, lone⟩ := line.present some_
    cases st with
    | ended outcome =>
      have kept : slot history s.last = kept? word := by
        rw [slot, began, kept?_cons]
        rfl
      obtain ⟨serves, idle⟩ := lone.serves (stands_of_run run hst began)
      exact ⟨kept ▸ idle, fun _ => ⟨input, word, outcome, hst, began, kept ▸ serves⟩⟩
    | _ => simpa [Stage.finished] using finished _ hst

/-- A turn of another call changes nothing about a trigger. -/
theorem Turn.Around.elsewhere {t : Turn ι ω} {left right : List (ℕ × Stage ι ω)}
    (ha : t.Around role left right) (history : List (Turn ι ω)) {n : ℕ} (h : n ≠ t.call) :
    t.after.stage? n = t.before.stage? n ∧ story n (history ++ [t]) = story n history ∧
      slot (history ++ [t]) n = slot history n := by
  have told : story n (history ++ [t]) = story n history := by
    rw [story_snoc, if_neg (Ne.symm h), List.append_nil]
  exact ⟨ha.stage?_of_ne h, told, by rw [slot, slot, told]⟩

theorem Passage.of_start {w w' : World} {old new : Option (Stage ι ω)} {goal : Goal ι}
    (p : Passage role w old (.start (.acquire goal)) w' new events) :
    new = some (.entering goal) ∧ w' = w ∧
      deeds old (.start (.acquire goal)) new = [.began (.acquire goal)] := by
  cases p
  exact ⟨rfl, rfl, rfl⟩

/-- A new trigger comes behind the others. -/
theorem InLine.start {target : String} {t : Turn ι ω} {left right : List (ℕ × Stage ι ω)}
    (run : Run role permits {} history t.before) (line : InLine target history t.before)
    (idle : t.before.world.pool.idle = (slot history t.before.last).toList)
    (finished : 0 < t.before.last → ∃ input word outcome,
      t.before.stage? t.before.last = some (.ended outcome) ∧
      story t.before.last history = .began (.acquire (.trigger input)) :: word ∧
      Serves target input (slot history (t.before.last - 1)) word outcome
        (slot history t.before.last))
    (ha : t.Around role left right) {input : ι}
    (action : t.action = .start (.acquire (.trigger input)))
    (last : t.after.last = t.before.last + 1) : InLine target (history ++ [t]) t.after := by
  have call : t.call = t.before.last + 1 := by rw [Turn.call, action, Action.call]
  obtain ⟨new, world, told⟩ := (action ▸ ha.passage).of_start
  have told : story (t.before.last + 1) (history ++ [t]) =
      [.began (.acquire (.trigger input))] := by
    rw [story_snoc, if_pos call, story_of_last_lt run (Nat.lt_succ_self _), Turn.deeds, action,
      told, List.nil_append]
  have stage : t.after.stage? (t.before.last + 1) = some (.entering (.trigger input)) :=
    call ▸ new
  have earlier (n : ℕ) (h : n ≤ t.before.last) := ha.elsewhere history (by omega : n ≠ t.call)
  constructor
  case opened => rw [world, line.opened]
  case calls =>
    intro n
    by_cases hn : n = t.before.last + 1
    · simp [hn, stage, last]
    · rw [(ha.elsewhere history (by omega : n ≠ t.call)).1, line.calls n, last]
      omega
  case first => rw [(earlier 0 (Nat.zero_le _)).2.1, line.first]
  case past =>
    intro n pos lt
    rw [last] at lt
    obtain ⟨hs, hw, hn⟩ := earlier n (by omega)
    rw [hs, hw, hn, (earlier (n - 1) (by omega)).2.2]
    rcases Nat.lt_or_eq_of_le (Nat.lt_succ_iff.mp lt) with lt | rfl
    · exact line.past n pos lt
    · exact finished pos
  case fresh => exact fun h => absurd h (by omega)
  case present =>
    intro _
    refine ⟨input, [], .entering (.trigger input), last ▸ stage, last ▸ told, ?_⟩
    rw [last, Nat.add_sub_cancel, (earlier _ le_rfl).2.2, world]
    exact ⟨rfl, idle, by simp⟩

/-- The last trigger moves on. -/
theorem InLine.move {t : Turn ι ω} {left right : List (ℕ × Stage ι ω)}
    {st st' : Stage ι ω} (run : Run role permits {} history t.before)
    (line : InLine role.target history t.before)
    (ha : t.Around role left right) (old : t.old = some st) (new : t.new = some st')
    (present : ∀ n, t.action ≠ .cancel n) (last : t.after.last = t.before.last) :
    InLine role.target (history ++ [t]) t.after := by
  have passage := old ▸ new ▸ ha.passage
  -- All the others have ended.
  have call : 0 < t.before.last ∧ t.call = t.before.last := by
    obtain ⟨pos, le⟩ := (line.calls t.call).mp (by rw [← Turn.old, old]; rfl)
    refine ⟨by omega, le.antisymm ?_⟩
    by_contra lt
    obtain ⟨-, -, outcome, ended, -⟩ := line.past t.call pos (by omega)
    obtain rfl : st = .ended outcome := Option.some.inj (old.symm.trans ended)
    simpa [Stage.finished] using passage.not_ended
  obtain ⟨pos, call⟩ := call
  obtain ⟨input, word, st₀, hst, began, lone⟩ := line.present pos
  obtain rfl : st = st₀ := by
    rw [Turn.old, call, hst] at old
    exact (Option.some.inj old).symm
  obtain ⟨lone, opened⟩ :=
    passage.lone present line.opened (stands_of_run run hst began) lone
  have told : story t.before.last (history ++ [t]) = .began (.acquire (.trigger input)) ::
      (word ++ deeds (some st) t.action (some st')) := by
    rw [story_snoc, if_pos call, began, Turn.deeds, old, new, List.cons_append]
  have earlier (n : ℕ) (h : n < t.before.last) := ha.elsewhere history (by omega : n ≠ t.call)
  constructor
  case opened => exact opened
  case calls =>
    intro n
    by_cases hn : n = t.call
    · rw [hn, ← Turn.new, new, last, call]
      simpa using pos
    · rw [(ha.elsewhere history hn).1, line.calls n, last]
  case first => rw [(earlier 0 pos).2.1, line.first]
  case past =>
    intro n hn lt
    rw [last] at lt
    obtain ⟨hs, hw, hk⟩ := earlier n lt
    rw [hs, hw, hk, (earlier (n - 1) (by omega)).2.2]
    exact line.past n hn lt
  case fresh => exact fun h => absurd h (by omega)
  case present =>
    intro _
    refine ⟨input, _, st', by rw [last, ← call]; exact new, last ▸ told, ?_⟩
    rw [last, (earlier (t.before.last - 1) (by omega)).2.2]
    exact lone

/-! ## The whole run -/

/-- A call that moves is given no number. -/
theorem System.last_of_move {n : ℕ} (h : s.step role a = some (s', events))
    (move : a = .proceed n ∨ ∃ answer, a = .resume n answer) : s'.last = s.last := by
  obtain rfl | ⟨answer, rfl⟩ := move <;>
  · simp only [System.step, Option.bind_eq_bind, Option.bind_eq_some_iff, Option.pure_def,
      Option.some.injEq, System.apply, Prod.mk.injEq] at h
    obtain ⟨st, -, m, -, rfl, -⟩ := h
    rfl

theorem Passage.of_move {w w' : World} {old new : Option (Stage ι ω)} {n : ℕ}
    (p : Passage role w old a w' new events)
    (move : a = .proceed n ∨ ∃ answer, a = .resume n answer) :
    ∃ st st', old = some st ∧ new = some st' := by
  obtain rfl | ⟨answer, rfl⟩ := move <;> cases p <;> exact ⟨_, _, rfl, rfl⟩

/-- Triggers that come one after the other stand in line. -/
theorem inLine_of_run (run : Run role permits {} history s) (line : ∀ t ∈ history, OneByOne t) :
    InLine role.target history s := by
  induction run with
  | nil =>
    refine ⟨rfl, fun n => ?_, rfl, fun n pos lt => ?_, fun _ => rfl, fun pos => ?_⟩
    · exact ⟨fun h => (nomatch h), fun h => absurd (Nat.lt_of_lt_of_le h.1 h.2) (Nat.lt_irrefl 0)⟩
    · exact absurd lt (Nat.not_lt_zero n)
    · exact absurd pos (Nat.not_lt_zero 0)
  | @snoc history s s' a events run permitted step ih =>
    rw [List.forall_mem_append, List.forall_mem_singleton] at line
    obtain ⟨earlier, one⟩ := line
    have numbered := run.numbered numbered_empty
    obtain ⟨left, right, ha⟩ := step_around numbered step
    have move {n : ℕ} (h : a = .proceed n ∨ ∃ answer, a = .resume n answer) :
        InLine role.target (history ++ [⟨s, a, s', events⟩]) s' := by
      obtain ⟨st, st', old, new⟩ := ha.passage.of_move h
      refine (ih earlier).move run ha old new (fun n hn => ?_) (System.last_of_move step h)
      obtain rfl : a = .cancel n := hn
      simp at h
    cases a with
    | start what =>
      cases what with
      | acquire goal =>
        cases goal with
        | trigger input =>
          have finished : ∀ st, s.stage? s.last = some st → st.finished = true := fun st hst =>
            List.all_eq_true.mp one (s.last, st) (numbered.mem_iff.mpr hst)
          obtain ⟨idle, last⟩ := (ih earlier).idle run finished
          refine InLine.start run (ih earlier) idle last ha rfl ?_
          simp only [System.step, Option.some.injEq, Prod.mk.injEq] at step
          rw [← step.1]
        | acquire => exact one.elim
      | shutdown => exact one.elim
    | proceed n => exact move (.inl rfl)
    | resume n answer => exact move (.inr ⟨answer, rfl⟩)
    | run | close | drop | cancel | abandon => exact one.elim

/-- Every call is a trigger. -/
theorem InLine.began {target : String} (line : InLine target history s) {n : ℕ} {st : Stage ι ω}
    (hst : s.stage? n = some st) :
    ∃ input word, story n history = .began (.acquire (.trigger input)) :: word := by
  obtain ⟨pos, le⟩ := (line.calls n).mp (by rw [hst]; rfl)
  rcases Nat.lt_or_eq_of_le le with lt | rfl
  · obtain ⟨input, word, -, -, began, -⟩ := line.past n pos lt
    exact ⟨input, word, began⟩
  · obtain ⟨input, word, -, -, began, -⟩ := line.present pos
    exact ⟨input, word, began⟩

/-- Every trigger that has ended has done what it does to a cache with one slot. -/
theorem InLine.served (run : Run role permits {} history s) (line : InLine role.target history s)
    {n : ℕ} {outcome : Outcome ω} (hst : s.stage? n = some (.ended outcome)) :
    ∃ input word, story n history = .began (.acquire (.trigger input)) :: word ∧
      Serves role.target input (slot history (n - 1)) word outcome (slot history n) := by
  have : ∃ input word outcome, s.stage? n = some (.ended outcome) ∧
      story n history = .began (.acquire (.trigger input)) :: word ∧
      Serves role.target input (slot history (n - 1)) word outcome (slot history n) := by
    obtain ⟨pos, le⟩ := (line.calls n).mp (by rw [hst]; rfl)
    rcases Nat.lt_or_eq_of_le le with lt | rfl
    · exact line.past n pos lt
    · refine (line.idle run fun st hst' => ?_).2 pos
      rw [hst] at hst'
      rw [← Option.some.inj hst']
      rfl
  obtain ⟨input, word, outcome', hst', began, serves⟩ := this
  obtain rfl : outcome = outcome' := by simpa [hst] using hst'
  exact ⟨input, word, began, serves⟩

/-- When the last trigger has ended, what it has left is idle. -/
theorem InLine.left (run : Run role permits {} history s) (line : InLine role.target history s)
    {outcome : Outcome ω} (hst : s.stage? s.last = some (.ended outcome)) :
    s.world.pool.idle = (slot history s.last).toList := by
  refine (line.idle run fun st hst' => ?_).1
  rw [hst] at hst'
  rw [← Option.some.inj hst']
  rfl

/-- A new connection is asked for when there is nothing in the slot, and only then. -/
theorem Serves.connects_iff {target : String} {input : ι} {old new : Option Resource}
    {word : List (Deed ι ω)} {outcome : Outcome ω}
    (h : Serves target input old word outcome new) :
    (∃ c, .asked (.connect c) ∈ word) ↔ old = none := by
  cases h with
  | unconnected | unequipped => simp [exchange]
  | done _ fills | failed _ _ _ fills => cases fills <;> simp [exchange, closing]

/-- The step is run on what is in the slot. -/
theorem Serves.used_of_some {target : String} {input : ι} {r : Resource} {new : Option Resource}
    {word : List (Deed ι ω)} {outcome : Outcome ω}
    (h : Serves target input (some r) word outcome new) :
    word.filterMap Deed.used? = [r] := by
  cases h with
  | done _ fills | failed _ _ _ fills =>
    cases fills
    simp [exchange, closing, List.filterMap_cons, Deed.used?]

/-- A trigger that succeeds leaves in the slot what it has run its step on. -/
theorem Serves.kept {target : String} {input : ι} {old new : Option Resource}
    {word : List (Deed ι ω)} {outcome : Outcome ω}
    (h : Serves target input old word outcome new) :
    (∃ output r, outcome = .output output ∧ new = some r ∧ word.filterMap Deed.used? = [r]) ∨
      ∃ e, outcome = .failed e ∧ new = none := by
  cases h with
  | unconnected | unequipped | failed => exact .inr ⟨_, rfl, rfl⟩
  | done output fills =>
    refine .inl ⟨output, _, rfl, rfl, ?_⟩
    cases fills <;> simp [exchange, List.filterMap_cons, Deed.used?]

/-- The resources on which a trigger has asked to run its step. -/
def used (history : List (Turn ι ω)) (n : ℕ) : List Resource :=
  (story n history).filterMap Deed.used?

/-- What a controller does with triggers that come one after the other. -/
structure OneSlot (role : Role) (history : List (Turn ι ω)) (s : System ι ω) : Prop where
  /-- A trigger does what it does to a cache with one slot, where the trigger before it has left
      what it used. -/
  serves : ∀ n outcome, s.stage? n = some (.ended outcome) → ∃ input word,
    story n history = .began (.acquire (.trigger input)) :: word ∧
      Serves role.target input (slot history (n - 1)) word outcome (slot history n)
  /-- It succeeds or fails. -/
  ends : ∀ n outcome, s.stage? n = some (.ended outcome) →
    (∃ output, outcome = .output output) ∨ ∃ e, outcome = .failed e
  /-- It asks for a connection exactly if it is the first one, or the one before it has failed. -/
  connects : ∀ n outcome, s.stage? n = some (.ended outcome) →
    ((∃ c, .asked (.connect c) ∈ story n history) ↔
      n = 1 ∨ ∃ e, s.stage? (n - 1) = some (.ended (.failed e)))
  /-- Otherwise it runs its step on the connection and the worker of the one before it, which have
      the same number. -/
  reuses : ∀ n outcome output, s.stage? (n + 1) = some (.ended outcome) →
    s.stage? n = some (.ended (.output output)) →
    ∃ r, used history n = [r] ∧ used history (n + 1) = [r]
  /-- One resource is idle after it has succeeded, and none after it has failed. -/
  idle_output : ∀ output, s.stage? s.last = some (.ended (.output output)) →
    s.world.pool.idle.length = 1
  idle_failed : ∀ e, s.stage? s.last = some (.ended (.failed e)) → s.world.pool.idle.length = 0
  /-- Until it has ended it moves on, whatever it is answered, -/
  goes_on : ∀ n st, s.stage? n = some st → (∃ outcome, st = .ended outcome) ∨
    (s.step role (.proceed n)).isSome ∨ ∃ request, st.request? = some request ∧
      ∀ answer, request.Answers answer → (s.step role (.resume n answer)).isSome
  /-- and it makes a few turns only. -/
  turns : ∀ n, (history.countP fun t => t.call == n) ≤ 14

/-- Triggers that come one after the other use the pool as a cache with one slot, however many there
    are, and whatever they are answered. -/
theorem refines_one_slot (run : Run role permits {} history s)
    (oneByOne : ∀ t ∈ history, OneByOne t) : OneSlot role history s := by
  have line := inLine_of_run run oneByOne
  constructor
  case serves => exact fun n outcome hst => line.served run hst
  case ends =>
    intro n outcome hst
    obtain ⟨_, _, -, serves⟩ := line.served run hst
    obtain ⟨output, _, ho, -⟩ | ⟨e, he, -⟩ := serves.kept
    · exact .inl ⟨output, ho⟩
    · exact .inr ⟨e, he⟩
  case connects =>
    intro n outcome hst
    obtain ⟨_, word, began, serves⟩ := line.served run hst
    have asks : (∃ c, .asked (.connect c) ∈ story n history) ↔
        ∃ c, .asked (.connect c) ∈ word := by simp [began]
    rw [asks, serves.connects_iff]
    obtain ⟨pos, le⟩ := (line.calls n).mp (by rw [hst]; rfl)
    obtain rfl | before : n = 1 ∨ 0 < n - 1 := by omega
    · simp [slot, line.first]
    · obtain ⟨_, _, outcome, hst, -, serves⟩ := line.past (n - 1) before (by omega)
      rw [hst]
      obtain ⟨output, r, rfl, kept, -⟩ | ⟨e, rfl, kept⟩ := serves.kept
      · simp [kept, show n ≠ 1 by omega]
      · simp [kept]
  case reuses =>
    intro n outcome output hst hst'
    obtain ⟨_, word, began, serves⟩ := line.served run hst
    obtain ⟨_, word', began', serves'⟩ := line.served run hst'
    obtain ⟨_, r, -, kept, step⟩ | ⟨e, he, -⟩ := serves'.kept
    · rw [Nat.add_sub_cancel, kept] at serves
      refine ⟨r, ?_, ?_⟩
      · rw [used, began', List.filterMap_cons, ← step]
        rfl
      · rw [used, began, List.filterMap_cons, ← serves.used_of_some]
        rfl
    · cases he
  case idle_output =>
    intro output hst
    obtain ⟨_, _, -, serves⟩ := line.served run hst
    obtain ⟨_, r, -, kept, -⟩ | ⟨e, he, -⟩ := serves.kept
    · rw [line.left run hst, kept]
      rfl
    · cases he
  case idle_failed =>
    intro e hst
    obtain ⟨_, _, -, serves⟩ := line.served run hst
    obtain ⟨output, _, ho, -⟩ | ⟨_, -, kept⟩ := serves.kept
    · cases ho
    · rw [line.left run hst, kept]
      rfl
  case goes_on =>
    intro n st hst
    obtain ⟨input, word, began⟩ := line.began hst
    obtain ended | ⟨r, -, held⟩ | moves := goes_on_of_run run began hst
    · exact .inl ended
    · cases held
    · exact .inr moves
  case turns =>
    intro n
    cases hst : s.stage? n with
    | some st =>
      obtain ⟨input, word, began⟩ := line.began hst
      exact turns_of_run run began
    | none =>
      -- A number that no call has got has no turns.
      have nobody : story n history = [] := by
        have := (line.calls n).not.mp (by simp [hst])
        obtain rfl | above : n = 0 ∨ s.last < n := by omega
        · exact line.first
        · exact story_of_last_lt run above
      have none_ := turns_le_story run n
      rw [nobody] at none_
      exact none_.trans (Nat.zero_le _)

/-- Two triggers use one resource, and the step of the second one fails. A third one gets no
    connection, and a fourth one no worker. A fifth one succeeds on a connection of its own. -/
theorem refines_one_slot_five : ∃ history s,
    Run ⟨"broker", "step"⟩ Orderly ({} : System Unit Unit) history s ∧
      (∀ t ∈ history, OneByOne t) ∧ s.last = 5 ∧
      (List.range 6).map (used history) =
        [[], [⟨⟨1⟩, 1, 1⟩], [⟨⟨1⟩, 1, 1⟩], [], [], [⟨⟨2⟩, 4, 2⟩]] ∧
      s.world.pool.idle.length = 1 ∧ OneSlot ⟨"broker", "step"⟩ history s := by
  have h : System.turns ⟨"broker", "step"⟩ ({} : System Unit Unit)
      [.start (.acquire (.trigger ())), .proceed 1, .proceed 1, .resume 1 (.connected (.ok ())),
        .resume 1 (.equipped (.ok ())), .resume 1 (.processed (.ok ())), .proceed 1,
        .start (.acquire (.trigger ())), .proceed 2, .proceed 2,
        .resume 2 (.processed (.error ⟨"rejected", []⟩)),
        .resume 2 (.closed (.error ⟨"gone", []⟩)), .resume 2 (.closed (.ok ())),
        .start (.acquire (.trigger ())), .proceed 3, .proceed 3,
        .resume 3 (.connected (.error (.establish "broker" ⟨"refused", []⟩))),
        .start (.acquire (.trigger ())), .proceed 4, .proceed 4, .resume 4 (.connected (.ok ())),
        .resume 4 (.equipped (.error ⟨"no channel", []⟩)), .resume 4 (.closed (.ok ())),
        .start (.acquire (.trigger ())), .proceed 5, .proceed 5, .resume 5 (.connected (.ok ())),
        .resume 5 (.equipped (.ok ())), .resume 5 (.processed (.ok ())), .proceed 5] =
      some (_, _) := rfl
  have run : Run _ Orderly _ _ _ := Run.of_turns h (by decide)
  exact ⟨_, _, run, by decide, rfl, rfl, rfl, refines_one_slot run (by decide)⟩

end Line

end BrokerPool.Lifecycle
