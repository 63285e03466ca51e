import BrokerPool.Lifecycle.System
import Mathlib.Algebra.BigOperators.Group.Multiset.Basic
import Mathlib.Data.List.Nodup

/-!
# What one turn does

A turn is one action of a system with the systems before and after it. It moves one call and leaves
all others where they are. `Passage` lists everything that a turn can do to the call that moves and
to what all calls share, with the conditions under which it does it.

Results:
* `step_around`: every action that can happen takes one call through a passage, and the other calls
  are as before.
* `Turn.Around.numbered`: the numbers of calls stay distinct.
-/

namespace BrokerPool.Lifecycle

variable {ι ω : Type}

/-! ## Turns -/

/-- The call that an action moves. A call that begins gets the number after the last one. -/
def Action.call (last : ℕ) : Action ι ω → ℕ
  | .start _ => last + 1
  | .proceed n | .resume n _ | .run n _ | .close n | .drop n | .cancel n | .abandon n => n

/-- One action of a system: the systems before and after it, and what is reported. -/
structure Turn (ι ω : Type) where
  before : System ι ω
  action : Action ι ω
  after : System ι ω
  events : List Event

namespace Turn

/-- The call that moves. -/
def call (t : Turn ι ω) : ℕ := t.action.call t.before.last

/-- Where the call stood; `none` if it begins with this turn. -/
def old (t : Turn ι ω) : Option (Stage ι ω) := t.before.stage? t.call

/-- Where the call stands now; `none` if nothing is left of it. -/
def new (t : Turn ι ω) : Option (Stage ι ω) := t.after.stage? t.call

/-- The request that the call makes with this turn. -/
def asked (t : Turn ι ω) : Option (Request ι) := t.new.bind Stage.request?

end Turn

/-! ## Passages -/

/-- Everything that a turn can do. The world goes from the first to the second, and the call that
    moves from one stage to another; it has no stage before it begins and after it is taken away. -/
inductive Passage (role : Role) :
    World → Option (Stage ι ω) → Action ι ω → World → Option (Stage ι ω) → List Event → Prop
  | enter (w : World) (goal : Goal ι) :
    Passage role w none (.start (.acquire goal)) w (some (.entering goal)) []
  | enterShutdown (w : World) : Passage role w none (.start .shutdown) w (some .sealing) []
  | refuse (w : World) (n : ℕ) (goal : Goal ι) (closed : w.pool.closed = true) :
    Passage role w (some (.entering goal)) (.proceed n) w (some (.ended (.failed .shutdown))) []
  | pass (w : World) (n : ℕ) (goal : Goal ι) (opened : w.pool.closed = false) :
    Passage role w (some (.entering goal)) (.proceed n) w (some (.picking goal)) []
  | reuse (w : World) (n : ℕ) (goal : Goal ι) (r : Resource) (rest : List Resource)
    (idle : w.pool.idle = r :: rest) :
    Passage role w (some (.picking goal)) (.proceed n)
      { w with pool := { w.pool with idle := rest } } (some (.obtained goal r)) [.reused r.id]
  | miss (w : World) (n : ℕ) (goal : Goal ι) (idle : w.pool.idle = []) :
    Passage role w (some (.picking goal)) (.proceed n)
      { w with supply := { w.supply with connections := w.supply.connections + 1 } }
      (some (.connecting goal (w.supply.connections + 1))) []
  | connect (w : World) (n : ℕ) (goal : Goal ι) (c : ℕ) :
    Passage role w (some (.connecting goal c)) (.resume n (.connected (.ok ()))) w
      (some (.equipping goal c)) []
  | connectFail (w : World) (n : ℕ) (goal : Goal ι) (c : ℕ) (e : ConnectionError) :
    Passage role w (some (.connecting goal c)) (.resume n (.connected (.error e))) w
      (some (.ended (.failed (.connection e)))) []
  | equip (w : World) (n : ℕ) (goal : Goal ι) (c : ℕ) (r : Resource)
    (made : r = ⟨⟨w.supply.resources + 1⟩, c, w.supply.workers + 1⟩) :
    Passage role w (some (.equipping goal c)) (.resume n (.equipped (.ok ())))
      { w with supply := { w.supply with
          workers := w.supply.workers + 1, resources := w.supply.resources + 1 } }
      (some (.obtained goal r)) [.created r.id role.step]
  | equipFail (w : World) (n : ℕ) (goal : Goal ι) (c : ℕ) (cause : Fault) :
    Passage role w (some (.equipping goal c)) (.resume n (.equipped (.error cause))) w
      (some (.unwinding c cause)) []
  | unwound (w : World) (n c : ℕ) (cause : Fault) (result : Except Fault Unit) :
    Passage role w (some (.unwinding c cause)) (.resume n (.closed result)) w
      (some (.ended (.failed (.connection (.worker role.target cause)))))
      ((Stage.fault? result).map Event.unwindFailed).toList
  | succeed (w : World) (n : ℕ) (r : Resource) (input : ι) (output : ω) :
    Passage role w (some (.processing r input)) (.resume n (.processed (.ok output))) w
      (some (.returning r output)) []
  | fail (w : World) (n : ℕ) (r : Resource) (input : ι) (cause : Fault) :
    Passage role w (some (.processing r input)) (.resume n (.processed (.error cause))) w
      (some (.closingWorker r (.discard cause))) [.discarding r.id cause]
  | giveBack (w : World) (n : ℕ) (r : Resource) (output : ω) (opened : w.pool.closed = false) :
    Passage role w (some (.returning r output)) (.proceed n)
      { w with pool := { w.pool with idle := r :: w.pool.idle } }
      (some (.ended (.output output))) []
  | turnAway (w : World) (n : ℕ) (r : Resource) (output : ω) (closed : w.pool.closed = true) :
    Passage role w (some (.returning r output)) (.proceed n) w
      (some (.closingWorker r (.refused output))) [.refused r.id]
  | workerClosed (w : World) (n : ℕ) (r : Resource) (purpose : Purpose ω)
    (result : Except Fault Unit) :
    Passage role w (some (.closingWorker r purpose)) (.resume n (.closed result)) w
      (some (.closingConnection r (Stage.fault? result) purpose)) []
  | connectionClosed (w : World) (n : ℕ) (r : Resource) (worker : Option Fault)
    (purpose : Purpose ω) (result : Except Fault Unit) :
    Passage role w (some (.closingConnection r worker purpose)) (.resume n (.closed result)) w
      (some (Stage.settled r (Stage.firstFailure r worker (Stage.fault? result)) purpose).1)
      (Stage.secondFailure r worker (Stage.fault? result) ++
        (Stage.settled r (Stage.firstFailure r worker (Stage.fault? result)) purpose :
          Stage ι ω × List Event).2)
  | close (w : World) (n : ℕ) :
    Passage role w (some .sealing) (.proceed n) { w with pool := w.pool.close }
      (some (.draining {})) []
  | drain (w : World) (n : ℕ) (summary : Summary) (r : Resource) (rest : List Resource)
    (idle : w.pool.idle = r :: rest) :
    Passage role w (some (.draining summary)) (.proceed n)
      { w with pool := { w.pool with idle := rest } } (some (.closingWorker r (.drain summary))) []
  | drained (w : World) (n : ℕ) (summary : Summary) (idle : w.pool.idle = []) :
    Passage role w (some (.draining summary)) (.proceed n) w (some (.ended (.drained summary)))
      [.drained role.step summary.closed summary.failures.length]
  | use (w : World) (n : ℕ) (r : Resource) (input : ι) :
    Passage role w (some (.holding r)) (.run n input) w (some (.processing r input)) []
  | discard (w : World) (n : ℕ) (r : Resource) :
    Passage role w (some (.holding r)) (.close n) w (some (.closingWorker r .direct)) []
  | letGo (w : World) (n : ℕ) (r : Resource) :
    Passage role w (some (.holding r)) (.drop n) w none []
  | rescue (w : World) (n : ℕ) (r : Resource) (input : ι) :
    Passage role w (some (.processing r input)) (.cancel n) w
      (some (.closingWorker r .background)) [.cancelled r.id]
  | cancel (w : World) (n : ℕ) (stage : Stage ι ω) (awaited : stage.awaited = true)
    (step : ∀ r input, stage ≠ .processing r input) :
    Passage role w (some stage) (.cancel n) w none []
  | abandon (w : World) (n : ℕ) (stage : Stage ι ω) (awaited : stage.awaited = true) :
    Passage role w (some stage) (.abandon n) w none stage.abandon

/-- The move of a call that does not wait is a passage. -/
theorem proceed_passage {role : Role} {w : World} {st : Stage ι ω} {m : Move ι ω} (n : ℕ)
    (h : st.proceed role w = some m) :
    Passage role w (some st) (.proceed n) m.world (some m.stage) m.events := by
  cases st with
  | entering goal =>
    cases hc : w.pool.closed with
    | true =>
      simp only [Stage.proceed, hc, ite_true, Option.some.injEq] at h
      subst h; exact .refuse w n goal hc
    | false =>
      simp only [Stage.proceed, hc, Bool.false_eq_true, ite_false, Option.some.injEq] at h
      subst h; exact .pass w n goal hc
  | picking goal =>
    cases hi : w.pool.idle with
    | nil =>
      simp only [Stage.proceed, Pool.checkout, hi, Option.some.injEq] at h
      subst h; exact .miss w n goal hi
    | cons r rest =>
      simp only [Stage.proceed, Pool.checkout, hi, Option.some.injEq] at h
      subst h; exact .reuse w n goal r rest hi
  | returning r output =>
    cases hc : w.pool.closed with
    | true =>
      simp only [Stage.proceed, Pool.checkin, hc, ite_true, Option.some.injEq] at h
      subst h; exact .turnAway w n r output hc
    | false =>
      have hc' : ¬ w.pool.closed = true := by simp [hc]
      simp only [Stage.proceed, Pool.checkin, if_neg hc', Option.some.injEq] at h
      subst h; exact .giveBack w n r output hc
  | sealing =>
    simp only [Stage.proceed, Option.some.injEq] at h
    subst h; exact .close w n
  | draining summary =>
    cases hi : w.pool.idle with
    | nil =>
      simp only [Stage.proceed, Pool.checkout, hi, Option.some.injEq] at h
      subst h; exact .drained w n summary hi
    | cons r rest =>
      simp only [Stage.proceed, Pool.checkout, hi, Option.some.injEq] at h
      subst h; exact .drain w n summary r rest hi
  | _ => simp [Stage.proceed] at h

/-- The move of a call on an answer is a passage. -/
theorem resume_passage {role : Role} {w : World} {st : Stage ι ω} {answer : Answer ω}
    {m : Move ι ω} (n : ℕ) (h : st.resume role w answer = some m) :
    Passage role w (some st) (.resume n answer) m.world (some m.stage) m.events := by
  cases st with
  | connecting goal c =>
    rcases answer with (e | ⟨⟩) | _ | _ | _ <;>
      simp only [Stage.resume, Option.some.injEq, reduceCtorEq] at h <;> subst h
    · exact .connectFail w n goal c e
    · exact .connect w n goal c
  | equipping goal c =>
    rcases answer with _ | (cause | ⟨⟩) | _ | _ <;>
      simp only [Stage.resume, Option.some.injEq, reduceCtorEq] at h <;> subst h
    · exact .equipFail w n goal c cause
    · exact .equip w n goal c _ rfl
  | unwinding c cause =>
    rcases answer with _ | _ | _ | result <;>
      simp only [Stage.resume, Option.some.injEq, reduceCtorEq] at h
    subst h; exact .unwound w n c cause result
  | processing r input =>
    rcases answer with _ | _ | (cause | output) | _ <;>
      simp only [Stage.resume, Option.some.injEq, reduceCtorEq] at h <;> subst h
    · exact .fail w n r input cause
    · exact .succeed w n r input output
  | closingWorker r purpose =>
    rcases answer with _ | _ | _ | result <;>
      simp only [Stage.resume, Option.some.injEq, reduceCtorEq] at h
    subst h; exact .workerClosed w n r purpose result
  | closingConnection r worker purpose =>
    rcases answer with _ | _ | _ | result <;>
      simp only [Stage.resume, Option.some.injEq, reduceCtorEq] at h
    subst h; exact .connectionClosed w n r worker purpose result
  | _ => simp [Stage.resume] at h

/-! ## The call that moves among the others -/

/-- The numbers of a system's calls are distinct, and none is greater than the last one given. -/
structure System.Numbered (s : System ι ω) : Prop where
  nodup : (s.calls.map Prod.fst).Nodup
  le_last : ∀ c ∈ s.calls, c.1 ≤ s.last

/-- A turn takes one call through a passage; the calls `left` and `right` of it do not move. -/
structure Turn.Around (role : Role) (t : Turn ι ω) (left right : List (ℕ × Stage ι ω)) : Prop where
  before : t.before.calls = left ++ (t.old.map (t.call, ·)).toList ++ right
  after : t.after.calls = left ++ (t.new.map (t.call, ·)).toList ++ right
  others : ∀ c ∈ left ++ right, c.1 ≠ t.call
  passage : Passage role t.before.world t.old t.action t.after.world t.new t.events
  last : max t.before.last t.call ≤ t.after.last

theorem System.stage?_of_split {s : System ι ω} {n : ℕ} {st : Option (Stage ι ω)}
    {left right : List (ℕ × Stage ι ω)} (h : s.calls = left ++ (st.map (n, ·)).toList ++ right)
    (ho : ∀ c ∈ left ++ right, c.1 ≠ n) : s.stage? n = st := by
  have hl : left.lookup n = none := by
    rw [List.lookup_eq_none_iff]
    intro p hp
    simpa using (ho p (List.mem_append_left _ hp)).symm
  have hr : right.lookup n = none := by
    rw [List.lookup_eq_none_iff]
    intro p hp
    simpa using (ho p (List.mem_append_right _ hp)).symm
  rw [System.stage?, h, List.lookup_append, List.lookup_append, hl, hr]
  cases st <;> simp

theorem System.Numbered.split {s : System ι ω} (hs : s.Numbered) {n : ℕ} {st : Stage ι ω}
    (h : s.stage? n = some st) :
    ∃ left right, s.calls = left ++ (n, st) :: right ∧ ∀ c ∈ left ++ right, c.1 ≠ n := by
  obtain ⟨left, right, hc, hl⟩ := List.lookup_eq_some_iff.mp h
  refine ⟨left, right, hc, fun c hm => ?_⟩
  have hn := hs.nodup
  rw [hc, List.map_append, List.map_cons, List.nodup_middle, List.nodup_cons] at hn
  rintro rfl
  exact hn.1 (by rw [← List.map_append]; exact List.mem_map.mpr ⟨c, hm, rfl⟩)

theorem System.Numbered.mem_iff {s : System ι ω} (hs : s.Numbered) {n : ℕ} {st : Stage ι ω} :
    (n, st) ∈ s.calls ↔ s.stage? n = some st := by
  constructor
  · intro h
    obtain ⟨left, right, hc⟩ := List.append_of_mem h
    refine System.stage?_of_split (by simpa using hc) fun c hm => ?_
    have hn := hs.nodup
    rw [hc, List.map_append, List.map_cons, List.nodup_middle, List.nodup_cons] at hn
    rintro rfl
    exact hn.1 (by rw [← List.map_append]; exact List.mem_map.mpr ⟨c, hm, rfl⟩)
  · intro h
    obtain ⟨left, right, hc, -⟩ := hs.split h
    simp [hc]

theorem map_put_of_ne {n : ℕ} {st : Stage ι ω} {calls : List (ℕ × Stage ι ω)}
    (h : ∀ c ∈ calls, c.1 ≠ n) :
    calls.map (fun (m, old) => if m = n then (m, st) else (m, old)) = calls := by
  conv_rhs => rw [← List.map_id calls]
  apply List.map_congr_left
  intro c hc
  simp [h c hc]

theorem System.put_calls {s : System ι ω} {n : ℕ} {old st : Stage ι ω}
    {left right : List (ℕ × Stage ι ω)} (h : s.calls = left ++ (n, old) :: right)
    (ho : ∀ c ∈ left ++ right, c.1 ≠ n) : (s.put n st).calls = left ++ (n, st) :: right := by
  rw [List.forall_mem_append] at ho
  simp only [System.put, h, List.map_append, List.map_cons, ite_true]
  rw [map_put_of_ne ho.1, map_put_of_ne ho.2]

theorem System.remove_calls {s : System ι ω} {n : ℕ} {old : Stage ι ω}
    {left right : List (ℕ × Stage ι ω)} (h : s.calls = left ++ (n, old) :: right)
    (ho : ∀ c ∈ left ++ right, c.1 ≠ n) : (s.remove n).calls = left ++ right := by
  rw [List.forall_mem_append] at ho
  simp only [System.remove, h, List.filter_append, List.filter_cons, ne_eq, not_true_eq_false,
    decide_false, Bool.false_eq_true, ite_false]
  rw [List.filter_eq_self.mpr (by simpa using ho.1), List.filter_eq_self.mpr (by simpa using ho.2)]

/-- A call that was there goes through a passage, and all others stay. -/
theorem around_of_split {role : Role} {t : Turn ι ω} {st : Stage ι ω} {new : Option (Stage ι ω)}
    {left right : List (ℕ × Stage ι ω)} (hb : t.before.calls = left ++ (t.call, st) :: right)
    (ha : t.after.calls = left ++ (new.map (t.call, ·)).toList ++ right)
    (ho : ∀ c ∈ left ++ right, c.1 ≠ t.call)
    (hp : Passage role t.before.world (some st) t.action t.after.world new t.events)
    (hl : max t.before.last t.call ≤ t.after.last) : t.Around role left right := by
  have hb' : t.before.calls = left ++ ((some st).map (t.call, ·)).toList ++ right := by
    simpa using hb
  have hold : t.old = some st := System.stage?_of_split hb' ho
  have hnew : t.new = new := System.stage?_of_split ha ho
  exact ⟨by rw [hold]; exact hb', by rw [hnew]; exact ha, ho, by rw [hold, hnew]; exact hp, hl⟩

theorem System.Numbered.call_le {s : System ι ω} (hs : s.Numbered) {n : ℕ} {st : Stage ι ω}
    (h : s.stage? n = some st) : n ≤ s.last := by
  obtain ⟨left, right, hc, -⟩ := hs.split h
  exact hs.le_last (n, st) (by simp [hc])

theorem put_around {role : Role} {s : System ι ω} (hs : s.Numbered) {a : Action ι ω}
    {st st' : Stage ι ω} {w : World} {events : List Event}
    (hst : s.stage? (a.call s.last) = some st)
    (hp : Passage role s.world (some st) a w (some st') events) :
    ∃ left right, Turn.Around role
      ⟨s, a, { s.put (a.call s.last) st' with world := w }, events⟩ left right := by
  obtain ⟨left, right, hc, ho⟩ := hs.split hst
  exact ⟨left, right, around_of_split hc (by simpa [Turn.call] using System.put_calls hc ho) ho hp
    (max_le le_rfl (hs.call_le hst))⟩

theorem remove_around {role : Role} {s : System ι ω} (hs : s.Numbered) {a : Action ι ω}
    {st : Stage ι ω} {events : List Event} (hst : s.stage? (a.call s.last) = some st)
    (hp : Passage role s.world (some st) a s.world none events) :
    ∃ left right, Turn.Around role ⟨s, a, s.remove (a.call s.last), events⟩ left right := by
  obtain ⟨left, right, hc, ho⟩ := hs.split hst
  exact ⟨left, right, around_of_split hc (by simpa using System.remove_calls hc ho) ho hp
    (max_le le_rfl (hs.call_le hst))⟩

/-- A call that gets the next number comes last, behind all others. -/
theorem start_around {role : Role} {s : System ι ω} (hs : s.Numbered) (what : Start ι)
    {st : Stage ι ω} (hp : Passage role s.world none (.start what) s.world (some st) []) :
    Turn.Around role ⟨s, .start what,
      { s with calls := s.calls ++ [(s.last + 1, st)], last := s.last + 1 }, []⟩ s.calls [] := by
  have ho : ∀ c ∈ s.calls ++ [], c.1 ≠ s.last + 1 := by
    intro c hc
    have := hs.le_last c (by simpa using hc)
    omega
  have hold : s.stage? (s.last + 1) = none := System.stage?_of_split (by simp) ho
  have hnew : System.stage? { s with calls := s.calls ++ [(s.last + 1, st)], last := s.last + 1 }
      (s.last + 1) = some st := System.stage?_of_split (by simp) ho
  refine ⟨?_, ?_, ho, ?_, max_le (Nat.le_succ _) le_rfl⟩
  · simp [Turn.old, Turn.call, Action.call, hold]
  · simp [Turn.new, Turn.call, Action.call, hnew]
  · simpa only [Turn.old, Turn.new, Turn.call, Action.call, hold, hnew] using hp

/-- Every action that can happen takes one call through a passage, and the others do not move. -/
theorem step_around {role : Role} {s s' : System ι ω} {a : Action ι ω} {events : List Event}
    (hs : s.Numbered) (h : s.step role a = some (s', events)) :
    ∃ left right, Turn.Around role ⟨s, a, s', events⟩ left right := by
  cases a with
  | start what =>
    cases what with
    | acquire goal =>
      simp only [System.step, Option.some.injEq, Prod.mk.injEq] at h
      obtain ⟨rfl, rfl⟩ := h
      exact ⟨_, _, start_around hs _ (.enter _ goal)⟩
    | shutdown =>
      simp only [System.step, Option.some.injEq, Prod.mk.injEq] at h
      obtain ⟨rfl, rfl⟩ := h
      exact ⟨_, _, start_around hs _ (.enterShutdown _)⟩
  | proceed n =>
    simp only [System.step, Option.bind_eq_bind, Option.bind_eq_some_iff, Option.pure_def,
      Option.some.injEq, System.apply, Prod.mk.injEq] at h
    obtain ⟨st, hst, m, hm, rfl, rfl⟩ := h
    exact put_around hs hst (proceed_passage n hm)
  | resume n answer =>
    simp only [System.step, Option.bind_eq_bind, Option.bind_eq_some_iff, Option.pure_def,
      Option.some.injEq, System.apply, Prod.mk.injEq] at h
    obtain ⟨st, hst, m, hm, rfl, rfl⟩ := h
    exact put_around hs hst (resume_passage n hm)
  | run n input =>
    simp only [System.step] at h
    split at h <;> simp only [Option.some.injEq, Prod.mk.injEq, reduceCtorEq] at h
    rename_i r hst
    obtain ⟨rfl, rfl⟩ := h
    exact put_around hs hst (.use _ n r input)
  | close n =>
    simp only [System.step] at h
    split at h <;> simp only [Option.some.injEq, Prod.mk.injEq, reduceCtorEq] at h
    rename_i r hst
    obtain ⟨rfl, rfl⟩ := h
    exact put_around hs hst (.discard _ n r)
  | drop n =>
    simp only [System.step] at h
    split at h <;> simp only [Option.some.injEq, Prod.mk.injEq, reduceCtorEq] at h
    rename_i r hst
    obtain ⟨rfl, rfl⟩ := h
    exact remove_around hs hst (.letGo _ n r)
  | cancel n =>
    simp only [System.step, Option.bind_eq_bind, Option.bind_eq_some_iff] at h
    obtain ⟨st, hst, h⟩ := h
    cases hw : st.awaited
    · simp [hw] at h
    simp only [hw, Bool.not_true, Bool.false_eq_true, ite_false] at h
    by_cases hp : ∃ r input, st = .processing r input
    · obtain ⟨r, input, rfl⟩ := hp
      simp only [Stage.cancel, Option.pure_def, Option.some.injEq, Prod.mk.injEq] at h
      obtain ⟨rfl, rfl⟩ := h
      exact put_around hs hst (.rescue _ n r input)
    · have hn : st.cancel = (none, []) := by
        cases st <;> first | rfl | exact absurd ⟨_, _, rfl⟩ hp
      simp only [hn, Option.pure_def, Option.some.injEq, Prod.mk.injEq] at h
      obtain ⟨rfl, rfl⟩ := h
      exact remove_around hs hst (.cancel _ n st hw fun r input he => hp ⟨r, input, he⟩)
  | abandon n =>
    simp only [System.step, Option.bind_eq_bind, Option.bind_eq_some_iff] at h
    obtain ⟨st, hst, h⟩ := h
    cases hw : st.awaited
    · simp [hw] at h
    simp only [hw, Bool.not_true, Bool.false_eq_true, ite_false, Option.pure_def, Option.some.injEq,
      Prod.mk.injEq] at h
    obtain ⟨rfl, rfl⟩ := h
    exact remove_around hs hst (.abandon _ n st hw)

/-! ## What a turn does to the list of calls -/

namespace Turn.Around

variable {role : Role} {t : Turn ι ω} {left right : List (ℕ × Stage ι ω)}

theorem mem_before (h : t.Around role left right) {c : ℕ × Stage ι ω} :
    c ∈ t.before.calls ↔ c ∈ left ++ right ∨ ∃ st, t.old = some st ∧ c = (t.call, st) := by
  rw [h.before]
  cases t.old with
  | none => simp
  | some st => simp only [Option.map_some, Option.toList_some, List.mem_append, List.mem_singleton,
      Option.some.injEq, exists_eq_left']; tauto

theorem mem_after (h : t.Around role left right) {c : ℕ × Stage ι ω} :
    c ∈ t.after.calls ↔ c ∈ left ++ right ∨ ∃ st, t.new = some st ∧ c = (t.call, st) := by
  rw [h.after]
  cases t.new with
  | none => simp
  | some st => simp only [Option.map_some, Option.toList_some, List.mem_append, List.mem_singleton,
      Option.some.injEq, exists_eq_left']; tauto

/-- A turn leaves the other calls where they stand. -/
theorem stage?_of_ne (h : t.Around role left right) {n : ℕ} (hn : n ≠ t.call) :
    t.after.stage? n = t.before.stage? n := by
  have hm : ∀ st : Option (Stage ι ω), (st.map (t.call, ·)).toList.lookup n = none := by
    intro st
    cases st <;> simp [List.lookup_cons, beq_eq_false_iff_ne.mpr hn]
  rw [System.stage?, System.stage?, h.before, h.after]
  simp only [List.lookup_append, hm]

theorem numbered (h : t.Around role left right) (hs : t.before.Numbered) : t.after.Numbered := by
  constructor
  · have hn := hs.nodup
    rw [h.before] at hn
    rw [h.after]
    have hlr : ((left ++ right).map Prod.fst).Nodup := by
      refine List.Sublist.nodup (List.Sublist.map _ ?_) hn
      rw [List.append_assoc]
      exact List.Sublist.append_left (List.sublist_append_right _ _) _
    cases t.new with
    | none => simpa using hlr
    | some st =>
      rw [Option.map_some, Option.toList_some, List.append_assoc, List.singleton_append,
        List.map_append, List.map_cons, List.nodup_middle, List.nodup_cons, ← List.map_append]
      refine ⟨fun hm => ?_, hlr⟩
      obtain ⟨c, hc, he⟩ := List.mem_map.mp hm
      exact h.others c hc he
  · have hl := h.last
    intro c hc
    rcases h.mem_after.mp hc with hc | ⟨st, -, rfl⟩
    · have := hs.le_last c (h.mem_before.mpr (Or.inl hc))
      omega
    · simp only
      omega

end Turn.Around

end BrokerPool.Lifecycle
