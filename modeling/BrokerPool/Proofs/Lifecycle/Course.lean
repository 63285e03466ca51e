import BrokerPool.Lifecycle.Course
import BrokerPool.Proofs.Lifecycle.Drain
import BrokerPool.Proofs.Lifecycle.Story

/-!
# Where a single call comes to rest

A call that has the controller to itself makes one move after the other. What every move keeps
holds where the call comes to rest: it has ended, or its caller holds a resource, or it waits for an
answer that never comes.

Results:
* `Passage.rank_lt`: with every move a call that is no shutdown comes closer to its end.
* `Course.run_rests`: what every move keeps holds where the call comes to rest.
-/

namespace BrokerPool.Lifecycle

variable {β ι ω : Type}

/-! ## Moves -/

/-- Answers are of the kind that the request asks for. -/
def Apt (respond : Responder β ι ω) : Prop :=
  ∀ b request outside log answer, respond b request = (outside, log, some answer) →
    request.Answers answer

namespace Course

/-- One move of a call, with the answer that it waits for. -/
inductive Moves (role : Role) (respond : Responder β ι ω) : Course β ι ω → Course β ι ω → Prop
  | proceed (c : Course β ι ω) (m : Move ι ω) (waits : c.stage.request? = none)
    (move : c.stage.proceed role c.world = some m) : Moves role respond c (c.moved m)
  | resume (c : Course β ι ω) (request : Request ι) (outside : β) (log : List Log.Entry)
    (answer : Answer ω) (m : Move ι ω) (waits : c.stage.request? = some request)
    (answered : respond c.outside request = (outside, log, some answer))
    (move : c.stage.resume role c.world answer = some m) :
    Moves role respond c (Course.moved { c with outside, log := c.log ++ log } m)

/-- A call comes to rest: it has ended, or its caller holds a resource, or it gets no answer. -/
inductive Rests (respond : Responder β ι ω) : Course β ι ω → Course β ι ω → Prop
  | ended (c : Course β ι ω) (outcome : Outcome ω) (stage : c.stage = .ended outcome) :
    Rests respond c c
  | holding (c : Course β ι ω) (r : Resource) (stage : c.stage = .holding r) : Rests respond c c
  | silent (c : Course β ι ω) (request : Request ι) (outside : β) (log : List Log.Entry)
    (waits : c.stage.request? = some request)
    (unanswered : respond c.outside request = (outside, log, none)) :
    Rests respond c { c with outside, log := c.log ++ log }

end Course

/-! ## Every call comes to rest -/

/-- The number of moves that a call which is no shutdown can still make. -/
def Stage.rank : Stage ι ω → ℕ
  | .entering _ => 8
  | .picking _ => 7
  | .connecting _ _ => 6
  | .equipping _ _ => 5
  | .processing _ _ => 4
  | .returning _ _ => 3
  | .closingWorker _ _ => 2
  | .closingConnection _ _ _ | .unwinding _ _ => 1
  | .holding _ | .sealing | .draining _ | .ended _ => 0

theorem Stage.rank_obtained (goal : Goal ι) (r : Resource) :
    (obtained goal r : Stage ι ω).rank ≤ 4 := by cases goal <;> simp [obtained, rank]

/-- A call that waits makes no move by itself. -/
theorem Stage.proceed_of_request? {role : Role} {w : World} {st : Stage ι ω} {request : Request ι}
    (h : st.request? = some request) : st.proceed role w = none := by
  cases st <;> simp_all [request?, proceed]

/-- With every move a call that is no shutdown comes closer to its end. -/
theorem Passage.rank_lt {role : Role} {w w' : World} {st st' : Stage ι ω} {a : Action ι ω}
    {events : List Event} (p : Passage role w (some st) a w' (some st') events)
    (ha : ∀ n input, a ≠ .run n input) (hc : ∀ n, a ≠ .close n) (h : st.shutsDown = false) :
    st'.shutsDown = false ∧ st'.rank < st.rank := by
  cases p with
  | reuse n goal r rest idle =>
    exact ⟨Stage.shutsDown_obtained goal r,
      (Stage.rank_obtained goal r).trans_lt (by simp [Stage.rank])⟩
  | equip n goal c r made =>
    exact ⟨Stage.shutsDown_obtained goal r,
      (Stage.rank_obtained goal r).trans_lt (by simp [Stage.rank])⟩
  | workerClosed n r purpose result =>
    cases purpose <;> simp_all [Stage.shutsDown, Stage.shutting, Stage.summary?, Stage.rank]
  | connectionClosed n r worker purpose result =>
    cases purpose <;>
      simp_all [Stage.shutsDown, Stage.shutting, Stage.summary?, Stage.settled, Stage.rank]
  | close n => simp [Stage.shutsDown, Stage.shutting] at h
  | drain n summary r rest idle => simp [Stage.shutsDown, Stage.shutting] at h
  | drained n summary idle => simp [Stage.shutsDown, Stage.shutting] at h
  | use n r input => exact absurd rfl (ha n input)
  | discard n r => exact absurd rfl (hc n)
  | _ => exact ⟨rfl, by simp [Stage.rank]⟩

namespace Course

variable {role : Role} {respond : Responder β ι ω}

/-- A move is a passage of the call. -/
theorem Moves.passage {c c' : Course β ι ω} (h : Moves role respond c c') :
    ∃ a events, (∀ n input, a ≠ .run n input) ∧ (∀ n, a ≠ .close n) ∧
      Passage role c.world (some c.stage) a c'.world (some c'.stage) events := by
  cases h with
  | proceed m waits move => exact ⟨_, _, by simp, by simp, proceed_passage 0 move⟩
  | resume request outside log answer m waits answered move =>
    exact ⟨_, _, by simp, by simp, resume_passage 0 move⟩

/-- What every move keeps holds where the call comes to rest. -/
theorem run_rests (role : Role) (respond : Responder β ι ω) (apt : Apt respond)
    {P : Course β ι ω → Prop} (keep : ∀ c c', P c → Moves role respond c c' → P c') (fuel : ℕ)
    {c : Course β ι ω} (hc : P c) (hs : c.stage.shutsDown = false) (hf : c.stage.rank ≤ fuel) :
    ∃ c', P c' ∧ Rests respond c' (run role respond fuel c) := by
  induction fuel generalizing c with
  | zero =>
    refine ⟨c, hc, ?_⟩
    cases hst : c.stage <;> simp [hst, Stage.rank, Stage.shutsDown, Stage.shutting] at hf hs
    · exact .holding c _ hst
    · exact .ended c _ hst
  | succ fuel ih =>
    have next : ∀ c', Moves role respond c c' →
        ∃ c'', P c'' ∧ Rests respond c'' (run role respond fuel c') := by
      intro c' move
      obtain ⟨a, events, ha, hcl, p⟩ := move.passage
      obtain ⟨hs', hr⟩ := p.rank_lt ha hcl hs
      exact ih (keep c c' hc move) hs' (by omega)
    cases hq : c.stage.request? with
    | none =>
      cases hm : c.stage.proceed role c.world with
      | some m =>
        simp only [run, hq, hm]
        exact next _ (.proceed c m hq hm)
      | none =>
        simp only [run, hq, hm]
        refine ⟨c, hc, ?_⟩
        rcases c.stage.moves role c.world with ⟨o, ho⟩ | ⟨r, hr⟩ | h | ⟨request, h, -⟩
        · exact .ended c o ho
        · exact .holding c r hr
        · simp [hm] at h
        · simp [hq] at h
    | some request =>
      rcases hr : respond c.outside request with ⟨outside, log, answer⟩
      cases answer with
      | none =>
        simp only [run, hq, hr, Option.bind_none]
        exact ⟨c, hc, .silent c request outside log hq hr⟩
      | some answer =>
        have hsome : (c.stage.resume role c.world answer).isSome := by
          rcases c.stage.moves role c.world with ⟨o, ho⟩ | ⟨r, hst⟩ | h | ⟨request', h, hall⟩
          · simp [ho, Stage.request?] at hq
          · simp [hst, Stage.request?] at hq
          · simp [Stage.proceed_of_request? hq] at h
          · obtain rfl : request' = request := by simpa [hq] using h.symm
            exact hall answer (apt _ _ _ _ _ hr)
        obtain ⟨m, hm⟩ := Option.isSome_iff_exists.mp hsome
        simp only [run, hq, hr, Option.bind_some, hm]
        exact next _ (.resume c request outside log answer m hq hr hm)

end Course

end BrokerPool.Lifecycle
