import BrokerPool.Lifecycle.Course
import BrokerPool.Proofs.Lifecycle.Passage
import Mathlib.Data.Option.Basic

/-!
# Controllers that are answered alike

A scene is a controller together with what answers its requests, and the log of both. Callers begin,
hold and leave calls as they like, and every request is made once and answered later, in any order.
Where the requests of two controllers are answered alike, they go the same way.

Results:
* `Scene.Alike.step`, `Scene.Alike.play`: in two scenes that are alike the same can happen, and
  comes to the same.
* `Course.Alike.run`: the same for a call that has its controller to itself.
-/

namespace BrokerPool.Lifecycle

variable {β β' ι ω : Type}

/-- A controller, what answers its requests, and what was logged. -/
structure Scene (β ι ω : Type) where
  outside : β
  system : System ι ω := {}
  /-- The calls whose requests were made, each with the answer that is on its way, if one comes. -/
  asked : List (ℕ × Option (Answer ω)) := []
  log : List Log.Entry := []

/-- What can happen to a controller and what answers it. -/
inductive Happening (ι ω : Type)
  /-- A caller or a call does something by itself. -/
  | act (a : Action ι ω)
  /-- The request of a call is made. -/
  | ask (call : ℕ)
  /-- The answer to the request of a call comes. -/
  | hear (call : ℕ)

namespace Scene

/-- The scene after an action, in which the call that moves waits for nothing any more. -/
def acted (s : Scene β ι ω) (role : Role) (a : Action ι ω) : Option (Scene β ι ω) :=
  (s.system.step role a).map fun (system, events) =>
    { s with
      system
      asked := s.asked.filter (·.1 ≠ a.call s.system.last)
      log := s.log ++ events.map Event.entry }

/-- What a call waits for, if its request was not made yet. -/
def request? (s : Scene β ι ω) (call : ℕ) : Option (Request ι) :=
  if (s.asked.lookup call).isSome then none else (s.system.stage? call).bind Stage.request?

/-- The answer that is on its way to a call. -/
def answer? (s : Scene β ι ω) (call : ℕ) : Option (Answer ω) := (s.asked.lookup call).join

/-- The scene after the request of a call was made. -/
def requested (s : Scene β ι ω) (respond : Responder β ι ω) (call : ℕ) (request : Request ι) :
    Scene β ι ω :=
  let response := respond s.outside request
  { s with
    outside := response.1
    asked := (call, response.2.2) :: s.asked
    log := s.log ++ response.2.1 }

/-- The scene after something happens; `none` if it cannot. Answers come from outside only, and no
    request is made twice. -/
def step (role : Role) (respond : Responder β ι ω) (s : Scene β ι ω) :
    Happening ι ω → Option (Scene β ι ω)
  | .act (.resume _ _) => none
  | .act a => s.acted role a
  | .ask call => (s.request? call).map (s.requested respond call)
  | .hear call => (s.answer? call).bind fun answer => s.acted role (.resume call answer)

/-- The scene after one thing has happened after the other; what cannot happen is left out. -/
def play (role : Role) (respond : Responder β ι ω) (s : Scene β ι ω) (all : List (Happening ι ω)) :
    Scene β ι ω :=
  all.foldl (fun s d => (s.step role respond d).getD s) s

end Scene

/-! ## Answers that are alike -/

/-- In states that are alike, two responders give the same answers, log the same, and come to states
    that are alike again. -/
def RespondAlike (R : β → β' → Prop) (respond : Responder β ι ω) (respond' : Responder β' ι ω) :
    Prop :=
  ∀ b b' request, R b b' → R (respond b request).1 (respond' b' request).1 ∧
    (respond b request).2 = (respond' b' request).2

namespace Scene

/-- Two controllers stand at the same place and have logged the same. -/
structure Alike (R : β → β' → Prop) (s : Scene β ι ω) (s' : Scene β' ι ω) : Prop where
  outside : R s.outside s'.outside
  system : s.system = s'.system
  asked : s.asked = s'.asked
  log : s.log = s'.log

variable {R : β → β' → Prop} {s : Scene β ι ω} {s' : Scene β' ι ω} {respond : Responder β ι ω}
  {respond' : Responder β' ι ω}

theorem Alike.acted (h : s.Alike R s') (role : Role) (a : Action ι ω) :
    Option.Rel (Alike R) (s.acted role a) (s'.acted role a) := by
  rw [Scene.acted, Scene.acted, h.system, h.asked, h.log]
  cases s'.system.step role a with
  | none => exact .none
  | some after => exact .some ⟨h.outside, rfl, rfl, rfl⟩

theorem Alike.requested (h : s.Alike R s') (same : RespondAlike R respond respond') (call : ℕ)
    (request : Request ι) :
    (s.requested respond call request).Alike R (s'.requested respond' call request) := by
  obtain ⟨outside, said⟩ := same _ _ request h.outside
  refine ⟨outside, h.system, ?_, ?_⟩
  · simp only [Scene.requested, said, h.asked]
  · simp only [Scene.requested, said, h.log]

/-- What can happen in one can happen in the other, and comes to the same. -/
theorem Alike.step (h : s.Alike R s') (same : RespondAlike R respond respond') (role : Role)
    (d : Happening ι ω) :
    Option.Rel (Alike R) (s.step role respond d) (s'.step role respond' d) := by
  cases d with
  | act a =>
    cases a with
    | resume => exact .none
    | _ => exact h.acted role _
  | ask call =>
    have request : s.request? call = s'.request? call := by
      rw [request?, request?, h.asked, h.system]
    rw [Scene.step, Scene.step, request]
    cases s'.request? call with
    | none => exact .none
    | some request => exact .some (h.requested same call request)
  | hear call =>
    have answer : s.answer? call = s'.answer? call := by
      rw [answer?, answer?, h.asked]
    rw [Scene.step, Scene.step, answer]
    cases s'.answer? call with
    | none => exact .none
    | some answer => exact h.acted role _

/-- Where the same happens, it comes to the same. -/
theorem Alike.play (h : s.Alike R s') (same : RespondAlike R respond respond') (role : Role)
    (all : List (Happening ι ω)) :
    (s.play role respond all).Alike R (s'.play role respond' all) := by
  induction all generalizing s s' with
  | nil => exact h
  | cons d rest ih =>
    refine ih ?_
    show Alike R ((s.step role respond d).getD s) ((s'.step role respond' d).getD s')
    have after := h.step same role d
    generalize s.step role respond d = o at after ⊢
    generalize s'.step role respond' d = o' at after ⊢
    cases after with
    | none => exact h
    | some next => exact next

end Scene

/-! ## Calls that are alone -/

namespace Course

/-- Two calls stand at the same place and have logged the same. -/
structure Alike (R : β → β' → Prop) (c : Course β ι ω) (c' : Course β' ι ω) : Prop where
  stage : c.stage = c'.stage
  world : c.world = c'.world
  outside : R c.outside c'.outside
  log : c.log = c'.log

variable {R : β → β' → Prop} {c : Course β ι ω} {c' : Course β' ι ω} {respond : Responder β ι ω}
  {respond' : Responder β' ι ω}

/-- Calls that are answered alike go the same way. -/
theorem Alike.run (h : c.Alike R c') (same : RespondAlike R respond respond') (role : Role)
    (fuel : ℕ) : (run role respond fuel c).Alike R (run role respond' fuel c') := by
  induction fuel generalizing c c' with
  | zero => exact h
  | succ fuel ih =>
    obtain ⟨stage, world, b, log⟩ := c
    obtain ⟨stage', world', b', log'⟩ := c'
    obtain ⟨rfl, rfl, hb, rfl⟩ := h
    rw [Course.run, Course.run]
    cases stage.request? with
    | none =>
      dsimp only
      cases stage.proceed role world with
      | none => exact ⟨rfl, rfl, hb, rfl⟩
      | some m => exact ih ⟨rfl, rfl, hb, rfl⟩
    | some request =>
      obtain ⟨outside, said⟩ := same b b' request hb
      dsimp only
      generalize respond b request = r at outside said ⊢
      generalize respond' b' request = r' at outside said ⊢
      obtain ⟨x, added, answer⟩ := r
      obtain ⟨x', added', answer'⟩ := r'
      obtain ⟨rfl, rfl⟩ := Prod.mk.inj said
      cases answer.bind (stage.resume role world) with
      | none => exact ⟨rfl, rfl, outside, rfl⟩
      | some m => exact ih ⟨rfl, rfl, outside, rfl⟩

theorem Alike.outcome?_eq (h : c.Alike R c') : c.outcome? = c'.outcome? := by
  rw [outcome?, outcome?, h.stage]

theorem Alike.cancel (h : c.Alike R c') (same : RespondAlike R respond respond') (role : Role) :
    (c.cancel role respond).Alike R (c'.cancel role respond') := by
  obtain ⟨stage, world, b, log⟩ := c
  obtain ⟨stage', world', b', log'⟩ := c'
  obtain ⟨rfl, rfl, hb, rfl⟩ := h
  have left (rest : Stage ι ω) (events : List Event) :
      Alike R ⟨rest, world, b, log ++ events.map Event.entry⟩
        ⟨rest, world, b', log ++ events.map Event.entry⟩ :=
    ⟨rfl, rfl, hb, rfl⟩
  exact (left _ _).run same role _

theorem ofStage_alike {b : β} {b' : β'} (h : R b b') (same : RespondAlike R respond respond')
    (role : Role) (w : World) (stage : Stage ι ω) :
    (ofStage role respond b w stage).Alike R (ofStage role respond' b' w stage) := by
  have start : Alike R (⟨stage, w, b, []⟩ : Course β ι ω) ⟨stage, w, b', []⟩ :=
    ⟨rfl, rfl, h, rfl⟩
  exact start.run same role _

end Course

end BrokerPool.Lifecycle
