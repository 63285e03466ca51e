import BrokerPool.Lifecycle.Stage

/-!
# The course of a single call

A call that has the controller to itself makes its moves one after the other, and every request is
answered before the next move, unless no answer ever comes. Such a call stands where it waits until
its caller goes away.
-/

namespace BrokerPool.Lifecycle

variable {β ι ω : Type}

/-- What answers requests: a state that may change, what is logged meanwhile, and the answer. -/
abbrev Responder (β ι ω : Type) := β → Request ι → β × List Log.Entry × Option (Answer ω)

/-- A call on its way, and all that it touches. -/
structure Course (β ι ω : Type) where
  stage : Stage ι ω
  world : World
  outside : β
  log : List Log.Entry := []

namespace Course

/-- The course after a move. -/
def moved (c : Course β ι ω) (m : Move ι ω) : Course β ι ω :=
  { c with stage := m.stage, world := m.world, log := c.log ++ m.events.map Event.entry }

/-- Makes moves until the call has ended or waits for good. -/
def run (role : Role) (respond : Responder β ι ω) : Nat → Course β ι ω → Course β ι ω
  | 0, c => c
  | fuel + 1, c =>
    match c.stage.request? with
    | none =>
      match c.stage.proceed role c.world with
      | some m => run role respond fuel (c.moved m)
      | none => c
    | some request =>
      let (outside, log, answer) := respond c.outside request
      let c := { c with outside, log := c.log ++ log }
      match answer.bind (c.stage.resume role c.world) with
      | some m => run role respond fuel (c.moved m)
      | none => c

/-- More moves than any call makes: a drain makes three for every idle resource. -/
def enough (w : World) : Nat := 3 * w.pool.idle.length + 16

/-- The course of a call from its beginning. -/
def ofStage (role : Role) (respond : Responder β ι ω) (outside : β) (w : World)
    (stage : Stage ι ω) : Course β ι ω :=
  run role respond (enough w) { stage, world := w, outside }

/-- How the call has ended. -/
def outcome? (c : Course β ι ω) : Option (Outcome ω) :=
  match c.stage with
  | .ended outcome => some outcome
  | _ => none

/-- The course after the caller has gone away: a resource whose step still runs is closed. -/
def cancel (role : Role) (respond : Responder β ι ω) (c : Course β ι ω) : Course β ι ω :=
  let (rest, events) := c.stage.cancel
  let c := { c with stage := rest.getD (.ended .gone), log := c.log ++ events.map Event.entry }
  run role respond (enough c.world) c

end Course

end BrokerPool.Lifecycle
