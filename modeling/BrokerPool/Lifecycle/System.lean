import BrokerPool.Lifecycle.Stage

/-!
# Concurrent calls

A system is one controller with any number of calls, each at a stage of its own. An action moves one
call, starts one, or takes one away; any order of actions that can happen is a run of the system.
-/

namespace BrokerPool.Lifecycle

variable {ι ω : Type}

/-- A controller and its calls. Calls that have ended stay with their outcomes. -/
structure System (ι ω : Type) where
  world : World := {}
  calls : List (Nat × Stage ι ω) := []
  /-- The number of the last call. -/
  last : Nat := 0

/-- What a caller can begin. -/
inductive Start (ι : Type)
  | acquire (goal : Goal ι)
  | shutdown
deriving DecidableEq, Repr

/-- What can happen to a system. -/
inductive Action (ι ω : Type)
  | start (what : Start ι)
  /-- A call that does not wait makes its move. -/
  | proceed (call : Nat)
  /-- A call that waits gets an answer. -/
  | resume (call : Nat) (answer : Answer ω)
  /-- The holder of a resource runs a step on it. -/
  | run (call : Nat) (input : ι)
  /-- The holder of a resource closes it. -/
  | close (call : Nat)
  /-- The holder of a resource drops it. -/
  | drop (call : Nat)
  | cancel (call : Nat)
  | abandon (call : Nat)

namespace System

/-- The stage of a call. -/
def stage? (s : System ι ω) (call : Nat) : Option (Stage ι ω) := s.calls.lookup call

/-- Puts a call at another stage. -/
def put (s : System ι ω) (call : Nat) (stage : Stage ι ω) : System ι ω :=
  { s with calls := s.calls.map fun (n, old) => if n = call then (n, stage) else (n, old) }

def remove (s : System ι ω) (call : Nat) : System ι ω :=
  { s with calls := s.calls.filter fun (n, _) => n ≠ call }

/-- Makes a move of a call. -/
def apply (s : System ι ω) (call : Nat) (m : Move ι ω) : System ι ω × List Event :=
  ({ s.put call m.stage with world := m.world }, m.events)

/-- The system after an action, and what is reported; `none` if the action cannot happen. Between
    two actions any call of the controller (`LifecycleController`) may make the next one. -/
def step (role : Role) (s : System ι ω) : Action ι ω → Option (System ι ω × List Event)
  | .start what =>
    let stage := match what with
      | .acquire goal => .entering goal
      | .shutdown => .sealing
    some ({ s with calls := s.calls ++ [(s.last + 1, stage)], last := s.last + 1 }, [])
  | .proceed call => do
    let m ← (← s.stage? call).proceed role s.world
    return s.apply call m
  | .resume call answer => do
    let m ← (← s.stage? call).resume role s.world answer
    return s.apply call m
  | .run call input =>
    match s.stage? call with
    | some (.holding r) => some (s.put call (.processing r input), [])
    | _ => none
  | .close call =>
    match s.stage? call with
    | some (.holding r) => some (s.put call (.closingWorker r .direct), [])
    | _ => none
  | .drop call =>
    match s.stage? call with
    | some (.holding _) => some (s.remove call, [])
    | _ => none
  | .cancel call => do
    let stage ← s.stage? call
    if !stage.awaited then none
    else
      match stage.cancel with
      | (some stage, events) => return (s.put call stage, events)
      | (none, events) => return (s.remove call, events)
  | .abandon call => do
    let stage ← s.stage? call
    if !stage.awaited then none else return (s.remove call, stage.abandon)

end System

end BrokerPool.Lifecycle
