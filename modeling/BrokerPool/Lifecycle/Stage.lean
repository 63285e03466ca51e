import BrokerPool.Lifecycle.Event
import BrokerPool.Lifecycle.Pool

/-!
# The stages of a call

A call to a controller is a sequence of stages. It goes from one to the next in one indivisible
move, and between two moves of one call any other call may move. There are two kinds of stages. At
some a call does the next thing by itself: it looks at the pool, takes from it or gives back to it.
At the others it waits for an answer from outside: for a connection, a worker, a step, or a close.

`Stage.proceed` and `Stage.resume` are the moves from the two kinds of stages, and `Stage.request?`
is what a call waits for. A request is made exactly once, when a call arrives at its stage.
-/

namespace BrokerPool.Lifecycle

variable {ι ω : Type}

/-- What a shutdown has achieved so far (`ShutdownSummary`). -/
structure Summary where
  closed : Nat := 0
  failures : List CloseError := []
deriving DecidableEq, Repr

/-- What a resource is wanted for: to run a step on an input (`on_trigger`), or to be held by the
    caller (`acquire_or_create`). -/
inductive Goal (ι : Type)
  | trigger (input : ι)
  | acquire
deriving DecidableEq, Repr

/-- Why a resource is closed, and what is still to be told to the caller. -/
inductive Purpose (ω : Type)
  /-- Its step failed. -/
  | discard (cause : Fault)
  /-- Its step succeeded, but the pool does not take it back. -/
  | refused (output : ω)
  /-- The pool is drained. -/
  | drain (summary : Summary)
  /-- Its caller has gone. -/
  | background
  /-- Its holder wants it closed. -/
  | direct
deriving DecidableEq, Repr

/-- How a call ends. -/
inductive Outcome (ω : Type)
  | output (o : ω)
  | failed (e : TriggerError)
  | closed (failure : Option CloseError)
  | drained (summary : Summary)
  | gone
deriving DecidableEq, Repr

/-- Where a call stands. Trigger and caller share the stages of `acquire_or_create` and
    `create_resource`; a resource is used by `run_with_resource`, closed by its `close`, and drained
    by `shutdown`. -/
inductive Stage (ι ω : Type)
  /-- Before it asks whether the pool is closed. -/
  | entering (goal : Goal ι)
  /-- Before it takes an idle resource. -/
  | picking (goal : Goal ι)
  /-- Waiting for a connection. -/
  | connecting (goal : Goal ι) (connection : Nat)
  /-- Waiting for a worker. -/
  | equipping (goal : Goal ι) (connection : Nat)
  /-- Waiting for a connection without a worker to close. -/
  | unwinding (connection : Nat) (cause : Fault)
  /-- The caller holds a resource. -/
  | holding (r : Resource)
  /-- Waiting for the step. -/
  | processing (r : Resource) (input : ι)
  /-- Before it gives the resource back. -/
  | returning (r : Resource) (output : ω)
  /-- Waiting for the worker to close. -/
  | closingWorker (r : Resource) (purpose : Purpose ω)
  /-- Waiting for the connection to close. -/
  | closingConnection (r : Resource) (workerFault : Option Fault) (purpose : Purpose ω)
  /-- Before it closes the pool. -/
  | sealing
  /-- Before it takes the next resource out of a closed pool. -/
  | draining (summary : Summary)
  | ended (outcome : Outcome ω)
deriving DecidableEq, Repr

/-- What a call waits for. -/
inductive Request (ι : Type)
  | connect (connection : Nat)
  | createWorker (connection : Nat)
  | process (r : Resource) (input : ι)
  | closeWorker (r : Resource)
  | closeConnection (connection : Nat)
deriving DecidableEq, Repr

/-- An answer from outside. -/
inductive Answer (ω : Type)
  | connected (result : Except ConnectionError Unit)
  | equipped (result : Except Fault Unit)
  | processed (result : Except Fault ω)
  | closed (result : Except Fault Unit)

/-- The last numbers given to connections, workers and resources. -/
structure Supply where
  connections : Nat := 0
  workers : Nat := 0
  resources : Nat := 0
deriving DecidableEq, Repr

/-- What all calls share (`LifecycleController`). -/
structure World where
  pool : Pool Resource := {}
  supply : Supply := {}

/-- What is fixed for a controller: the broker as messages name it, and the name of its step. -/
structure Role where
  target : String
  step : String
deriving DecidableEq, Repr

/-- The result of a move. -/
structure Move (ι ω : Type) where
  stage : Stage ι ω
  world : World
  events : List Event := []

namespace Stage

/-- What a call at a stage waits for. -/
def request? : Stage ι ω → Option (Request ι)
  | .connecting _ c => some (.connect c)
  | .equipping _ c => some (.createWorker c)
  | .unwinding c _ => some (.closeConnection c)
  | .processing r input => some (.process r input)
  | .closingWorker r _ => some (.closeWorker r)
  | .closingConnection r _ _ => some (.closeConnection r.connection)
  | _ => none

/-- The stage of a call that has got the resource it wanted (`acquire_or_create`). -/
def obtained (goal : Goal ι) (r : Resource) : Stage ι ω :=
  match goal with
  | .trigger input => .processing r input
  | .acquire => .holding r

/-- The first failure of the two halves of a resource, which `close` returns. -/
def firstFailure (r : Resource) (worker connection : Option Fault) : Option CloseError :=
  match worker, connection with
  | some cause, _ => some ⟨.worker, r.id, cause⟩
  | none, some cause => some ⟨.connection, r.id, cause⟩
  | none, none => none

/-- What is reported about the other failure, which `close` only logs. -/
def secondFailure (r : Resource) (worker connection : Option Fault) : List Event :=
  match worker, connection with
  | some _, some cause => [.alsoFailed r.id ⟨.connection, r.id, cause⟩]
  | _, _ => []

/-- The report that nobody else gets (`checkin`, `shutdown` and `CloseOnCancel` log it). -/
def unheard (r : Resource) : Option CloseError → List Event
  | some e => [.closeFailed r.id e]
  | none => []

/-- The stage behind the closing of a resource, and its reports: what `run_with_resource`,
    `checkin`, `shutdown` and `CloseOnCancel` do with the result. -/
def settled (r : Resource) (failure : Option CloseError) :
    Purpose ω → Stage ι ω × List Event
  | .discard cause =>
    (.ended (.failed (.processing ⟨r.id, cause, failure⟩)),
      match failure with
      | some e => [.discardFailed r.id e]
      | none => [])
  | .refused output => (.ended (.output output), unheard r failure)
  | .drain summary =>
    match failure with
    | none => (.draining { summary with closed := summary.closed + 1 }, [])
    | some e =>
      (.draining { summary with failures := summary.failures ++ [e] }, unheard r failure)
  | .background => (.ended .gone, unheard r failure)
  | .direct => (.ended (.closed failure), [])

/-- The move of a call that does not wait: `on_trigger` and `acquire_or_create` look at the pool,
    `checkin` gives a resource back, and `shutdown` closes and drains the pool. -/
def proceed (role : Role) (w : World) : Stage ι ω → Option (Move ι ω)
  | .entering goal =>
    if w.pool.closed then some { stage := .ended (.failed .shutdown), world := w }
    else some { stage := .picking goal, world := w }
  | .picking goal =>
    match w.pool.checkout with
    | some (r, pool) =>
      some { stage := obtained goal r, world := { w with pool }, events := [.reused r.id] }
    | none =>
      let c := w.supply.connections + 1
      some { stage := .connecting goal c,
             world := { w with supply := { w.supply with connections := c } } }
  | .returning r output =>
    match w.pool.checkin r with
    | some pool => some { stage := .ended (.output output), world := { w with pool } }
    | none =>
      some { stage := .closingWorker r (.refused output), world := w, events := [.refused r.id] }
  | .sealing => some { stage := .draining {}, world := { w with pool := w.pool.close } }
  | .draining summary =>
    match w.pool.checkout with
    | some (r, pool) =>
      some { stage := .closingWorker r (.drain summary), world := { w with pool } }
    | none =>
      some { stage := .ended (.drained summary), world := w,
             events := [.drained role.step summary.closed summary.failures.length] }
  | _ => none

/-- The fault of a close that failed. -/
def fault? : Except Fault Unit → Option Fault
  | .error cause => some cause
  | .ok _ => none

/-- The move of a call that waits, on an answer of the kind it waits for: what comes after an
    `await` of `create_resource`, `run_with_resource`, or the `close` of a resource. -/
def resume (role : Role) (w : World) : Stage ι ω → Answer ω → Option (Move ι ω)
  | .connecting goal c, .connected (.ok _) => some { stage := .equipping goal c, world := w }
  | .connecting _ _, .connected (.error e) =>
    some { stage := .ended (.failed (.connection e)), world := w }
  | .equipping goal c, .equipped (.ok _) =>
    let supply := { w.supply with
      workers := w.supply.workers + 1, resources := w.supply.resources + 1 }
    let r : Resource := ⟨⟨supply.resources⟩, c, supply.workers⟩
    some { stage := obtained goal r, world := { w with supply },
           events := [.created r.id role.step] }
  | .equipping _ c, .equipped (.error cause) => some { stage := .unwinding c cause, world := w }
  | .unwinding _ cause, .closed result =>
    some { stage := .ended (.failed (.connection (.worker role.target cause))), world := w,
           events := ((fault? result).map Event.unwindFailed).toList }
  | .processing r _, .processed (.ok output) =>
    some { stage := .returning r output, world := w }
  | .processing r _, .processed (.error cause) =>
    some { stage := .closingWorker r (.discard cause), world := w,
           events := [.discarding r.id cause] }
  | .closingWorker r purpose, .closed result =>
    some { stage := .closingConnection r (fault? result) purpose, world := w }
  | .closingConnection r worker purpose, .closed result =>
    let connection := fault? result
    let (stage, events) := settled r (firstFailure r worker connection) purpose
    some { stage, world := w, events := secondFailure r worker connection ++ events }
  | _, _ => none

/-- Whether there is a caller that waits for the call to end. -/
def awaited : Stage ι ω → Bool
  | .holding _ => false
  | .closingWorker _ .background => false
  | .closingConnection _ _ .background => false
  | .ended _ => false
  | _ => true

/-- What is left of a call whose caller goes away, and the reports: only a step that runs still has
    somebody to close its resource (`CloseOnCancel`). -/
def cancel : Stage ι ω → Option (Stage ι ω) × List Event
  | .processing r _ => (some (.closingWorker r .background), [.cancelled r.id])
  | _ => (none, [])

/-- The reports about a call whose caller goes away together with everything that could go on
    (`CloseOnCancel` without a runtime). -/
def abandon : Stage ι ω → List Event
  | .processing r _ => [.cancelled r.id, .leaked r.id]
  | _ => []

end Stage

end BrokerPool.Lifecycle
