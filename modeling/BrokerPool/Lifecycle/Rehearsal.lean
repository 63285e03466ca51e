import BrokerPool.Lifecycle.System

/-!
# Rehearsals

A controller with a stand-in for the broker. The stand-in answers every request according to faults
that are set beforehand, and a call can be held back at the gates of its requests, so that any
interleaving of calls can be played through. Every request leaves a happening behind.
-/

namespace BrokerPool.Lifecycle

namespace Rehearsal

/-- The input of a step: the fault with which it fails, if it is to fail. -/
structure Input where
  fault : Option Fault := none
deriving DecidableEq, Repr

/-- The output of a step: what it ran on, and how often its worker has been used. -/
structure Output where
  connection : Nat
  worker : Nat
  uses : Nat
deriving DecidableEq, Repr

/-- Where a call can be held back. -/
inductive Gate
  | connect
  | worker
  | process
  | closeWorker
  | closeConnection
deriving DecidableEq, Repr

/-- A request as the stand-in sees it (`Journal`). -/
inductive Happening
  | connect (connection : Nat)
  | createWorker (connection : Nat)
  | process (connection worker uses : Nat)
  | closeWorker (worker : Nat)
  | closeConnection (connection : Nat)
deriving DecidableEq, Repr

/-- The faults with which the stand-in answers (`FakeFactory` and `ScriptedStep`). -/
structure Faults where
  connect : Option Fault := none
  worker : Option Fault := none
  /-- Workers and connections that fail to close. -/
  closeWorker : List Nat := []
  closeConnection : List Nat := []
deriving DecidableEq, Repr

/-- A call that is under way, the gates where it is held back, and the name under which a resource
    is kept when the call gets one. -/
structure Task where
  call : Nat
  hold : List Gate
  slot : String
deriving DecidableEq, Repr

end Rehearsal

open Rehearsal

/-- A controller, the stand-in, and everything with a name. -/
structure Rehearsal where
  role : Role
  system : System Rehearsal.Input Rehearsal.Output := {}
  faults : Faults := {}
  /-- How often each worker has been used. -/
  uses : List (Nat × Nat) := []
  tasks : List (String × Task) := []
  /-- The calls that hold a resource, by name. -/
  slots : List (String × Nat) := []
  /-- What has happened and was reported since the last instruction. -/
  happenings : List Happening := []
  events : List Event := []

namespace Rehearsal

def Gate.name : Gate → String
  | .connect => "connect"
  | .worker => "worker"
  | .process => "process"
  | .closeWorker => "close_worker"
  | .closeConnection => "close_connection"

def Happening.text : Happening → String
  | .connect c => "connect " ++ Number.digitText c
  | .createWorker c => "create_worker on " ++ Number.digitText c
  | .process c w uses =>
    "process " ++ Number.digitText c ++ "/" ++ Number.digitText w ++ " use "
      ++ Number.digitText uses
  | .closeWorker w => "close_worker " ++ Number.digitText w
  | .closeConnection c => "close_connection " ++ Number.digitText c

/-- The gate of a request. -/
def gate : Request Input → Gate
  | .connect _ => .connect
  | .createWorker _ => .worker
  | .process _ _ => .process
  | .closeWorker _ => .closeWorker
  | .closeConnection _ => .closeConnection

def usesOf (s : Rehearsal) (worker : Nat) : Nat := (s.uses.lookup worker).getD 0

/-- Counts a use of a worker. -/
def use (s : Rehearsal) (worker : Nat) : Rehearsal :=
  { s with uses := (worker, s.usesOf worker + 1) :: s.uses.filter (·.1 ≠ worker) }

/-- A request reaches the stand-in. -/
def receive (s : Rehearsal) : Request Input → Rehearsal
  | .connect c => { s with happenings := s.happenings ++ [.connect c] }
  | .createWorker c => { s with happenings := s.happenings ++ [.createWorker c] }
  | .process r _ =>
    let s := s.use r.worker
    { s with happenings := s.happenings ++ [.process r.connection r.worker (s.usesOf r.worker)] }
  | .closeWorker r => { s with happenings := s.happenings ++ [.closeWorker r.worker] }
  | .closeConnection c => { s with happenings := s.happenings ++ [.closeConnection c] }

/-- Succeeds or fails. -/
def closing (fails : Bool) (cause : String) : Answer Output :=
  .closed (if fails then .error ⟨cause, []⟩ else .ok ())

/-- The answer of the stand-in. -/
def answer (s : Rehearsal) : Request Input → Answer Output
  | .connect _ =>
    match s.faults.connect with
    | some cause => .connected (.error (.establish s.role.target cause))
    | none => .connected (.ok ())
  | .createWorker _ =>
    match s.faults.worker with
    | some cause => .equipped (.error cause)
    | none => .equipped (.ok ())
  | .process r input =>
    match input.fault with
    | some cause => .processed (.error cause)
    | none => .processed (.ok ⟨r.connection, r.worker, s.usesOf r.worker⟩)
  | .closeWorker r =>
    closing (s.faults.closeWorker.contains r.worker)
      ("channel " ++ Number.digitText r.worker ++ " already closed")
  | .closeConnection c =>
    closing (s.faults.closeConnection.contains c)
      ("connection " ++ Number.digitText c ++ " reset by peer")

/-- What a call waits for. -/
def request? (s : Rehearsal) (call : Nat) : Option (Request Input) :=
  (s.system.stage? call).bind Stage.request?

/-- Performs an action on a call; when the call then waits, its request reaches the stand-in. -/
def act (s : Rehearsal) (call : Nat) (a : Action Input Output) : Option Rehearsal :=
  (s.system.step s.role a).map fun (system, events) =>
    let s := { s with system, events := s.events ++ events }
    match s.request? call with
    | some request => s.receive request
    | none => s

/-- Moves a call until it ends, holds a resource, or is held back at a gate; `free` lets it pass the
    gate at which it stands. -/
def go (call : Nat) (hold : List Gate) : Nat → Bool → Rehearsal → Rehearsal × Option Gate
  | 0, _, s => (s, none)
  | fuel + 1, free, s =>
    match s.request? call with
    | none =>
      match s.act call (.proceed call) with
      | some s => go call hold fuel false s
      | none => (s, none)
    | some request =>
      if hold.contains (gate request) && !free then (s, some (gate request))
      else
        match s.act call (.resume call (s.answer request)) with
        | some s => go call hold fuel false s
        | none => (s, none)

/-- More moves than any call makes: a drain makes three for every idle resource. -/
def enough (s : Rehearsal) : Nat := 3 * s.system.world.pool.idle.length + 16

/-! ## Instructions -/

/-- What can be asked of a rehearsal. Calls and resources go by name. -/
inductive Op
  | trigger (task : String) (hold : List Gate) (input : Input)
  | acquire (task : String) (hold : List Gate) (slot : String)
  | run (task : String) (hold : List Gate) (slot : String) (input : Input)
  | close (task : String) (hold : List Gate) (slot : String)
  | shutdown (task : String) (hold : List Gate)
  | resume (task : String)
  | cancel (task : String)
  | abandon (task : String)
  | drop (slot : String)
  | inspect (slot : String)
  | set (change : Faults → Faults)
  | identify
  | idle

/-- What comes of an instruction. -/
inductive Reply
  | pending (gate : Gate)
  | acquired (r : Resource) (uses : Nat)
  | ended (outcome : Outcome Output)
  | inspected (r : Resource) (uses : Nat)
  | cancelled
  | abandoned
  | dropped
  | identity (role : Role)
  | nothing
  | noTask
  | noSlot

def putName {α : Type} (name : String) (a : α) (names : List (String × α)) : List (String × α) :=
  (name, a) :: names.filter (·.1 ≠ name)

def removeName {α : Type} (name : String) (names : List (String × α)) : List (String × α) :=
  names.filter (·.1 ≠ name)

/-- Takes the caller of a task away; a resource that has to be closed is closed at once. -/
def stop (s : Rehearsal) (name : String) (task : Task) : Rehearsal :=
  let s := { s with tasks := removeName name s.tasks }
  match s.act task.call (.cancel task.call) with
  | some s => (go task.call [] s.enough false s).1
  | none => s

/-- Moves a task on, and says how far it got. -/
def advance (s : Rehearsal) (name : String) (task : Task) (free : Bool) : Rehearsal × Reply :=
  let (s, gate) := go task.call task.hold s.enough free s
  match gate with
  | some gate => ({ s with tasks := putName name task s.tasks }, .pending gate)
  | none =>
    let s := { s with tasks := removeName name s.tasks }
    match s.system.stage? task.call with
    | some (.holding r) =>
      ({ s with slots := putName task.slot task.call s.slots }, .acquired r (s.usesOf r.worker))
    | some (.ended outcome) => (s, .ended outcome)
    | _ => (s, .nothing)

/-- Performs the first action of a task, and moves the task on. A task with the same name that is
    still under way loses its caller. -/
def launch (s : Rehearsal) (name : String) (task : Task) (a : Action Input Output) :
    Rehearsal × Reply :=
  let s := match s.tasks.lookup name with
    | some old => s.stop name old
    | none => s
  match s.act task.call a with
  | some s => s.advance name task false
  | none => (s, .nothing)

/-- Begins a call of its own. -/
def start (s : Rehearsal) (name : String) (hold : List Gate) (slot : String) (what : Start Input) :
    Rehearsal × Reply :=
  s.launch name ⟨s.system.last + 1, hold, slot⟩ (.start what)

/-- Follows an instruction. -/
def step (s : Rehearsal) (op : Op) : Rehearsal × Reply :=
  let s := { s with happenings := [], events := [] }
  match op with
  | .trigger task hold input => s.start task hold "" (.acquire (.trigger input))
  | .acquire task hold slot => s.start task hold slot (.acquire .acquire)
  | .shutdown task hold => s.start task hold "" .shutdown
  | .run task hold slot input =>
    match s.slots.lookup slot with
    | some call =>
      { s with slots := removeName slot s.slots }.launch task ⟨call, hold, slot⟩ (.run call input)
    | none => (s, .noSlot)
  | .close task hold slot =>
    match s.slots.lookup slot with
    | some call =>
      { s with slots := removeName slot s.slots }.launch task ⟨call, hold, slot⟩ (.close call)
    | none => (s, .noSlot)
  | .resume name =>
    match s.tasks.lookup name with
    | some task => s.advance name task true
    | none => (s, .noTask)
  | .cancel name =>
    match s.tasks.lookup name with
    | some task => (s.stop name task, .cancelled)
    | none => (s, .noTask)
  | .abandon name =>
    match s.tasks.lookup name with
    | some task =>
      let s := { s with tasks := removeName name s.tasks }
      ((s.act task.call (.abandon task.call)).getD s, .abandoned)
    | none => (s, .noTask)
  | .drop slot =>
    match s.slots.lookup slot with
    | some call =>
      let s := { s with slots := removeName slot s.slots }
      ((s.act call (.drop call)).getD s, .dropped)
    | none => (s, .noSlot)
  | .inspect slot =>
    match (s.slots.lookup slot).bind s.system.stage? with
    | some (.holding r) => (s, .inspected r (s.usesOf r.worker))
    | _ => (s, .noSlot)
  | .set change => ({ s with faults := change s.faults }, .nothing)
  | .identify => (s, .identity s.role)
  | .idle => (s, .nothing)

/-- A rehearsal in which resources are held from the beginning, in slots with their positions as
    names; the number of each is that of its connection and its worker. -/
def ofHeld (role : Role) (faults : Faults) (numbers : List Nat) : Rehearsal :=
  let calls := numbers.zipIdx.map fun (n, i) => (i + 1, Stage.holding ⟨⟨i + 1⟩, n, n⟩)
  { role, faults,
    system := { calls, last := numbers.length },
    slots := numbers.zipIdx.map fun (_, i) => (Number.digitText i, i + 1) }

end Rehearsal

end BrokerPool.Lifecycle
