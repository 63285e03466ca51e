/-!
# The pool of idle resources

The resource that came back last is taken first. A closed pool takes nothing back, but what is in it
can still be taken out.
-/

namespace BrokerPool.Lifecycle

/-- Idle resources, the last one to come back first (`ResourcePool`). -/
structure Pool (α : Type) where
  idle : List α := []
  closed : Bool := false
deriving Repr

namespace Pool

variable {α : Type}

/-- Takes a resource out. -/
def checkout (p : Pool α) : Option (α × Pool α) :=
  match p.idle with
  | [] => none
  | r :: rest => some (r, { p with idle := rest })

/-- Takes a resource back, unless the pool is closed. -/
def checkin (p : Pool α) (r : α) : Option (Pool α) :=
  if p.closed then none else some { p with idle := r :: p.idle }

/-- Takes nothing back from now on. -/
def close (p : Pool α) : Pool α := { p with closed := true }

end Pool

end BrokerPool.Lifecycle
