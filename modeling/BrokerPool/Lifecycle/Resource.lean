import BrokerPool.Number.Notation

/-!
# Pooled resources

A resource is a connection with the worker that was made for it. Both are closed together, and
every resource has a number of its own.
-/

namespace BrokerPool.Lifecycle

/-- The number of a resource. -/
structure ResourceId where
  number : Nat
deriving DecidableEq, Repr

def ResourceId.text (id : ResourceId) : String := "R" ++ Number.digitText id.number

/-- A connection and its worker. -/
structure Resource where
  id : ResourceId
  connection : Nat
  worker : Nat
deriving DecidableEq, Repr

end BrokerPool.Lifecycle
