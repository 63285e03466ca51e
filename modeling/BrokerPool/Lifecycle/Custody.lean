import BrokerPool.Lifecycle.Pool

/-!
# Resources inside and outside the pool

Every resource is either idle in the pool or held by somebody outside, and the two operations of the
pool move it between the two. A refused resource stays outside.
-/

namespace BrokerPool.Lifecycle

/-- A pool (`ResourcePool`), and the resources held outside, the last one first. -/
structure Custody where
  pool : Pool Int := {}
  held : List Int := []

namespace Custody

/-- What can be done with resources, which are known by their numbers. -/
inductive Op
  | hold (id : Int)
  | checkin (id : Int)
  | checkout
  | close
  /-- Checks in new resources with consecutive numbers. -/
  | fill (first : Int) (count : Nat)
deriving DecidableEq, Repr

/-- What comes of it. -/
inductive Reply
  | held (id : Int)
  | pooled
  | refused (id : Int)
  | notHeld
  | empty
  | closed
  | filled
deriving DecidableEq, Repr

/-- Checks in a resource that was held. -/
def give (c : Custody) (id : Int) : Custody × Reply :=
  match c.pool.checkin id with
  | some pool => ({ pool, held := c.held.erase id }, .pooled)
  | none => ({ c with held := id :: c.held.erase id }, .refused id)

/-- Checks in new resources, of which a closed pool takes none. -/
def fill (first : Int) : Nat → Custody → Custody
  | 0, c => c
  | count + 1, c =>
    fill (first + 1) count
      (match c.pool.checkin first with
        | some pool => { c with pool }
        | none => c)

def step (c : Custody) : Op → Custody × Reply
  | .hold id => ({ c with held := id :: c.held }, .held id)
  | .checkin id => if c.held.contains id then c.give id else (c, .notHeld)
  | .checkout =>
    match c.pool.checkout with
    | some (id, pool) => ({ pool, held := id :: c.held }, .held id)
    | none => (c, .empty)
  | .close => ({ c with pool := c.pool.close }, .closed)
  | .fill first count => (fill first count c, .filled)

end Custody

end BrokerPool.Lifecycle
