/-!
# Lists in the order of their keys

Pairs of a text and a value, each text once and in the order of code points. `put` keeps that order.
-/

namespace BrokerPool

/-- Pairs in the order of their keys. -/
abbrev Keyed (α : Type) := List (String × α)

namespace Keyed

/-- Puts a pair into its place, over an older one with the same key. -/
def put {α : Type} (key : String) (value : α) : Keyed α → Keyed α
  | [] => [(key, value)]
  | (k, v) :: rest =>
    if key = k then (key, value) :: rest
    else if key < k then (key, value) :: (k, v) :: rest
    else (k, v) :: put key value rest

/-- Pairs from a list in any order; the last of several with one key counts. -/
def ofList {α : Type} (pairs : List (String × α)) : Keyed α :=
  pairs.foldl (fun acc (k, v) => put k v acc) []

end Keyed

end BrokerPool
