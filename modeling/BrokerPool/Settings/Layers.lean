import BrokerPool.Settings.Tree
import BrokerPool.Settings.Path
import BrokerPool.Text.Lowercase

/-!
# Layers of settings

Settings come in layers, each a list of keys and values, and a later layer wins over an earlier one.
Tables are merged key by key and everything else is replaced. Keys count without regard to case.
-/

namespace BrokerPool.Settings

namespace Tree

def empty : Tree := .table [] none

/-- The entries of a table; whatever is not a table has none, and gives way to a table. -/
def tableEntries : Tree → List (String × Tree) × Option String
  | .table entries origin => (entries, origin)
  | _ => ([], none)

/-- Replaces the value of a key by what `f` makes of it. -/
def alterKey (name : String) (f : Option Tree → Tree) (t : Tree) : Tree :=
  let (entries, origin) := t.tableEntries
  let name := Text.lower name
  .table (Keyed.put name (f (entries.lookup name)) entries) origin

/-- The items of an array; whatever is not an array has none, and gives way to an array. -/
def arrayItems : Tree → List Tree × Option String
  | .array items origin => (items, origin)
  | _ => ([], none)

/-- Replaces the item at an index by what `f` makes of it, after absent items up to that index. -/
def alterIndex (i : Int) (f : Tree → Tree) (t : Tree) : Tree :=
  let (items, origin) := t.arrayItems
  let n := if 0 ≤ i then i.toNat else items.length - i.natAbs
  let items := items ++ List.replicate (n + 1 - items.length) (.leaf .absent none)
  .array (items.modify n f) origin

mutual

/-- Sets a key. A table is merged into what is there. -/
def assign (name : String) : Tree → Tree → Tree
  | .table entries _, t => t.alterKey name fun old => merge entries (old.getD empty)
  | v, t => t.alterKey name fun _ => v

/-- Sets the keys of a table one by one. -/
def merge : List (String × Tree) → Tree → Tree
  | [], t => t
  | (name, v) :: rest, t => merge rest (assign name v t)

end

/-- Sets the value at a path. On the way, whatever is in the way of a table or an array gives way to
    one. -/
def assignAt (v : Tree) : List Step → Tree → Tree
  | [], _ => v
  | [.key name], t => assign name v t
  | [.index i], t => t.alterIndex i fun _ => v
  | .key name :: path, t =>
    t.alterKey name fun old => assignAt v path (old.getD (.leaf .absent none))
  | .index i :: path, t => t.alterIndex i (assignAt v path)

end Tree

/-- Keys with values, in the order in which they are set. -/
abbrev Layer := List (String × Tree)

/-- All layers in one tree, the last one winning. -/
def merged (layers : List Layer) : Tree :=
  layers.foldl (fun t layer => layer.foldl (fun t (key, v) => Tree.assignAt v (path key) t) t)
    Tree.empty

end BrokerPool.Settings
