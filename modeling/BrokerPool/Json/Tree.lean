import BrokerPool.Number.Literal

/-!
# JSON texts as they are read

A text is read from the left, and what is wrong at its end does not matter to whoever has already
turned away at its beginning. So a `Tree` holds the value as far as the text goes, and where the
text stops being JSON it holds a broken node. A reader of the tree that never reaches the broken
node never learns of it.

A broken node has two flaws, because a value that is only skipped over is looked at less closely
than one that is read. For the same reason a string may hold escapes that denote no character, and
a number may be too large: both are faults only to whoever reads them.
-/

namespace BrokerPool.Json

/-- Why a text is not JSON: it ends too early, or something stands where it may not. -/
inductive Flaw
  | ended
  | malformed
deriving DecidableEq, Repr

/-- A number that can be read. Integers beyond sixty-four bits are floating point numbers, and so
    is a negative zero. -/
inductive Numeral
  | integer (i : Int)
  | float (x : Number.Binary)
deriving DecidableEq, Repr

mutual

/-- A value, as far as its text goes. -/
inductive Tree
  | null
  | bool (b : Bool)
  | number (n : Option Numeral)
  | string (s : Option String)
  | array (items : Items)
  | object (members : Members)
  | broken (read skipped : Flaw)

/-- The rest of an array. -/
inductive Items
  | done
  | cons (item : Tree) (rest : Items)
  | broken (flaw : Flaw)

/-- The rest of an object. -/
inductive Members
  | done
  | cons (key : Option String) (value : Tree) (rest : Members)
  | broken (read skipped : Flaw)

end

mutual

/-- The flaw that is met when a value is skipped over. -/
def Tree.skipFlaw? : Tree → Option Flaw
  | .array items => items.skipFlaw?
  | .object members => members.skipFlaw?
  | .broken _ skipped => some skipped
  | _ => none

/-- The flaw that is met when the rest of an array is skipped over. -/
def Items.skipFlaw? : Items → Option Flaw
  | .done => none
  | .cons item rest => item.skipFlaw?.or rest.skipFlaw?
  | .broken flaw => some flaw

/-- The flaw that is met when the rest of an object is skipped over. -/
def Members.skipFlaw? : Members → Option Flaw
  | .done => none
  | .cons _ value rest => value.skipFlaw?.or rest.skipFlaw?
  | .broken _ skipped => some skipped

end

/-- The number of items of an array. -/
def Items.length : Items → Nat
  | .done => 0
  | .cons _ rest => rest.length + 1
  | .broken _ => 0

/-- A whole text: its first value, and whether more than blanks follows it. -/
structure Document where
  root : Tree
  trailing : Bool

end BrokerPool.Json
