import BrokerPool.Number.Literal

/-!
# Paths to settings

A key at the top level may be a path: names of letters, digits, blanks, `_` and `-`, joined by a
point or followed by an index in brackets. A key that is no path stands for itself.
-/

namespace BrokerPool.Settings

/-- A step from a value to one inside it. A negative index counts from the end. -/
inductive Step
  | key (name : String)
  | index (i : Int)
deriving DecidableEq, Repr

def isNameChar (c : Char) : Bool :=
  Number.isDigit c || ('a' ≤ c && c ≤ 'z') || ('A' ≤ c && c ≤ 'Z')
    || c = '_' || c = '-' || c = ' '

/-- The index between two brackets. -/
def index? (cs : List Char) : Option Int :=
  let inner := ((cs.dropWhile (· = ' ')).reverse.dropWhile (· = ' ')).reverse
  Number.signed? 10 inner

/-- The steps of a text that goes on behind a name, `fuel` of them at most. -/
def steps? : Nat → List Char → Option (List Step)
  | _, [] => some []
  | 0, _ => none
  | fuel + 1, '.' :: rest =>
    let name := rest.takeWhile isNameChar
    if name.isEmpty then none
    else (steps? fuel (rest.dropWhile isNameChar)).map (.key (String.ofList name) :: ·)
  | fuel + 1, '[' :: rest =>
    match rest.dropWhile (· ≠ ']') with
    | ']' :: behind => do
      let i ← index? (rest.takeWhile (· ≠ ']'))
      (steps? fuel behind).map (.index i :: ·)
    | _ => none
  | _, _ => none

/-- The steps of a key that is a path. -/
def path? (key : String) : Option (List Step) :=
  let cs := key.toList
  let name := cs.takeWhile isNameChar
  if name.isEmpty then none
  else (steps? cs.length (cs.dropWhile isNameChar)).map (.key (String.ofList name) :: ·)

/-- The steps to the setting with a key. -/
def path (key : String) : List Step := (path? key).getD [.key key]

end BrokerPool.Settings
