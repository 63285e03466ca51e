import BrokerPool.Json.Reader
import BrokerPool.Number.Notation
import BrokerPool.Keyed
import BrokerPool.Text.Truth

/-!
# JSON values

A whole value, with the members of an object in the order of their keys and each key once. Reading
a text into a value keeps the last of two members with one key and stops at the 128th nested
container. `Value.print` is the compact text of a value.
-/

namespace BrokerPool.Json

/-- Why a text does not give what was asked of it. A mismatch says what is wrong with the value at
    a path inside the text. -/
inductive Error
  | flaw (flaw : Flaw)
  | mismatch (path : List String) (message : String)
deriving DecidableEq, Repr

/-- A JSON value. -/
inductive Value
  | null
  | bool (b : Bool)
  | number (n : Numeral)
  | string (s : String)
  | array (items : List Value)
  | object (members : List (String × Value))

namespace Value

/-- An object from members in any order; the last of several members with one key counts. -/
def ofMembers (members : List (String × Value)) : Value :=
  .object (Keyed.ofList members)

def nat (n : Nat) : Value := .number (.integer n)

/-- A text, or null. -/
def ofText? : Option String → Value
  | some s => .string s
  | none => .null

/-- The member of an object with a key. -/
def get? (key : String) : Value → Option Value
  | .object members => members.lookup key
  | _ => none

end Value

/-- How many containers may be open at once. -/
def depthLimit : Nat := 128

mutual

/-- The value of a tree, with the number of containers that may still be opened. -/
def Tree.toValue (depth : Nat) : Tree → Except Error Value
  | .null => .ok .null
  | .bool b => .ok (.bool b)
  | .number (some n) => .ok (.number n)
  | .number none => .error (.flaw .malformed)
  | .string (some s) => .ok (.string s)
  | .string none => .error (.flaw .malformed)
  | .array items =>
    if depth ≤ 1 then .error (.flaw .malformed)
    else (items.toValues (depth - 1)).map .array
  | .object members =>
    if depth ≤ 1 then .error (.flaw .malformed)
    else (members.toMembers (depth - 1) []).map .object
  | .broken read _ => .error (.flaw read)

/-- The values of the rest of an array. -/
def Items.toValues (depth : Nat) : Items → Except Error (List Value)
  | .done => .ok []
  | .cons item rest => do
    let v ← item.toValue depth
    let vs ← rest.toValues depth
    return v :: vs
  | .broken flaw => .error (.flaw flaw)

/-- The members of the rest of an object, put among those read before. -/
def Members.toMembers (depth : Nat) (before : List (String × Value)) :
    Members → Except Error (List (String × Value))
  | .done => .ok before
  | .cons none _ _ => .error (.flaw .malformed)
  | .cons (some key) value rest => do
    let v ← value.toValue depth
    rest.toMembers depth (Keyed.put key v before)
  | .broken read _ => .error (.flaw read)

end

/-- The value of a whole text. -/
def Value.parse (d : Document) : Except Error Value := do
  let v ← d.root.toValue depthLimit
  if d.trailing then .error (.flaw .malformed) else return v

mutual

/-- A value as a tree, which is never broken. -/
def Value.toTree : Value → Tree
  | .null => .null
  | .bool b => .bool b
  | .number n => .number (some n)
  | .string s => .string (some s)
  | .array items => .array (Items.ofValues items)
  | .object members => .object (Members.ofList members)

def Items.ofValues : List Value → Items
  | [] => .done
  | v :: rest => .cons v.toTree (Items.ofValues rest)

def Members.ofList : List (String × Value) → Members
  | [] => .done
  | (k, v) :: rest => .cons (some k) v.toTree (Members.ofList rest)

end

/-! ## Printing -/

/-- How a character stands inside a JSON string. Only what must be escaped is. -/
def escape (c : Char) : List Char :=
  if c = '"' then ['\\', '"']
  else if c = '\\' then ['\\', '\\']
  else if c = '\x08' then ['\\', 'b']
  else if c = '\x0c' then ['\\', 'f']
  else if c = '\n' then ['\\', 'n']
  else if c = '\r' then ['\\', 'r']
  else if c = '\t' then ['\\', 't']
  else if c < ' ' then
    '\\' :: 'u' :: '0' :: '0' ::
      [Nat.digitChar (c.toNat / 16), Nat.digitChar (c.toNat % 16)]
  else [c]

/-- A text as a JSON string. -/
def quote (s : String) : List Char := '"' :: s.toList.flatMap escape ++ ['"']

/-- The text of a number. -/
def Numeral.text : Numeral → String
  | .integer i => Number.integerText i
  | .float x => Number.Notation.json.render .double x

mutual

/-- The characters of a value's compact text. -/
def Value.chars : Value → List Char
  | .null => "null".toList
  | .bool b => (Text.ofBool b).toList
  | .number n => n.text.toList
  | .string s => quote s
  | .array items => '[' :: itemChars true items
  | .object members => '{' :: memberChars true members

/-- The rest of an array's text, with a comma before every item but the first. -/
def itemChars (first : Bool) : List Value → List Char
  | [] => [']']
  | v :: rest => (if first then [] else [',']) ++ v.chars ++ itemChars false rest

/-- The rest of an object's text, with a comma before every member but the first. -/
def memberChars (first : Bool) : List (String × Value) → List Char
  | [] => ['}']
  | (k, v) :: rest =>
    (if first then [] else [',']) ++ quote k ++ ':' :: v.chars ++ memberChars false rest

end

/-- The compact text of a value. -/
def Value.print (v : Value) : String := String.ofList v.chars

end BrokerPool.Json
