import BrokerPool.Settings.Tree
import BrokerPool.Number.Literal
import BrokerPool.Text.Lowercase

/-!
# Settings with types

The conversions of untyped settings. They are generous: a text setting takes a number, a number
takes a text with digits, and a few words count as true and false in any case.
-/

namespace BrokerPool.Settings

/-- A conversion to a type. -/
abbrev Converter (α : Type) := Tree → Except Error α

/-- Refuses a tree. -/
def refuse {α : Type} (wanted : String) : Tree → Except Error α
  | .leaf (.text s) origin => .error (.mismatch (.text s) wanted none origin)
  | .leaf (.integer i) origin => .error (.mismatch (.integer i) wanted none origin)
  | .leaf _ origin => .error (.mismatch .absent wanted none origin)
  | .table _ origin => .error (.mismatch .table wanted none origin)
  | .array _ origin => .error (.mismatch .array wanted none origin)

def text : Converter String
  | .leaf (.text s) _ => .ok s
  | .leaf (.bool b) _ => .ok (Text.ofBool b)
  | .leaf (.integer i) _ => .ok (Number.integerText i)
  | .leaf (.float x) _ => .ok (Number.Notation.plain.render .double x)
  | t => refuse "a string" t

/-- The words that stand for a truth value, whatever their case. -/
def word? (s : String) : Option Bool :=
  let w := Text.lower s
  if w = "true" || w = "on" || w = "yes" then some true
  else if w = "false" || w = "off" || w = "no" then some false
  else none

def boolean : Converter Bool
  | .leaf (.bool b) _ => .ok b
  | .leaf (.integer i) _ => .ok (i ≠ 0)
  | .leaf (.float x) _ => .ok !x.isZero
  | .leaf (.text s) origin =>
    match word? s with
    | some b => .ok b
    | none =>
      if s = "1" then .ok true
      else if s = "0" then .ok false
      else refuse "a boolean" (.leaf (.text (Text.lower s)) origin)
  | t => refuse "a boolean" t

/-- An unsigned integer of sixty-four bits. -/
def unsigned : Converter Nat
  | .leaf (.integer i) origin =>
    if 0 ≤ i then .ok i.toNat
    else refuse "an unsigned 64 bit or less integer" (.leaf (.integer i) origin)
  | .leaf (.bool b) _ => .ok (if b then 1 else 0)
  | .leaf (.float x) _ => .ok (x.toNatSaturating Number.maxUInt64)
  | .leaf (.text s) origin =>
    match word? s with
    | some b => .ok (if b then 1 else 0)
    | none =>
      match Number.unsigned? Number.maxUInt64 s.toList with
      | some n => .ok n
      | none => refuse "an integer" (.leaf (.text s) origin)
  | t => refuse "an integer" t

/-- An unsigned integer of sixteen bits. -/
def word16 : Converter UInt16 := fun t => do
  let n ← unsigned t
  if n ≤ 65535 then return UInt16.ofNat n
  else throw (.mismatch (.unsigned n) "an unsigned 16 bit integer" none none)

/-- A value that may be absent. -/
def optional {α : Type} (convert : Converter α) : Converter (Option α)
  | .leaf .absent _ => .ok none
  | t => (convert t).map some

/-- One of several named choices, whatever the case of the name: its name, or a table whose only key
    is the name. -/
def oneOf {α : Type} (type : String) (choices : List (String × α)) (t : Tree) : Except Error α :=
  let named (name : String) : Except Error α :=
    match choices.find? fun (n, _) => Text.lower n = Text.lower name with
    | some (_, a) => .ok a
    | none => .error (.unknownChoice type name)
  match t with
  | .leaf (.text name) _ => named name
  | .table [(name, _)] _ => named name
  | _ => .error (.notChoice type)

/-! ## Groups of settings -/

/-- A setting of a group that is being put together: its key, and how its value changes the
    group. -/
structure Field (σ : Type) where
  name : String
  convert : Converter (σ → σ)

/-- A setting with a conversion. -/
def Field.of {σ α : Type} (name : String) (convert : Converter α) (set : α → σ → σ) : Field σ :=
  ⟨name, fun t => (convert t).map set⟩

/-- Converts the settings of a group that a table has. -/
def visitTable {σ : Type} (entries : List (String × Tree)) :
    List (Field σ) → σ → Except Error σ
  | [], group => .ok group
  | field :: fields, group =>
    match entries.lookup field.name with
    | none => visitTable entries fields group
    | some t => do
      let set ← (field.convert t).mapError (Error.underKey field.name)
      visitTable entries fields (set group)

/-- Converts the items of an array, one per setting from the first on. -/
def visitArray {σ : Type} : Nat → List (Field σ) → List Tree → σ → Except Error σ
  | index, field :: fields, t :: items, group => do
    let set ← (field.convert t).mapError (Error.underIndex index)
    visitArray (index + 1) fields items (set group)
  | _, _, _, group => .ok group

/-- A group with a name and a list of settings, put together from its defaults. -/
def record {σ : Type} (name : String) (fields : List (Field σ)) (start : σ) : Converter σ
  | .table entries _ => visitTable entries fields start
  | .array items _ => visitArray 0 fields items start
  | .leaf value _ => .error (.notRecord value name)

end BrokerPool.Settings
