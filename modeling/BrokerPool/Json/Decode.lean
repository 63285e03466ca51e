import BrokerPool.Json.Value
import BrokerPool.Text.Quoted

/-!
# Decoding records

A record is described by a table of its fields, in the order of their declaration. One table serves
both shapes a record may have in JSON: an object, whose members may come in any order and of which
unknown ones are skipped, and an array, which gives the fields from the first on. A field that is
given twice is an error, and so is a required field that is missing.

The decoders visit a tree from left to right and stop at the first fault, be it a flaw of the text
or a value of the wrong kind.
-/

namespace BrokerPool.Json

/-- Where a tree comes from: a text that is still being read, or a value that is complete. It
    decides how an array with more items than the record has fields is refused. -/
inductive Medium
  | text
  | value
deriving DecidableEq, Repr

/-- A decoder of values of a type. -/
abbrev Decoder (α : Type) := Tree → Except Error α

def Error.mismatched (message : String) : Error := .mismatch [] message

/-- Adds a step to the path of an error. -/
def Error.under (step : String) : Error → Error
  | .flaw f => .flaw f
  | .mismatch path message => .mismatch (step :: path) message

/-- The path of an error in one text: names separated by points, positions in brackets. -/
def pathText : List String → String
  | [] => ""
  | [step] => step
  | step :: next :: rest =>
    step ++ (if next.startsWith "[" then "" else ".") ++ pathText (next :: rest)

/-- How a value that does not fit is named. -/
def Numeral.described : Numeral → String
  | .integer i => "integer `" ++ Number.integerText i ++ "`"
  | .float x => "floating point `" ++ Number.Notation.json.render .double x ++ "`"

/-- Refuses a tree where something else was expected. A container is refused at its first
    character, anything else only after it was read. -/
def refuse {α : Type} (expected : String) (t : Tree) : Except Error α :=
  let invalid (what : String) : Except Error α :=
    .error (.mismatched ("invalid type: " ++ what ++ ", expected " ++ expected))
  match t with
  | .null => invalid "null"
  | .bool b => invalid ("boolean `" ++ Text.ofBool b ++ "`")
  | .number (some n) => invalid n.described
  | .number none => .error (.flaw .malformed)
  | .string (some s) => invalid ("string " ++ Text.Quoted.quote s)
  | .string none => .error (.flaw .malformed)
  | .array _ => invalid "sequence"
  | .object _ => invalid "map"
  | .broken read _ => .error (.flaw read)

/-! ## Plain values -/

/-- A text, with the words that name it in errors. -/
def textAs (expected : String) : Decoder String
  | .string (some s) => .ok s
  | t => refuse expected t

def text : Decoder String := textAs "a string"

def boolean : Decoder Bool
  | .bool b => .ok b
  | t => refuse "a boolean" t

/-- A sixteen bit unsigned integer. -/
def word16 : Decoder UInt16
  | .number (some (.integer i)) =>
    if 0 ≤ i ∧ i ≤ 65535 then .ok (UInt16.ofNat i.toNat)
    else .error (.mismatched
      ("invalid value: integer `" ++ Number.integerText i ++ "`, expected u16"))
  | t => refuse "u16" t

/-- A value that may be null. -/
def optional {α : Type} (decode : Decoder α) : Decoder (Option α)
  | .null => .ok none
  | t => (decode t).map some

/-- A map from texts to values, in the order of its keys. The last of several members with one key
    counts. -/
def mapOf {α : Type} (decode : Decoder α) : Decoder (List (String × α))
  | .object members => visit [] members
  | t => refuse "a map" t
where
  visit (before : List (String × α)) : Members → Except Error (List (String × α))
    | .done => .ok before
    | .cons none _ _ => .error (.flaw .malformed)
    | .cons (some key) value rest => do
      let v ← (decode value).mapError (Error.under key)
      visit (Keyed.put key v before) rest
    | .broken read _ => .error (.flaw read)

/-! ## Choices -/

/-- The choice with a name. -/
def choice {α : Type} (choices : List (String × α)) (name : String) : Except Error α :=
  match choices.lookup name with
  | some a => .ok a
  | none =>
    let names := choices.map fun (n, _) => "`" ++ n ++ "`"
    .error (.mismatched
      ("unknown variant `" ++ name ++ "`, expected one of " ++ ", ".intercalate names))

/-- Expects nothing but null. -/
def unit : Decoder Unit
  | .null => .ok ()
  | t => refuse "unit" t

/-- One of several named choices: its name, or an object whose one member has that name and holds
    null. -/
def oneOf {α : Type} (medium : Medium) (choices : List (String × α)) : Decoder α
  | .string (some name) => choice choices name
  | .string none => .error (.flaw .malformed)
  | .object members =>
    match medium, members with
    | .text, .cons (some name) value rest => do
      let a ← choice choices name
      unit value
      match rest with
      | .done => return a
      | .broken read _ => .error (.flaw read)
      | .cons .. => .error (.flaw .malformed)
    | .value, .cons (some name) value .done => do
      let a ← choice choices name
      unit value
      return a
    | .value, _ =>
      .error (.mismatched "invalid value: map, expected map with a single key")
    | .text, .broken read _ => .error (.flaw read)
    | .text, _ => .error (.flaw .malformed)
  | t =>
    match medium with
    | .value => refuse "string or map" t
    | .text =>
      match t with
      | .broken .ended _ => .error (.flaw .ended)
      | _ => .error (.flaw .malformed)

/-! ## Records -/

/-- A field of a record that is being put together: its name, whether it must be given, and how its
    value changes the record. -/
structure Field (σ : Type) where
  name : String
  required : Bool
  decode : Decoder (σ → σ)

/-- A field that may be left out. -/
def Field.given {σ α : Type} (name : String) (decode : Decoder α) (set : α → σ → σ) : Field σ :=
  ⟨name, false, fun t => (decode t).map set⟩

/-- A field that must be given. -/
def Field.needed {σ α : Type} (name : String) (decode : Decoder α) (set : α → σ → σ) : Field σ :=
  ⟨name, true, fun t => (decode t).map set⟩

/-- Visits the members of an object: the record with what they give, and the names given. -/
def visitMembers {σ : Type} (fields : List (Field σ)) (seen : List String) (record : σ) :
    Members → Except Error (σ × List String)
  | .done => .ok (record, seen)
  | .broken read _ => .error (.flaw read)
  | .cons none _ _ => .error (.flaw .malformed)
  | .cons (some key) value rest =>
    match fields.find? (·.name == key) with
    | none =>
      match value.skipFlaw? with
      | some flaw => .error (.flaw flaw)
      | none => visitMembers fields seen record rest
    | some field =>
      if seen.contains key then
        .error (.mismatched ("duplicate field `" ++ key ++ "`"))
      else do
        let set ← (field.decode value).mapError (Error.under key)
        visitMembers fields (key :: seen) (set record) rest

/-- Visits the items of an array, one per field from the first on. -/
def visitItems {σ : Type} (medium : Medium) (name : String) (total : Nat) (count : Nat) :
    Nat → List (Field σ) → σ → Items → Except Error σ
  | _, [], record, items =>
    match items, medium with
    | .done, _ => .ok record
    | .broken flaw, _ => .error (.flaw flaw)
    | .cons .., .text => .error (.flaw .malformed)
    | .cons .., .value => .error (.mismatched
        ("invalid length " ++ Number.digitText total ++ ", expected fewer elements in array"))
  | _, _ :: _, _, .broken flaw => .error (.flaw flaw)
  | index, field :: fields, record, .done =>
    if (field :: fields).any (·.required) then
      let missing := ((field :: fields).takeWhile (!·.required)).length
      .error (.mismatched ("invalid length " ++ Number.digitText (index + missing)
        ++ ", expected struct " ++ name ++ " with " ++ Number.digitText count ++ " elements"))
    else .ok record
  | index, field :: fields, record, .cons item rest => do
    let set ← (field.decode item).mapError
      (Error.under ("[" ++ Number.digitText index ++ "]"))
    visitItems medium name total count (index + 1) fields (set record) rest

/-- A record with a name and a table of fields, put together from `start`. -/
def record {σ : Type} (medium : Medium) (name : String) (fields : List (Field σ)) (start : σ) :
    Decoder σ
  | .object members => do
    let (record, seen) ← visitMembers fields [] start members
    match fields.find? fun field => field.required && !seen.contains field.name with
    | some field => .error (.mismatched ("missing field `" ++ field.name ++ "`"))
    | none => return record
  | .array items => visitItems medium name items.length fields.length 0 fields start items
  | t => refuse ("struct " ++ name) t

/-- Decodes a whole text. -/
def Document.decode {α : Type} (d : Document) (decode : Decoder α) : Except Error α := do
  let a ← decode d.root
  if d.trailing then .error (.flaw .malformed) else return a

end BrokerPool.Json
