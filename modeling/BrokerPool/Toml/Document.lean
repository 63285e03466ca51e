import BrokerPool.Toml.Scanner

/-!
# TOML documents

A document is a list of lines: headers of tables, headers of tables in an array, and pairs. The
lines build up one tree of tables, in which every table remembers how it came about, because that
decides who may still add to it:

* a table that only came about on the way to another one may get a header of its own later;
* a table that came about through a dotted key may only be extended by other dotted keys;
* a table with a header of its own, and a table written between braces, are complete.

A document that breaks a rule has no value; which rule it breaks does not matter.
-/

namespace BrokerPool.Toml

open Scanner

/-! ## Tables under construction -/

/-- How a table came about. -/
inductive Origin
  | header
  | onTheWay
  | dotted
deriving DecidableEq, Repr

/-- What a name stands for in a table under construction. -/
inductive Entry
  | value (v : Value)
  | table (origin : Origin) (entries : List (String × Entry))
  | tables (before : List (List (String × Entry))) (last : List (String × Entry))

/-- The entries of a table under construction. -/
abbrev Table := List (String × Entry)

/-- Replaces the entry with a name by what `f` makes of it, or adds it at the end. -/
def Table.alter (name : String) (f : Option Entry → Option Entry) : Table → Option Table
  | [] => (f none).map fun e => [(name, e)]
  | (k, e) :: rest =>
    if k = name then (f (some e)).map fun e => (k, e) :: rest
    else (Table.alter name f rest).map ((k, e) :: ·)

/-- Works on the table at a path of a header. Tables that are missing come about on the way, and
    an array stands for its last table. -/
def Table.within (f : Table → Option Table) : List String → Table → Option Table
  | [], t => f t
  | name :: path, t => Table.alter name (fun
      | none => (Table.within f path []).map (.table .onTheWay)
      | some (.table origin entries) => (Table.within f path entries).map (.table origin)
      | some (.tables before last) => (Table.within f path last).map (.tables before)
      | some (.value _) => none) t

/-- Adds a pair with a dotted key. No table that it passes through may have a header, and the last
    one must have come about through a dotted key. -/
def Table.assign (name : String) (v : Value) : List String → Table → Option Table
  | [], t => Table.alter name (fun
      | none => some (.value v)
      | some _ => none) t
  | step :: path, t => Table.alter step (fun
      | none => (Table.assign name v path []).map (.table .dotted)
      | some (.table origin entries) =>
        if origin = .dotted || (origin = .onTheWay && !path.isEmpty) then
          (Table.assign name v path entries).map (.table origin)
        else none
      | some (.tables before last) =>
        if path.isEmpty then none else (Table.assign name v path last).map (.tables before)
      | some (.value _) => none) t

mutual

/-- The value of a finished entry. -/
def Entry.toValue : Entry → Value
  | .value v => v
  | .table _ entries => .table (Table.toPairs entries)
  | .tables before last => .array (Table.toValues before ++ [.table (Table.toPairs last)])

def Table.toPairs : List (String × Entry) → List (String × Value)
  | [] => []
  | (k, e) :: rest => (k, e.toValue) :: Table.toPairs rest

def Table.toValues : List (List (String × Entry)) → List Value
  | [] => []
  | t :: rest => .table (Table.toPairs t) :: Table.toValues rest

end

/-- A table from pairs with dotted keys. -/
def Table.ofPairs (pairs : List (List String × Value)) : Option Table :=
  pairs.foldlM (fun t (path, v) => do
    let name ← path.getLast?
    Table.assign name v path.dropLast t) []

/-! ## Values -/

def pair (value : Scanner Value) : Scanner (List String × Value) := do
  let path ← key
  let _ ← char '='
  let v ← blanks *> value <* blanks
  return (path, v)

def array (value : Scanner Value) : Scanner Value := do
  let _ ← char '['
  let items ← optional do
    let items ← separated (gap *> value <* gap) (do let _ ← char ',')
    let _ ← optional (char ',')
    return items
  gap
  let _ ← char ']'
  return .array (items.getD [])

def inlineTable (value : Scanner Value) : Scanner Value := do
  let _ ← char '\x7b'
  let pairs ← optional (separated (pair value) (do let _ ← char ','))
  blanks
  let _ ← char '\x7d'
  match Table.ofPairs (pairs.getD []) with
  | some t => return .table (Table.toPairs t)
  | none => failure

def scalar : Scanner Value :=
  .text <$> anyString
  <|> .moment <$> moment
  <|> .float <$> float
  <|> .integer <$> integer
  <|> (word "true".toList *> pure (.bool true))
  <|> (word "false".toList *> pure (.bool false))

/-- A value with up to `depth` containers inside each other. -/
def value : Nat → Scanner Value
  | 0 => scalar
  | depth + 1 => array (value depth) <|> inlineTable (value depth) <|> scalar

/-! ## Lines -/

inductive Line
  | header (path : List String)
  | arrayHeader (path : List String)
  | pair (path : List String) (v : Value)

/-- A line that says something. -/
def line : Scanner Line :=
  (do
    word ['[', '[']
    let path ← key
    word [']', ']']
    lineEnd
    return .arrayHeader path)
  <|> (do
    let _ ← char '['
    let path ← key
    let _ ← char ']'
    lineEnd
    return .header path)
  <|> do
    let (path, v) ← pair (value (depthLimit - 1))
    lineEnd
    return .pair path v

/-- A line that says nothing. -/
def emptyLine : Scanner Unit := do
  let _ ← optional comment
  newline

/-- The lines of a text, of which the first may begin with a byte order mark. -/
def lines : Scanner (List Line) := do
  let _ ← optional (char '\ufeff')
  blanks
  let found ← many ((some <$> line <|> emptyLine *> pure none) <* blanks)
  let _ ← optional comment
  atEnd
  return found.filterMap id

/-! ## Documents -/

/-- Gives a table its header. -/
def Table.open (path : List String) (t : Table) : Option Table := do
  let name ← path.getLast?
  Table.within (Table.alter name fun
    | none => some (.table .header [])
    | some (.table .onTheWay entries) => some (.table .header entries)
    | some _ => none) path.dropLast t

/-- Adds a table to an array of tables. -/
def Table.push (path : List String) (t : Table) : Option Table := do
  let name ← path.getLast?
  Table.within (Table.alter name fun
    | none => some (.tables [] [])
    | some (.tables before last) => some (.tables (before ++ [last]) [])
    | some _ => none) path.dropLast t

/-- Adds a line to a document; pairs belong to the table of the last header. -/
def Table.addLine : Table × List String → Line → Option (Table × List String)
  | (t, _), .header path => (Table.open path t).map (·, path)
  | (t, _), .arrayHeader path => (Table.push path t).map (·, path)
  | (t, here), .pair path v => do
    let name ← path.getLast?
    let t ← Table.within (Table.assign name v path.dropLast) here t
    return (t, here)

/-- The entries of a document. -/
def parse (text : String) : Option (List (String × Value)) := do
  let (found, _) ← lines text.toList
  let (t, _) ← found.foldlM Table.addLine ([], [])
  return Table.toPairs t

end BrokerPool.Toml
