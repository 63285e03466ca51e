import BrokerPool.Yaml.Scalar

/-!
# YAML documents

A document is one value: a mapping or a sequence whose entries stand in one column, a text, or a
value in brackets. Values may be named with an anchor and used again by that name. A mapping has
each key once. A text that breaks a rule has no value; which rule it breaks does not matter.
-/

namespace BrokerPool.Yaml

/-- What is left of a text, and the values with names. -/
structure State where
  rest : List Cell
  anchors : List (String × Value)

/-- Reads a part of a text, or fails. -/
abbrev Reader (α : Type) := StateT State Option α

namespace Reader

def rest : Reader (List Cell) := return (← get).rest

def moveTo (cs : List Cell) : Reader Unit := modify fun s => { s with rest := cs }

def peek : Reader (Option Char) := return (← rest).head?.map (·.char)

/-- Runs a scanner of cells. -/
def lift {α : Type} (scan : List Cell → Option (α × List Cell)) : Reader α := do
  match scan (← rest) with
  | some (a, r) =>
    moveTo r
    return a
  | none => failure

def require (b : Bool) : Reader Unit := if b then pure () else failure

/-- Takes one character. -/
def take (c : Char) : Reader Unit := do
  match ← rest with
  | d :: more =>
    require (d.char = c)
    moveTo more
  | [] => failure

end Reader

open Reader

/-! ## Between values -/

/-- Skips empty lines and comments up to the next text. Blanks before it must not be tabs. -/
def skipToText : Nat → Bool → List Cell → Option (List Cell)
  | 0, _, cs => some cs
  | fuel + 1, tabs, cs =>
    let behind := skipBlanks cs
    let tabbed := (cs.takeWhile (isBlank ·.char)).any (·.char = '\t')
    match behind with
    | [] => some []
    | c :: more =>
      if c.char = '\n' then skipToText fuel tabs more
      else if c.char = '#' then skipToText fuel tabs (more.dropWhile (·.char ≠ '\n'))
      else if tabbed && !tabs then none
      else some behind

/-- Ends a line: blanks and a comment may stand at its end, and reading goes on at the next text. -/
def finish : Reader Unit := do
  let cs ← rest
  let behind := skipBlanks cs
  let comment := behind.head?.any fun c =>
    c.char = '#' && (behind.length < cs.length || c.column = 0)
  require (atLineEnd behind || comment)
  let line := behind.dropWhile (·.char ≠ '\n')
  match skipToText (line.length + 1) false line with
  | some r => moveTo r
  | none => failure

/-- The column of the next text, unless the document ends before it. -/
def column? : Reader (Option Nat) := do
  let cs ← rest
  return if atMarker cs then none else cs.head?.map (·.column)

/-- Skips line ends and comments inside brackets. Further lines stand to the right of the column
    before `parent`. -/
def flowGap (parent : Int) : Reader Unit := do
  let cs ← rest
  let behind := skipBlanks cs
  let comment := behind.head?.any fun c =>
    c.char = '#' && (behind.length < cs.length || c.column = 0)
  if atLineEnd behind || comment then
    match skipToText (behind.length + 1) true behind with
    | some r =>
      require (!atMarker r && r.head?.all fun c => parent ≤ c.column)
      moveTo r
    | none => failure
  else moveTo behind

/-! ## Properties -/

/-- The tag and the anchor of a value. -/
structure Properties where
  tag : Option String := none
  anchor : Option String := none

def Properties.isEmpty (p : Properties) : Bool := p.tag.isNone && p.anchor.isNone

/-- The characters up to a blank, a line end or a mark of brackets. -/
def name : Reader String := do
  let cs ← rest
  let isName (c : Cell) : Bool := !isBlank c.char && c.char ≠ '\n' && !isFlowMark c.char
  moveTo (cs.dropWhile isName)
  return String.ofList ((cs.takeWhile isName).map (·.char))

/-- The properties before a value on one line. -/
def properties : Nat → Properties → Reader Properties
  | 0, p => pure p
  | fuel + 1, p => do
    match ← peek with
    | some '&' =>
      require p.anchor.isNone
      take '&'
      let anchor ← name
      require (anchor != "")
      moveTo (skipBlanks (← rest))
      properties fuel { p with anchor := some anchor }
    | some '!' =>
      require p.tag.isNone
      let tag ← name
      moveTo (skipBlanks (← rest))
      properties fuel { p with tag := some tag }
    | _ => pure p

/-- Gives a value the name of its anchor. -/
def remember (p : Properties) (v : Value) : Reader Value := do
  match p.anchor with
  | some anchor =>
    modify fun s => { s with anchors := (anchor, v) :: s.anchors }
    return v
  | none => return v

/-- The value with a name. -/
def named : Reader Value := do
  take '*'
  let anchor ← name
  match (← get).anchors.lookup anchor with
  | some v => return v
  | none => failure

/-- The value of a plain text. -/
def plainValue (p : Properties) (s : String) : Reader Value := do
  let v? := match p.tag with
    | some tag => Value.ofTagged tag s
    | none => Value.ofPlain s
  match v? with
  | some v => remember p v
  | none => failure

/-- A text that is not a block. -/
def scalar (p : Properties) (flow single : Bool) (parent : Int) : Reader Value := do
  match ← peek with
  | some '"' => remember p (.text (← lift (quoted single)))
  | some '\'' => remember p (.text (← lift (quoted single)))
  | some '*' => named
  | _ => plainValue p (← lift (plain flow single parent))

/-- An entry that is added to a mapping, which must not have its key yet. -/
def addEntry (entries : List (String × Value)) (key : String) (v : Value) :
    Reader (List (String × Value)) := do
  require (entries.lookup key).isNone
  return entries ++ [(key, v)]

/-! ## Values in brackets -/

mutual

/-- A value inside brackets; nothing at all is null. -/
def flowValue (parent : Int) : Nat → Reader Value
  | 0 => failure
  | fuel + 1 => do
    let p ← properties 2 {}
    match ← peek with
    | some '[' =>
      take '['
      remember p (.sequence (← flowItems parent fuel))
    | some '\x7b' =>
      take '\x7b'
      remember p (.mapping (← flowEntries parent [] fuel))
    | _ =>
      let cs ← rest
      if cs.head?.any (fun c => c.char = ',' || c.char = ']' || c.char = '\x7d')
          || atColon true cs then plainValue p ""
      else scalar p true false parent

/-- The items of a sequence in brackets. An item may be a single entry of a mapping. -/
def flowItems (parent : Int) : Nat → Reader (List Value)
  | 0 => failure
  | fuel + 1 => do
    flowGap parent
    if (← peek) == some ']' then
      take ']'
      return []
    else
      require ((← peek) != some ',')
      let quotedKey := (← peek) == some '"' || (← peek) == some '\''
      let v ← flowValue parent fuel
      flowGap parent
      let cs ← rest
      let v ← if atColon true cs || (quotedKey && cs.head?.any (·.char = ':')) then
          match v.key? with
          | some key =>
            take ':'
            flowGap parent
            pure (Value.mapping [(key, ← flowValue parent fuel)])
          | none => failure
        else pure v
      flowGap parent
      if (← peek) == some ',' then take ',' else require ((← peek) == some ']')
      return v :: (← flowItems parent fuel)

/-- The entries of a mapping in brackets, after those before. -/
def flowEntries (parent : Int) (before : List (String × Value)) :
    Nat → Reader (List (String × Value))
  | 0 => failure
  | fuel + 1 => do
    flowGap parent
    if (← peek) == some '\x7d' then
      take '\x7d'
      return before
    else
      require ((← peek) != some ',')
      let quotedKey := (← peek) == some '"' || (← peek) == some '\''
      let k ← flowValue parent fuel
      flowGap parent
      let cs ← rest
      let v ← if atColon true cs || (quotedKey && cs.head?.any (·.char = ':')) then do
          take ':'
          flowGap parent
          flowValue parent fuel
        else pure Value.null
      flowGap parent
      if (← peek) == some ',' then take ',' else require ((← peek) == some '\x7d')
      match k.key? with
      | some key => flowEntries parent (← addEntry before key v) fuel
      | none => failure

end

/-! ## Values in columns -/

/-- Where a value stands: behind a key, behind a dash, or at the beginning of a line. -/
inductive Place
  | afterKey
  | afterDash
  | lineStart
deriving DecidableEq, Repr

/-- Whether an item of a sequence begins here. -/
def atDash : List Cell → Bool
  | c :: rest => c.char = '-' && atBreak rest
  | [] => false

/-- A key on one line with the colon behind it. -/
def blockKey : Reader String := do
  let p ← properties 2 {}
  let v ← scalar p false true 0
  moveTo (skipBlanks (← rest))
  require (atColon false (← rest))
  take ':'
  match v.key? with
  | some key => return key
  | none => failure

mutual

/-- A value to the right of the column `parent`. -/
def blockValue (parent : Int) (place : Place) : Nat → Reader Value
  | 0 => failure
  | fuel + 1 => do
    moveTo (skipBlanks (← rest))
    let start ← get
    let p ← properties 2 {}
    let cs ← rest
    if atLineEnd cs || cs.head?.any (·.char = '#') then
      finish
      match ← column? with
      | some c =>
        if parent < c then
          let v ← blockValue parent .lineStart fuel
          remember p v
        else if place = .afterKey && (c : Int) = parent && atDash (← rest) then
          remember p (.sequence (← blockItems c fuel))
        else plainValue p ""
      | none => plainValue p ""
    else
      match cs with
      | [] => plainValue p ""
      | c :: _ =>
        if c.char = '|' || c.char = '>' then
          let s ← lift (block parent)
          let v ← remember p (.text s)
          let r ← rest
          match skipToText (r.length + 1) false r with
          | some r =>
            moveTo r
            return v
          | none => failure
        else if atDash cs then
          require (place != .afterKey && p.isEmpty)
          return .sequence (← blockItems c.column fuel)
        else
          let column := (start.rest.head?.map (·.column)).getD 0
          set start
          let key? ← if place = .afterKey then pure none else optional blockKey
          match key? with
          | some key => return .mapping (← blockEntries column key [] fuel)
          | none =>
            let p ← properties 2 {}
            let v ← match ← peek with
              | some '[' => flowRoot p parent fuel
              | some '\x7b' => flowRoot p parent fuel
              | _ => scalar p false false parent
            finish
            return v

/-- A value in brackets among values in columns. -/
def flowRoot (p : Properties) (parent : Int) : Nat → Reader Value
  | 0 => failure
  | fuel + 1 => do remember p (← flowValue parent fuel)

/-- The items of a sequence in a column. -/
def blockItems (column : Nat) : Nat → Reader (List Value)
  | 0 => failure
  | fuel + 1 => do
    take '-'
    let v ← blockValue column .afterDash fuel
    match ← column? with
    | some c =>
      require (c ≤ column)
      if c = column && atDash (← rest) then return v :: (← blockItems column fuel)
      else return [v]
    | none => return [v]

/-- The entries of a mapping in a column, from the value of a key on. -/
def blockEntries (column : Nat) (key : String) (before : List (String × Value)) :
    Nat → Reader (List (String × Value))
  | 0 => failure
  | fuel + 1 => do
    let v ← blockValue column .afterKey fuel
    let entries ← addEntry before key v
    match ← column? with
    | some c =>
      require (c ≤ column)
      if c = column then
        let next ← blockKey
        blockEntries column next entries fuel
      else return entries
    | none => return entries

end

/-! ## Documents -/

/-- Skips the directives at the beginning of a text, and says whether there are any. -/
def directives : Nat → Reader Bool
  | 0 => pure false
  | fuel + 1 => do
    let cs ← rest
    match cs with
    | c :: _ =>
      if c.char = '%' && c.column = 0 then
        moveTo (cs.dropWhile (·.char ≠ '\n'))
        finish
        let _ ← directives fuel
        return true
      else return false
    | [] => return false

/-- Whether the next line begins a document, or ends one. -/
def atMarkerOf (c : Char) (cs : List Cell) : Bool := atMarker cs && cs.head?.any (·.char = c)

/-- The only document of a text. A text without any document has none. -/
def document (size : Nat) : Reader (Option Value) := do
  match skipToText (size + 1) false (← rest) with
  | some r => moveTo r
  | none => failure
  let directed ← directives size
  let cs ← rest
  let v ← if atMarkerOf '-' cs then do
      moveTo (cs.drop 3)
      some <$> blockValue (-1) .afterKey (4 * size + 16)
    else do
      require !directed
      if cs.isEmpty then pure none
      else some <$> blockValue (-1) .lineStart (4 * size + 16)
  if atMarkerOf '.' (← rest) then
    moveTo ((← rest).drop 3)
    finish
  require (← rest).isEmpty
  return v

/-- The value of a text, a missing document being an empty mapping. -/
def parse (text : String) : Option Value := do
  let cs := cellsFrom 0 text.toList
  let (v, _) ← document cs.length ⟨cs, []⟩
  return v.getD (.mapping [])

end BrokerPool.Yaml
