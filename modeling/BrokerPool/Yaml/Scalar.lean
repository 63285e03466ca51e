import BrokerPool.Yaml.Value

/-!
# Texts in YAML

Every character carries its column, because in YAML the column of a text decides what it belongs to.
This module reads the texts: plain ones, quoted ones, and blocks of lines. A single line break
inside a text is a blank, and of several line breaks one less than there are counts.
-/

namespace BrokerPool.Yaml

/-- A character and its column. -/
structure Cell where
  char : Char
  column : Nat
deriving DecidableEq, Repr

/-- The cells of a text, with one character for every kind of line end. -/
def cellsFrom (column : Nat) : List Char → List Cell
  | [] => []
  | '\r' :: '\n' :: rest => ⟨'\n', column⟩ :: cellsFrom 0 rest
  | c :: rest =>
    if c = '\n' ∨ c = '\r' then ⟨'\n', column⟩ :: cellsFrom 0 rest
    else ⟨c, column⟩ :: cellsFrom (column + 1) rest

def isBlank (c : Char) : Bool := c = ' ' || c = '\t'

def isFlowMark (c : Char) : Bool := c = ',' || c = '[' || c = ']' || c = '\x7b' || c = '\x7d'

/-- Whether the next character is a blank, a line end or the end. -/
def atBreak : List Cell → Bool
  | [] => true
  | c :: _ => isBlank c.char || c.char = '\n'

/-- Whether the next character is a line end or the end. -/
def atLineEnd : List Cell → Bool
  | [] => true
  | c :: _ => c.char = '\n'

def skipBlanks (cs : List Cell) : List Cell := cs.dropWhile (isBlank ·.char)

/-- Whether a line that separates documents begins here. -/
def atMarker : List Cell → Bool
  | a :: b :: c :: rest =>
    a.column = 0 && a.char = b.char && b.char = c.char && (a.char = '-' || a.char = '.')
      && atBreak rest
  | _ => false

/-- Whether a colon ends a key here. -/
def atColon (flow : Bool) : List Cell → Bool
  | c :: rest =>
    c.char = ':' && (atBreak rest || (flow && (rest.head?.any fun d => isFlowMark d.char)))
  | [] => false

/-- The line breaks between two lines of a text, as they count. -/
def foldedBreaks (count : Nat) : List Char :=
  if count ≤ 1 then [' '] else List.replicate (count - 1) '\n'

/-- Skips line ends and the blanks at the beginning of lines, counting the line ends. -/
def skipLines : List Cell → Nat × List Cell
  | [] => (0, [])
  | c :: rest =>
    if c.char = '\n' then let (n, r) := skipLines rest; (n + 1, r)
    else if isBlank c.char then skipLines rest
    else (0, c :: rest)

/-! ## Plain texts -/

def trimEnd (cs : List Char) : List Char := (cs.reverse.dropWhile isBlank).reverse

/-- The characters up to the end of a line, a comment, a colon or a mark of brackets. -/
def plainRun (flow afterBlank : Bool) : List Cell → List Char
  | [] => []
  | c :: rest =>
    if c.char = '\n' || (afterBlank && c.char = '#') || atColon flow (c :: rest)
        || (flow && isFlowMark c.char) then []
    else c.char :: plainRun flow (isBlank c.char) rest

/-- The part of a plain text that stands on one line; it ends with no blank. -/
def plainLine (flow : Bool) (cs : List Cell) : List Char × List Cell :=
  let line := trimEnd (plainRun flow false cs)
  (line, cs.drop line.length)

/-- Whether a plain text may begin here. -/
def startsPlain (flow : Bool) : List Cell → Bool
  | [] => false
  | c :: rest =>
    if c.char = '-' || c.char = '?' || c.char = ':' then
      !atBreak rest && !(flow && (rest.head?.any fun d => isFlowMark d.char))
    else
      !isBlank c.char && c.char ≠ '\n' && !isFlowMark c.char
        && !(['#', '&', '*', '!', '|', '>', '\'', '"', '%', '@', '\x60'].contains c.char)

/-- The further lines of a plain text, which stand to the right of `parent`. -/
def plainMore (flow : Bool) (parent : Int) : Nat → List Cell → List Char × List Cell
  | 0, cs => ([], cs)
  | fuel + 1, cs =>
    if !atLineEnd (skipBlanks cs) then ([], cs)
    else
      match skipLines cs with
      | (_, []) => ([], cs)
      | (count, c :: rest) =>
        if c.char = '#' || (!flow && (c.column : Int) ≤ parent) || atMarker (c :: rest)
            || (flow && isFlowMark c.char) || atColon flow (c :: rest) then ([], cs)
        else
          let (line, r) := plainLine flow (c :: rest)
          let (more, r) := plainMore flow parent fuel r
          (foldedBreaks count ++ line ++ more, r)

/-- A plain text, on one line or on several. -/
def plain (flow single : Bool) (parent : Int) (cs : List Cell) : Option (String × List Cell) :=
  if !startsPlain flow cs then none
  else
    let (line, r) := plainLine flow cs
    if single then some (String.ofList line, r)
    else
      let (more, r) := plainMore flow parent cs.length r
      some (String.ofList (line ++ more), r)

/-! ## Quoted texts -/

/-- The character of an escape of one letter. -/
def letter? : Char → Option Char
  | '0' => some '\x00'
  | 'a' => some '\x07'
  | 'b' => some '\x08'
  | 't' => some '\t'
  | '\t' => some '\t'
  | 'n' => some '\n'
  | 'v' => some '\x0b'
  | 'f' => some '\x0c'
  | 'r' => some '\r'
  | 'e' => some '\x1b'
  | ' ' => some ' '
  | '"' => some '"'
  | '/' => some '/'
  | '\\' => some '\\'
  | 'N' => some '\u0085'
  | '_' => some '\u00a0'
  | 'L' => some '\u2028'
  | 'P' => some '\u2029'
  | _ => none

/-- How many hexadecimal digits follow a letter. -/
def digitCount? : Char → Option Nat
  | 'x' => some 2
  | 'u' => some 4
  | 'U' => some 8
  | _ => none

/-- The rest of a quoted text, behind its characters so far in reverse. Blanks around a line end do
    not count. -/
def quotedFrom (double single : Bool) :
    Nat → List Char → List Cell → Option (String × List Cell)
  | 0, _, _ => none
  | _, _, [] => none
  | fuel + 1, acc, c :: rest =>
    if double && c.char = '"' then some (String.ofList acc.reverse, rest)
    else if !double && c.char = '\'' then
      match rest with
      | d :: more =>
        if d.char = '\'' then quotedFrom double single fuel ('\'' :: acc) more
        else some (String.ofList acc.reverse, rest)
      | [] => some (String.ofList acc.reverse, [])
    else if double && c.char = '\\' then
      match rest with
      | [] => none
      | d :: more =>
        if d.char = '\n' then
          if single then none
          else
            let (count, r) := skipLines more
            quotedFrom double single fuel (List.replicate count '\n' ++ acc) r
        else
          match letter? d.char, digitCount? d.char with
          | some x, _ => quotedFrom double single fuel (x :: acc) more
          | none, some count =>
            let ds := (more.take count).map (·.char)
            match Number.digits? 16 ds with
            | some n =>
              if ds.length = count && n.isValidChar then
                quotedFrom double single fuel (Char.ofNat n :: acc) (more.drop count)
              else none
            | none => none
          | none, none => none
    else if c.char = '\n' then
      if single then none
      else
        match skipLines (c :: rest) with
        | (count, r) =>
          if atMarker r then none
          else quotedFrom double single fuel (foldedBreaks count ++ acc.dropWhile isBlank) r
    else quotedFrom double single fuel (c.char :: acc) rest

/-- A quoted text; `single` means that it must end on its first line. -/
def quoted (single : Bool) : List Cell → Option (String × List Cell)
  | [] => none
  | c :: rest =>
    if c.char = '"' then quotedFrom true single (rest.length + 1) [] rest
    else if c.char = '\'' then quotedFrom false single (rest.length + 1) [] rest
    else none

/-! ## Blocks of lines -/

/-- What becomes of the line ends behind the last line of a block. -/
inductive Chomping
  | strip
  | clip
  | keep
deriving DecidableEq, Repr

/-- The marks behind the sign of a block: its indentation, and its chomping. -/
def blockMarks : Nat → Option Nat × Chomping → List Cell → (Option Nat × Chomping) × List Cell
  | 0, marks, cs => (marks, cs)
  | _, marks, [] => (marks, [])
  | fuel + 1, (indentation, chomping), c :: rest =>
    if c.char = '-' then blockMarks fuel (indentation, .strip) rest
    else if c.char = '+' then blockMarks fuel (indentation, .keep) rest
    else if '1' ≤ c.char && c.char ≤ '9' then
      blockMarks fuel (some (c.char.toNat - '0'.toNat), chomping) rest
    else ((indentation, chomping), c :: rest)

/-- The lines of a text. -/
def linesOf : Nat → List Cell → List (List Cell)
  | 0, _ => []
  | _, [] => []
  | fuel + 1, cs =>
    cs.takeWhile (·.char ≠ '\n')
      :: linesOf fuel (cs.dropWhile (·.char ≠ '\n')).tail

def indentationOf (line : List Cell) : Nat := (line.takeWhile (·.char = ' ')).length

def isEmptyLine (line : List Cell) : Bool := line.all (·.char = ' ')

/-- The lines of a block without their indentation. -/
def blockLines (indentation : Nat) (lines : List (List Cell)) : List (List Char) :=
  let belongs (line : List Cell) : Bool :=
    isEmptyLine line || (indentation ≤ indentationOf line && !atMarker line)
  (lines.takeWhile belongs).map fun line => (line.drop indentation).map (·.char)

/-- Joins the lines of a folded block: the line end between two texts is a blank, unless one of them
    is indented further. -/
def foldLines : List (List Char) → List Char
  | [] => []
  | line :: rest =>
    if line.isEmpty then '\n' :: foldLines rest
    else
      let empties := (rest.takeWhile List.isEmpty).length
      match rest.drop empties with
      | [] => line ++ List.replicate empties '\n'
      | next :: _ =>
        let indented := (line.head?.any isBlank) || (next.head?.any isBlank)
        if empties = 0 then line ++ (if indented then '\n' else ' ') :: foldLines rest
        else line ++ (if indented then ['\n'] else []) ++ foldLines rest

/-- Joins the lines of a block. -/
def joinBlock (folded : Bool) (chomping : Chomping) (lines : List (List Char)) : List Char :=
  let texts := (lines.reverse.dropWhile List.isEmpty).reverse
  let trailing := lines.length - texts.length
  let body := if folded then foldLines texts else (texts.intersperse ['\n']).flatten
  match chomping with
  | .strip => body
  | .clip => if texts.isEmpty then [] else body ++ ['\n']
  | .keep =>
    body ++ List.replicate (if texts.isEmpty then trailing else trailing + 1) '\n'

/-- A block of lines below `parent`, from its sign on. -/
def block (parent : Int) : List Cell → Option (String × List Cell)
  | [] => none
  | sign :: rest =>
    let ((given, chomping), r) := blockMarks 2 (none, .clip) rest
    let behind := skipBlanks r
    let comment := behind.head?.any fun c => c.char = '#' && behind.length < r.length
    if !atLineEnd behind && !comment then none
    else
      let body := (behind.dropWhile (·.char ≠ '\n')).tail
      let lines := linesOf (body.length + 1) body
      let least := (parent + 1).toNat
      let indentation := match given with
        | some n => parent.toNat + n
        | none =>
          match lines.find? fun line => !isEmptyLine line with
          | some line => max least (indentationOf line)
          | none => least
      let kept := blockLines indentation lines
      let taken := (lines.take kept.length).foldl (fun n line => n + line.length + 1) 0
      some (String.ofList (joinBlock (sign.char = '>') chomping kept), body.drop taken)

end BrokerPool.Yaml
