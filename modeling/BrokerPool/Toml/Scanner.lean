import BrokerPool.Toml.Value
import BrokerPool.Number.Literal

/-!
# Scanning TOML

A scanner takes a prefix off a text, or fails. This module holds the scanners of everything that is
not nested: blanks and comments, strings, numbers, dates and keys. Which character may stand in a
comment or a string is one rule: a tab, or anything that is not a control character.
-/

namespace BrokerPool.Toml

open Number (isDigit digits? digitValue?)

/-- Takes a prefix off a text. -/
abbrev Scanner (α : Type) := StateT (List Char) Option α

namespace Scanner

/-- The next character, if it has a property. -/
def satisfy (p : Char → Bool) : Scanner Char
  | c :: rest => if p c then some (c, rest) else none
  | [] => none

def char (c : Char) : Scanner Char := satisfy (· = c)

/-- The characters that a text begins with. -/
def word : List Char → Scanner Unit
  | [] => pure ()
  | c :: cs => do
    let _ ← char c
    word cs

/-- The longest run of characters with a property. -/
def run (p : Char → Bool) : Scanner (List Char) := fun cs => some (cs.takeWhile p, cs.dropWhile p)

def atEnd : Scanner Unit
  | [] => some ((), [])
  | _ :: _ => none

def require (b : Bool) : Scanner Unit := if b then pure () else failure

/-- A scanner repeated as often as it succeeds and takes something, `fuel` times at most. -/
def repeated {α : Type} (s : Scanner α) : Nat → Scanner (List α)
  | 0 => pure []
  | fuel + 1 => fun cs =>
    match s cs with
    | some (a, rest) =>
      if rest.length < cs.length then (repeated s fuel rest).map fun (as, r) => (a :: as, r)
      else some ([], cs)
    | none => some ([], cs)

/-- A scanner repeated as often as it succeeds; no text is longer than its fuel. -/
def many {α : Type} (s : Scanner α) : Scanner (List α) := fun cs => repeated s cs.length cs

/-- One or more times a scanner, with separators between. -/
def separated {α : Type} (s : Scanner α) (separator : Scanner Unit) : Scanner (List α) := do
  let first ← s
  let rest ← many (separator *> s)
  return first :: rest

end Scanner

open Scanner

/-! ## Blanks -/

def isBlank (c : Char) : Bool := c = ' ' || c = '\t'

/-- A tab, or anything that is not a control character. -/
def isText (c : Char) : Bool := c = '\t' || (' ' ≤ c && c ≠ '\x7f')

def blanks : Scanner Unit := do
  let _ ← run isBlank

def newline : Scanner Unit := (do let _ ← char '\n') <|> word ['\r', '\n']

def comment : Scanner Unit := do
  let _ ← char '#'
  let _ ← run isText

/-- The rest of a line: blanks, a comment, and then the end of the line or of the text. -/
def lineEnd : Scanner Unit := do
  blanks
  let _ ← optional comment
  newline <|> atEnd

/-- Blanks, comments and line ends. -/
def gap : Scanner Unit := do
  let _ ← many ((do let _ ← satisfy isBlank) <|> newline <|> comment)

/-! ## Strings -/

/-- The character with a code point of exactly `count` hexadecimal digits. -/
def codePoint (count : Nat) : Scanner Char := fun cs => do
  let ds := cs.take count
  if ds.length < count then failure
  let n ← digits? 16 ds
  if n.isValidChar then return (Char.ofNat n, cs.drop count) else failure

/-- What stands behind a backslash, apart from a line end. -/
def escape : Scanner Char := do
  match ← satisfy fun _ => true with
  | 'b' => pure '\x08'
  | 't' => pure '\t'
  | 'n' => pure '\n'
  | 'f' => pure '\x0c'
  | 'r' => pure '\r'
  | '"' => pure '"'
  | '\\' => pure '\\'
  | 'u' => codePoint 4
  | 'U' => codePoint 8
  | _ => failure

/-- One character of a text in double quotes. -/
def basicChar : Scanner Char :=
  (char '\\' *> escape) <|> satisfy fun c => isText c && c ≠ '"' && c ≠ '\\'

def basicString : Scanner (List Char) := char '"' *> many basicChar <* char '"'

def literalString : Scanner (List Char) :=
  char '\'' *> run (fun c => isText c && c ≠ '\'') <* char '\''

/-- A line end inside a text of several lines; it always counts as one character. -/
def innerNewline : Scanner (List Char) := do
  newline
  return ['\n']

/-- A backslash at the end of a line, which takes away all blanks and line ends behind it. -/
def continuation : Scanner (List Char) := do
  let _ ← char '\\'
  blanks
  newline
  let _ ← many ((do let _ ← satisfy isBlank) <|> newline)
  return []

/-- Up to two quotes that do not close a text of several lines. -/
def looseQuotes (quote : Char) : Scanner (List Char) := fun cs =>
  let count := (cs.takeWhile (· = quote)).length
  let rest := cs.drop count
  if count = 0 then none
  else if count < 3 then some (List.replicate count quote, rest)
  else none

/-- The quotes that close a text of several lines, after up to two that still belong to it. -/
def closingQuotes (quote : Char) : Scanner (List Char) := fun cs =>
  let count := (cs.takeWhile (· = quote)).length
  if count < 3 then none
  else
    let inner := min (count - 3) 2
    some (List.replicate inner quote, cs.drop (inner + 3))

/-- A text of several lines between three quotes. A line end right behind the opening quotes does
    not belong to it. -/
def longString (quote : Char) (piece : Scanner (List Char)) : Scanner (List Char) := do
  word [quote, quote, quote]
  let _ ← optional newline
  let pieces ← many (piece <|> innerNewline <|> looseQuotes quote)
  let last ← closingQuotes quote
  return pieces.flatten ++ last

def longBasicString : Scanner (List Char) :=
  longString '"' (continuation <|> List.singleton <$> basicChar)

def longLiteralString : Scanner (List Char) :=
  longString '\'' (List.singleton <$> satisfy fun c => isText c && c ≠ '\'')

def anyString : Scanner String :=
  String.ofList <$> (longBasicString <|> basicString <|> longLiteralString <|> literalString)

/-! ## Keys -/

def isBareKeyChar (c : Char) : Bool :=
  isDigit c || ('a' ≤ c && c ≤ 'z') || ('A' ≤ c && c ≤ 'Z') || c = '_' || c = '-'

def bareKey : Scanner (List Char) := do
  let cs ← run isBareKeyChar
  require !cs.isEmpty
  return cs

def simpleKey : Scanner String :=
  String.ofList <$> (basicString <|> literalString <|> bareKey)

/-- How deep keys and containers may be nested. -/
def depthLimit : Nat := 80

/-- A dotted key: one or more names with points between. -/
def key : Scanner (List String) := do
  let names ← separated (blanks *> simpleKey <* blanks) (do let _ ← char '.')
  require (names.length < depthLimit)
  return names

/-! ## Numbers -/

/-- Digits with single underscores between them. -/
def digitGroups (p : Char → Bool) : Scanner (List Char) := do
  let first ← satisfy p
  let rest ← many (satisfy p <|> (char '_' *> satisfy p))
  return first :: rest

/-- The digits of a decimal integer, which has no leading zero. -/
def wholeDigits : Scanner (List Char) :=
  (do require ((← get).head?.any fun c => '1' ≤ c && c ≤ '9'); digitGroups isDigit)
    <|> List.singleton <$> char '0'

def sign : Scanner Bool := do
  let c ← optional (char '+' <|> char '-')
  return c == some '-'

/-- An integer with a letter that names its base, within sixty-three bits. -/
def basedInteger (letter : Char) (base : Nat) : Scanner Int := do
  word ['0', letter]
  let ds ← digitGroups fun c => (digitValue? base c).isSome
  let n := (digits? base ds).getD 0
  require (Number.inInt64 n)
  return n

def integer : Scanner Int :=
  basedInteger 'x' 16 <|> basedInteger 'o' 8 <|> basedInteger 'b' 2 <|> do
    let negative ← sign
    let n : Int := (digits? 10 (← wholeDigits)).getD 0
    let i := if negative then -n else n
    require (Number.inInt64 i)
    return i

def exponent : Scanner Int := do
  let _ ← char 'e' <|> char 'E'
  let negative ← sign
  let n : Int := (digits? 10 (← digitGroups isDigit)).getD 0
  return if negative then -n else n

/-- A decimal number with a fraction or an exponent. One that is too large is refused unless it is
    negative. -/
def decimal : Scanner Number.Binary := do
  let negative ← sign
  let whole ← wholeDigits
  let fraction ← optional (char '.' *> digitGroups isDigit)
  let power ← optional exponent
  require (fraction.isSome || power.isSome)
  let places := fraction.getD []
  let x := Number.Format.double.ofDecimal negative
    ((digits? 10 (whole ++ places)).getD 0) (power.getD 0 - places.length)
  require (x != .infinite false)
  return x

def float : Scanner Number.Binary :=
  decimal <|> do
    let negative ← sign
    (word "inf".toList *> pure (.infinite negative)) <|> (word "nan".toList *> pure .nan)

/-! ## Dates and times -/

/-- A number of exactly `count` digits between two bounds. -/
def fixedDigits (count low high : Nat) : Scanner Nat := fun cs => do
  let ds := cs.take count
  if ds.length < count then failure
  let n ← digits? 10 ds
  if low ≤ n ∧ n ≤ high then return (n, cs.drop count) else failure

def date : Scanner Date := do
  let year ← fixedDigits 4 0 9999
  let month ← char '-' *> fixedDigits 2 1 12
  let day ← char '-' *> fixedDigits 2 1 31
  let d : Date := ⟨year, month, day⟩
  require d.isValid
  return d

/-- The nanoseconds that the digits of a fraction stand for; digits beyond the ninth are dropped. -/
def nanoseconds (ds : List Char) : Nat :=
  let kept := ds.take 9
  (digits? 10 kept).getD 0 * Nat.pow 10 (9 - kept.length)

def clock : Scanner Clock := do
  let hour ← fixedDigits 2 0 23
  let minute ← char ':' *> fixedDigits 2 0 59
  let second ← char ':' *> fixedDigits 2 0 60
  let fraction ← optional do
    let _ ← char '.'
    let ds ← run isDigit
    require !ds.isEmpty
    return ds
  return ⟨hour, minute, second, nanoseconds (fraction.getD [])⟩

def offset : Scanner Offset :=
  (do let _ ← char 'Z' <|> char 'z'; return .universal) <|> do
    let c ← char '+' <|> char '-'
    let hours ← fixedDigits 2 0 23
    let minutes ← char ':' *> fixedDigits 2 0 59
    let n : Int := hours * 60 + minutes
    return .ahead (if c = '-' then -n else n)

def moment : Scanner Moment :=
  (do
    let d ← date
    let time ← optional do
      let _ ← char 'T' <|> char 't' <|> char ' '
      let c ← clock
      return (c, ← optional offset)
    return match time with
      | some (c, o) => .both d c o
      | none => .date d) <|> .clock <$> clock

end BrokerPool.Toml
