import BrokerPool.Log
import BrokerPool.Number.Literal
import BrokerPool.Text.Quoted

/-!
# Log lines

How an entry is written as a line, and which entries are written at all. A filter is a list of
directives, each of which gives a threshold to the parts of the service whose names begin with a
text; the longest such text decides.
-/

namespace BrokerPool.Log

def Field.line (f : Field) : String :=
  f.name ++ "=" ++ if f.word then Text.Quoted.quote f.text else f.text

/-- A span in front of the part that writes. -/
def Span.line (s : Span) : String :=
  if s.fields.isEmpty then s.name
  else s.name ++ "\x7b" ++ " ".intercalate (s.fields.map Field.line) ++ "\x7d"

/-- An entry as a line. -/
def Entry.line (e : Entry) : String :=
  e.level.name ++ " "
    ++ String.join (e.spans.map fun s => s.line ++ ":")
    ++ (if e.spans.isEmpty then "" else " ")
    ++ e.part ++ ": " ++ e.message
    ++ String.join (e.fields.map fun f => " " ++ f.line)

/-- How much a threshold has to let through for a level to be written. -/
def Level.rank : Level → Nat
  | .error => 1
  | .warn => 2
  | .info => 3
  | .debug => 4

/-- The thresholds by name; each also goes by its position. -/
def thresholds : List String := ["off", "error", "warn", "info", "debug", "trace"]

/-- The threshold above all levels. -/
def everything : Nat := 5

/-- A threshold for the parts whose names begin with a text. -/
structure Directive where
  part : String
  threshold : Nat
deriving DecidableEq, Repr

namespace Directive

/-- The threshold that a text names. -/
def threshold? (s : String) : Option Nat :=
  let name := String.ofList (s.toList.map Number.asciiLower)
  match thresholds.idxOf? name with
  | some n => some n
  | none =>
    match s.toList with
    | [c] => (Number.digitValue? 10 c).filter (· ≤ everything)
    | _ => none

/-- A character of the name of a part. -/
def isPartChar (c : Char) : Bool := c.isAlphanum || c = '_' || c = ':' || c = '-'

/-- The directive that a text is: a threshold for all parts, a part with all its entries, or a part
    and its threshold. -/
def parse? (s : String) : Option Directive :=
  match threshold? s with
  | some n => some ⟨"", n⟩
  | none =>
    let part := s.toList.takeWhile isPartChar
    match part, s.toList.dropWhile isPartChar with
    | [], _ => none
    | _, [] => some ⟨String.ofList part, everything⟩
    | _, ['='] => some ⟨String.ofList part, everything⟩
    | _, '=' :: level => (threshold? (String.ofList level)).map (⟨String.ofList part, ·⟩)
    | _, _ => none

end Directive

/-- The texts between the commas of a filter. -/
def filterParts (s : String) : List String :=
  (s.splitOn ",").filter (· != "")

/-- Which entries are written. -/
abbrev Filter := List Directive

namespace Filter

/-- The filter that a text is. Without any directive only errors are written. -/
def parse (s : String) : Filter :=
  match (filterParts s).filterMap Directive.parse? with
  | [] => [⟨"", Level.error.rank⟩]
  | directives => directives

/-- The texts of a filter that are no directives. -/
def unreadable (s : String) : List String :=
  (filterParts s).filter fun part => (Directive.parse? part).isNone

/-- The directive that decides about a part: the last of those for the longest text. -/
def deciding (f : Filter) (part : String) : Option Directive :=
  f.foldl (fun best d =>
    if d.part.toList.isPrefixOf part.toList
        && best.all (fun (b : Directive) => b.part.length ≤ d.part.length) then some d
    else best) none

def allows (f : Filter) (part : String) (level : Level) : Bool :=
  (f.deciding part).any (level.rank ≤ ·.threshold)

/-- The lines of the entries that are written. Spans count as information. -/
def lines (f : Filter) (entries : List Entry) : List String :=
  (entries.filter fun e => f.allows e.part e.level).map fun e =>
    { e with spans := e.spans.filter fun s => f.allows s.part .info }.line

end Filter

end BrokerPool.Log
