import BrokerPool.Number.Literal
import BrokerPool.Number.Notation

/-!
# YAML values

What a plain text stands for: null, a truth value, an integer, a decimal number, or itself. Only one
spelling of each word counts, and the words for infinity and for no number cannot be used.
-/

namespace BrokerPool.Yaml

/-- A YAML value. -/
inductive Value
  | null
  | bool (b : Bool)
  | integer (i : Int)
  | float (x : Number.Binary)
  | text (s : String)
  | sequence (items : List Value)
  | mapping (entries : List (String × Value))

/-- The spellings of infinity and of no number with a point, none of which has a value. -/
def pointedWords : List String :=
  [".inf", ".Inf", ".INF", "+.inf", "+.Inf", "+.INF", "-.inf", "-.Inf", "-.INF", ".nan", ".NAN"]

/-- An integer: hexadecimal, octal, or decimal with a sign. -/
def integer? : List Char → Option Int
  | '0' :: 'x' :: rest => Number.signed? 16 rest
  | '0' :: 'o' :: rest => Number.signed? 8 rest
  | '+' :: rest => Number.signed? 10 rest
  | cs => Number.signed? 10 cs

/-- A decimal number. The word for no number is one, but no other word is. -/
def float? (cs : List Char) : Option Number.Binary :=
  if cs = "NaN".toList then some .nan
  else if cs.any Number.isDigit then Number.binary? .double cs
  else none

/-- The value of a plain text, unless it is one of the words without a value. -/
def Value.ofPlain (s : String) : Option Value :=
  if s = "" || s = "~" || s = "null" then some .null
  else if s = "true" then some (.bool true)
  else if s = "false" then some (.bool false)
  else if pointedWords.contains s then none
  else
    match integer? s.toList with
    | some i => some (.integer i)
    | none =>
      match float? s.toList with
      | some x => some (.float x)
      | none => some (.text s)

/-- The value of a plain text with a tag. A text that does not fit its tag counts as null, and
    tags of other types make texts. -/
def Value.ofTagged (tag s : String) : Option Value :=
  match tag with
  | "!!bool" => some (if s = "true" then .bool true else if s = "false" then .bool false else .null)
  | "!!int" => some (((Number.signed? 10 s.toList).map .integer).getD .null)
  | "!!float" =>
    if pointedWords.contains s then none else some (((float? s.toList).map .float).getD .null)
  | "!!null" => some .null
  | _ => some (.text s)

/-- The text of a value that serves as a key. -/
def Value.key? : Value → Option String
  | .text s => some s
  | .integer i => some (Number.integerText i)
  | _ => none

end BrokerPool.Yaml
