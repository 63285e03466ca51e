import BrokerPool.Number.Literal

/-!
# Media types

A media type is a type and a subtype, the part behind the last plus sign of the subtype being its
suffix, and may have parameters. The parameters have to be well formed, but say nothing here.
-/

namespace BrokerPool.Http

/-- A media type without its parameters, in lower case. -/
structure MediaType where
  type : List Char
  subtype : List Char
  suffix : Option (List Char)
deriving DecidableEq, Repr

namespace MediaType

/-- A character of a name. -/
def isTokenChar (c : Char) : Bool := c.isAlphanum || "!#$%&'*+-.^_`|~".toList.contains c

/-- A character between quotes. -/
def isQuotable (c : Char) : Bool := ' ' ≤ c && c ≤ '~'

/-- What follows a quoted value: its first character may be anything, even a quote. -/
def afterQuoted? : List Char → Option (List Char)
  | [] => none
  | c :: rest =>
    if !isQuotable c then none
    else
      match rest.dropWhile fun d => isQuotable d && d != '"' with
      | '"' :: rest => some (rest.dropWhile (· == ' '))
      | _ => none

/-- Whether some characters are parameters, with blanks before each of them. -/
def areParameters : Nat → List Char → Bool
  | 0, cs => cs.isEmpty
  | _ + 1, [] => true
  | fuel + 1, ' ' :: rest => areParameters fuel rest
  | fuel + 1, cs =>
    match cs.takeWhile isTokenChar, cs.dropWhile isTokenChar with
    | _ :: _, '=' :: '"' :: rest =>
      match afterQuoted? rest with
      | some [] => true
      | some (';' :: rest) => areParameters fuel rest
      | _ => false
    | _ :: _, '=' :: rest =>
      match rest.takeWhile isTokenChar, rest.dropWhile isTokenChar with
      | _, [] => true
      | _ :: _, ';' :: rest => areParameters fuel rest
      | _, _ => false
    | _, _ => false

/-- Cuts a subtype at its last plus sign, unless that is its first character. -/
def cutSuffix (cs : List Char) : List Char × Option (List Char) :=
  let suffix := (cs.reverse.takeWhile (· != '+')).reverse
  let rest := cs.take (cs.length - suffix.length - 1)
  if suffix.length < cs.length ∧ rest ≠ [] then (rest, some suffix) else (cs, none)

/-- The media type of a text. -/
def parse (s : String) : Option MediaType :=
  let cs := s.toList.map Number.asciiLower
  match cs.takeWhile isTokenChar, cs.dropWhile isTokenChar with
  | [], _ => none
  | type, '/' :: rest =>
    let subtype := rest.takeWhile isTokenChar
    let (main, suffix) := cutSuffix subtype
    match rest.dropWhile isTokenChar with
    | [] => some ⟨type, main, suffix⟩
    | ';' :: parameters =>
      if !subtype.isEmpty && areParameters (parameters.length + 1) parameters then
        some ⟨type, main, suffix⟩
      else none
    | _ => none
  | _, _ => none

/-- Whether content of a type is JSON. -/
def isJson (t : MediaType) : Bool :=
  t.type == "application".toList
    && (t.subtype == "json".toList || t.suffix == some "json".toList)

end MediaType

end BrokerPool.Http
