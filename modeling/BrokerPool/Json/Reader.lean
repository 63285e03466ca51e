import BrokerPool.Json.Tree
import BrokerPool.Text.Utf8

/-!
# Reading JSON

Bodies arrive as bytes, so the reader works on what the UTF-8 automaton finds in them: characters,
and `none` for bytes that belong to no character. Such bytes may stand in a string that nobody
reads, and nowhere else.

Strings are scanned by an automaton with one state per position inside an escape. Numbers are
scanned by splitting off runs of digits. Values are read by descent, with the length of the text as
fuel: every call takes at least one character off it.
-/

namespace BrokerPool.Json

open BrokerPool.Number (Binary digitValue? maxUInt64)

/-- What the text of a body consists of. -/
abbrev Symbol := Option Char

def isSpace (c : Char) : Bool := c = ' ' || c = '\n' || c = '\t' || c = '\r'

/-- The text without the blanks at its start. -/
def skipSpace : List Symbol → List Symbol
  | some c :: rest => if isSpace c then skipSpace rest else some c :: rest
  | cs => cs

/-! ## Strings -/

/-- Where a scan stands inside a string. -/
inductive Position
  | plain
  | escape
  | unicode (digitsLeft : Nat) (value : Nat)
deriving DecidableEq, Repr

/-- A scan inside a string: the characters so far with the last one first, the position, a high
    surrogate that waits for its low one, the first reason why the string cannot be read, and
    whether bytes were met that belong to no character. -/
structure Scan where
  text : List Char
  position : Position
  high : Option Nat
  flaw : Option Flaw
  stray : Bool

/-- A scanned string: what reading it gives, and the text behind it for whoever skips it. -/
structure Scanned where
  content : Except Flaw String
  rest : Except Flaw (List Symbol)

namespace Scan

def start : Scan := ⟨[], .plain, none, none, false⟩

/-- Notes why the string cannot be read, unless there is an earlier reason. -/
def blame (s : Scan) (flaw : Flaw) : Scan := { s with flaw := s.flaw.or (some flaw) }

/-- Ends the scan at a place where the string can be neither read nor skipped. -/
def fail (s : Scan) (flaw : Flaw) : Scanned :=
  ⟨.error (s.flaw.getD flaw), .error flaw⟩

/-- A high surrogate that was not followed by another escape has no partner. -/
def settle (s : Scan) : Scan :=
  if s.high.isSome then { s.blame .malformed with high := none } else s

def push (s : Scan) (c : Char) : Scan := { s with text := c :: s.text, position := .plain }

/-- The character of a one-letter escape. -/
def letter? : Char → Option Char
  | '"' => some '"'
  | '\\' => some '\\'
  | '/' => some '/'
  | 'b' => some '\x08'
  | 'f' => some '\x0c'
  | 'n' => some '\n'
  | 'r' => some '\r'
  | 't' => some '\t'
  | _ => none

/-- Takes in the sixteen bit unit of a complete escape. -/
def unit (s : Scan) (n : Nat) : Scan :=
  let low := 0xDC00 ≤ n && n < 0xE000
  match s.high with
  | some h =>
    if low then
      { s with high := none }.push (Char.ofNat (0x10000 + (h - 0xD800) * 0x400 + (n - 0xDC00)))
    else
      let s := s.settle
      if 0xD800 ≤ n && n < 0xDC00 then { s with high := some n, position := .plain }
      else s.push (Char.ofNat n)
  | none =>
    if low then { s.blame .malformed with position := .plain }
    else if 0xD800 ≤ n && n < 0xDC00 then { s with high := some n, position := .plain }
    else s.push (Char.ofNat n)

/-- What reading the string gives once its closing quote is met. -/
def close (s : Scan) : Except Flaw String :=
  let s := s.settle
  match s.flaw with
  | some flaw => .error flaw
  | none => if s.stray then .error .malformed else .ok (String.ofList s.text.reverse)

end Scan

/-- Whether some symbols stand for at least `k` bytes. -/
def atLeastBytes : Nat → List Symbol → Bool
  | 0, _ => true
  | _ + 1, [] => false
  | k + 1, x :: rest => atLeastBytes (k + 1 - (x.elim 1 Text.Utf8.width)) rest

/-- Scans a string from behind its opening quote. An escape that is cut off by the end of the text
    is told apart from one with a wrong digit by the number of bytes that are left for it. -/
def scanString (s : Scan) : List Symbol → Scanned
  | [] => s.fail .ended
  | none :: rest =>
    match s.position with
    | .plain => scanString { s.settle with stray := true } rest
    | .escape => s.fail .malformed
    | .unicode k _ => s.fail (if atLeastBytes k (none :: rest) then .malformed else .ended)
  | some c :: rest =>
    match s.position with
    | .plain =>
      if c = '"' then ⟨s.close, .ok rest⟩
      else if c = '\\' then scanString { s with position := .escape } rest
      else if c < ' ' then s.settle.fail .malformed
      else scanString (s.settle.push c) rest
    | .escape =>
      if c = 'u' then scanString { s with position := .unicode 4 0 } rest
      else match Scan.letter? c with
        | some x => scanString (s.settle.push x) rest
        | none => s.settle.fail .malformed
    | .unicode k value =>
      match digitValue? 16 c with
      | some d =>
        let value := value * 16 + d
        if k ≤ 1 then scanString (s.unit value) rest
        else scanString { s with position := .unicode (k - 1) value } rest
      | none => s.fail (if atLeastBytes k (some c :: rest) then .malformed else .ended)

/-! ## Numbers -/

def isDigitSymbol : Symbol → Bool
  | some c => Number.isDigit c
  | none => false

/-- Splits off the digits at the start of a text. -/
def digitRun (cs : List Symbol) : List Char × List Symbol :=
  ((cs.takeWhile isDigitSymbol).filterMap id, cs.dropWhile isDigitSymbol)

/-- Appends digits to a number as long as it stays within sixty-four bits: the number, and how
    many digits were appended. -/
def appendDigits : Nat → List Char → Nat × Nat
  | n, [] => (n, 0)
  | n, c :: rest =>
    let n' := n * 10 + (digitValue? 10 c).getD 0
    if maxUInt64 < n' then (n, 0)
    else
      let (m, used) := appendDigits n' rest
      (m, used + 1)

/-- `x * 10 ^ exponent` in two roundings, one for the power and one for the product; a number below
    the range of the powers is first divided by the greatest of them. Nothing comes of a product
    that is infinite. -/
def scale : Nat → Binary → Int → Option Binary
  | fuel, x, exponent =>
    let f := Number.Format.double
    if exponent.natAbs ≤ 308 then
      let power := f.ofDecimal false 1 exponent.natAbs
      if 0 ≤ exponent then
        let y := Binary.times f x power
        if y.isInfinite then none else some y
      else some (Binary.dividedBy f x power)
    else if x.isZero then some x
    else if 0 ≤ exponent then none
    else match fuel with
      | 0 => some (f.ofNat 0)
      | fuel + 1 => scale fuel (Binary.dividedBy f x (f.ofDecimal false 1 308)) (exponent + 308)

/-- The number that digits before and behind a point and an exponent denote, or nothing when it is
    too large. Only as many digits count as fit into sixty-four bits. -/
def numeral? (negative : Bool) (whole : List Char) (fraction : Option (List Char))
    (exponent : Option Int) : Option Numeral :=
  let (n, used) := appendDigits 0 whole
  let dropped := whole.length - used
  if dropped = 0 ∧ fraction.isNone ∧ exponent.isNone then
    if !negative then some (.integer n)
    else if n = 0 ∨ 9223372036854775808 < n then
      some (.float (Number.Format.double.ofNat n).negate)
    else some (.integer (-(n : Int)))
  else
    let (n, places) := appendDigits n (fraction.getD [])
    let power : Int := (dropped : Int) - (places : Int) + exponent.getD 0
    (scale 3 (Number.Format.double.ofNat n) power).map fun x =>
      .float (if negative then x.negate else x)

/-- A scanned number: what reading it gives, and the text behind it for whoever skips it. -/
structure ScannedNumber where
  content : Except Flaw (Option Numeral)
  rest : Except Flaw (List Symbol)

/-- A digit is missing here: whoever reads sees whether the text has ended, whoever skips does
    not look. -/
def missingDigit (rest : List Symbol) : ScannedNumber :=
  ⟨.error (if rest.isEmpty then .ended else .malformed), .error .malformed⟩

/-- Scans what may follow the digits before the point: a fraction and an exponent. -/
def scanTail (negative : Bool) (whole : List Char) (cs : List Symbol) : ScannedNumber :=
  let scanExponent (fraction : Option (List Char)) (cs : List Symbol) : ScannedNumber :=
    match cs with
    | some c :: rest =>
      if c = 'e' ∨ c = 'E' then
        let (minus, rest) : Bool × List Symbol := match rest with
          | some '-' :: r => (true, r)
          | some '+' :: r => (false, r)
          | r => (false, r)
        let (ds, after) := digitRun rest
        if ds.isEmpty then missingDigit rest
        else
          let e : Int := Number.decimalValue ds
          ⟨.ok (numeral? negative whole fraction (some (if minus then -e else e))), .ok after⟩
      else ⟨.ok (numeral? negative whole fraction none), .ok cs⟩
    | _ => ⟨.ok (numeral? negative whole fraction none), .ok cs⟩
  match cs with
  | some '.' :: rest =>
    let (ds, after) := digitRun rest
    if ds.isEmpty then missingDigit rest else scanExponent (some ds) after
  | _ => scanExponent none cs

/-- Scans a number from its sign or first digit on. Only the number zero starts with a zero. -/
def scanNumber (cs : List Symbol) : ScannedNumber :=
  let (negative, cs) : Bool × List Symbol := match cs with
    | some '-' :: r => (true, r)
    | r => (false, r)
  let (ds, after) := digitRun cs
  match ds with
  | [] => missingDigit cs
  | '0' :: _ :: _ => ⟨.error .malformed, .error .malformed⟩
  | ds => scanTail negative ds after

/-! ## Values -/

/-- Takes a word off the start of a text. -/
def word : List Char → List Symbol → Except Flaw (List Symbol)
  | [], cs => .ok cs
  | _ :: _, [] => .error .ended
  | c :: rest, x :: cs => if x = some c then word rest cs else .error .malformed

/-- A broken node that looks the same to whoever reads and to whoever skips. -/
def Tree.flawed (flaw : Flaw) : Tree := .broken flaw flaw

def Members.flawed (flaw : Flaw) : Members := .broken flaw flaw

/-- A value that is one word, and the text behind it. -/
def wordValue (t : Tree) (w : String) (cs : List Symbol) : Tree × Option (List Symbol) :=
  match word w.toList cs with
  | .ok rest => (t, some rest)
  | .error flaw => (.flawed flaw, none)

mutual

/-- Reads a value at the start of a text, and gives the text behind it unless it is broken. -/
def readValue : Nat → List Symbol → Tree × Option (List Symbol)
  | 0, _ => (.flawed .malformed, none)
  | fuel + 1, cs =>
    match skipSpace cs with
    | [] => (.flawed .ended, none)
    | none :: _ => (.flawed .malformed, none)
    | some c :: rest =>
      if c = 'n' then wordValue .null "ull" rest
      else if c = 't' then wordValue (.bool true) "rue" rest
      else if c = 'f' then wordValue (.bool false) "alse" rest
      else if c = '"' then
        let scanned := scanString Scan.start rest
        match scanned.rest with
        | .ok after => (.string scanned.content.toOption, some after)
        | .error skipped =>
          (.broken (match scanned.content with | .error read => read | .ok _ => skipped) skipped,
            none)
      else if c = '-' ∨ Number.isDigit c then
        let scanned := scanNumber (some c :: rest)
        match scanned.rest with
        | .ok after =>
          (match scanned.content with
            | .ok n => .number n
            | .error _ => .number none, some after)
        | .error skipped =>
          (.broken (match scanned.content with | .error read => read | .ok _ => skipped) skipped,
            none)
      else if c = '[' then
        let (items, after) := readItems fuel true rest
        (.array items, after)
      else if c = '{' then
        let (members, after) := readMembers fuel true rest
        (.object members, after)
      else (.flawed .malformed, none)

/-- Reads the rest of an array; `first` if no item has been read yet. -/
def readItems : Nat → Bool → List Symbol → Items × Option (List Symbol)
  | 0, _, _ => (.broken .malformed, none)
  | fuel + 1, first, cs =>
    match skipSpace cs with
    | [] => (.broken .ended, none)
    | some ']' :: rest => (.done, some rest)
    | x :: rest =>
      if first then readItem fuel (x :: rest)
      else if x = some ',' then
        match skipSpace rest with
        | some ']' :: _ => (.broken .malformed, none)
        | rest => readItem fuel rest
      else (.broken .malformed, none)

/-- Reads one item of an array and then the rest. -/
def readItem : Nat → List Symbol → Items × Option (List Symbol)
  | 0, _ => (.broken .malformed, none)
  | fuel + 1, cs =>
    match readValue fuel cs with
    | (item, none) => (.cons item (.broken .malformed), none)
    | (item, some after) =>
      let (items, rest) := readItems fuel false after
      (.cons item items, rest)

/-- Reads the rest of an object; `first` if no member has been read yet. -/
def readMembers : Nat → Bool → List Symbol → Members × Option (List Symbol)
  | 0, _, _ => (.flawed .malformed, none)
  | fuel + 1, first, cs =>
    match skipSpace cs with
    | [] => (.flawed .ended, none)
    | some '}' :: rest => (.done, some rest)
    | x :: rest =>
      if first then readMember fuel (x :: rest)
      else if x = some ',' then readMember fuel (skipSpace rest)
      else (.flawed .malformed, none)

/-- Reads one member of an object, from its key on, and then the rest. -/
def readMember : Nat → List Symbol → Members × Option (List Symbol)
  | 0, _ => (.flawed .malformed, none)
  | fuel + 1, cs =>
    match cs with
    | [] => (.flawed .ended, none)
    | some '"' :: rest =>
      let scanned := scanString Scan.start rest
      match scanned.rest with
      | .error skipped =>
        (.broken (match scanned.content with | .error read => read | .ok _ => skipped) skipped,
          none)
      | .ok after =>
        let key := scanned.content.toOption
        match skipSpace after with
        | [] => (.cons key (.flawed .ended) (.flawed .ended), none)
        | some ':' :: rest =>
          match readValue fuel rest with
          | (value, none) => (.cons key value (.flawed .malformed), none)
          | (value, some after) =>
            let (members, rest) := readMembers fuel false after
            (.cons key value members, rest)
        | _ :: _ => (.cons key (.flawed .malformed) (.flawed .malformed), none)
    | _ :: _ => (.flawed .malformed, none)

end

/-- Reads a whole text. Each of the four kinds of call takes a turn of the fuel, and at most three
    of them pass between one character and the next. -/
def Document.ofSymbols (cs : List Symbol) : Document :=
  match readValue (4 * cs.length + 4) cs with
  | (root, none) => ⟨root, false⟩
  | (root, some rest) => ⟨root, !(skipSpace rest).isEmpty⟩

/-- Reads a text. -/
def Document.ofString (s : String) : Document := .ofSymbols (s.toList.map some)

/-- Reads the bytes of a body. -/
def Document.ofBytes (bytes : List UInt8) : Document := .ofSymbols (Text.Utf8.units bytes)

end BrokerPool.Json
