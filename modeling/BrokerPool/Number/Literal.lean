import BrokerPool.Number.Binary

/-!
# Reading numbers

Whole texts that are integers or decimal numbers: an optional sign and digits, and for decimal
numbers also a point, an exponent, or one of the words for infinity and for no number. Nothing may
stand around the number.
-/

namespace BrokerPool.Number

/-- The value of a digit in a base up to sixteen. -/
def digitValue? (base : Nat) (c : Char) : Option Nat :=
  let v? :=
    if '0' ≤ c ∧ c ≤ '9' then some (c.toNat - '0'.toNat)
    else if 'a' ≤ c ∧ c ≤ 'f' then some (c.toNat - 'a'.toNat + 10)
    else if 'A' ≤ c ∧ c ≤ 'F' then some (c.toNat - 'A'.toNat + 10)
    else none
  v?.filter (· < base)

def isDigit (c : Char) : Bool := '0' ≤ c ∧ c ≤ '9'

/-- The number that digits of a base denote, after the digits already read. -/
def digitsFrom? (base : Nat) : Nat → List Char → Option Nat
  | acc, [] => some acc
  | acc, c :: rest => (digitValue? base c).bind fun v => digitsFrom? base (acc * base + v) rest

/-- The number that one or more digits of a base denote. -/
def digits? (base : Nat) : List Char → Option Nat
  | [] => none
  | cs => digitsFrom? base 0 cs

/-- The value of decimal digits, ignoring nothing: used on text already known to be digits. -/
def decimalValue (cs : List Char) : Nat := (digitsFrom? 10 0 cs).getD 0

/-- Takes a sign off a text: whether it was a minus, and the rest. -/
def splitSign : List Char → Bool × List Char
  | '-' :: rest => (true, rest)
  | '+' :: rest => (false, rest)
  | cs => (false, cs)

/-- The range of signed sixty-four bit integers. -/
def inInt64 (i : Int) : Bool := -9223372036854775808 ≤ i && i ≤ 9223372036854775807

/-- The greatest unsigned sixty-four bit integer. -/
def maxUInt64 : Nat := 18446744073709551615

/-- A signed integer in a base: a sign, then digits, within sixty-four bits. -/
def signed? (base : Nat) (cs : List Char) : Option Int :=
  let (negative, rest) := splitSign cs
  (digits? base rest).bind fun n =>
    let i : Int := if negative then -(n : Int) else (n : Int)
    if inInt64 i then some i else none

/-- An unsigned integer up to `bound`: a plus or nothing, then digits. -/
def unsigned? (bound : Nat) (cs : List Char) : Option Nat :=
  let rest := match cs with
    | '+' :: r => r
    | r => r
  (digits? 10 rest).filter (· ≤ bound)

/-- A decimal exponent: an `e` of either case, a sign, and digits. No text means no exponent. -/
def exponent? : List Char → Option Int
  | [] => some 0
  | c :: rest =>
    if c = 'e' ∨ c = 'E' then
      let (negative, ds) := splitSign rest
      (digits? 10 ds).map fun n => if negative then -(n : Int) else (n : Int)
    else none

/-- An unsigned decimal number: digits around an optional point, at least one of them, and an
    exponent. The value is the digits as one integer and a power of ten. -/
def decimal? (cs : List Char) : Option (Nat × Int) :=
  let whole := cs.takeWhile isDigit
  let rest := cs.dropWhile isDigit
  let (fraction, rest) := match rest with
    | '.' :: r => (r.takeWhile isDigit, r.dropWhile isDigit)
    | r => ([], r)
  if whole.isEmpty && fraction.isEmpty then none
  else (exponent? rest).map fun e =>
    (decimalValue (whole ++ fraction), e - (fraction.length : Int))

/-- The lower-case form of an ASCII letter; other characters stay. -/
def asciiLower (c : Char) : Char :=
  if 'A' ≤ c ∧ c ≤ 'Z' then Char.ofNat (c.toNat + 32) else c

/-- A floating point number of a format: a sign and then a decimal number, or `inf`, `infinity`
    or `nan` in any case. -/
def binary? (f : Format) (cs : List Char) : Option Binary :=
  let (negative, rest) := splitSign cs
  let word := rest.map asciiLower
  if word = "inf".toList ∨ word = "infinity".toList then some (.infinite negative)
  else if word = "nan".toList then some .nan
  else (decimal? rest).map fun (digits, exponent) => f.ofDecimal negative digits exponent

end BrokerPool.Number
