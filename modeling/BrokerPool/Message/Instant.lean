import BrokerPool.Calendar
import BrokerPool.Number.Literal
import BrokerPool.Text.Classes
import BrokerPool.Text.Utf8

/-!
# Points in time

A point in time is a day, a second of that day and nanoseconds. A leap second is the second before
it with more than a second's worth of nanoseconds. It is written in universal time, with as many
digits of the second as it takes, in groups of three; it is read with any offset, and blanks may
stand between its parts.
-/

namespace BrokerPool.Message

/-- A point in universal time. -/
structure Instant where
  /-- Days since the first of January 1970. -/
  day : Int
  second : Nat
  nanosecond : Nat
deriving DecidableEq, Repr

namespace Instant

/-- The nanoseconds of a second. -/
def billion : Nat := 1000000000

/-- The year with four digits; a year that needs a sign or more digits has both. -/
def yearChars (year : Int) : List Char :=
  if 0 ≤ year ∧ year ≤ 9999 then padded 4 year.toNat
  else (if year < 0 then '-' else '+') :: padded 4 year.natAbs

/-- The fraction of a second, with no digits, three, six or nine. -/
def fractionChars (nanosecond : Nat) : List Char :=
  if nanosecond = 0 then []
  else if nanosecond % 1000000 = 0 then '.' :: padded 3 (nanosecond / 1000000)
  else if nanosecond % 1000 = 0 then '.' :: padded 6 (nanosecond / 1000)
  else '.' :: padded 9 nanosecond

/-- A point in time as it is written. -/
def text (t : Instant) : String :=
  let d := Date.ofDays t.day
  let leap := billion ≤ t.nanosecond
  let second := t.second % 60 + if leap then 1 else 0
  let nanosecond := if leap then t.nanosecond - billion else t.nanosecond
  String.ofList (yearChars d.year ++ '-' :: padded 2 d.month ++ '-' :: padded 2 d.day
    ++ 'T' :: padded 2 (t.second / 3600) ++ ':' :: padded 2 (t.second / 60 % 60)
    ++ ':' :: padded 2 second ++ fractionChars nanosecond ++ ['Z'])

/-- Why a text is no point in time. -/
inductive Error
  | outOfRange
  | impossible
  | invalid
  | tooShort
  | tooLong
deriving DecidableEq, Repr

def Error.message : Error → String
  | .outOfRange => "input is out of range"
  | .impossible => "no possible date and time matching input"
  | .invalid => "input contains invalid characters"
  | .tooShort => "premature end of input"
  | .tooLong => "trailing input"

/-- Takes a prefix off a text. -/
abbrev Reader (α : Type) := StateT (List Char) (Except Error) α

/-! ## Parts -/

def skipBlanks : Reader Unit := modify fun cs => cs.dropWhile Text.isBlank

/-- One or more digits, `most` of them at most, whose number fits into sixty-four bits. -/
def digits (most : Nat) : Reader Int := do
  let cs ← get
  let ds := (cs.take most).takeWhile Number.isDigit
  if cs.isEmpty then throw .tooShort
  if ds.isEmpty then throw .invalid
  set (cs.drop ds.length)
  let n := Number.decimalValue ds
  if n ≤ 9223372036854775807 then return n else throw .outOfRange

/-- A number between two bounds, after blanks. -/
def bounded (low high : Int) : Reader Nat := do
  skipBlanks
  let n ← digits 2
  if low ≤ n ∧ n ≤ high then return n.toNat else throw .outOfRange

/-- A year: four digits, or a sign and any number of digits, within thirty-two bits. -/
def year : Reader Int := do
  skipBlanks
  let n ← match ← get with
    | '-' :: rest => do
      set rest
      pure (-(← digits rest.length))
    | '+' :: rest => do
      set rest
      digits rest.length
    | _ => digits 4
  if -2147483648 ≤ n ∧ n ≤ 2147483647 then return n else throw .outOfRange

/-- One character, after blanks. -/
def mark (c : Char) : Reader Unit := do
  skipBlanks
  match ← get with
  | [] => throw .tooShort
  | d :: rest => if d = c then set rest else throw .invalid

/-- The nanoseconds of a fraction behind its point; digits beyond the ninth are dropped. -/
def fraction : Reader Nat := do
  match ← get with
  | '.' :: rest =>
    set rest
    let kept := (rest.take 9).takeWhile Number.isDigit
    let n ← digits 9
    modify fun cs => cs.dropWhile Number.isDigit
    return n.toNat * Nat.pow 10 (9 - kept.length)
  | _ => return 0

/-- Two digits, whose number is not checked against any bound. -/
def twoDigits : Reader Nat := do
  let cs ← get
  if Text.Utf8.size cs < 2 then throw .tooShort
  let ds := (cs.take 2).takeWhile Number.isDigit
  if ds.length < 2 then throw .invalid
  set (cs.drop 2)
  return Number.decimalValue ds

/-- The minutes that a clock is ahead of universal time. -/
def offset : Reader Int := do
  let cs ← get
  match cs with
  | [] => throw .tooShort
  | c :: rest =>
    if (cs.take 3).map Number.asciiLower = "utc".toList then
      set (cs.drop 3)
      return 0
    else if c = 'Z' ∨ c = 'z' then
      set rest
      return 0
    else if c = '+' ∨ c = '-' ∨ c = '−' then
      set rest
      let hours ← twoDigits
      modify fun cs => cs.dropWhile fun d => d = ':' || Text.isBlank d
      let minutes ← twoDigits
      if 60 ≤ minutes then throw .outOfRange
      let n : Int := hours * 60 + minutes
      return if c = '+' then n else -n
    else throw .invalid

/-! ## Reading -/

/-- The years whose days can be counted. -/
def yearRange : Int × Int := (-262143, 262142)

/-- The point in time that a clock shows which is ahead of universal time. -/
def ofClock (d : Date) (second nanosecond : Nat) (ahead : Int) : Except Error Instant := do
  if !d.isValid ∨ d.year < yearRange.1 ∨ yearRange.2 < d.year then throw .outOfRange
  if ahead.natAbs ≥ 1440 then throw .outOfRange
  let total := d.toDays * 86400 + second - ahead * 60
  let t : Instant := ⟨total / 86400, (total % 86400).toNat, nanosecond⟩
  let year := (Date.ofDays t.day).year
  if year < yearRange.1 ∨ yearRange.2 < year then throw .impossible
  return t

/-- A date, a separator, a time of day and an offset. -/
def read : Reader Instant := do
  let y ← year
  mark '-'
  let month ← bounded 1 12
  mark '-'
  let day ← bounded 1 31
  match ← get with
  | [] => throw .tooShort
  | c :: rest => if c = 't' ∨ c = 'T' ∨ c = ' ' then set rest else throw .invalid
  let hour ← bounded 0 23
  mark ':'
  let minute ← bounded 0 59
  mark ':'
  let second ← bounded 0 60
  let nanosecond ← fraction
  skipBlanks
  let ahead ← offset
  skipBlanks
  if !(← get).isEmpty then throw .tooLong
  let leap := second = 60
  let seconds := hour * 3600 + minute * 60 + if leap then 59 else second
  match ofClock ⟨y, month, day⟩ seconds
      (if leap then nanosecond + billion else nanosecond) ahead with
  | .ok t => return t
  | .error e => throw e

/-- The point in time that a text denotes. -/
def parse (s : String) : Except Error Instant := (read.run s.toList).map (·.1)

end Instant

end BrokerPool.Message
