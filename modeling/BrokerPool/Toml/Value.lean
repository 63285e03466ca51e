import BrokerPool.Calendar
import BrokerPool.Number.Binary

/-!
# TOML values

Dates and times keep what their text says; `Moment.text` writes them in one normal form.
-/

namespace BrokerPool.Toml

/-- A time of day, to the nanosecond. The last second of a minute may be a leap second. -/
structure Clock where
  hour : Nat
  minute : Nat
  second : Nat
  nanosecond : Nat
deriving DecidableEq, Repr

/-- How far a clock is ahead of universal time. -/
inductive Offset
  | universal
  | ahead (minutes : Int)
deriving DecidableEq, Repr

/-- A date, a time of day, or both; only both may have an offset. -/
inductive Moment
  | date (d : Date)
  | clock (c : Clock)
  | both (d : Date) (c : Clock) (offset : Option Offset)
deriving DecidableEq, Repr

/-- A TOML value. -/
inductive Value
  | text (s : String)
  | integer (i : Int)
  | float (x : Number.Binary)
  | bool (b : Bool)
  | moment (m : Moment)
  | array (items : List Value)
  | table (entries : List (String × Value))

/-- Removes the zeros at the end of a text. -/
def dropZeros (cs : List Char) : List Char := (cs.reverse.dropWhile (· = '0')).reverse

namespace Moment

def dateChars (d : Date) : List Char :=
  padded 4 d.year.toNat ++ '-' :: padded 2 d.month ++ '-' :: padded 2 d.day

def clockChars (c : Clock) : List Char :=
  padded 2 c.hour ++ ':' :: padded 2 c.minute ++ ':' :: padded 2 c.second
    ++ (if c.nanosecond = 0 then [] else '.' :: dropZeros (padded 9 c.nanosecond))

def offsetChars : Offset → List Char
  | .universal => ['Z']
  | .ahead minutes =>
    let n := minutes.natAbs
    (if minutes < 0 then '-' else '+') :: padded 2 (n / 60) ++ ':' :: padded 2 (n % 60)

/-- The normal form: a `T` between date and time, and the fraction of a second without zeros at its
    end. -/
def text (m : Moment) : String := String.ofList (match m with
  | .date d => dateChars d
  | .clock c => clockChars c
  | .both d c offset =>
    dateChars d ++ 'T' :: clockChars c ++ (offset.map offsetChars).getD [])

end Moment

end BrokerPool.Toml
