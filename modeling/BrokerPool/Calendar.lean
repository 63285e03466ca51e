/-!
# The calendar

Days of the proleptic Gregorian calendar, and days counted from the first of January 1970 and back.
-/

namespace BrokerPool

/-- A day of the calendar. -/
structure Date where
  year : Int
  month : Nat
  day : Nat
deriving DecidableEq, Repr

namespace Date

def isLeapYear (year : Int) : Bool := year % 4 = 0 && (year % 100 ≠ 0 || year % 400 = 0)

def daysInMonth (year : Int) (month : Nat) : Nat :=
  if month = 2 then (if isLeapYear year then 29 else 28)
  else if month = 4 || month = 6 || month = 9 || month = 11 then 30
  else 31

/-- Whether there is such a day. -/
def isValid (d : Date) : Bool :=
  1 ≤ d.month && d.month ≤ 12 && 1 ≤ d.day && d.day ≤ daysInMonth d.year d.month

/-- The days before the first of a month, counted from March, the first month of a year that ends
    in its leap day. -/
def daysBeforeMonth (monthFromMarch : Nat) : Nat := (153 * monthFromMarch + 2) / 5

/-- The days before the first of March of a year, counted from the first of March of year zero. -/
def daysBeforeYear (year : Int) : Int := 365 * year + year / 4 - year / 100 + year / 400

/-- The first of January 1970, counted from the first of March of year zero. -/
def epoch : Int := 719468

/-- The number of a day, counted from the first of January 1970. -/
def toDays (d : Date) : Int :=
  let year := if d.month ≤ 2 then d.year - 1 else d.year
  let month := if d.month ≤ 2 then d.month + 9 else d.month - 3
  daysBeforeYear year + (daysBeforeMonth month + d.day - 1 : Int) - epoch

/-- The day with a number. A cycle of four hundred years has 146097 days. -/
def ofDays (n : Int) : Date :=
  let shifted := n + epoch
  let cycle := shifted / 146097
  let dayOfCycle := (shifted % 146097).toNat
  let yearOfCycle :=
    (dayOfCycle - dayOfCycle / 1460 + dayOfCycle / 36524 - dayOfCycle / 146096) / 365
  let dayOfYear := dayOfCycle - (365 * yearOfCycle + yearOfCycle / 4 - yearOfCycle / 100)
  let month := (5 * dayOfYear + 2) / 153
  let year : Int := (yearOfCycle : Int) + cycle * 400
  { year := if month < 10 then year else year + 1
    month := if month < 10 then month + 3 else month - 9
    day := dayOfYear - daysBeforeMonth month + 1 }

end Date

/-- A natural number in at least `width` digits. -/
def padded (width n : Nat) : List Char :=
  let cs := Nat.toDigits 10 n
  List.replicate (width - cs.length) '0' ++ cs

end BrokerPool
