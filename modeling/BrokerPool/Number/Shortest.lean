import BrokerPool.Number.Binary

/-!
# The shortest decimal that reads back

Every decimal within half a place of a binary number is rounded to that number, and so are the two
ends of that interval when the mantissa is even. `shortest` looks at the grids of 1, 2, 3, …
significant digits in turn and takes the first grid on which one of the value's two neighbours lies
in the interval; of two such neighbours it takes the nearer one.
-/

namespace BrokerPool.Number

/-- The decimal number `digits * 10 ^ exponent`. -/
structure Decimal where
  digits : Nat
  exponent : Int
deriving DecidableEq, Repr

/-- Which neighbour is taken when both are equally near. -/
inductive Tie
  | up
  | toEven
deriving DecidableEq, Repr

/-- The number of decimal digits of a natural number; zero has none. -/
def digitCount (n : Nat) : Nat := if n = 0 then 0 else (Nat.toDigits 10 n).length

/-- The `d` with `10 ^ (d - 1) ≤ num / den < 10 ^ d`, for positive `num` and `den`. -/
def decimalPoint (num den : Nat) : Int :=
  if den ≤ num then digitCount (num / den)
  else 1 - (digitCount ((den + num - 1) / num - 1) : Int)

namespace Decimal

/-- The neighbour of `mantissa * 2 ^ exponent` on the grid of multiples of `10 ^ k`, if one of the
    two lies in the interval of numbers that round to it. All lengths are in quarters of the last
    place, because below a power of two the interval reaches only half as far. -/
def onGrid? (f : Format) (tie : Tie) (mantissa : Nat) (exponent : Int) (k : Int) :
    Option Decimal :=
  let below := if mantissa = Nat.pow 2 (f.precision - 1) && f.least < exponent then 1 else 2
  let (a, b) := powerOfTwo (exponent - 2)
  let (c, d) := powerOfTen k
  let unit := a * d
  let step := b * c
  let value := 4 * mantissa * unit
  let low := (4 * mantissa - below) * unit
  let high := (4 * mantissa + 2) * unit
  let floor := value / step
  let closed := mantissa % 2 = 0
  let within (n : Nat) : Bool :=
    let x := n * step
    if closed then low ≤ x && x ≤ high else low < x && x < high
  let down := floor * step
  let up := (floor + 1) * step
  match within floor && 0 < floor, within (floor + 1) with
  | false, false => none
  | true, false => some ⟨floor, k⟩
  | false, true => some ⟨floor + 1, k⟩
  | true, true =>
    if value - down < up - value then some ⟨floor, k⟩
    else if up - value < value - down then some ⟨floor + 1, k⟩
    else match tie with
      | .up => some ⟨floor + 1, k⟩
      | .toEven => some ⟨floor + floor % 2, k⟩

/-- Drops the zeros at the end of the digits, `fuel` of them at most. -/
def trim : Nat → Decimal → Decimal
  | 0, x => x
  | fuel + 1, x =>
    if x.digits ≠ 0 ∧ x.digits % 10 = 0 then trim fuel ⟨x.digits / 10, x.exponent + 1⟩ else x

/-- The digits of a positive finite number. Seventeen significant digits tell all numbers of at
    most 53 bits apart. -/
def shortest (f : Format) (tie : Tie) (mantissa : Nat) (exponent : Int) : Decimal :=
  let (num, den) := Binary.ratio mantissa exponent
  let point := decimalPoint num den
  let found := (List.range 17).findSome? fun n =>
    onGrid? f tie mantissa exponent (point - ((n + 1 : Nat) : Int))
  trim 20 (found.getD ⟨mantissa, 0⟩)

end Decimal

end BrokerPool.Number
