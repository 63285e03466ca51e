/-!
# Binary floating point numbers

A finite number is a sign, a mantissa and an exponent of two, with the value
`mantissa * 2 ^ exponent`. A `Format` says how many bits a mantissa may have and which exponents
there are, and `Format.round` is the one place where a number is rounded: to the nearest number of
the format, a tie to the even mantissa. Products, quotients and decimal literals are exact fractions
until they reach it.
-/

namespace BrokerPool.Number

/-- A binary floating point format: the bits of a mantissa, and the least and the greatest exponent
    of a mantissa's last place. -/
structure Format where
  precision : Nat
  least : Int
  greatest : Int
deriving DecidableEq, Repr

namespace Format

/-- Sixty-four bit numbers. -/
def double : Format := ⟨53, -1074, 971⟩

/-- Thirty-two bit numbers. -/
def single : Format := ⟨24, -149, 104⟩

end Format

/-- A number of a binary format. -/
inductive Binary
  | nan
  | infinite (negative : Bool)
  | finite (negative : Bool) (mantissa : Nat) (exponent : Int)
deriving DecidableEq, Repr

/-- The integer nearest to `a / b`; of two equally near ones the even one. -/
def roundDiv (a b : Nat) : Nat :=
  let q := a / b
  let r := a % b
  if 2 * r < b then q else if b < 2 * r then q + 1 else q + q % 2

/-- `2 ^ k` as a fraction: its numerator and its denominator. -/
def powerOfTwo (k : Int) : Nat × Nat := (Nat.pow 2 k.toNat, Nat.pow 2 (-k).toNat)

/-- `10 ^ k` as a fraction: its numerator and its denominator. -/
def powerOfTen (k : Int) : Nat × Nat := (Nat.pow 10 k.toNat, Nat.pow 10 (-k).toNat)

/-- The greatest `k` with `2 ^ k ≤ num / den`, for positive `num` and `den`. -/
def log2Ratio (num den : Nat) : Int :=
  let k : Int := (num.log2 : Int) - (den.log2 : Int)
  let (a, b) := powerOfTwo k
  if num * b < den * a then k - 1 else k

namespace Format

/-- The number of the format nearest to `num / den`, with the sign given. A value beyond the
    greatest finite number, rounded as if there were no such bound, is infinite. -/
def round (f : Format) (negative : Bool) (num den : Nat) : Binary :=
  if num = 0 then .finite negative 0 f.least
  else
    let e := max f.least (log2Ratio num den - (f.precision - 1 : Nat))
    let (a, b) := powerOfTwo e
    let m := roundDiv (num * b) (den * a)
    let (m, e) := if m = Nat.pow 2 f.precision then (Nat.pow 2 (f.precision - 1), e + 1) else (m, e)
    if f.greatest < e then .infinite negative else .finite negative m e

/-- The number nearest to `digits * 10 ^ exponent`. The two guards keep the power of ten small;
    they are the cases in which eight to the same power is already out of the format's range. -/
def ofDecimal (f : Format) (negative : Bool) (digits : Nat) (exponent : Int) : Binary :=
  if digits = 0 then .finite negative 0 f.least
  else
    let places : Int := ((Nat.toDigits 10 digits).length : Int)
    if f.greatest + f.precision ≤ 3 * (places - 1 + exponent) then .infinite negative
    else if places + exponent ≤ 0 && 3 * (places + exponent) < f.least - 1 then
      .finite negative 0 f.least
    else
      let (a, b) := powerOfTen exponent
      f.round negative (digits * a) b

/-- The number nearest to a natural number. -/
def ofNat (f : Format) (n : Nat) : Binary := f.round false n 1

end Format

namespace Binary

/-- The size of a finite number as a fraction. -/
def ratio (mantissa : Nat) (exponent : Int) : Nat × Nat :=
  let (a, b) := powerOfTwo exponent
  (mantissa * a, b)

def isNegative : Binary → Bool
  | .nan => false
  | .infinite negative => negative
  | .finite negative _ _ => negative

def isZero : Binary → Bool
  | .finite _ 0 _ => true
  | _ => false

def isInfinite : Binary → Bool
  | .infinite _ => true
  | _ => false

def isFinite : Binary → Bool
  | .finite .. => true
  | _ => false

def negate : Binary → Binary
  | .nan => .nan
  | .infinite negative => .infinite !negative
  | .finite negative m e => .finite (!negative) m e

/-- The product, for two finite numbers. -/
def times (f : Format) : Binary → Binary → Binary
  | .finite s m e, .finite s' m' e' =>
    let (a, b) := powerOfTwo (e + e')
    f.round (s != s') (m * m' * a) b
  | _, _ => .nan

/-- The quotient, for two finite numbers of which the second is not zero. -/
def dividedBy (f : Format) : Binary → Binary → Binary
  | .finite s m e, .finite s' m' e' =>
    if m' = 0 then .nan
    else
      let (a, b) := powerOfTwo (e - e')
      f.round (s != s') (m * a) (m' * b)
  | _, _ => .nan

/-- The natural number nearest to a number, a half going up. Negative numbers and `nan` give zero,
    and everything beyond `bound` gives `bound`. -/
def toNatSaturating (bound : Nat) : Binary → Nat
  | .nan => 0
  | .infinite negative => if negative then 0 else bound
  | .finite negative m e =>
    if negative then 0
    else
      let (num, den) := ratio m e
      min bound ((2 * num + den) / (2 * den))

end Binary

end BrokerPool.Number
