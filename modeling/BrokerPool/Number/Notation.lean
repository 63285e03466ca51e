import BrokerPool.Number.Shortest

/-!
# How numbers are written

A `Notation` record holds what a format decides about the text of a number: when the point moves
into an exponent, whether a whole number keeps `.0`, how the exponent looks, and which digits a tie
takes. The digits themselves are always the shortest ones.
-/

namespace BrokerPool.Number

/-- The digits of a natural number. -/
def digitText (n : Nat) : String := String.ofList (Nat.toDigits 10 n)

/-- A number is told by its digits. -/
theorem digitText_injective : Function.Injective digitText := by
  intro n m h
  have hd := congrArg (fun text => Nat.ofDigitChars 10 text.toList 0) h
  simpa [digitText, Nat.ofDigitChars_toDigits] using hd

/-- The text of an integer, with a sign only when it is negative. -/
def integerText (i : Int) : String :=
  if i < 0 then "-" ++ digitText i.natAbs else digitText i.natAbs

/-- `count` zeros. -/
def zeros (count : Nat) : List Char := List.replicate count '0'

/-- A decimal with its point in place and no exponent. A whole number ends in `.0` if `point`. -/
def Decimal.positional (x : Decimal) (point : Bool) : String :=
  let cs := Nat.toDigits 10 x.digits
  let whole : List Char := if point then ['.', '0'] else []
  if 0 ≤ x.exponent then String.ofList (cs ++ zeros x.exponent.toNat ++ whole)
  else
    let places := (-x.exponent).toNat
    if places < cs.length then
      String.ofList (cs.take (cs.length - places) ++ '.' :: cs.drop (cs.length - places))
    else String.ofList ('0' :: '.' :: zeros (places - cs.length) ++ cs)

/-- How the exponent of a decimal is written. -/
structure Exponent where
  /-- Write `+` before an exponent that is not negative. -/
  plus : Bool
  /-- The least number of digits. -/
  width : Nat
deriving DecidableEq, Repr

/-- A decimal as one digit, the other digits behind a point, and an exponent. -/
def Decimal.scientific (x : Decimal) (style : Exponent) : String :=
  let cs := Nat.toDigits 10 x.digits
  let power : Int := x.exponent + (cs.length : Int) - 1
  let mantissa := match cs with
    | [] => []
    | [c] => [c]
    | c :: rest => c :: '.' :: rest
  let sign : List Char := if power < 0 then ['-'] else if style.plus then ['+'] else []
  let digits := Nat.toDigits 10 power.natAbs
  String.ofList (mantissa ++ 'e' :: sign ++ zeros (style.width - digits.length) ++ digits)

/-- What a format decides about the text of a number. -/
structure Notation where
  /-- The least and the greatest power of ten of the leading digit that is written with the point
      in place; `none` for no bound on that side. -/
  lowest : Option Int
  highest : Option Int
  /-- Whole numbers written with the point in place end in `.0`. -/
  point : Bool
  exponent : Exponent
  tie : Tie
deriving DecidableEq, Repr

namespace Notation

/-- Plain text: never an exponent, and whole numbers without a point. -/
def plain : Notation := ⟨none, none, false, ⟨false, 1⟩, .up⟩

/-- Plain text in which a whole number still shows that it is not an integer. -/
def pointed : Notation := { plain with point := true }

/-- Diagnostic text: an exponent from `1e16` on and below `1e-4`. -/
def diagnostic : Notation := ⟨some (-4), some 15, true, ⟨false, 1⟩, .up⟩

/-- The text of a number inside a JSON message: an exponent from `1e+16` on and below `1e-05`. -/
def json : Notation := ⟨some (-5), some 15, true, ⟨true, 2⟩, .toEven⟩

/-- The text of a number. The point of `.0` is never written after `inf` and `NaN`. -/
def render (style : Notation) (f : Format) : Binary → String
  | .nan => "NaN"
  | .infinite negative => if negative then "-inf" else "inf"
  | .finite negative m e =>
    let sign := if negative then "-" else ""
    if m = 0 then sign ++ (if style.point then "0.0" else "0")
    else
      let x := Decimal.shortest f style.tie m e
      let power : Int := x.exponent + ((Nat.toDigits 10 x.digits).length : Int) - 1
      let low := match style.lowest with
        | none => true
        | some k => k ≤ power
      let high := match style.highest with
        | none => true
        | some k => power ≤ k
      sign ++ (if low && high then x.positional style.point else x.scientific style.exponent)

end Notation

end BrokerPool.Number
