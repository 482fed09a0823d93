/-!
# Numerals

A numeral is what a document writes for a number that is no integer: digits before and after the
point and an exponent. Its value is computed in two ways. `Numeral.exact` rounds the value once.
`Numeral.quick` takes as many digits as fit into a 64-bit word and multiplies or divides by one
power of ten, which is off by a unit in the last place now and then; where a document type asks
for the quick value, the exact one would be a different number.
-/

set_option autoImplicit false

namespace WebAccess.Decimal

/-- The parts of a numeral. -/
structure Numeral where
  /-- A minus sign stands in front. -/
  negative : Bool
  /-- The digits before the point. -/
  whole : List Nat
  /-- The digits after the point. -/
  fraction : List Nat
  /-- The exponent, zero if none is written. -/
  exponent : Int
deriving DecidableEq, Repr

/-- The largest number that fits into a 64-bit word. -/
def maxWord : Nat := Nat.pow 2 64 - 1

/-- Reads digits into `word` while the number fits, and returns the digits that are left. -/
def takeDigits (word : Nat) : List Nat → Nat × List Nat
  | [] => (word, [])
  | d :: ds => if word * 10 + d ≤ maxWord then takeDigits (word * 10 + d) ds else (word, d :: ds)

/-- The power of ten as a floating-point number. -/
def powerOfTen (n : Nat) : Float :=
  Float.ofScientific 1 false n

/-- `word * 10 ^ exponent` by one rounded step, or by several where the exponent is far below the
range; none if the number is too large. -/
def scale (word : Float) : Nat → Int → Option Float
  | 0, _ => some word
  | fuel + 1, exponent =>
    if exponent.natAbs ≤ 308 then
      if 0 ≤ exponent then
        let product := word * powerOfTen exponent.toNat
        if product.isInf then none else some product
      else some (word / powerOfTen exponent.natAbs)
    else if word == 0 then some word
    else if 0 ≤ exponent then none
    else scale (word / powerOfTen 308) fuel (exponent + 308)

namespace Numeral

/-- The quick value; none if it is too large. -/
def quick (n : Numeral) : Option Float :=
  let (word, left) := takeDigits 0 n.whole
  let (word, rest) := takeDigits word n.fraction
  let shift : Int := left.length - (n.fraction.length - rest.length : Nat)
  let limit : Int := 2147483647
  let value :=
    if n.exponent.natAbs ≤ limit.toNat then
      scale (UInt64.ofNat word).toFloat (n.exponent.natAbs / 308 + 400) (shift + n.exponent)
    else if word = 0 ∨ n.exponent < 0 then some 0
    else none
  value.map fun x => if n.negative then -x else x

/-- The value rounded once; beyond the range it is infinite. -/
def exact (n : Numeral) : Float :=
  let digits := (n.whole ++ n.fraction).foldl (fun acc d => acc * 10 + d) 0
  let exponent := n.exponent - n.fraction.length
  let lead := exponent + (Nat.toDigits 10 digits).length
  let value :=
    if digits = 0 ∨ lead < -400 then 0
    else if 400 < lead then 1 / 0
    else Float.ofScientific digits (exponent < 0) exponent.natAbs
  if n.negative then -value else value

end Numeral

end WebAccess.Decimal
