/-!
# Shortest decimals

A binary floating-point number stands for every real number that rounds to it. Among the decimals
in that interval, the shortest is the one with the fewest digits, and of those the one nearest to
the number itself. Where the number lies halfway between two of them, a tie rule decides. All
arithmetic is exact: the number is `significand * 2 ^ power`, and both ends of its interval are
whole multiples of `2 ^ (power - 2)`.
-/

set_option autoImplicit false

namespace WebAccess.Decimal

/-- A decimal number `digits * 10 ^ scale` without zeros at the end of its digits. -/
structure Shortest where
  /-- The digits, first to last. -/
  digits : List Char
  /-- The power of ten of the last digit. -/
  scale : Int
deriving DecidableEq, Repr

/-- The power of ten of the first digit. -/
def Shortest.lead (d : Shortest) : Int :=
  d.digits.length + d.scale - 1

/-- Which of its two neighbours stands for a number halfway between them. -/
inductive Tie where
  /-- The one with the even last digit. -/
  | even
  /-- The one farther from zero. -/
  | away
deriving DecidableEq, Repr

/-- The neighbour of a number halfway between `down` and `down + 1`. -/
def Tie.choose : Tie → Nat → Nat
  | even, down => if down % 2 = 0 then down else down + 1
  | away, down => down + 1

/-- A positive binary number with the distances to the ends of its interval, in quarters of its last
place. The number is `4 * significand` quarters. -/
structure Binary where
  /-- The significand. -/
  significand : Nat
  /-- The power of two of its last place. -/
  power : Int
  /-- How many quarters below the number the interval begins. -/
  below : Nat

namespace Binary

/-- True if `x * 10 ^ scale` is at most `quarters` quarters of the last place of `b`. -/
def leQuarters (b : Binary) (x : Nat) (scale : Int) (quarters : Nat) : Bool :=
  x * Nat.pow 10 scale.toNat * Nat.pow 2 (2 - b.power).toNat ≤
    quarters * Nat.pow 2 (b.power - 2).toNat * Nat.pow 10 (-scale).toNat

/-- True if `x * 10 ^ scale` is at least `quarters` quarters of the last place of `b`. -/
def geQuarters (b : Binary) (x : Nat) (scale : Int) (quarters : Nat) : Bool :=
  quarters * Nat.pow 2 (b.power - 2).toNat * Nat.pow 10 (-scale).toNat ≤
    x * Nat.pow 10 scale.toNat * Nat.pow 2 (2 - b.power).toNat

/-- True if `x * 10 ^ scale` rounds to `b`: the ends of the interval count if the significand is
even. -/
def reads (b : Binary) (x : Nat) (scale : Int) : Bool :=
  let low := 4 * b.significand - b.below
  let high := 4 * b.significand + 2
  if b.significand % 2 = 0 then b.geQuarters x scale low && b.leQuarters x scale high
  else !b.leQuarters x scale low && !b.geQuarters x scale high

/-- The number in units of `10 ^ scale`, rounded down, and twice the remainder compared with a
unit. -/
def onGrid (b : Binary) (scale : Int) : Nat × Ordering :=
  let num := b.significand * Nat.pow 2 b.power.toNat * Nat.pow 10 (-scale).toNat
  let den := Nat.pow 2 (-b.power).toNat * Nat.pow 10 scale.toNat
  (num / den, compare (2 * (num % den)) den)

/-- The multiple of `10 ^ scale` nearest to the number among those that round to it. -/
def nearest? (b : Binary) (tie : Tie) (scale : Int) : Option Nat :=
  let (down, half) := b.onGrid scale
  match b.reads down scale, b.reads (down + 1) scale with
  | true, false => some down
  | false, true => some (down + 1)
  | false, false => none
  | true, true =>
    match half with
    | .lt => some down
    | .gt => some (down + 1)
    | .eq => some (tie.choose down)

/-- The power of ten of the first digit, sought downwards from `top`. -/
def leadFrom (b : Binary) : Nat → Int → Int
  | 0, top => top
  | fuel + 1, top =>
    if b.leQuarters 1 top (4 * b.significand) then top else b.leadFrom fuel (top - 1)

/-- The first multiple found on ever finer grids. -/
def firstGrid (b : Binary) (tie : Tie) : Nat → Int → Option (Nat × Int)
  | 0, _ => none
  | fuel + 1, scale =>
    match b.nearest? tie scale with
    | some x => some (x, scale)
    | none => b.firstGrid tie fuel (scale - 1)

/-- The shortest decimal of a binary number. Seventeen digits always suffice. -/
def shortest (b : Binary) (tie : Tie) : Shortest :=
  let (x, scale) := (b.firstGrid tie 17 (b.leadFrom 640 310)).getD (b.significand, 0)
  let digits := (Nat.toDigits 10 x).reverse
  let kept := digits.dropWhile (· = '0')
  ⟨kept.reverse, scale + (digits.length - kept.length : Nat)⟩

end Binary

/-- The parts of a floating-point number. -/
inductive Parts where
  /-- Not a number. -/
  | nan
  /-- Infinity. -/
  | infinite (negative : Bool)
  /-- Zero. -/
  | zero (negative : Bool)
  /-- Any other number, by its absolute value. -/
  | finite (negative : Bool) (b : Binary)

/-- The parts of a number of double precision, from its bits. -/
def partsOf (x : Float) : Parts :=
  let bits : Nat := x.toBits.toNat
  let negative : Bool := bits / Nat.pow 2 63 == 1
  let biased : Nat := bits / Nat.pow 2 52 % Nat.pow 2 11
  let fraction : Nat := bits % Nat.pow 2 52
  if biased = 2047 then (if fraction = 0 then .infinite negative else .nan)
  else if biased = 0 then
    (if fraction = 0 then .zero negative else .finite negative ⟨fraction, -1074, 2⟩)
  else
    .finite negative
      ⟨Nat.pow 2 52 + fraction, (biased : Int) - 1075, if fraction = 0 ∧ biased ≠ 1 then 1 else 2⟩

end WebAccess.Decimal
