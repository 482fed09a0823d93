import WebAccess.Decimal.Shortest

/-!
# The text of a number

How a shortest decimal is laid out: positionally, always with a fraction (`1000.0`), or with an
exponent that has a sign and no zeros in front (`1.5e+19`, `1e-7`). Two notations differ in when
they use which: `balanced` keeps positional digits near one, `positional` everywhere. They also
differ in their ties: a number halfway between two decimals of the same length becomes the even one
in `balanced` and the one farther from zero in `positional`.
-/

set_option autoImplicit false

namespace WebAccess.Decimal

/-- The digits with a point at the place of the ones, and at least one digit on either side. -/
def Shortest.positional (d : Shortest) : String :=
  let zeros (n : Int) := List.replicate n.toNat '0'
  if 0 ≤ d.scale then String.ofList (d.digits ++ zeros d.scale ++ ['.', '0'])
  else if 0 ≤ d.lead then
    let whole := (d.lead + 1).toNat
    String.ofList (d.digits.take whole ++ ['.'] ++ d.digits.drop whole)
  else String.ofList (['0', '.'] ++ zeros (-d.lead - 1) ++ d.digits)

/-- The first digit, a point before the others if there are any, and the exponent. -/
def Shortest.scientific (d : Shortest) : String :=
  let fraction := d.digits.drop 1
  String.ofList <|
    d.digits.take 1 ++ (if fraction.isEmpty then [] else '.' :: fraction) ++
      ['e', if d.lead < 0 then '-' else '+'] ++ Nat.toDigits 10 d.lead.natAbs

/-- A text with a minus sign if the number is negative. -/
def signed (negative : Bool) (text : String) : String :=
  if negative then "-" ++ text else text

/-- The text of a number, with the tie rule and the layout for a finite one. -/
def render (tie : Tie) (layout : Shortest → String) (x : Float) : String :=
  match partsOf x with
  | .nan => "NaN"
  | .infinite negative => signed negative "inf"
  | .zero negative => signed negative "0.0"
  | .finite negative b => signed negative (layout (b.shortest tie))

/-- Positional while the first digit stands between the fifth place after the point and the
sixteenth before it, scientific beyond. -/
def balanced (x : Float) : String :=
  render .even (fun d => if -5 ≤ d.lead ∧ d.lead ≤ 15 then d.positional else d.scientific) x

/-- Positional whatever the size. -/
def positional (x : Float) : String :=
  render .away Shortest.positional x

end WebAccess.Decimal
