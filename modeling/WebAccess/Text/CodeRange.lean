/-!
# Ranges of code points

A character class of the Unicode standard is kept as an array of closed ranges.
-/

set_option autoImplicit false

namespace WebAccess.Text

/-- A closed range of code points, first and last. -/
abbrev CodeRange := Nat × Nat

/-- True if one of the ranges holds `c`. -/
def inRanges (ranges : Array CodeRange) (c : Char) : Bool :=
  ranges.any fun r => r.1 ≤ c.toNat && c.toNat ≤ r.2

end WebAccess.Text
