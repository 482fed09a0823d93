/-!
# Durations

Spans of time and points in time, as whole numbers of nanoseconds. In descriptions a span is
written in the largest of the units second, millisecond, microsecond and nanosecond that it fills,
with the decimal places it needs.
-/

set_option autoImplicit false

namespace WebAccess

/-- A span of time in nanoseconds. -/
abbrev Duration := Nat

namespace Duration

/-- A span of whole seconds. -/
def ofSeconds (n : Nat) : Duration := n * 1000000000

/-- A span of whole milliseconds. -/
def ofMilliseconds (n : Nat) : Duration := n * 1000000

/-- The whole seconds of a span. -/
def seconds (d : Duration) : Nat := d / 1000000000

/-- The nanoseconds of a span beyond its whole seconds. -/
def subsecond (d : Duration) : Nat := d % 1000000000

/-- The quotient `n / 10 ^ places` in decimal notation, without zeros at the end of the fraction. -/
def decimal (places n : Nat) : String :=
  let fraction := (Nat.toDigits 10 (n % Nat.pow 10 places)).reverse
  let padded := fraction ++ List.replicate (places - fraction.length) '0'
  let digits := (padded.dropWhile (· = '0')).reverse
  toString (n / Nat.pow 10 places) ++ (if digits.isEmpty then "" else "." ++ String.ofList digits)

/-- The text of a span with its unit. -/
def describe (d : Duration) : String :=
  if d ≥ 1000000000 then decimal 9 d ++ "s"
  else if d ≥ 1000000 then decimal 6 d ++ "ms"
  else if d ≥ 1000 then decimal 3 d ++ "µs"
  else toString d ++ "ns"

end Duration

end WebAccess
