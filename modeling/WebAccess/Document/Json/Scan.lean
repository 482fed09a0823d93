import WebAccess.Text.Digit

/-!
# The words of JSON

Strings and numbers of JSON text, taken off the front of a list of characters. A string is first
taken as a list of codes, where an escape may stand for half of a surrogate pair; the halves are
joined afterwards, and a half without its partner leaves the string well-formed but without a
value.
-/

set_option autoImplicit false

namespace WebAccess.Document.Json

/-- True if the character separates words. -/
def isSpace (c : Char) : Bool :=
  c = ' ' || c = '\n' || c = '\t' || c = '\r'

/-- The text from its first word on. -/
def skipSpace (cs : List Char) : List Char :=
  cs.dropWhile isSpace

/-- The value of four hexadecimal digits. -/
def hexCode? (a b c d : Char) : Option Nat := do
  return (((← Text.digitIn? 16 a) * 16 + (← Text.digitIn? 16 b)) * 16 +
    (← Text.digitIn? 16 c)) * 16 + (← Text.digitIn? 16 d)

/-- The code that a one-letter escape stands for. -/
def shortEscape? (c : Char) : Option Nat :=
  if c = '"' then some 0x22
  else if c = '\\' then some 0x5c
  else if c = '/' then some 0x2f
  else if c = 'b' then some 0x8
  else if c = 'f' then some 0xc
  else if c = 'n' then some 0xa
  else if c = 'r' then some 0xd
  else if c = 't' then some 0x9
  else none

/-- The codes of a string up to its closing quote, and the text after it; none if the string is not
well-formed. -/
def stringCodes : List Char → Option (List Nat × List Char)
  | [] => none
  | '"' :: rest => some ([], rest)
  | '\\' :: 'u' :: a :: b :: c :: d :: rest => do
    let code ← hexCode? a b c d
    let (codes, rest) ← stringCodes rest
    return (code :: codes, rest)
  | '\\' :: c :: rest => do
    let code ← shortEscape? c
    let (codes, rest) ← stringCodes rest
    return (code :: codes, rest)
  | c :: rest => do
    if c.toNat < 0x20 ∨ c = '\\' then none
    else
      let (codes, rest) ← stringCodes rest
      return (c.toNat :: codes, rest)

/-- True if the code is the first half of a surrogate pair. -/
def isHighSurrogate (n : Nat) : Bool := 0xd800 ≤ n && n ≤ 0xdbff

/-- True if the code is the second half of a surrogate pair. -/
def isLowSurrogate (n : Nat) : Bool := 0xdc00 ≤ n && n ≤ 0xdfff

/-- The characters that the codes stand for; none if half of a surrogate pair has no partner. -/
def joinCodes : List Nat → Option (List Char)
  | [] => some []
  | [n] => if isHighSurrogate n || isLowSurrogate n then none else some [Char.ofNat n]
  | n :: m :: rest =>
    if isHighSurrogate n then
      if isLowSurrogate m then
        (joinCodes rest).map fun cs =>
          Char.ofNat (0x10000 + (n - 0xd800) * 0x400 + (m - 0xdc00)) :: cs
      else none
    else if isLowSurrogate n then none
    else (joinCodes (m :: rest)).map fun cs => Char.ofNat n :: cs

/-- A string as far as it has a value, and the text after it. -/
def scanString (cs : List Char) : Option (Option String × List Char) :=
  (stringCodes cs).map fun p => ((joinCodes p.1).map String.ofList, p.2)

/-- The written parts of a number. -/
structure NumberParts where
  /-- A minus sign stands in front. -/
  negative : Bool
  /-- The digits before the point. -/
  whole : List Nat
  /-- The digits after the point, if there is one. -/
  fraction : Option (List Nat)
  /-- The exponent, if there is one. -/
  exponent : Option Int

/-- An exponent after its mark: an optional sign and at least one digit. -/
def scanExponent (cs : List Char) : Option (Int × List Char) :=
  let (negative, cs) :=
    match cs with
    | '-' :: rest => (true, rest)
    | '+' :: rest => (false, rest)
    | _ => (false, cs)
  match Text.takeDigits 10 cs with
  | ([], _) => none
  | (ds, rest) =>
    let n : Int := Text.ofDigits 10 ds
    some (if negative then -n else n, rest)

/-- A number without leading zeros, with at least one digit on either side of a point. -/
def scanNumber (cs : List Char) : Option (NumberParts × List Char) := do
  let (negative, cs) :=
    match cs with
    | '-' :: rest => (true, rest)
    | _ => (false, cs)
  let (whole, cs) := Text.takeDigits 10 cs
  if whole.isEmpty ∨ (whole.head? = some 0 ∧ whole.length ≠ 1) then none
  else
    let (fraction, cs) ←
      match cs with
      | '.' :: rest =>
        match Text.takeDigits 10 rest with
        | ([], _) => none
        | (ds, rest) => some (some ds, rest)
      | _ => some (none, cs)
    let (exponent, cs) ←
      match cs with
      | 'e' :: rest | 'E' :: rest => (scanExponent rest).map fun p => (some p.1, p.2)
      | _ => some (none, cs)
    return (⟨negative, whole, fraction, exponent⟩, cs)

end WebAccess.Document.Json
