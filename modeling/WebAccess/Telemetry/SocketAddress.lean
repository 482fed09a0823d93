import WebAccess.Text.Digit

/-!
# Socket addresses

An IP address and the number of a socket, as text: `127.0.0.1:9090`, or `[::1]:9090` with brackets
around an address of the sixth version. There, groups are hexadecimal, one run of zero groups may
be written `::`, the last two groups may be written like an address of the fourth version, and a
decimal scope may follow `%`.
-/

set_option autoImplicit false

namespace WebAccess.Telemetry

/-- An address with the number of a socket. -/
inductive SocketAddress where
  /-- Four octets. -/
  | v4 (octets : List Nat) (socket : Nat)
  /-- Eight groups of 16 bits, and a scope. -/
  | v6 (groups : List Nat) (scope : Nat) (socket : Nat)
deriving DecidableEq, Repr

namespace SocketAddress

/-- A number at the front of a text: all digits that stand there, of which there must be at least
one and at most `width` if that is given, with a value up to `max`. -/
def number (base : Nat) (width : Option Nat) (leadingZero : Bool) (max : Nat) (cs : List Char) :
    Option (Nat × List Char) :=
  let (digits, rest) := Text.takeDigits base cs
  let value := Text.ofDigits base digits
  if digits.isEmpty ∨ (width.any fun w => w < digits.length) ∨
      (¬leadingZero ∧ digits.head? = some 0 ∧ digits.length ≠ 1) ∨ max < value then none
  else some (value, rest)

/-- A character at the front of a text. -/
def mark (c : Char) : List Char → Option (List Char)
  | [] => none
  | d :: cs => if c = d then some cs else none

/-- A decimal octet without leading zeros. -/
def octet (cs : List Char) : Option (Nat × List Char) :=
  number 10 (some 3) false 255 cs

/-- Four octets with points between them. -/
def octets (cs : List Char) : Option (List Nat × List Char) := do
  let (a, cs) ← octet cs
  let (b, cs) ← octet (← mark '.' cs)
  let (c, cs) ← octet (← mark '.' cs)
  let (d, cs) ← octet (← mark '.' cs)
  return ([a, b, c, d], cs)

/-- Up to `room` groups with colons between them, the rest of the text, and whether the last two
were written as four octets. -/
def groups : Nat → Bool → List Char → List Nat × Bool × List Char
  | 0, _, cs => ([], false, cs)
  | room + 1, first, cs =>
    match if first then some cs else mark ':' cs with
    | none => ([], false, cs)
    | some inner =>
      match if 1 ≤ room then octets inner else none with
      | some ([a, b, c, d], rest) => ([a * 256 + b, c * 256 + d], true, rest)
      | _ =>
        match number 16 (some 4) true 65535 inner with
        | none => ([], false, cs)
        | some (group, rest) =>
          let (more, dotted, rest) := groups room false rest
          (group :: more, dotted, rest)

/-- Eight groups, of which one run may be written as two colons. -/
def address6 (cs : List Char) : Option (List Nat × List Char) :=
  match groups 8 true cs with
  | (head, dotted, rest) =>
    if head.length = 8 then some (head, rest)
    else if dotted then none
    else do
      let rest ← mark ':' (← mark ':' rest)
      let (tail, _, rest) := groups (7 - head.length) true rest
      return (head ++ List.replicate (8 - head.length - tail.length) 0 ++ tail, rest)

/-- The number of a socket after its colon. -/
def socketNumber (cs : List Char) : Option (Nat × List Char) := do
  number 10 none true 65535 (← mark ':' cs)

/-- A scope after its mark, if there is one. -/
def scope (cs : List Char) : Nat × List Char :=
  (do number 10 none true (Nat.pow 2 32 - 1) (← mark '%' cs)).getD (0, cs)

/-- The socket address that a text denotes. -/
def ofString? (s : String) : Option SocketAddress :=
  let v4 : Option (SocketAddress × List Char) := do
    let (octets, cs) ← octets s.toList
    let (socket, cs) ← socketNumber cs
    return (.v4 octets socket, cs)
  let v6 : Option (SocketAddress × List Char) := do
    let (groups, cs) ← address6 (← mark '[' s.toList)
    let (scope, cs) := scope cs
    let (socket, cs) ← socketNumber (← mark ']' cs)
    return (.v6 groups scope socket, cs)
  match v4.or v6 with
  | some (address, []) => some address
  | _ => none

/-- True if a text denotes a socket address. -/
def isValid (s : String) : Bool :=
  (ofString? s).isSome

end SocketAddress

end WebAccess.Telemetry
