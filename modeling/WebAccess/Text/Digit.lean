/-!
# Digits

Digits in bases up to sixteen, and the numbers they denote.
-/

set_option autoImplicit false

namespace WebAccess.Text

/-- The value of a digit in a base up to sixteen; letters count in either case. -/
def digitIn? (base : Nat) (c : Char) : Option Nat :=
  let value :=
    if '0' ≤ c ∧ c ≤ '9' then some (c.toNat - '0'.toNat)
    else if 'a' ≤ c ∧ c ≤ 'f' then some (c.toNat - 'a'.toNat + 10)
    else if 'A' ≤ c ∧ c ≤ 'F' then some (c.toNat - 'A'.toNat + 10)
    else none
  value.filter (· < base)

/-- The digits at the front of a text by their values, and what follows them. -/
def takeDigits (base : Nat) : List Char → List Nat × List Char
  | [] => ([], [])
  | c :: cs =>
    match digitIn? base c with
    | some d => let p := takeDigits base cs; (d :: p.1, p.2)
    | none => ([], c :: cs)

/-- The number that digits denote. -/
def ofDigits (base : Nat) (ds : List Nat) : Nat :=
  ds.foldl (fun n d => n * base + d) 0

/-- A number below `bound` in decimal digits, which may follow a plus sign. -/
def natural? (bound : Nat) (cs : List Char) : Option Nat :=
  let digits :=
    match cs with
    | '+' :: rest => rest
    | cs => cs
  match takeDigits 10 digits with
  | (d :: ds, []) => some (ofDigits 10 (d :: ds)) |>.filter (· < bound)
  | _ => none

end WebAccess.Text
