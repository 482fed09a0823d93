import WebAccess.Decimal.Layout
import WebAccess.Decimal.Numeral
import WebAccess.Document.Json.Scan
import WebAccess.Document.Tree

/-!
# Reading JSON

JSON text becomes a tree that keeps the order and the repetitions of keys. An integer must fit
into 64 bits, with or without sign; beyond that, and for a negative zero, it is a number that is
no integer. A sequence or a map below the deepest level that is read has no value.
-/

set_option autoImplicit false

namespace WebAccess.Document.Json

/-- How many sequences and maps may stand inside each other. -/
def deepest : Nat := 127

/-- The tree of a number. -/
def numberTree (p : NumberParts) : Tree :=
  let n := Text.ofDigits 10 p.whole
  let integral := p.fraction.isNone && p.exponent.isNone
  if integral ∧ ¬p.negative ∧ n < Nat.pow 2 64 then .int n
  else if integral ∧ p.negative ∧ n ≠ 0 ∧ n ≤ Nat.pow 2 63 then .int (-n)
  else
    match Decimal.Numeral.quick ⟨p.negative, p.whole, p.fraction.getD [], p.exponent.getD 0⟩ with
    | some x => .real (Decimal.balanced x)
    | none => .unreadable

/-- Removes a word from the front of a text. -/
def dropWord (word : List Char) (cs : List Char) : Option (List Char) :=
  if word.isPrefixOf cs then some (cs.drop word.length) else none

/-- A part of a document, and the text after it unless it is broken. -/
abbrev Read (α : Type) := α × Option (List Char)

/-- A sequence or a map, which has no value below the deepest level. -/
def nested (depth : Nat) (t : Tree) (rest : Option (List Char)) : Read Tree :=
  if deepest < depth ∧ rest.isSome then (.unreadable, rest) else (t, rest)

mutual

/-- Reads one part of a document, which has `depth` sequences and maps around it. -/
def readTree : Nat → Nat → List Char → Read Tree
  | 0, _, _ => (.broken, none)
  | fuel + 1, depth, cs =>
    match skipSpace cs with
    | '"' :: rest =>
      match scanString rest with
      | some (some s, rest) => (.text s, some rest)
      | some (none, rest) => (.unreadable, some rest)
      | none => (.broken, none)
    | '[' :: rest =>
      let (items, ending, rest) := readItems fuel (depth + 1) true rest
      nested (depth + 1) (.seq items ending) rest
    | '\x7b' :: rest =>
      let (entries, ending, rest) := readEntries fuel (depth + 1) true rest
      nested (depth + 1) (.map entries ending) rest
    | 'n' :: rest => literal .null "ull".toList rest
    | 't' :: rest => literal (.bool true) "rue".toList rest
    | 'f' :: rest => literal (.bool false) "alse".toList rest
    | cs =>
      match scanNumber cs with
      | some (parts, rest) => (numberTree parts, some rest)
      | none => (.broken, none)
where
  /-- The tree of a literal word whose first letter was read. -/
  literal (t : Tree) (word rest : List Char) : Read Tree :=
    match dropWord word rest with
    | some rest => (t, some rest)
    | none => (.broken, none)

/-- Reads the items of a sequence; before all but the first stands a comma. -/
def readItems : Nat → Nat → Bool → List Char → List Tree × Ending × Option (List Char)
  | 0, _, _, _ => ([], .broken, none)
  | fuel + 1, depth, first, cs =>
    let item (cs : List Char) : List Tree × Ending × Option (List Char) :=
      match readTree fuel depth cs with
      | (t, some rest) =>
        let (items, ending, rest) := readItems fuel depth false rest
        (t :: items, ending, rest)
      | (t, none) => ([t], .broken, none)
    match first, skipSpace cs with
    | _, [] => ([], .broken, none)
    | _, ']' :: rest => ([], .closed, some rest)
    | true, cs => item cs
    | false, ',' :: rest =>
      match skipSpace rest with
      | ']' :: _ => ([], .broken, none)
      | rest => item rest
    | false, _ => ([], .broken, none)

/-- Reads the entries of a map; before all but the first stands a comma. -/
def readEntries : Nat → Nat → Bool → List Char →
    List (String × Tree) × Ending × Option (List Char)
  | 0, _, _, _ => ([], .broken, none)
  | fuel + 1, depth, first, cs =>
    let value (cs : List Char) : Read Tree :=
      match skipSpace cs with
      | ':' :: rest => readTree fuel depth rest
      | _ => (.broken, none)
    let entry (cs : List Char) : List (String × Tree) × Ending × Option (List Char) :=
      match cs with
      | '"' :: rest =>
        match scanString rest with
        | none => ([], .broken, none)
        | some (key, rest) =>
          match key, value rest with
          | some key, (t, some rest) =>
            let (entries, ending, rest) := readEntries fuel depth false rest
            ((key, t) :: entries, ending, rest)
          | some key, (t, none) => ([(key, t)], .broken, none)
          | none, (t, some rest) =>
            let (entries, ending, rest) := readEntries fuel depth false rest
            if t.isSound false && (Tree.map entries ending).isSound false then
              ([], .unreadable, rest)
            else ([], .broken, none)
          | none, (_, none) => ([], .broken, none)
      | _ => ([], .broken, none)
    match first, skipSpace cs with
    | _, '\x7d' :: rest => ([], .closed, some rest)
    | true, cs => entry cs
    | false, ',' :: rest => entry (skipSpace rest)
    | false, _ => ([], .broken, none)

end

/-- Reads a document: its tree, and whether nothing but space follows it. -/
def read (s : String) : Tree × Bool :=
  let cs := s.toList
  match readTree (cs.length + 1) 0 cs with
  | (t, some rest) => (t, (skipSpace rest).isEmpty)
  | (t, none) => (t, false)

end WebAccess.Document.Json
