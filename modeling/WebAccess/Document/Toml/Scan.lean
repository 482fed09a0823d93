import WebAccess.Decimal.Layout
import WebAccess.Decimal.Numeral
import WebAccess.Document.Tree
import WebAccess.Text.Digit

/-!
# The words of TOML

Strings, keys, numbers and dates of TOML text, taken off the front of a list of characters; `none`
means that the text is not well-formed. Line ends inside strings are always a single line feed.
-/

set_option autoImplicit false

namespace WebAccess.Document.Toml

/-- The text without the blanks in front. -/
def skipBlanks (cs : List Char) : List Char :=
  cs.dropWhile fun c => c = ' ' || c = '\t'

/-- The text after a line end. -/
def dropNewline : List Char → Option (List Char)
  | '\n' :: rest => some rest
  | '\r' :: '\n' :: rest => some rest
  | _ => none

/-- True if the character may stand in a comment or, apart from its marks, in a string. -/
def isPlain (c : Char) : Bool :=
  c = '\t' || (0x20 ≤ c.toNat && c.toNat ≠ 0x7f)

/-- The text after a comment, if there is one. -/
def skipComment : List Char → List Char
  | '#' :: rest => rest.dropWhile isPlain
  | cs => cs

/-- The text after blanks and a comment up to the end of the line; none if something else stands
there. -/
def dropLineEnd (cs : List Char) : Option (List Char) :=
  match skipComment (skipBlanks cs) with
  | [] => some []
  | cs => dropNewline cs

/-- The character that hexadecimal digits denote. -/
def scalar? (ds : List Nat) : Option Char :=
  let n := Text.ofDigits 16 ds
  if n.isValidChar then some (Char.ofNat n) else none

/-- The character that an escape denotes, after its backslash. -/
def scanEscape : List Char → Option (Char × List Char)
  | 'u' :: a :: b :: c :: d :: rest => do
    let ds ← [a, b, c, d].mapM (Text.digitIn? 16)
    return (← scalar? ds, rest)
  | 'U' :: a :: b :: c :: d :: e :: f :: g :: h :: rest => do
    let ds ← [a, b, c, d, e, f, g, h].mapM (Text.digitIn? 16)
    return (← scalar? ds, rest)
  | 'b' :: rest => some (Char.ofNat 0x8, rest)
  | 't' :: rest => some ('\t', rest)
  | 'n' :: rest => some ('\n', rest)
  | 'f' :: rest => some (Char.ofNat 0xc, rest)
  | 'r' :: rest => some ('\r', rest)
  | '"' :: rest => some ('"', rest)
  | '\\' :: rest => some ('\\', rest)
  | _ => none

/-- The characters of a string in double quotes, after the opening quote. -/
def scanBasic : Nat → List Char → Option (List Char × List Char)
  | 0, _ => none
  | _ + 1, [] => none
  | fuel + 1, c :: cs =>
    if c = '"' then some ([], cs)
    else if c = '\\' then do
      let (d, rest) ← scanEscape cs
      let (ds, rest) ← scanBasic fuel rest
      return (d :: ds, rest)
    else if isPlain c then do
      let (ds, rest) ← scanBasic fuel cs
      return (c :: ds, rest)
    else none

/-- The characters of a string in single quotes, after the opening quote. -/
def scanLiteral : List Char → Option (List Char × List Char)
  | [] => none
  | c :: cs =>
    if c = '\x27' then some ([], cs)
    else if isPlain c then do
      let (ds, rest) ← scanLiteral cs
      return (c :: ds, rest)
    else none

/-- The text without the blanks and line ends in front. -/
def skipSpace : List Char → List Char
  | ' ' :: rest | '\t' :: rest | '\n' :: rest => skipSpace rest
  | '\r' :: '\n' :: rest => skipSpace rest
  | cs => cs

/-- The text without the blanks and line ends in front, if a line end is the first of them but
blanks. -/
def dropFolded (cs : List Char) : Option (List Char) :=
  (dropNewline (skipBlanks cs)).map skipSpace

/-- The closing mark of a string over several lines: three quotes, which up to two quotes of the
string may precede. -/
def scanClosing (quote : Char) (cs : List Char) : Option (List Char × List Char) :=
  let quotes := cs.takeWhile (· = quote)
  if 3 ≤ quotes.length then
    let extra := min (quotes.length - 3) 2
    some (List.replicate extra quote, cs.drop (extra + 3))
  else none

/-- The characters of a string over several lines, after the opening quotes. With `escapes`, a
backslash escapes a character or, at the end of a line, the blank space up to the next text. -/
def scanLines (quote : Char) (escapes : Bool) : Nat → List Char → Option (List Char × List Char)
  | 0, _ => none
  | _ + 1, [] => none
  | fuel + 1, c :: cs =>
    match scanClosing quote (c :: cs) with
    | some closed => some closed
    | none =>
      if c = '\\' ∧ escapes then
        match dropFolded cs with
        | some rest => scanLines quote escapes fuel rest
        | none => do
          let (d, rest) ← scanEscape cs
          let (ds, rest) ← scanLines quote escapes fuel rest
          return (d :: ds, rest)
      else
        match dropNewline (c :: cs) with
        | some rest => do
          let (ds, rest) ← scanLines quote escapes fuel rest
          return ('\n' :: ds, rest)
        | none =>
          if isPlain c then do
            let (ds, rest) ← scanLines quote escapes fuel cs
            return (c :: ds, rest)
          else none

/-- A string at the front of a text, in one of the four forms. -/
def scanString (cs : List Char) : Option (String × List Char) :=
  let fuel := cs.length + 1
  let lines (quote : Char) (escapes : Bool) (rest : List Char) : Option (List Char × List Char) :=
    scanLines quote escapes fuel ((dropNewline rest).getD rest)
  let scanned :=
    match cs with
    | '"' :: '"' :: '"' :: rest => lines '"' true rest
    | '"' :: rest => scanBasic fuel rest
    | '\x27' :: '\x27' :: '\x27' :: rest => lines '\x27' false rest
    | '\x27' :: rest => scanLiteral rest
    | _ => none
  scanned.map fun p => (String.ofList p.1, p.2)

/-- True if the character may stand in a key without quotes. -/
def isBareKey (c : Char) : Bool :=
  c.isAlphanum || c = '_' || c = '-'

/-- One part of a key. -/
def scanKeyPart (cs : List Char) : Option (String × List Char) :=
  match cs with
  | '"' :: rest => (scanBasic (cs.length + 1) rest).map fun p => (String.ofList p.1, p.2)
  | '\x27' :: rest => (scanLiteral rest).map fun p => (String.ofList p.1, p.2)
  | cs =>
    match cs.takeWhile isBareKey with
    | [] => none
    | name => some (String.ofList name, cs.drop name.length)

/-- How many parts a key may have, and how many arrays and inline tables may stand inside each
other. -/
def depthLimit : Nat := 79

/-- A key: its parts with points between them, and the text from the next word on. -/
def scanKey : Nat → List Char → Option (List String × List Char)
  | 0, _ => none
  | fuel + 1, cs => do
    let (part, rest) ← scanKeyPart (skipBlanks cs)
    match skipBlanks rest with
    | '.' :: rest =>
      let (parts, rest) ← scanKey fuel rest
      return (part :: parts, rest)
    | rest => return ([part], rest)

/-- The values of digits between which single underscores may stand. -/
def digits? (base : Nat) : List Char → Option (List Nat)
  | [] => none
  | [c] => (Text.digitIn? base c).map fun d => [d]
  | c :: '_' :: cs => do
    return (← Text.digitIn? base c) :: (← digits? base cs)
  | c :: d :: cs => do
    return (← Text.digitIn? base c) :: (← digits? base (d :: cs))

/-- The digits of an integer without leading zeros. -/
def plainDigits? (cs : List Char) : Option (List Nat) :=
  match digits? 10 cs with
  | some (0 :: _ :: _) => none
  | ds => ds

/-- A sign at the front of a text. -/
def sign : List Char → Bool × List Char
  | '-' :: rest => (true, rest)
  | '+' :: rest => (false, rest)
  | cs => (false, cs)

/-- The integer that a whole text denotes, if it fits into 64 bits with sign. -/
def integer? (cs : List Char) : Option Int :=
  let inRange (n : Int) : Option Int :=
    if -9223372036854775808 ≤ n ∧ n ≤ 9223372036854775807 then some n else none
  let based (base : Nat) (rest : List Char) : Option Int := do
    inRange (Text.ofDigits base (← digits? base rest))
  match cs with
  | '0' :: 'x' :: rest => based 16 rest
  | '0' :: 'o' :: rest => based 8 rest
  | '0' :: 'b' :: rest => based 2 rest
  | cs => do
    let (negative, rest) := sign cs
    let n : Int := Text.ofDigits 10 (← plainDigits? rest)
    inRange (if negative then -n else n)

/-- The number that is no integer which a whole text denotes. -/
def real? (cs : List Char) : Option Float :=
  let (negative, rest) := sign cs
  if rest = ['i', 'n', 'f'] then some (if negative then -(1 / 0) else 1 / 0)
  else if rest = ['n', 'a', 'n'] then some (0 / 0)
  else do
    let mantissa := rest.takeWhile fun c => c ≠ 'e' && c ≠ 'E'
    let whole := mantissa.takeWhile (· ≠ '.')
    let wholeDigits ← plainDigits? whole
    let fractionDigits ←
      match mantissa.drop whole.length with
      | [] => some []
      | _ :: fraction => digits? 10 fraction
    let exponent ←
      match rest.drop mantissa.length with
      | [] => some 0
      | _ :: text => do
        let (down, text) := sign text
        let n : Int := Text.ofDigits 10 (← digits? 10 text)
        some (if down then -n else n)
    let value := Decimal.Numeral.exact ⟨negative, wholeDigits, fractionDigits, exponent⟩
    if mantissa.length = rest.length ∧ whole.length = mantissa.length then none
    else if value.isInf ∧ ¬negative then none
    else some value

/-- A number of exactly so many digits at the front of a text, within bounds. -/
def scanField (width low high : Nat) (cs : List Char) : Option (Nat × List Char) :=
  match (cs.take width).mapM (Text.digitIn? 10) with
  | some ds =>
    let n := Text.ofDigits 10 ds
    if ds.length = width ∧ low ≤ n ∧ n ≤ high then some (n, cs.drop width) else none
  | none => none

/-- The text after a character. -/
def dropMark (c : Char) : List Char → Option (List Char)
  | [] => none
  | d :: rest => if c = d then some rest else none

/-- The number of days in a month. -/
def daysIn (year month : Nat) : Nat :=
  if month = 2 then
    (if year % 4 = 0 ∧ (year % 100 ≠ 0 ∨ year % 400 = 0) then 29 else 28)
  else if month ∈ [4, 6, 9, 11] then 30
  else 31

/-- The text after a date. -/
def dropDate (cs : List Char) : Option (List Char) := do
  let (year, cs) ← scanField 4 0 9999 cs
  let (month, cs) ← scanField 2 1 12 (← dropMark '-' cs)
  let (day, cs) ← scanField 2 1 31 (← dropMark '-' cs)
  if day ≤ daysIn year month then some cs else none

/-- The text after a time of day. -/
def dropTime (cs : List Char) : Option (List Char) := do
  let (_, cs) ← scanField 2 0 23 cs
  let (_, cs) ← scanField 2 0 59 (← dropMark ':' cs)
  let (_, cs) ← scanField 2 0 60 (← dropMark ':' cs)
  match cs with
  | '.' :: rest =>
    match Text.takeDigits 10 rest with
    | ([], _) => none
    | (_, rest) => some rest
  | cs => some cs

/-- The text after the distance of a time zone, if there is one. -/
def dropZone (cs : List Char) : Option (List Char) :=
  match cs with
  | 'Z' :: rest | 'z' :: rest => some rest
  | '+' :: rest | '-' :: rest => do
    let (_, rest) ← scanField 2 0 23 rest
    let (_, rest) ← scanField 2 0 59 (← dropMark ':' rest)
    some rest
  | cs => some cs

/-- The text after a date, a time of day, or both. -/
def dropMoment (cs : List Char) : Option (List Char) :=
  match dropDate cs with
  | none => dropTime cs
  | some rest =>
    match rest with
    | c :: time =>
      if c ∈ ['T', 't', ' '] then
        match dropTime time with
        | some rest => dropZone rest
        | none => some (c :: time)
      else some rest
    | [] => some []

/-- True if the character may stand in a number. -/
def isNumberChar (c : Char) : Bool :=
  c.isAlphanum || c ∈ ['_', '+', '-', '.', ':']

/-- A number, a truth value or a moment at the front of a text. -/
def scanScalar (cs : List Char) : Option (Tree × List Char) :=
  match dropMoment cs with
  | some rest => some (.date, rest)
  | none =>
    let word := cs.takeWhile isNumberChar
    let rest := cs.drop word.length
    if word = "true".toList then some (.bool true, rest)
    else if word = "false".toList then some (.bool false, rest)
    else
      match integer? word with
      | some n => some (.int n, rest)
      | none => (real? word).map fun x => (.real (Decimal.positional x), rest)

end WebAccess.Document.Toml
