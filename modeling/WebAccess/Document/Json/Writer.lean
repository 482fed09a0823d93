import WebAccess.Document.Tree

/-!
# Writing JSON

A tree as JSON text without space between the words. In strings, quote and backslash are escaped,
and so are the control characters below U+0020: by a letter where JSON has one, by four digits
elsewhere.
-/

set_option autoImplicit false

namespace WebAccess.Document.Json

/-- A hexadecimal digit, lower case. -/
def hexChar (n : Nat) : Char :=
  if n < 10 then Char.ofNat ('0'.toNat + n) else Char.ofNat ('a'.toNat + n - 10)

/-- One character as it stands in a string. -/
def escapeChar (c : Char) : List Char :=
  if c = '"' then ['\\', '"']
  else if c = '\\' then ['\\', '\\']
  else if c = '\n' then ['\\', 'n']
  else if c = '\r' then ['\\', 'r']
  else if c = '\t' then ['\\', 't']
  else if c.toNat = 0x8 then ['\\', 'b']
  else if c.toNat = 0xc then ['\\', 'f']
  else if c.toNat < 0x20 then ['\\', 'u', '0', '0', hexChar (c.toNat / 16), hexChar (c.toNat % 16)]
  else [c]

/-- A string with its quotes. -/
def writeString (s : String) : List Char :=
  '"' :: s.toList.flatMap escapeChar ++ ['"']

mutual

/-- The characters of a tree. A part without value is written as nothing. -/
def writeTree : Tree → List Char
  | .null | .date | .unreadable | .broken => "null".toList
  | .bool b => (if b then "true" else "false").toList
  | .int n => (toString n).toList
  | .real shown => shown.toList
  | .text s => writeString s
  | .seq items _ => '[' :: writeItems items ++ [']']
  | .map entries _ => '\x7b' :: writeEntries entries ++ ['\x7d']

/-- The items of a sequence with commas between them. -/
def writeItems : List Tree → List Char
  | [] => []
  | [t] => writeTree t
  | t :: ts => writeTree t ++ ',' :: writeItems ts

/-- The entries of a map with commas between them. -/
def writeEntries : List (String × Tree) → List Char
  | [] => []
  | [(key, t)] => writeString key ++ ':' :: writeTree t
  | (key, t) :: es => writeString key ++ ':' :: writeTree t ++ ',' :: writeEntries es

end

/-- The JSON text of a tree. -/
def write (t : Tree) : String :=
  String.ofList (writeTree t)

end WebAccess.Document.Json
